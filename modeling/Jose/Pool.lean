import Jose.Builder

/-!
Builds that run on workers. Ordering a build gives a ticket. Some worker takes the build up, goes
through it step by step, and sends its result to the holder of the ticket, who may ask for it at any
time, or give the ticket back. Outside the pool's own threads a build runs at once.
-/

namespace Jose

abbrev Job := Surroundings → Build Token

/-- What is left to do of a build; of one under way, the rest of its trace and its end. -/
inductive Work where
  | waiting (job : Job)
  | running (rest : Build Token)
  | ended

/-- The way of a result from the worker to the holder of the ticket. -/
inductive Channel where
  | empty
  | sent (result : Except BuildError Token)
  /-- The build has crashed, and nothing will be sent. -/
  | broken
  /-- The result has been taken, or the ticket given back. -/
  | closed

inductive Poll where
  | pending
  | ready (result : Except BuildError Token)
  | spent

namespace Channel

/-- What the end of a build does. Nothing reaches a holder who is gone. -/
def finish (outcome : Outcome Token) : Channel → Channel
  | empty =>
      match outcome with
      | .done token => sent (.ok token)
      | .failed error => sent (.error error)
      | .crashed => broken
  | channel => channel

def poll : Channel → Poll × Channel
  | empty => (.pending, empty)
  | sent result => (.ready result, closed)
  | broken => (.ready (.error .taskFailed), closed)
  | closed => (.spent, closed)

end Channel

structure Task where
  work : Work
  channel : Channel

/-- What may happen to a task: a worker does one step of it, or its ticket is used. -/
inductive Deed where
  | work (around : Surroundings)
  | poll
  | drop

inductive Sight where
  | notes (notes : List Note)
  | answer (poll : Poll)
  | nothing

namespace Task

def waiting (job : Job) : Task := ⟨.waiting job, .empty⟩

def ended (outcome : Outcome Token) : Task := ⟨.ended, Channel.empty.finish outcome⟩

/-- A worker takes a build up, goes one note on, or ends it. -/
def advance (around : Surroundings) (task : Task) : Task × List Note :=
  match task.work with
  | .waiting job => (⟨.running (job around), task.channel⟩, [])
  | .running ⟨note :: rest, outcome⟩ => (⟨.running ⟨rest, outcome⟩, task.channel⟩, [note])
  | .running ⟨[], outcome⟩ => (⟨.ended, task.channel.finish outcome⟩, [])
  | .ended => (task, [])

/-- A worker stays with a build to its end. -/
def complete (around : Surroundings) (task : Task) : Task × List Note :=
  match task.work with
  | .waiting job =>
      let build := job around
      (⟨.ended, task.channel.finish build.outcome⟩, build.trace)
  | .running rest => (⟨.ended, task.channel.finish rest.outcome⟩, rest.trace)
  | .ended => (task, [])

def undergo (task : Task) : Deed → Task × Sight
  | .work around => ((task.advance around).1, .notes (task.advance around).2)
  | .poll => (⟨task.work, task.channel.poll.2⟩, .answer task.channel.poll.1)
  | .drop => (⟨task.work, .closed⟩, .nothing)

end Task

/-- A build that is asked for, on a thread of the pool or elsewhere. -/
structure Order where
  inside : Bool
  job : Job
  around : Surroundings

structure Pool where
  tasks : List Task

namespace Pool

def empty : Pool := ⟨[]⟩

def ticket (pool : Pool) : Nat := pool.tasks.length

def add (task : Task) (pool : Pool) : Pool := ⟨pool.tasks ++ [task]⟩

def put (ticket : Nat) (task : Task) (pool : Pool) : Pool := ⟨pool.tasks.set ticket task⟩

/-- Starts a build. Outside the pool's threads it runs at once, and a crash reaches the caller. -/
def start (order : Order) (pool : Pool) : Build (Nat × Pool) :=
  if order.inside then pure (pool.ticket, pool.add (.waiting order.job))
  else
    let build := order.job order.around
    match build.outcome with
    | .crashed => ⟨build.trace, .crashed⟩
    | outcome => ⟨build.trace, .done (pool.ticket, pool.add (.ended outcome))⟩

def undergo (ticket : Nat) (deed : Deed) (pool : Pool) : Pool × Sight :=
  match pool.tasks[ticket]? with
  | some task => (pool.put ticket (task.undergo deed).1, (task.undergo deed).2)
  | none => (pool, .nothing)

def complete (ticket : Nat) (around : Surroundings) (pool : Pool) : Build Pool :=
  match pool.tasks[ticket]? with
  | some task =>
      let (finished, notes) := task.complete around
      ⟨notes, .done (pool.put ticket finished)⟩
  | none => pure pool

def run (inside : Bool) (job : Job) (around : Surroundings) : Build Token := do
  let (ticket, started) ← empty.start ⟨inside, job, around⟩
  let worked ← started.complete ticket around
  match (worked.undergo ticket .poll).2 with
  | .answer (.ready result) => Build.ofExcept result
  | _ => Build.fail .taskFailed

end Pool

end Jose
