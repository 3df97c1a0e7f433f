import Jose.Pool
import Jose.Proofs.Build
import Mathlib.Data.List.Basic

/-!
What workers make of a build. A worker takes the build up, goes on with it note by note, and ends
it; the holder of the ticket may ask for the result, or give the ticket back, at any time between.
To stay with a build to its end is to go on with it step by step for long enough.
-/

namespace Jose

def Sight.made : Sight → List Note
  | .notes made => made
  | _ => []

def Outcome.delivered : Outcome Token → Except BuildError Token
  | .done token => .ok token
  | .failed error => .error error
  | .crashed => .error .taskFailed

def Outcome.deferred (inside : Bool) : Outcome Token → Outcome Token
  | .crashed => if inside then .failed .taskFailed else .crashed
  | outcome => outcome

@[simp] theorem Outcome.deferred_eq_done_iff {inside : Bool} {outcome : Outcome Token}
    {token : Token} : outcome.deferred inside = .done token ↔ outcome = .done token := by
  cases outcome with
  | done other => exact Iff.rfl
  | failed error => exact Iff.rfl
  | crashed => cases inside <;> exact iff_of_false nofun nofun

def Deed.steps : List Deed → List Surroundings
  | [] => []
  | .work around :: past => around :: steps past
  | .poll :: past => steps past
  | .drop :: past => steps past

namespace Order

variable (order : Order)

def build? (deeds : List Deed) : Option (Build Token) :=
  -- A worker makes the build at its first step, which is the last one listed.
  if order.inside then (Deed.steps deeds).getLast?.map order.job
  else some (order.job order.around)

/-- The build, once it has ended: a worker takes it up, goes on note by note, and ends it. -/
def ended? (deeds : List Deed) : Option (Build Token) :=
  (order.build? deeds).filter fun build =>
    !order.inside || build.trace.length + 2 ≤ (Deed.steps deeds).length

def noted (deeds : List Deed) : List Note :=
  match order.build? deeds with
  | some build =>
      if order.inside then build.trace.take ((Deed.steps deeds).length - 1) else build.trace
  | none => []

def IsAwaited : List Deed → Prop
  | [] => True
  | .work _ :: past => IsAwaited past
  | .poll :: past => IsAwaited past ∧ order.ended? past = none
  | .drop :: _ => False

def CrashesOutside : Prop :=
  order.inside = false ∧ (order.job order.around).outcome = .crashed

def task : Task :=
  if order.inside then .waiting order.job else .ended (order.job order.around).outcome

end Order

def Task.after (task : Task) : List Deed → Task
  | [] => task
  | deed :: past => ((after task past).undergo deed).1

namespace Channel

theorem poll_finish (outcome : Outcome Token) :
    (empty.finish outcome).poll = (.ready outcome.delivered, closed) := by
  cases outcome <;> rfl

end Channel

namespace Order

variable {order : Order} {deeds other : List Deed} {first around : Surroundings} {task : Task}

theorem noted_of_steps (same : Deed.steps other = Deed.steps deeds) :
    order.noted other = order.noted deeds := by
  simp only [noted, build?, same]

theorem build?_outside (outside : order.inside = false) :
    order.build? deeds = some (order.job order.around) := by
  rw [build?, outside]
  rfl

theorem ended?_outside (outside : order.inside = false) :
    order.ended? deeds = some (order.job order.around) := by
  simp [ended?, build?_outside outside, outside]

theorem noted_outside (outside : order.inside = false) :
    order.noted deeds = (order.job order.around).trace := by
  simp [noted, build?_outside outside, outside]

section Inside

variable (inside : order.inside = true)

include inside

theorem build?_untouched (untouched : Deed.steps deeds = []) : order.build? deeds = none := by
  simp [build?, inside, untouched]

theorem build?_taken (taken : (Deed.steps deeds).getLast? = some first) :
    order.build? deeds = some (order.job first) := by
  simp [build?, inside, taken]

theorem ended?_untouched (untouched : Deed.steps deeds = []) : order.ended? deeds = none := by
  simp [ended?, build?_untouched inside untouched]

theorem noted_untouched (untouched : Deed.steps deeds = []) : order.noted deeds = [] := by
  simp [noted, build?_untouched inside untouched]

theorem ended?_early (taken : (Deed.steps deeds).getLast? = some first)
    (early : (Deed.steps deeds).length < (order.job first).trace.length + 2) :
    order.ended? deeds = none := by
  have unfinished : ¬ (order.job first).trace.length + 2 ≤ (Deed.steps deeds).length := by omega
  simp [ended?, build?_taken inside taken, Option.filter, inside, unfinished]

theorem ended?_late (taken : (Deed.steps deeds).getLast? = some first)
    (late : (order.job first).trace.length + 2 ≤ (Deed.steps deeds).length) :
    order.ended? deeds = some (order.job first) := by
  simp [ended?, build?_taken inside taken, Option.filter, inside, late]

theorem noted_taken (taken : (Deed.steps deeds).getLast? = some first) :
    order.noted deeds = (order.job first).trace.take ((Deed.steps deeds).length - 1) := by
  simp [noted, build?_taken inside taken, inside]

end Inside

inductive Phase (order : Order) (deeds : List Deed) : Work → Prop
  | waiting (inside : order.inside = true) (untouched : Deed.steps deeds = []) :
      Phase order deeds (.waiting order.job)
  | running (inside : order.inside = true) (first : Surroundings) (done rest : List Note)
      (taken : (Deed.steps deeds).getLast? = some first)
      (trace : (order.job first).trace = done ++ rest)
      (steps : (Deed.steps deeds).length = done.length + 1) :
      Phase order deeds (.running ⟨rest, (order.job first).outcome⟩)
  | ended (inside : order.inside = true) (first : Surroundings)
      (taken : (Deed.steps deeds).getLast? = some first)
      (late : (order.job first).trace.length + 2 ≤ (Deed.steps deeds).length) :
      Phase order deeds .ended
  | outside (outside : order.inside = false) : Phase order deeds .ended

theorem Phase.of_steps {work : Work} (phase : order.Phase deeds work)
    (same : Deed.steps other = Deed.steps deeds) : order.Phase other work := by
  cases phase with
  | waiting inside untouched => exact .waiting inside (same.trans untouched)
  | running inside first done rest taken trace steps =>
      exact .running inside first done rest (same ▸ taken) trace (same ▸ steps)
  | ended inside first taken late => exact .ended inside first (same ▸ taken) (same ▸ late)
  | outside outside => exact .outside outside

theorem Phase.ended_iff {work : Work} (phase : order.Phase deeds work) :
    work = .ended ↔ ∃ build, order.ended? deeds = some build := by
  cases phase with
  | waiting inside untouched => simp [ended?_untouched inside untouched]
  | running inside first done rest taken trace steps =>
      have length := congrArg List.length trace
      rw [List.length_append] at length
      simp [ended?_early inside taken (by omega)]
  | ended inside first taken late => simp [ended?_late inside taken late]
  | outside outside => simp [ended?_outside outside]

theorem taken_again (taken : (Deed.steps deeds).getLast? = some first) (around : Surroundings) :
    (Deed.steps (.work around :: deeds)).getLast? = some first := by
  simp [Deed.steps, List.getLast?_cons, taken]

structure Goes (order : Order) (deeds : List Deed) (around : Surroundings) (task : Task) :
    Prop where
  phase : order.Phase (.work around :: deeds) (task.advance around).1.work
  noted : order.noted (.work around :: deeds) = order.noted deeds ++ (task.advance around).2
  channel :
    (order.ended? (.work around :: deeds) = order.ended? deeds ∧
      (task.advance around).1.channel = task.channel) ∨
    order.ended? deeds = none ∧ ∃ build, order.ended? (.work around :: deeds) = some build ∧
      (task.advance around).1.channel = task.channel.finish build.outcome

theorem Phase.goes {work : Work} (phase : order.Phase deeds work) (channel : Channel)
    (around : Surroundings) : order.Goes deeds around ⟨work, channel⟩ := by
  cases phase with
  | waiting inside untouched =>
      have taken : (Deed.steps (.work around :: deeds)).getLast? = some around := by
        simp [Deed.steps, untouched]
      have one : (Deed.steps (.work around :: deeds)).length = 1 := by
        simp [Deed.steps, untouched]
      refine ⟨.running inside around [] _ taken rfl one, ?_, .inl ⟨?_, rfl⟩⟩
      · rw [noted_taken inside taken, noted_untouched inside untouched, one]
        rfl
      · rw [ended?_early inside taken (by omega), ended?_untouched inside untouched]
  | running inside first done rest taken trace steps =>
      have again := taken_again taken around
      have length := congrArg List.length trace
      rw [List.length_append] at length
      have more : (Deed.steps (.work around :: deeds)).length = done.length + 2 := by
        rw [Deed.steps, List.length_cons, steps]
      have early := ended?_early inside taken (by omega)
      have before : order.noted deeds = done := by
        rw [noted_taken inside taken, trace, steps]
        exact List.take_left
      -- With a note left this step makes it, and without one it ends the build.
      cases rest with
      | nil =>
          rw [List.length_nil] at length
          have late : (order.job first).trace.length + 2 ≤
              (Deed.steps (.work around :: deeds)).length := by omega
          refine ⟨.ended inside first again late, ?_,
            .inr ⟨early, _, ended?_late inside again late, rfl⟩⟩
          rw [noted_taken inside again, before, trace, List.append_nil]
          exact (List.take_of_length_le (by omega)).trans (List.append_nil _).symm
      | cons note rest =>
          rw [List.length_cons] at length
          refine ⟨.running inside first (done ++ [note]) rest again ?_ ?_, ?_, .inl ⟨?_, rfl⟩⟩
          · rw [trace, List.append_assoc]
            rfl
          · rw [more, List.length_append]
            rfl
          · have split : (order.job first).trace = (done ++ [note]) ++ rest := by
              rw [trace, List.append_assoc]
              rfl
            rw [noted_taken inside again, before, split, more]
            exact List.take_left' (by simp)
          · rw [early, ended?_early inside again (by omega)]
  | ended inside first taken late =>
      have again := taken_again taken around
      have longer : (Deed.steps (.work around :: deeds)).length =
          (Deed.steps deeds).length + 1 := rfl
      refine ⟨.ended inside first again (by omega), ?_, .inl ⟨?_, rfl⟩⟩
      · rw [noted_taken inside again, noted_taken inside taken,
          List.take_of_length_le (by omega), List.take_of_length_le (by omega)]
        exact (List.append_nil _).symm
      · rw [ended?_late inside again (by omega), ended?_late inside taken late]
  | outside outside =>
      refine ⟨.outside outside, ?_, .inl ⟨?_, rfl⟩⟩
      · rw [noted_outside outside, noted_outside outside]
        exact (List.append_nil _).symm
      · rw [ended?_outside outside, ended?_outside outside]

structure Serves (order : Order) (deeds : List Deed) (task : Task) : Prop where
  phase : order.Phase deeds task.work
  unfinished : order.IsAwaited deeds → order.ended? deeds = none → task.channel = .empty
  finished : order.IsAwaited deeds → ∀ build, order.ended? deeds = some build →
    task.channel = Channel.empty.finish build.outcome
  closed : ¬ order.IsAwaited deeds → task.channel = .closed

theorem serves_task (order : Order) : order.Serves [] order.task := by
  cases inside : order.inside with
  | true =>
      have waiting : order.task = .waiting order.job := if_pos inside
      have early : order.ended? [] = none := ended?_untouched inside rfl
      rw [waiting]
      refine ⟨.waiting inside rfl, fun _ _ => rfl, ?_, fun dropped => absurd trivial dropped⟩
      intro _ build ended
      rw [early] at ended
      contradiction
  | false =>
      have ended : order.task = .ended (order.job order.around).outcome := by
        rw [task, inside]
        rfl
      have late : order.ended? [] = some (order.job order.around) := ended?_outside inside
      rw [ended]
      refine ⟨.outside inside, ?_, ?_, fun dropped => absurd trivial dropped⟩
      · intro _ early
        rw [late] at early
        contradiction
      · intro _ build same
        rw [late] at same
        injection same with same
        rw [← same]
        rfl

theorem Serves.work (serves : order.Serves deeds task) (around : Surroundings) :
    order.Serves (.work around :: deeds) (task.advance around).1 := by
  have goes := serves.phase.goes task.channel around
  refine ⟨goes.phase, ?_, ?_, ?_⟩
  all_goals
    rcases goes.channel with ⟨same, channel⟩ | ⟨early, build, ended, channel⟩
  · intro awaited unfinished
    exact channel.trans (serves.unfinished awaited (same ▸ unfinished))
  · intro awaited unfinished
    rw [ended] at unfinished
    contradiction
  · intro awaited other finished
    exact channel.trans (serves.finished awaited other (same ▸ finished))
  · intro awaited other finished
    rw [ended] at finished
    injection finished with same
    rw [← same, ← serves.unfinished awaited early]
    exact channel
  · intro dropped
    exact channel.trans (serves.closed dropped)
  · intro dropped
    rw [channel, serves.closed dropped]
    rfl

theorem Serves.poll (serves : order.Serves deeds task) :
    order.Serves (.poll :: deeds) (task.undergo .poll).1 := by
  refine ⟨serves.phase.of_steps rfl, ?_, ?_, ?_⟩
  · intro awaited _
    exact congrArg (·.poll.2) (serves.unfinished awaited.1 awaited.2)
  · intro awaited build finished
    have early : order.ended? deeds = some build := finished
    rw [awaited.2] at early
    contradiction
  · intro answered
    have channel : (task.undergo .poll).1.channel = task.channel.poll.2 := rfl
    by_cases awaited : order.IsAwaited deeds
    · cases finished : order.ended? deeds with
      | none => exact absurd ⟨awaited, finished⟩ answered
      | some build =>
          rw [channel, serves.finished awaited build finished, Channel.poll_finish]
    · rw [channel, serves.closed awaited]
      rfl

theorem Serves.drop (serves : order.Serves deeds task) :
    order.Serves (.drop :: deeds) (task.undergo .drop).1 :=
  ⟨serves.phase.of_steps rfl, False.elim, False.elim, fun _ => rfl⟩

theorem Serves.noted_undergo (serves : order.Serves deeds task) : ∀ deed,
    order.noted (deed :: deeds) = order.noted deeds ++ (task.undergo deed).2.made
  | .work around => (serves.phase.goes task.channel around).noted
  | .poll => (noted_of_steps rfl).trans (List.append_nil _).symm
  | .drop => (noted_of_steps rfl).trans (List.append_nil _).symm

theorem serves_after (order : Order) : ∀ deeds, order.Serves deeds (order.task.after deeds)
  | [] => serves_task order
  | .work around :: past => (serves_after order past).work around
  | .poll :: past => (serves_after order past).poll
  | .drop :: past => (serves_after order past).drop

end Order

namespace Task

def pursue (task : Task) : List Surroundings → Task × List Note
  | [] => (task, [])
  | around :: past =>
      (((task.pursue past).1.advance around).1,
        (task.pursue past).2 ++ ((task.pursue past).1.advance around).2)

def stepsLeft (around : Surroundings) (task : Task) : Nat :=
  match task.work with
  | .waiting job => (job around).trace.length + 2
  | .running rest => rest.trace.length + 1
  | .ended => 0

theorem pursue_concat (task : Task) (first : Surroundings) : ∀ later,
    task.pursue (later ++ [first]) = (((task.advance first).1.pursue later).1,
      (task.advance first).2 ++ ((task.advance first).1.pursue later).2)
  | [] => by simp [pursue]
  | around :: later => by
      simp only [List.cons_append, pursue, pursue_concat task first later, List.append_assoc]

theorem pursue_ended (channel : Channel) : ∀ steps,
    pursue ⟨.ended, channel⟩ steps = (⟨.ended, channel⟩, [])
  | [] => rfl
  | around :: past => by
      rw [pursue, pursue_ended channel past]
      rfl

theorem pursue_running (channel : Channel) (outcome : Outcome Token) (rest : List Note)
    (steps : List Surroundings) (enough : rest.length + 1 ≤ steps.length) :
    pursue ⟨.running ⟨rest, outcome⟩, channel⟩ steps =
      (⟨.ended, channel.finish outcome⟩, rest) := by
  induction rest generalizing steps with
  | nil =>
      rcases List.eq_nil_or_concat steps with rfl | ⟨later, first, rfl⟩
      · contradiction
      · rw [List.concat_eq_append, pursue_concat]
        simp only [advance, pursue_ended, List.append_nil]
  | cons note rest ih =>
      rcases List.eq_nil_or_concat steps with rfl | ⟨later, first, rfl⟩
      · contradiction
      · rw [List.concat_eq_append] at enough ⊢
        rw [List.length_append, List.length_cons, List.length_singleton] at enough
        rw [pursue_concat]
        simp only [advance, ih later (by omega), List.singleton_append]

/-- To stay with a task to its end is to go on with it step by step for long enough. Only what the
first step finds around it counts. -/
theorem complete_eq_pursue (task : Task) (first : Surroundings) (later : List Surroundings)
    (enough : task.stepsLeft first ≤ later.length + 1) :
    task.complete first = task.pursue (later ++ [first]) := by
  obtain ⟨work, channel⟩ := task
  cases work with
  | waiting job =>
      simp only [stepsLeft] at enough
      rw [pursue_concat]
      simp only [advance, complete]
      rw [pursue_running channel _ _ later (by omega)]
      rfl
  | running rest =>
      exact (pursue_running channel rest.outcome rest.trace _
        (by simpa [stepsLeft] using enough)).symm
  | ended => exact (pursue_ended channel _).symm

end Task

namespace Order

variable {order : Order} {deeds : List Deed} {task : Task}

theorem Serves.pursue (serves : order.Serves deeds task) : ∀ steps : List Surroundings,
    order.Serves (steps.map .work ++ deeds) (task.pursue steps).1 ∧
      order.noted (steps.map .work ++ deeds) = order.noted deeds ++ (task.pursue steps).2
  | [] => ⟨serves, (List.append_nil _).symm⟩
  | around :: past => by
      obtain ⟨reached, noted⟩ := serves.pursue past
      refine ⟨reached.work around, ?_⟩
      rw [Task.pursue, ← List.append_assoc, ← noted]
      exact (reached.phase.goes _ around).noted

/-- The three answers that a holder may get. -/
theorem Serves.polled (serves : order.Serves deeds task) :
    (order.IsAwaited deeds ∧ order.ended? deeds = none ∧
      (task.undergo .poll).2 = .answer .pending) ∨
    (order.IsAwaited deeds ∧ ∃ build, order.ended? deeds = some build ∧
      (task.undergo .poll).2 = .answer (.ready build.outcome.delivered)) ∨
    ¬ order.IsAwaited deeds ∧ (task.undergo .poll).2 = .answer .spent := by
  have answered : (task.undergo .poll).2 = .answer task.channel.poll.1 := rfl
  rw [answered]
  by_cases awaited : order.IsAwaited deeds
  · cases ended : order.ended? deeds with
    | none =>
        rw [serves.unfinished awaited ended]
        exact .inl ⟨awaited, rfl, rfl⟩
    | some build =>
        rw [serves.finished awaited build ended, Channel.poll_finish]
        exact .inr (.inl ⟨awaited, build, rfl, rfl⟩)
  · rw [serves.closed awaited]
    exact .inr (.inr ⟨awaited, rfl⟩)

theorem steps_work (steps : List Surroundings) : Deed.steps (steps.map .work) = steps := by
  induction steps with
  | nil => rfl
  | cons around past ih => exact congrArg _ ih

theorem isAwaited_work (order : Order) (steps : List Surroundings) :
    order.IsAwaited (steps.map .work) := by
  induction steps with
  | nil => trivial
  | cons around past ih => exact ih

def diligence (order : Order) : List Surroundings :=
  List.replicate ((order.job order.around).trace.length + 1) order.around ++ [order.around]

theorem length_diligence (order : Order) :
    (Deed.steps (order.diligence.map .work)).length =
      (order.job order.around).trace.length + 2 := by
  rw [steps_work, diligence, List.length_append, List.length_replicate]
  rfl

theorem taken_diligence (order : Order) :
    (Deed.steps (order.diligence.map .work)).getLast? = some order.around := by
  rw [steps_work]
  exact List.getLast?_concat

theorem ended?_diligence (order : Order) :
    order.ended? (order.diligence.map .work) = some (order.job order.around) := by
  cases inside : order.inside with
  | true =>
      have late := Nat.le_of_eq order.length_diligence.symm
      exact ended?_late inside order.taken_diligence late
  | false => exact ended?_outside inside

theorem noted_diligence (order : Order) :
    order.noted (order.diligence.map .work) = (order.job order.around).trace := by
  cases inside : order.inside with
  | true =>
      rw [noted_taken inside order.taken_diligence, length_diligence]
      exact List.take_of_length_le (Nat.le_succ _)
  | false => exact noted_outside inside

/-- Completing an order notes the whole of its build and leaves its result to be asked for. -/
theorem completes (order : Order) :
    order.noted [] ++ (order.task.complete order.around).2 = (order.job order.around).trace ∧
      ((order.task.complete order.around).1.undergo .poll).2 =
        .answer (.ready (order.job order.around).outcome.delivered) := by
  have enough : order.task.stepsLeft order.around ≤
      (List.replicate ((order.job order.around).trace.length + 1) order.around).length + 1 := by
    rw [List.length_replicate, task]
    split
    · exact Nat.le_refl _
    · exact Nat.zero_le _
  have completed : order.task.complete order.around = order.task.pursue order.diligence :=
    Task.complete_eq_pursue _ _ _ enough
  obtain ⟨serves, noted⟩ := order.serves_task.pursue order.diligence
  rw [List.append_nil] at serves noted
  rw [completed]
  refine ⟨noted.symm.trans order.noted_diligence, ?_⟩
  rcases serves.polled with ⟨_, early, _⟩ | ⟨_, build, ended, polled⟩ | ⟨gone, _⟩
  · rw [ended?_diligence] at early
    contradiction
  · rw [ended?_diligence] at ended
    injection ended with same
    rw [polled, same]
  · exact absurd (order.isAwaited_work _) gone

end Order

namespace Pool

variable {order : Order}

theorem start_crash (crashes : order.CrashesOutside) (pool : Pool) :
    pool.start order = ⟨(order.job order.around).trace, .crashed⟩ := by
  obtain ⟨outside, crashed⟩ := crashes
  simp [start, outside, crashed]

theorem start_stays (stays : ¬ order.CrashesOutside) (pool : Pool) :
    pool.start order = ⟨order.noted [], .done (pool.ticket, pool.add order.task)⟩ := by
  cases inside : order.inside with
  | true =>
      have nothing : order.noted [] = [] := Order.noted_untouched inside rfl
      simp only [start, inside, Order.task, nothing]
      rfl
  | false =>
      have ended : (order.job order.around).outcome ≠ .crashed := fun crashed =>
        stays ⟨inside, crashed⟩
      cases outcome : (order.job order.around).outcome with
      | done token => simp [start, inside, outcome, Order.task, Order.noted_outside inside]
      | failed error => simp [start, inside, outcome, Order.task, Order.noted_outside inside]
      | crashed => exact absurd outcome ended

theorem run_of_crash (crashes : order.CrashesOutside) :
    run order.inside order.job order.around = ⟨(order.job order.around).trace, .crashed⟩ := by
  have started : (empty.start ⟨order.inside, order.job, order.around⟩).outcome = .crashed :=
    congrArg Build.outcome (start_crash crashes empty)
  rw [run, Build.bind_of_crashed started]
  exact congrArg (Build.mk · _) (congrArg Build.trace (start_crash crashes empty))

theorem run_of_stays (stays : ¬ order.CrashesOutside) :
    run order.inside order.job order.around =
      ⟨(order.job order.around).trace, .ofExcept (order.job order.around).outcome.delivered⟩ := by
  obtain ⟨noted, polled⟩ := order.completes
  have started : empty.start ⟨order.inside, order.job, order.around⟩ =
      ⟨order.noted [], .done (0, empty.add order.task)⟩ := start_stays stays empty
  have completed : (empty.add order.task).complete 0 order.around =
      ⟨(order.task.complete order.around).2,
        .done ((empty.add order.task).put 0 (order.task.complete order.around).1)⟩ := rfl
  have asked : (((empty.add order.task).put 0 (order.task.complete order.around).1).undergo 0
      .poll).2 = ((order.task.complete order.around).1.undergo .poll).2 := rfl
  rw [run, started, Build.bind_of_done rfl]
  dsimp only
  rw [completed, Build.bind_of_done rfl, asked, polled, ← noted]
  exact congrArg (Build.mk · _) (congrArg (_ ++ ·) (List.append_nil _))

/-- A build that is run to its end is the build itself, but for a crash on a worker. -/
theorem run_eq (inside : Bool) (job : Job) (around : Surroundings) :
    run inside job around =
      ⟨(job around).trace, (job around).outcome.deferred inside⟩ := by
  by_cases crashes : Order.CrashesOutside ⟨inside, job, around⟩
  · have run := run_of_crash crashes
    obtain ⟨rfl, crashed⟩ := crashes
    rw [run, show (job around).outcome = .crashed from crashed]
    rfl
  · rw [run_of_stays crashes]
    refine congrArg (Build.mk _) ?_
    cases outcome : (job around).outcome with
    | done token => rfl
    | failed error => rfl
    | crashed =>
        cases inside with
        | true => rfl
        | false => exact absurd ⟨rfl, outcome⟩ crashes

end Pool

end Jose
