import Jose.Proofs.Fault
import Jose.Proofs.Log
import Jose.Proofs.Nested
import Jose.Proofs.Pool
import Jose.Session

/-!
What becomes of builds on workers. In every order in which workers go on with their builds and
holders use their tickets, the holder of a ticket gets the result of the build that the ticket was
given for, once, and gets it whenever the build has ended. A ticket that is given back changes
nothing for anybody else. Histories stand with the latest action first.
-/

namespace Jose

inductive Action where
  | start (order : Order)
  | act (ticket : Nat) (deed : Deed)

inductive Scene where
  | started (ticket : Nat) (notes : List Note)
  | crash (notes : List Note)
  | sight (ticket : Nat) (sight : Sight)

namespace Pool

def act (action : Action) (pool : Pool) : Pool × Scene :=
  match action with
  | .start order =>
      match (pool.start order).outcome with
      | .done (ticket, next) => (next, .started ticket (pool.start order).trace)
      | _ => (pool, .crash (pool.start order).trace)
  | .act ticket deed => ((pool.undergo ticket deed).1, .sight ticket (pool.undergo ticket deed).2)

def after : List Action → Pool
  | [] => empty
  | action :: past => ((after past).act action).1

def scenes : List Action → List Scene
  | [] => []
  | action :: past => ((after past).act action).2 :: scenes past

def answer (ticket : Nat) (pool : Pool) : Sight := (pool.undergo ticket .poll).2

end Pool

def Action.deedsOf (ticket : Nat) : List Action → List Deed
  | [] => []
  | .start _ :: past => deedsOf ticket past
  | .act other deed :: past =>
      if other = ticket then deed :: deedsOf ticket past else deedsOf ticket past

namespace Scene

def notesFor (ticket : Nat) : Scene → List Note
  | started other notes => if other = ticket then notes else []
  | crash _ => []
  | sight other seen => if other = ticket then seen.made else []

def notesOf (ticket : Nat) : List Scene → List Note
  | [] => []
  | scene :: past => notesOf ticket past ++ scene.notesFor ticket

def isFor (ticket : Nat) : Scene → Bool
  | sight other (.answer _) | sight other .nothing => other == ticket
  | _ => false

end Scene

namespace Pool

variable {pool : Pool} {order : Order} {ticket other : Nat} {task : Task} {past : List Action}

theorem undergo_held (held : pool.tasks[ticket]? = some task) (deed : Deed) :
    pool.undergo ticket deed = (pool.put ticket (task.undergo deed).1, (task.undergo deed).2) := by
  simp only [undergo, held]

theorem undergo_unknown (unknown : pool.tasks[ticket]? = none) (deed : Deed) :
    pool.undergo ticket deed = (pool, .nothing) := by
  simp only [undergo, unknown]

theorem undergo_fst (pool : Pool) (ticket : Nat) (deed : Deed) :
    (pool.undergo ticket deed).1 =
      ⟨pool.tasks.modify ticket fun task => (task.undergo deed).1⟩ := by
  cases held : pool.tasks[ticket]? with
  | none =>
      rw [undergo_unknown held, List.modify_eq_self (List.getElem?_eq_none_iff.mp held)]
  | some task =>
      rw [undergo_held held]
      refine congrArg Pool.mk (List.ext_getElem? fun index => ?_)
      rw [List.getElem?_set, List.getElem?_modify]
      by_cases same : ticket = index
      · obtain ⟨inside, found⟩ := List.getElem?_eq_some_iff.mp held
        simp [same.symm, inside, found]
      · simp [same]

theorem held_undergo (held : pool.tasks[ticket]? = some task) (deed : Deed) :
    (pool.undergo ticket deed).1.tasks[ticket]? = some (task.undergo deed).1 := by
  rw [undergo_fst, List.getElem?_modify_eq, held]
  rfl

theorem undergo_elsewhere (apart : other ≠ ticket) (deed : Deed) :
    (pool.undergo other deed).1.tasks[ticket]? = pool.tasks[ticket]? := by
  rw [undergo_fst]
  exact List.getElem?_modify_ne _ _ apart

theorem ticket_undergo (pool : Pool) (ticket : Nat) (deed : Deed) :
    (pool.undergo ticket deed).1.ticket = pool.ticket := by
  rw [undergo_fst]
  exact List.length_modify _ _ _

theorem act_crash (crashes : order.CrashesOutside) (pool : Pool) :
    pool.act (.start order) = (pool, .crash (order.job order.around).trace) := by
  simp only [act, start_crash crashes]

theorem act_start (stays : ¬ order.CrashesOutside) (pool : Pool) :
    pool.act (.start order) =
      (pool.add order.task, .started pool.ticket (order.noted [])) := by
  simp only [act, start_stays stays]

theorem held_start (held : pool.tasks[ticket]? = some task) (order : Order) :
    (pool.act (.start order)).1.tasks[ticket]? = some task := by
  by_cases crashes : order.CrashesOutside
  · rw [act_crash crashes]
    exact held
  · rw [act_start crashes]
    obtain ⟨inside, _⟩ := List.getElem?_eq_some_iff.mp held
    exact (List.getElem?_append_left inside).trans held

/-- A ticket stays with its task. What becomes of the task is up to the deeds on the ticket. -/
theorem held_after (stays : ¬ order.CrashesOutside) (past : List Action) : ∀ recent,
    (after (recent ++ .start order :: past)).tasks[(after past).ticket]? =
      some (order.task.after (Action.deedsOf (after past).ticket recent))
  | [] => by
      rw [List.nil_append, after, act_start stays]
      exact List.getElem?_concat_length
  | .start _ :: recent => held_start (held_after stays past recent) _
  | .act other deed :: recent => by
      have held := held_after stays past recent
      by_cases same : other = (after past).ticket
      · rw [Action.deedsOf, if_pos same, same]
        exact held_undergo held deed
      · rw [Action.deedsOf, if_neg same]
        exact (undergo_elsewhere same deed).trans held

theorem ticket_add (task : Task) (pool : Pool) : (pool.add task).ticket = pool.ticket + 1 :=
  List.length_append

theorem ticket_act_start (order : Order) (pool : Pool) :
    pool.ticket ≤ (pool.act (.start order)).1.ticket := by
  by_cases crashes : order.CrashesOutside
  · rw [act_crash crashes]
  · rw [act_start crashes, ticket_add]
    exact Nat.le_succ _

/-- Starting a build notes nothing for a ticket that was given out before, or is still to come. -/
theorem notesFor_start
    (apart : ticket < pool.ticket ∨ (pool.act (.start order)).1.ticket ≤ ticket) :
    (pool.act (.start order)).2.notesFor ticket = [] := by
  by_cases crashes : order.CrashesOutside
  · rw [act_crash crashes]
    rfl
  · rw [act_start crashes, ticket_add] at apart
    rw [act_start crashes]
    exact if_neg (by omega)

theorem notesOf_early : ∀ past, (after past).ticket ≤ ticket →
    Scene.notesOf ticket (scenes past) = []
  | [], _ => rfl
  | .start order :: past, early => by
      have before := Nat.le_trans (ticket_act_start order (after past)) early
      rw [scenes, Scene.notesOf, notesOf_early past before, notesFor_start (.inr early)]
      rfl
  | .act other deed :: past, early => by
      have before : (after past).ticket ≤ ticket := by
        rwa [after, act, ticket_undergo] at early
      rw [scenes, Scene.notesOf, notesOf_early past before]
      by_cases same : other = ticket
      · have unknown : (after past).tasks[other]? = none :=
          List.getElem?_eq_none (same ▸ before)
        rw [act, undergo_unknown unknown]
        exact if_pos same
      · exact if_neg same

theorem notes_after (stays : ¬ order.CrashesOutside) (past : List Action) : ∀ recent,
    Scene.notesOf (after past).ticket (scenes (recent ++ .start order :: past)) =
      order.noted (Action.deedsOf (after past).ticket recent)
  | [] => by
      rw [List.nil_append, scenes, Scene.notesOf, notesOf_early past (Nat.le_refl _),
        act_start stays]
      exact if_pos rfl
  | .start later :: recent => by
      obtain ⟨given, _⟩ := List.getElem?_eq_some_iff.mp (held_after stays past recent)
      rw [List.cons_append, scenes, Scene.notesOf, notes_after stays past recent,
        notesFor_start (.inl given)]
      exact List.append_nil _
  | .act other deed :: recent => by
      have held := held_after stays past recent
      rw [List.cons_append, scenes, Scene.notesOf, notes_after stays past recent]
      by_cases same : other = (after past).ticket
      · rw [Action.deedsOf, if_pos same, (order.serves_after _).noted_undergo, act, same,
          undergo_held held]
        exact congrArg _ (if_pos rfl)
      · rw [Action.deedsOf, if_neg same]
        exact (congrArg _ (if_neg same)).trans (List.append_nil _)

end Pool

namespace Task

/-- Whether a ticket is given back before or after a deed makes no difference to its task. -/
theorem undergo_drop (task : Task) (deed : Deed) :
    ((task.undergo .drop).1.undergo deed).1 = ((task.undergo deed).1.undergo .drop).1 := by
  obtain ⟨work, channel⟩ := task
  cases deed with
  | work around =>
      cases work with
      | waiting job => rfl
      | running rest =>
          obtain ⟨notes, outcome⟩ := rest
          cases notes <;> rfl
      | ended => rfl
  | poll => rfl
  | drop => rfl

theorem advance_drop (task : Task) (around : Surroundings) :
    ((task.undergo .drop).1.advance around).2 = (task.advance around).2 := by
  obtain ⟨work, channel⟩ := task
  cases work with
  | waiting job => rfl
  | running rest =>
      obtain ⟨notes, outcome⟩ := rest
      cases notes <;> rfl
  | ended => rfl

end Task

namespace Pool

variable {pool : Pool} {ticket : Nat} {past : List Action}

theorem ticket_act (action : Action) (pool : Pool) : pool.ticket ≤ (pool.act action).1.ticket := by
  cases action with
  | start order => exact ticket_act_start order pool
  | act ticket deed => exact (ticket_undergo pool ticket deed).ge

theorem ticket_after : ∀ later, (after past).ticket ≤ (after (later ++ past)).ticket
  | [] => Nat.le_refl _
  | action :: later => Nat.le_trans (ticket_after later) (ticket_act action _)

theorem act_drop (given : ticket < pool.ticket) (action : Action) :
    ((pool.undergo ticket .drop).1.act action).1 =
      ((pool.act action).1.undergo ticket .drop).1 := by
  cases action with
  | start order =>
      by_cases crashes : order.CrashesOutside
      · rw [act_crash crashes, act_crash crashes]
      · have held : pool.tasks[ticket]? = some pool.tasks[ticket] := List.getElem?_eq_getElem given
        have added : (pool.add order.task).tasks[ticket]? = some pool.tasks[ticket] :=
          (List.getElem?_append_left given).trans held
        rw [act_start crashes, act_start crashes, undergo_held held, undergo_held added]
        exact congrArg Pool.mk (List.set_append_left _ _ given).symm
  | act other deed =>
      rw [act, act]
      simp only [undergo_fst]
      -- Deeds on different tickets change different tasks.
      by_cases same : ticket = other
      · rw [same, List.modify_modify_eq, List.modify_modify_eq]
        have swapped := funext fun task : Task => task.undergo_drop deed
        exact congrArg (fun change => Pool.mk (pool.tasks.modify other change)) swapped
      · rw [List.modify_modify_ne _ _ _ same]

theorem after_drop (given : ticket < (after past).ticket) : ∀ later,
    after (later ++ .act ticket .drop :: past) =
      ((after (later ++ past)).undergo ticket .drop).1
  | [] => rfl
  | action :: later => by
      rw [List.cons_append, after, after_drop given later]
      exact act_drop (Nat.lt_of_lt_of_le given (ticket_after later)) action

/-- What a deed shows follows from the task alone. -/
theorem sight_congr {left right : Pool} (same : left.tasks[ticket]? = right.tasks[ticket]?)
    (deed : Deed) : (left.act (.act ticket deed)).2 = (right.act (.act ticket deed)).2 := by
  simp only [act, undergo, same]
  cases right.tasks[ticket]? <;> rfl

theorem sight_held {task : Task} (held : pool.tasks[ticket]? = some task) (deed : Deed) :
    (pool.act (.act ticket deed)).2 = .sight ticket (task.undergo deed).2 := by
  rw [act, undergo_held held]

theorem scene_drop (given : ticket < pool.ticket) (action : Action) :
    ((pool.undergo ticket .drop).1.act action).2 = (pool.act action).2 ∨
      ((pool.undergo ticket .drop).1.act action).2.isFor ticket = true ∧
      (pool.act action).2.isFor ticket = true := by
  cases action with
  | start order =>
      by_cases crashes : order.CrashesOutside
      · exact .inl (by rw [act_crash crashes, act_crash crashes])
      · exact .inl (by rw [act_start crashes, act_start crashes, ticket_undergo])
  | act other deed =>
      by_cases same : other = ticket
      · have held : pool.tasks[ticket]? = some pool.tasks[ticket] := List.getElem?_eq_getElem given
        rw [same, sight_held (held_undergo held .drop), sight_held held]
        cases deed with
        | work around =>
            have noted := Task.advance_drop pool.tasks[ticket] around
            exact .inl (congrArg (fun made => Scene.sight ticket (.notes made)) noted)
        | poll => exact .inr ⟨beq_self_eq_true _, beq_self_eq_true _⟩
        | drop => exact .inr ⟨beq_self_eq_true _, beq_self_eq_true _⟩
      · exact .inl (sight_congr (undergo_elsewhere (Ne.symm same) .drop) deed)

/-- What there is to see for all but the holder of a ticket stays when the ticket is given back. -/
theorem scenes_drop (given : ticket < (after past).ticket) : ∀ later,
    (scenes (later ++ .act ticket .drop :: past)).filter (!·.isFor ticket) =
      (scenes (later ++ past)).filter (!·.isFor ticket)
  | [] => by
      have held := List.getElem?_eq_getElem given
      rw [List.nil_append, scenes, sight_held held]
      exact List.filter_cons_of_neg (by simp [Task.undergo, Scene.isFor])
  | action :: later => by
      rw [List.cons_append, List.cons_append, scenes, scenes, after_drop given later]
      rcases scene_drop (Nat.lt_of_lt_of_le given (ticket_after later)) action with
        same | ⟨dropped, kept⟩
      · rw [same, List.filter_cons, List.filter_cons, scenes_drop given later]
      · rw [List.filter_cons_of_neg (by simp [dropped]), List.filter_cons_of_neg (by simp [kept]),
          scenes_drop given later]

end Pool

structure Order.Delivers (order : Order) (ticket : Nat) (deeds : List Deed)
    (history : List Action) : Prop where
  ends : (∃ task, (Pool.after history).tasks[ticket]? = some task ∧ task.work = .ended) ↔
    ∃ build, order.ended? deeds = some build
  pending : Pool.answer ticket (Pool.after history) = .answer .pending ↔
    order.IsAwaited deeds ∧ order.ended? deeds = none
  ready : ∀ result, Pool.answer ticket (Pool.after history) = .answer (.ready result) ↔
    order.IsAwaited deeds ∧ ∃ build, order.ended? deeds = some build ∧
      build.outcome.delivered = result
  spent : Pool.answer ticket (Pool.after history) = .answer .spent ↔ ¬ order.IsAwaited deeds
  noted : Scene.notesOf ticket (Pool.scenes history) = order.noted deeds
  dropped : ∀ later : List Action,
    (Pool.scenes (later ++ .act ticket .drop :: history)).filter (!·.isFor ticket) =
      (Pool.scenes (later ++ history)).filter (!·.isFor ticket)

structure Order.IsServed (order : Order) (past recent : List Action) : Prop where
  crashes : order.CrashesOutside → (Pool.after past).act (.start order) =
    (Pool.after past, .crash (order.job order.around).trace)
  starts : ¬ order.CrashesOutside → (Pool.after past).act (.start order) =
    ((Pool.after past).add order.task, .started (Pool.after past).ticket (order.noted []))
  delivers : ¬ order.CrashesOutside →
    order.Delivers (Pool.after past).ticket (Action.deedsOf (Pool.after past).ticket recent)
      (recent ++ .start order :: past)

def FailsByCrash (job : Job) : Prop :=
  ∀ around : Surroundings, around.source.FailsItself →
    ((job around).outcome.delivered = .error .taskFailed ↔ (job around).outcome = .crashed)

theorem failsByCrash_of_failsItself {job : Job}
    (own : ∀ around : Surroundings, around.source.FailsItself → (job around).FailsItself) :
    FailsByCrash job := by
  intro around honest
  cases outcome : (job around).outcome with
  | done token => exact iff_of_false nofun nofun
  | failed error =>
      have other := own around honest error outcome
      exact iff_of_false (fun same => other (Except.error.inj same)) nofun
  | crashed => exact iff_of_true rfl rfl

namespace Pool

theorem delivers {order : Order} (stays : ¬ order.CrashesOutside) (past recent : List Action) :
    order.Delivers (after past).ticket (Action.deedsOf (after past).ticket recent)
      (recent ++ .start order :: past) := by
  have held := held_after stays past recent
  obtain ⟨given, _⟩ := List.getElem?_eq_some_iff.mp held
  have answered : answer (after past).ticket (after (recent ++ .start order :: past)) =
      ((order.task.after (Action.deedsOf (after past).ticket recent)).undergo .poll).2 := by
    rw [answer, undergo_held held]
  have noted := notes_after stays past recent
  have serves := order.serves_after (Action.deedsOf (after past).ticket recent)
  have ends : (∃ task, (after (recent ++ .start order :: past)).tasks[(after past).ticket]? =
      some task ∧ task.work = .ended) ↔
      ∃ build, order.ended? (Action.deedsOf (after past).ticket recent) = some build := by
    simp [held, serves.phase.ended_iff]
  rcases serves.polled with
    ⟨awaited, unfinished, polled⟩ | ⟨awaited, build, ended, polled⟩ | ⟨gone, polled⟩
  · refine ⟨ends, ?_, ?_, ?_, noted, scenes_drop given⟩ <;>
      simp [answered, polled, awaited, unfinished]
  · refine ⟨ends, ?_, ?_, ?_, noted, scenes_drop given⟩ <;>
      simp [answered, polled, awaited, ended]
  · refine ⟨ends, ?_, ?_, ?_, noted, scenes_drop given⟩ <;>
      simp [answered, polled, gone]

end Pool

def Order.run (order : Order) : Build Token := Pool.run order.inside order.job order.around

def Order.course (order : Order) : List Action :=
  order.diligence.map (fun around => .act 0 (.work around)) ++ [.start order]

def JwsBuilder.order (inside : Bool) (around : Surroundings) (builder : JwsBuilder) : Order :=
  ⟨inside, fun found => builder.sign found, around⟩

def JweBuilder.order (inside : Bool) (around : Surroundings) (builder : JweBuilder) : Order :=
  ⟨inside, fun found => builder.encrypt found, around⟩

structure Order.Defers (order : Order) (direct : Surroundings → Build Token) : Prop where
  served : ∀ past recent : List Action, order.IsServed past recent
  made : ∀ deeds build, order.ended? deeds = some build → ∃ found, build = direct found ∧
    if order.inside then (Deed.steps deeds).getLast? = some found else found = order.around
  run : order.run =
    ⟨(direct order.around).trace, (direct order.around).outcome.deferred order.inside⟩
  course : ¬ order.CrashesOutside → ∃ result,
    Pool.answer 0 (Pool.after order.course) = .answer (.ready result) ∧
      order.run = ⟨Scene.notesOf 0 (Pool.scenes order.course), .ofExcept result⟩
  fails : FailsByCrash direct

namespace Order

variable {order : Order}

theorem deedsOf_work (order : Order) (ticket : Nat) : ∀ steps : List Surroundings,
    Action.deedsOf ticket (steps.map fun around => .act ticket (.work around)) =
      steps.map .work
  | [] => rfl
  | around :: past => by
      rw [List.map_cons, Action.deedsOf, if_pos rfl, deedsOf_work order ticket past]
      rfl

theorem isServed (order : Order) (past recent : List Action) : order.IsServed past recent where
  crashes crashes := Pool.act_crash crashes _
  starts stays := Pool.act_start stays _
  delivers stays := Pool.delivers stays past recent

theorem job_of_ended {deeds : List Deed} {build : Build Token}
    (ended : order.ended? deeds = some build) : ∃ found, build = order.job found ∧
      if order.inside then (Deed.steps deeds).getLast? = some found else found = order.around := by
  have made : order.build? deeds = some build := (Option.filter_eq_some_iff.mp ended).1
  cases inside : order.inside with
  | true =>
      rw [build?, if_pos inside, Option.map_eq_some_iff] at made
      obtain ⟨found, first, same⟩ := made
      exact ⟨found, same.symm, first⟩
  | false =>
      rw [build?_outside inside] at made
      injection made with same
      exact ⟨order.around, same.symm, rfl⟩

theorem run_course (stays : ¬ order.CrashesOutside) : ∃ result,
    Pool.answer 0 (Pool.after order.course) = .answer (.ready result) ∧
      order.run = ⟨Scene.notesOf 0 (Pool.scenes order.course), .ofExcept result⟩ := by
  have delivers := Pool.delivers stays [] (order.diligence.map fun around => .act 0 (.work around))
  have deeds := order.deedsOf_work (Pool.after []).ticket order.diligence
  rw [show (Pool.after []).ticket = 0 from rfl] at delivers deeds
  rw [deeds] at delivers
  refine ⟨_, (delivers.ready _).mpr ⟨order.isAwaited_work _, _, order.ended?_diligence, rfl⟩, ?_⟩
  rw [course, delivers.noted, order.noted_diligence]
  exact Pool.run_of_stays stays

theorem defers (fails : FailsByCrash order.job) : order.Defers order.job where
  served := order.isServed
  made _ _ ended := job_of_ended ended
  run := Pool.run_eq _ _ _
  course := run_course
  fails := fails

theorem Defers.run_done {direct : Surroundings → Build Token} (defers : order.Defers direct)
    {token : Token} (done : (direct order.around).outcome = .done token) :
    order.run.outcome = .done token := by
  rw [defers.run]
  exact Outcome.deferred_eq_done_iff.mpr done

end Order

/-- Signing or encrypting later is signing or encrypting on some worker, whatever else goes on in
the pool before and after. The holder of the ticket gets what the same call would have given at
once, a failed task exactly where that call has crashed on a worker, and nothing but the own build
counts. -/
theorem Pool.orders_areServed :
    (∀ (order : Order) (past recent : List Action), order.IsServed past recent) ∧
      (∀ (builder : JwsBuilder) (inside : Bool) (around : Surroundings),
        (builder.move? around (.signLater inside) =
            some do return .token (← (builder.order inside around).run)) ∧
          (builder.order inside around).Defers fun found => builder.sign found) ∧
      ∀ (builder : JweBuilder) (inside : Bool) (around : Surroundings),
        (builder.move? around (.encryptLater inside) =
            some do return .token (← (builder.order inside around).run)) ∧
          (builder.order inside around).Defers fun found => builder.encrypt found := by
  refine ⟨Order.isServed, fun builder inside around => ⟨rfl, Order.defers ?_⟩,
    fun builder inside around => ⟨rfl, Order.defers ?_⟩⟩
  · exact failsByCrash_of_failsItself fun around own =>
      Jws.sign_failsItself _ own builder.claims builder.choices
  · exact failsByCrash_of_failsItself fun around own =>
      Jwe.encrypt_failsItself _ own around.entropy _ _ builder.choices

namespace Pool

-- A source that crashes, whatever it is asked for.
def broken : Surroundings :=
  ⟨⟨0, 0⟩, ⟨fun _ => [], fun _ => .crashed⟩, ⟨fun _ => 0, fun _ => 1, fun _ => 2, fun _ => 3⟩⟩

def signing (key : KeyConfig) (inside : Bool) : Order :=
  JwsBuilder.order inside broken ⟨{ Config.standard with signingKey := key }, ⟨[]⟩, .blank⟩

def keyedSigning : JwsBuilder := ⟨ClaimsBuilder.keyed.config, ⟨[]⟩, .blank⟩

def keyedEncryption : JweBuilder := .make ClaimsBuilder.keyed.config (.claims ⟨[]⟩)

theorem keyedSigning_length (signed : (keyedSigning.sign .still).IsDone) :
    (keyedSigning.sign .still).trace.length = 3 := by
  have finding : ClaimsBuilder.keyed.config.finding .signing storedKeys none = .key "HMAC" := by
    rw [Config.finding, storedKeys_signing]
    rfl
  have reports := Jws.sign_reports ClaimsBuilder.keyed.config storedKeys ⟨[]⟩ .blank
  rw [show JwsChoices.blank.keyId = none from rfl, finding] at reports
  rw [keyedSigning, JwsBuilder.sign, Surroundings.still, reports.done signed]
  rfl

-- Three workers take turns, and two of the tickets are asked for too early.
def turns : List Action :=
  [.act 2 (.work .still), .act 1 (.work broken), .act 0 (.work broken), .act 2 (.work .still),
    .act 0 .poll, .act 1 (.work broken), .act 2 (.work .still), .act 0 (.work broken),
    .act 1 .poll, .act 2 (.work .still), .act 1 (.work broken), .act 0 (.work broken),
    .act 2 (.work .still)]

def placed : List Action :=
  [.start (keyedEncryption.order false .still), .start (keyedSigning.order true .still),
    .start (signing .standard true), .start (signing (.jwk "secret") true)]

theorem orders_areServed_takingTurns :
    (∃ signed, (keyedSigning.sign .still).outcome = .done signed ∧
        (keyedSigning.order true .still).run.outcome = .done signed ∧
        answer 2 (after (turns ++ placed)) = .answer (.ready (.ok signed))) ∧
      (∃ encrypted, (keyedEncryption.encrypt .still).outcome = .done encrypted ∧
        answer 3 (after (turns ++ placed)) = .answer (.ready (.ok encrypted))) ∧
      answer 0 (after (turns ++ placed)) = .answer (.ready (.error .taskFailed)) ∧
      answer 1 (after (turns ++ placed)) =
        .answer (.ready (.error (.keyResolution .signing "no key location configured"))) ∧
      (empty.act (.start (signing (.jwk "secret") false))).2 = .crash [.read "secret"] := by
  obtain ⟨served, signs, encrypts⟩ := orders_areServed
  refine ⟨?_, ?_, ?_, ?_, ?_⟩
  · obtain ⟨token, signed⟩ := storedKeys_sign ⟨[]⟩
    have done : (keyedSigning.sign .still).outcome = .done token := signed
    obtain ⟨_, defers⟩ := signs keyedSigning true .still
    have delivers : (keyedSigning.order true .still).Delivers 2
        (List.replicate 5 (.work .still)) (turns ++ placed) :=
      (defers.served (placed.drop 2) (turns ++ placed.take 1)).delivers
        fun crashes => nomatch crashes.1
    have length := keyedSigning_length ⟨token, done⟩
    have late : (keyedSigning.order true .still).ended? (List.replicate 5 (.work .still)) =
        some (keyedSigning.sign .still) :=
      Order.ended?_late rfl rfl (congrArg (· + 2) length).le
    refine ⟨token, done, defers.run_done done, (delivers.ready _).mpr ⟨trivial, _, late, ?_⟩⟩
    exact congrArg Outcome.delivered done
  · obtain ⟨token, encrypted⟩ := storedKeys_encrypt Surroundings.still.entropy
      (keyedEncryption.payload.plaintext) false
    have done : (keyedEncryption.encrypt .still).outcome = .done token := encrypted
    obtain ⟨_, defers⟩ := encrypts keyedEncryption false .still
    have delivers := (defers.served (placed.drop 1) turns).delivers
      fun crashes => nomatch done.symm.trans crashes.2
    refine ⟨token, done, (delivers.ready _).mpr ⟨trivial, _, Order.ended?_outside rfl, ?_⟩⟩
    exact congrArg Outcome.delivered done
  · have crashed := (served (signing (.jwk "secret") true) [] (turns ++ placed.take 3)).delivers
      fun crashes => nomatch crashes.1
    exact (crashed.ready _).mpr ⟨⟨trivial, rfl⟩, _, rfl, rfl⟩
  · have refused := (served (signing .standard true) (placed.drop 3)
      (turns ++ placed.take 2)).delivers fun crashes => nomatch crashes.1
    exact (refused.ready _).mpr ⟨⟨trivial, rfl⟩, _, rfl, rfl⟩
  · have outside := (served (signing (.jwk "secret") false) [] []).crashes ⟨rfl, rfl⟩
    exact congrArg Prod.snd outside

end Pool

end Jose
