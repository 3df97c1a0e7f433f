import Jose.Build

/-!
How builds go on. A build that goes through two stages has a result exactly when both have one, and
its trace is the trace of the first followed by that of the second. What holds of all results of the
first can be used for those of the second.
-/

namespace Jose.Build

variable {α β : Type}

@[simp] theorem outcome_pure (value : α) : (Pure.pure value : Build α).outcome = .done value := rfl

@[simp] theorem trace_pure (value : α) : (Pure.pure value : Build α).trace = [] := rfl

@[simp] theorem outcome_report (event : Event) : (report event).outcome = .done () := rfl

@[simp] theorem outcome_ofExcept_eq_done {answer : Except BuildError α} {value : α} :
    (ofExcept answer).outcome = .done value ↔ answer = .ok value := by
  cases answer <;> simp [ofExcept, Outcome.ofExcept]

@[simp] theorem outcome_ofExcept_eq_failed {answer : Except BuildError α} {error : BuildError} :
    (ofExcept answer).outcome = .failed error ↔ answer = .error error := by
  cases answer <;> simp [ofExcept, Outcome.ofExcept]

section Stages

variable {first : Build α} {next : α → Build β}

theorem bind_of_done {value : α} (done : first.outcome = .done value) :
    first >>= next = ⟨first.trace ++ (next value).trace, (next value).outcome⟩ := by
  simp only [Bind.bind, bind, done]

@[simp] theorem mk_done_bind (trace : List Note) (value : α) :
    (⟨trace, .done value⟩ : Build α) >>= next =
      ⟨trace ++ (next value).trace, (next value).outcome⟩ := rfl

@[simp] theorem pure_bind (value : α) : (Pure.pure value : Build α) >>= next = next value := rfl

@[simp] theorem mk_crashed_bind (trace : List Note) :
    (⟨trace, .crashed⟩ : Build α) >>= next = ⟨trace, .crashed⟩ := rfl

theorem bind_of_failed {error : BuildError} (failed : first.outcome = .failed error) :
    first >>= next = ⟨first.trace, .failed error⟩ := by
  simp only [Bind.bind, bind, failed]

theorem bind_of_crashed (crashed : first.outcome = .crashed) :
    first >>= next = ⟨first.trace, .crashed⟩ := by
  simp only [Bind.bind, bind, crashed]

theorem bind_eq_done {result : β} :
    (first >>= next).outcome = .done result ↔
      ∃ value, first.outcome = .done value ∧ (next value).outcome = .done result := by
  cases outcome : first.outcome with
  | done value => simp [bind_of_done outcome]
  | failed error => simp [bind_of_failed outcome]
  | crashed => simp [bind_of_crashed outcome]

/-- How two builds end depends on how their first stages end, and not on what they report. -/
theorem outcome_bind_congr {other : Build α} {nextOther : α → Build β}
    (same : first.outcome = other.outcome)
    (later : ∀ value, (next value).outcome = (nextOther value).outcome) :
    (first >>= next).outcome = (other >>= nextOther).outcome := by
  cases outcome : first.outcome with
  | done value => rw [bind_of_done outcome, bind_of_done (same ▸ outcome), later]
  | failed error => rw [bind_of_failed outcome, bind_of_failed (same ▸ outcome)]
  | crashed => rw [bind_of_crashed outcome, bind_of_crashed (same ▸ outcome)]

end Stages

section Results

def Gives (holds : α → Prop) (build : Build α) : Prop :=
  ∀ value, build.outcome = .done value → holds value

variable {holds : α → Prop} {holdsAfter : β → Prop}

theorem gives_pure {value : α} (held : holds value) : (Pure.pure value : Build α).Gives holds := by
  intro result done
  injection done with same
  exact same ▸ held

theorem gives_ofExcept {answer : Except BuildError α}
    (held : ∀ value, answer = .ok value → holds value) : (ofExcept answer).Gives holds :=
  fun value done => held value (outcome_ofExcept_eq_done.mp done)

theorem Gives.bind {first : Build α} (gives : first.Gives holds) {next : α → Build β}
    (later : ∀ value, holds value → (next value).Gives holdsAfter) :
    (first >>= next).Gives holdsAfter := by
  intro result done
  obtain ⟨value, found, rest⟩ := bind_eq_done.mp done
  exact later value (gives value found) result rest

end Results

end Jose.Build
