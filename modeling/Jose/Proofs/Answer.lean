/-!
Answers that may be problems: when there is a result, and which one.
-/

namespace Jose

theorem bind_eq_ok_iff {ε α β : Type} {first : Except ε α} {next : α → Except ε β} {result : β} :
    first >>= next = .ok result ↔ ∃ value, first = .ok value ∧ next value = .ok result := by
  cases first with
  | error problem => simp [bind, Except.bind]
  | ok value => simp [bind, Except.bind]

theorem map_eq_ok_iff {ε α β : Type} {answer : Except ε α} {change : α → β} {result : β} :
    answer.map change = .ok result ↔ ∃ value, answer = .ok value ∧ change value = result := by
  cases answer <;> simp [Except.map]

theorem mapError_eq_ok_iff {ε ε' α : Type} {answer : Except ε α} {change : ε → ε'} {result : α} :
    answer.mapError change = .ok result ↔ answer = .ok result := by
  cases answer with
  | error problem => exact iff_of_false nofun nofun
  | ok value =>
      constructor <;>
      · intro same
        cases same
        rfl

theorem mapError_eq_error_iff {ε ε' α : Type} {answer : Except ε α} {change : ε → ε'}
    {problem : ε'} :
    answer.mapError change = .error problem ↔
      ∃ own, answer = .error own ∧ change own = problem := by
  cases answer with
  | error own =>
      constructor
      · intro same
        cases same
        exact ⟨own, rfl, rfl⟩
      · intro ⟨_, same, changed⟩
        cases same
        exact congrArg _ changed
  | ok value => exact iff_of_false nofun nofun

def Succeeds {ε α : Type} (answer : Except ε α) : Prop := ∃ value, answer = .ok value

namespace Succeeds

variable {ε ε' α β : Type} {answer : Except ε α}

@[simp] theorem ok_iff (value : α) : Succeeds (.ok value : Except ε α) ↔ True :=
  iff_true_intro ⟨value, rfl⟩

@[simp] theorem error_iff (problem : ε) : Succeeds (.error problem : Except ε α) ↔ False := by
  simp [Succeeds]

@[simp] theorem map_iff (change : α → β) : Succeeds (answer.map change) ↔ Succeeds answer := by
  cases answer <;> simp [Except.map]

@[simp] theorem mapError_iff (change : ε → ε') :
    Succeeds (answer.mapError change) ↔ Succeeds answer :=
  exists_congr fun _ => mapError_eq_ok_iff

theorem bind_iff {next : α → Except ε β} :
    Succeeds (answer >>= next) ↔ ∃ value, answer = .ok value ∧ Succeeds (next value) := by
  cases answer <;> simp [bind, Except.bind]

/-- Whether the second stage succeeds does not depend on what the first one gives. -/
theorem bind_iff_and {next : α → Except ε β} {later : Prop}
    (constant : ∀ value, Succeeds (next value) ↔ later) :
    Succeeds (answer >>= next) ↔ Succeeds answer ∧ later := by
  simp only [bind_iff, constant]
  exact ⟨fun ⟨value, found, held⟩ => ⟨⟨value, found⟩, held⟩,
    fun ⟨⟨value, found⟩, held⟩ => ⟨value, found, held⟩⟩

end Succeeds

end Jose
