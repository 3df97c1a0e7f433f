import Jose.Proofs.Build

/-!
Computations that may crash. An operation outside its domain, such as a remainder by zero or a slice
that begins within a character, ends the computation at once. A computation that comes to an answer
for every input has therefore kept all its operations within their domains.
-/

namespace Jose

inductive Guarded (ε α : Type) where
  | answer (answer : Except ε α)
  | crash

namespace Guarded

variable {ε δ α β : Type}

def bind (first : Guarded ε α) (next : α → Guarded ε β) : Guarded ε β :=
  match first with
  | answer (.ok value) => next value
  | answer (.error error) => answer (.error error)
  | crash => crash

instance : Monad (Guarded ε) where
  pure value := answer (.ok value)
  bind := bind

def fail (error : ε) : Guarded ε α := answer (.error error)

def ofOption (missing : ε) : Option α → Guarded ε α
  | some value => answer (.ok value)
  | none => fail missing

def mapError (change : ε → δ) : Guarded ε α → Guarded δ α
  | answer found => answer (found.mapError change)
  | crash => crash

def map (change : α → β) : Guarded ε α → Guarded ε β
  | answer found => answer (found.map change)
  | crash => crash

def build : Guarded BuildError α → Build α
  | answer found => Build.ofExcept found
  | crash => ⟨[], .crashed⟩

section Operations

def unwrap : Option α → Guarded ε α
  | some value => answer (.ok value)
  | none => crash

def sub (left right : Nat) : Guarded ε Nat :=
  if right ≤ left then answer (.ok (left - right)) else crash

def rem (left right : Nat) : Guarded ε Nat :=
  if right = 0 then crash else answer (.ok (left % right))

def cut (octets : Bytes) (place : Nat) : Guarded ε (Bytes × Bytes) :=
  if place ≤ octets.length then answer (.ok (octets.take place, octets.drop place)) else crash

def overwrite (buffer : Bytes) (start : Nat) (octets : Bytes) : Guarded ε Bytes :=
  if start + octets.length = buffer.length then answer (.ok (buffer.take start ++ octets))
  else crash

end Operations

theorem ok_bind (value : α) (next : α → Guarded ε β) :
    (answer (.ok value) : Guarded ε α) >>= next = next value := rfl

/-- What follows an answer need not crash where there was an error. -/
theorem answer_bind {first : Except ε α} {next : α → Guarded ε β} {after : α → Except ε β}
    (same : ∀ value, first = .ok value → next value = answer (after value)) :
    (answer first : Guarded ε α) >>= next = answer (first >>= after) := by
  cases first with
  | error error => rfl
  | ok value => exact same value rfl

theorem ofOption_bind {missing : ε} {first : Option α} {next : α → Guarded ε β}
    {after : α → Option β} (same : ∀ value, next value = ofOption missing (after value)) :
    ofOption missing first >>= next = ofOption missing (first >>= after) := by
  cases first with
  | none => rfl
  | some value => exact same value

theorem ofOption_bind_pair {γ : Type} {missing : ε} {first : Option (α × γ)}
    {next : α × γ → Guarded ε β} {after : α × γ → Option β}
    (same : ∀ left right, next (left, right) = ofOption missing (after (left, right))) :
    ofOption missing first >>= next = ofOption missing (first >>= after) :=
  ofOption_bind fun pair => same pair.1 pair.2

theorem ofOption_map {missing : ε} (found : Option α) (change : α → β) :
    (ofOption missing found).map change = ofOption missing (found.map change) := by
  cases found <;> rfl

section Crash

variable {next : α → Guarded ε β}

theorem answer_bind_eq_crash_iff {first : Except ε α} :
    (answer first : Guarded ε α) >>= next = crash ↔
      ∃ value, first = .ok value ∧ next value = crash := by
  cases first with
  | error error => exact iff_of_false nofun nofun
  | ok value => exact ⟨fun crashed => ⟨value, rfl, crashed⟩, fun ⟨_, rfl, crashed⟩ => crashed⟩

theorem ofOption_bind_eq_crash_iff {missing : ε} {first : Option α} :
    ofOption missing first >>= next = crash ↔ ∃ value, first = some value ∧ next value = crash := by
  cases first with
  | none => exact iff_of_false nofun nofun
  | some value => exact ⟨fun crashed => ⟨value, rfl, crashed⟩, fun ⟨_, rfl, crashed⟩ => crashed⟩

theorem mapError_eq_crash_iff {change : ε → δ} {guarded : Guarded ε α} :
    guarded.mapError change = crash ↔ guarded = crash := by
  cases guarded with
  | answer found => exact iff_of_false nofun nofun
  | crash => exact iff_of_true rfl rfl

theorem map_eq_crash_iff {change : α → β} {guarded : Guarded ε α} :
    guarded.map change = crash ↔ guarded = crash := by
  cases guarded with
  | answer found => exact iff_of_false nofun nofun
  | crash => exact iff_of_true rfl rfl

theorem ofOption_ne_crash (missing : ε) (found : Option α) : ofOption missing found ≠ crash := by
  cases found <;> exact nofun

end Crash

theorem sub_of_le {left right : Nat} (within : right ≤ left) :
    (sub left right : Guarded ε Nat) = answer (.ok (left - right)) := if_pos within

theorem sub_one (left : Nat) : (sub (left + 1) 1 : Guarded ε Nat) = answer (.ok left) :=
  sub_of_le (Nat.le_add_left 1 left)

theorem rem_of_pos {right : Nat} (positive : 0 < right) (left : Nat) :
    (rem left right : Guarded ε Nat) = answer (.ok (left % right)) :=
  if_neg (Nat.pos_iff_ne_zero.mp positive)

theorem cut_of_le {octets : Bytes} {place : Nat} (within : place ≤ octets.length) :
    (cut octets place : Guarded ε (Bytes × Bytes)) =
      answer (.ok (octets.take place, octets.drop place)) := if_pos within

theorem overwrite_of_fits {buffer octets : Bytes} {start : Nat}
    (fits : start + octets.length = buffer.length) :
    (overwrite buffer start octets : Guarded ε Bytes) =
      answer (.ok (buffer.take start ++ octets)) := if_pos fits

end Guarded

end Jose
