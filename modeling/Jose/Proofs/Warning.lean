import Jose.Proofs.Jwe
import Jose.Proofs.Jws
import Jose.Proofs.Pool

/-!
Warnings of unsigned tokens. In the trace of a build there is one for the unsigned token that it
gives, and none where it gives anything else.
-/

namespace Jose

namespace Build

def warnings (trace : List Note) : Nat := (events trace).count .unsignedToken

@[simp] theorem warnings_nil : warnings [] = 0 := rfl

@[simp] theorem warnings_append (left right : List Note) :
    warnings (left ++ right) = warnings left + warnings right := by
  simp [warnings, events]

variable {α β : Type}

/-- A build warns as often as its result calls for. -/
def IsBalanced (due : α → Nat) (build : Build α) : Prop :=
  warnings build.trace =
    match build.outcome with
    | .done value => due value
    | _ => 0

def IsQuiet (build : Build α) : Prop := warnings build.trace = 0

theorem IsQuiet.isBalanced {build : Build α} (quiet : build.IsQuiet) :
    build.IsBalanced fun _ => 0 := by
  rw [IsBalanced, quiet]
  split <;> rfl

theorem isQuiet_ofExcept (answer : Except BuildError α) : (ofExcept answer).IsQuiet := rfl

theorem isQuiet_pure (value : α) : (Pure.pure value : Build α).IsQuiet := rfl

theorem isQuiet_report {event : Event} (other : event ≠ .unsignedToken) :
    (report event).IsQuiet := by
  simp [IsQuiet, warnings, events, report, other]

theorem IsQuiet.bind_isBalanced {first : Build α} (quiet : first.IsQuiet) {next : α → Build β}
    {due : β → Nat} (balanced : ∀ value, (next value).IsBalanced due) :
    (first >>= next).IsBalanced due := by
  cases outcome : first.outcome with
  | done value =>
      rw [bind_of_done outcome, IsBalanced, warnings_append, quiet, Nat.zero_add]
      exact balanced value
  | failed error =>
      rw [bind_of_failed outcome]
      exact quiet
  | crashed =>
      rw [bind_of_crashed outcome]
      exact quiet

theorem IsQuiet.bind {first : Build α} (quiet : first.IsQuiet) {next : α → Build β}
    (others : ∀ value, (next value).IsQuiet) : (first >>= next).IsQuiet := by
  cases outcome : first.outcome with
  | done value =>
      rw [bind_of_done outcome, IsQuiet, warnings_append, quiet, others value]
  | failed error =>
      rw [bind_of_failed outcome]
      exact quiet
  | crashed =>
      rw [bind_of_crashed outcome]
      exact quiet

/-- What comes after may only pass the result on or fail without having warned. -/
theorem IsBalanced.map {build : Build α} {due : α → Nat} (balanced : build.IsBalanced due)
    {wrap : α → β} {dueAfter : β → Nat} (same : ∀ value, dueAfter (wrap value) = due value) :
    (do return wrap (← build) : Build β).IsBalanced dueAfter := by
  cases outcome : build.outcome with
  | done value =>
      rw [bind_of_done outcome]
      simp only [IsBalanced, outcome] at balanced
      simp [IsBalanced, balanced, same]
  | failed error =>
      rw [bind_of_failed outcome]
      simp only [IsBalanced, outcome] at balanced
      exact balanced
  | crashed =>
      rw [bind_of_crashed outcome]
      simp only [IsBalanced, outcome] at balanced
      exact balanced

end Build

def Token.warningsDue (token : Token) : Nat := if token.isUnsigned then 1 else 0

section Keys

variable {κ : Type}

theorem KeySource.read_isQuiet (source : KeySource) (location : String) :
    (source.read location).IsQuiet := by
  simp only [Build.IsQuiet, KeySource.read, Build.warnings, Build.events]
  rw [List.count_eq_zero]
  simp

theorem KeyReader.resolve_isQuiet (reader : KeyReader κ) (source : KeySource) (spec : KeySpec) :
    (reader.resolve source spec).IsQuiet := by
  simp only [KeyReader.resolve]
  split
  · next absence _ =>
      apply Build.IsQuiet.bind
      · exact Build.isQuiet_report (by cases absence <;> simp [Absence.event])
      · exact fun _ => Build.isQuiet_pure _
  · next location _ =>
      apply Build.IsQuiet.bind (source.read_isQuiet location)
      intro material
      apply Build.IsQuiet.bind (Build.isQuiet_ofExcept _)
      intro key
      apply Build.IsQuiet.bind (Build.isQuiet_report (by simp))
      exact fun _ => Build.isQuiet_pure _

end Keys

theorem Jws.signature_isQuiet (signer : Signer) (input : Bytes) :
    (signature (some signer) input).IsQuiet := rfl

theorem Jws.sign_isBalanced (config : Config) (source : KeySource) (claims : Claims)
    (choices : JwsChoices) :
    (sign config source claims choices).IsBalanced Token.warningsDue := by
  apply (KeyReader.resolve_isQuiet _ _ _).bind_isBalanced
  intro resolution
  apply (Build.isQuiet_ofExcept _).bind_isBalanced
  intro signer
  cases signer with
  | none =>
      have unsigned := isUnsigned_contents choices none claims []
      exact (if_pos unsigned).symm
  | some signer =>
      apply (signature_isQuiet _ _).bind_isBalanced
      intro octets
      have signed := isUnsigned_contents choices (some signer) claims octets
      exact (if_neg (ne_true_of_eq_false signed)).symm

theorem Jwe.encrypt_isQuiet (config : Config) (source : KeySource) (entropy : Entropy)
    (payload : Bytes) (isNested : Bool) (choices : JweChoices) :
    (encrypt config source entropy payload isNested choices).IsQuiet := by
  apply (KeyReader.resolve_isQuiet _ _ _).bind
  intro resolution
  apply (Build.isQuiet_ofExcept _).bind
  intro key
  apply (Build.isQuiet_ofExcept _).bind
  intro wrapped
  apply (Build.isQuiet_ofExcept _).bind
  intro content
  apply (Build.isQuiet_report (by simp)).bind
  exact fun _ => Build.isQuiet_pure _

theorem Jwe.encrypt_isBalanced (config : Config) (source : KeySource) (entropy : Entropy)
    (payload : Bytes) (isNested : Bool) (choices : JweChoices) :
    (encrypt config source entropy payload isNested choices).IsBalanced Token.warningsDue := by
  rw [Build.IsBalanced, encrypt_isQuiet]
  split
  · next token encrypted =>
      rw [Token.warningsDue, encrypt_not_isUnsigned encrypted]
      rfl
  · rfl

theorem ClaimsBuilder.finish_isQuiet (around : Surroundings) (builder : ClaimsBuilder) :
    (builder.finish around).IsQuiet := by
  apply (Build.isQuiet_report (by simp)).bind
  exact fun _ => Build.isQuiet_pure _

namespace Pool

theorem run_isBalanced {due : Token → Nat} (inside : Bool) {job : Job} {around : Surroundings}
    (balanced : (job around).IsBalanced due) : (run inside job around).IsBalanced due := by
  rw [run_eq]
  simp only [Build.IsBalanced] at *
  cases outcome : (job around).outcome with
  | done token => simpa [outcome, Outcome.deferred] using balanced
  | failed error => simpa [outcome, Outcome.deferred] using balanced
  | crashed => cases inside <;> simpa [outcome, Outcome.deferred] using balanced

end Pool

end Jose
