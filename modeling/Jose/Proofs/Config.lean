import Jose.Config

/-!
Which configurations are accepted: those that give tokens a lifespan, and send nobody to an empty
location for a key.
-/

namespace Jose.Config

structure IsSound (config : Config) : Prop where
  lifespan : 0 < config.lifespan
  location : ∀ role, (config.key role).location ≠ some ""

theorem hasEmptyLocation_eq_true_iff {config : Config} {role : KeyRole} :
    config.hasEmptyLocation role = true ↔ (config.key role).location = some "" := by
  simp [hasEmptyLocation]

theorem find?_hasEmptyLocation_eq_none_iff {config : Config} :
    [KeyRole.signing, KeyRole.keyEncryption].find? config.hasEmptyLocation = none ↔
      ∀ role, (config.key role).location ≠ some "" := by
  rw [List.find?_eq_none]
  constructor
  · intro absent role empty
    have member : role ∈ [KeyRole.signing, KeyRole.keyEncryption] := by cases role <;> simp
    exact absent role member (hasEmptyLocation_eq_true_iff.mpr empty)
  · intro located role _ empty
    exact located role (hasEmptyLocation_eq_true_iff.mp empty)

theorem validate_eq_ok_iff {config : Config} : config.validate = .ok () ↔ config.IsSound := by
  by_cases lifeless : config.lifespan = 0
  · constructor
    · intro accepted
      simp [validate, lifeless] at accepted
    · intro sound
      have positive := sound.lifespan
      omega
  · constructor
    · intro accepted
      refine ⟨by omega, ?_⟩
      cases empty : [KeyRole.signing, KeyRole.keyEncryption].find? config.hasEmptyLocation with
      | none => exact find?_hasEmptyLocation_eq_none_iff.mp empty
      | some role => simp only [validate, lifeless, empty, if_false, reduceCtorEq] at accepted
    · intro sound
      have located := find?_hasEmptyLocation_eq_none_iff.mpr sound.location
      simp only [validate, lifeless, located, if_false]

/-- A configuration is refused as such, whatever is wrong with it. -/
theorem validate_eq_error {config : Config} {error : BuildError}
    (refused : config.validate = .error error) : ∃ reason, error = .config reason := by
  simp only [validate] at refused
  split at refused
  · injection refused with same
    exact ⟨_, same.symm⟩
  · split at refused
    · injection refused with same
      exact ⟨_, same.symm⟩
    · contradiction

end Jose.Config
