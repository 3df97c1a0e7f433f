import Jose.Proofs.Builder
import Jose.Proofs.Config
import Jose.Proofs.Session.Effect

/-!
Replacing configurations. Whatever is done in a session, no issuer, no resolver and no builder holds
a configuration that is refused, and a replacement that fails has not happened.
-/

namespace Jose.Session

def resolver? (session : Session) : Command → Option Config
  | .spec name _ _ | .resolveSigning name _ | .resolveEncryption name _ | .signClaims name _ _
  | .encryptOctets name _ _ _ | .claims name _ => (session.issuers.get? name).map Issuer.config
  | _ => none

variable {session : Session} {name : String} {config : Config}

theorem withIssuer_of_some {issuer : Issuer} (present : session.issuers.get? name = some issuer)
    (next : Issuer → Result) : session.withIssuer name next = next issuer := by
  rw [withIssuer, present]

theorem issuer_of_resolver? {command : Command} (taken : session.resolver? command = some config) :
    ∃ name issuer, session.issuers.get? name = some issuer ∧ issuer.config = config := by
  simp only [resolver?] at taken
  split at taken
  any_goals exact ⟨_, Option.map_eq_some_iff.mp taken⟩
  contradiction

def IsSound (session : Session) : Prop :=
  session.Holds (fun issuer => issuer.config.IsSound) fun builder => builder.config.IsSound

theorem isSound_isKept : IsKept (fun issuer => issuer.config.IsSound)
    (fun builder => builder.config.IsSound) where
  made _ valid := Config.validate_eq_ok_iff.mp valid
  started _ sound := sound
  moved _ _ _ _ _ sound moved done := (Builder.config_of_move? moved done).symm ▸ sound

theorem after_isSound (steps : List (Surroundings × Command)) : (empty.after steps).IsSound :=
  after_holds isSound_isKept steps empty_holds

structure IsInstalled (session : Session) (name : String) (config : Config) (trace : List Note)
    (result : Result) : Prop where
  succeeds : (∃ reply, result.2.outcome = .done reply) ↔ config.validate = .ok ()
  installed : config.validate = .ok () →
    result = (session.putIssuer name ⟨config⟩, ⟨trace, .done (.config config)⟩)
  refused : ∀ error, config.validate = .error error →
    (∃ reason, error = .config reason) ∧ result = (session, ⟨[], .failed error⟩)

theorem install_isInstalled {trace : List Note} {change : Build Issuer}
    (accepted : config.validate = .ok () → change = ⟨trace, .done ⟨config⟩⟩)
    (rejected : ∀ error, config.validate = .error error → change = ⟨[], .failed error⟩) :
    IsInstalled session name config trace (session.install name change) := by
  cases valid : config.validate with
  | ok _ =>
      have result : session.install name change =
          (session.putIssuer name ⟨config⟩, ⟨trace, .done (.config config)⟩) := by
        rw [accepted valid]
        rfl
      refine ⟨?_, fun _ => result, ?_⟩
      · rw [result]
        exact ⟨fun _ => valid, fun _ => ⟨_, rfl⟩⟩
      · intro error refused
        rw [valid] at refused
        contradiction
  | error error =>
      have result : session.install name change = (session, ⟨[], .failed error⟩) := by
        rw [rejected error valid]
        rfl
      refine ⟨?_, ?_, ?_⟩
      · rw [result, valid]
        simp
      · intro accepted
        rw [valid] at accepted
        contradiction
      · intro other refused
        obtain rfl : error = other := by simpa [valid] using refused
        exact ⟨Config.validate_eq_error valid, result⟩

theorem makeIssuer_isInstalled (around : Surroundings) (session : Session) (name : String)
    (config : Config) :
    IsInstalled session name config [] (session.step around (.makeIssuer name config)) := by
  apply install_isInstalled
  · intro valid
    simp [Issuer.make, valid, bind, Except.bind, pure, Except.pure, Build.ofExcept,
      Outcome.ofExcept]
  · intro error refused
    simp [Issuer.make, refused, bind, Except.bind, Build.ofExcept, Outcome.ofExcept]

theorem setConfig_isInstalled (session : Session) (name : String) (issuer : Issuer)
    (config : Config) :
    IsInstalled session name config [.event .replacedConfig]
      (session.install name (issuer.setConfig config)) := by
  apply install_isInstalled
  · intro valid
    rw [Issuer.setConfig, valid]
    rfl
  · intro error refused
    rw [Issuer.setConfig, refused]
    rfl

/-- Only valid configurations are ever held, and they come and go as a whole. -/
theorem replacement_isWhole :
    (∀ steps : List (Surroundings × Command), (empty.after steps).IsSound ∧
      ∀ command config, (empty.after steps).resolver? command = some config → config.IsSound) ∧
      ∀ (around : Surroundings) (session : Session) (name : String) (config : Config),
        IsInstalled session name config [] (session.step around (.makeIssuer name config)) ∧
          ∀ issuer, session.issuers.get? name = some issuer →
            IsInstalled session name config [.event .replacedConfig]
                (session.step around (.setConfig name config)) ∧
              ∀ edit : Config → Config,
                IsInstalled session name (edit issuer.config) [.event .replacedConfig]
                  (session.step around (.updateConfig name fun config => .ok (edit config))) := by
  constructor
  · intro steps
    refine ⟨after_isSound steps, ?_⟩
    intro command config taken
    obtain ⟨name, issuer, present, rfl⟩ := issuer_of_resolver? taken
    exact (after_isSound steps).issuer name issuer present
  · intro around session name config
    refine ⟨makeIssuer_isInstalled around session name config, ?_⟩
    intro issuer present
    constructor
    · rw [step, withIssuer_of_some present]
      exact setConfig_isInstalled session name issuer config
    · intro edit
      rw [step, withIssuer_of_some present]
      exact setConfig_isInstalled session name issuer (edit issuer.config)

def opened : Session := empty.after [(.bare, .makeIssuer "main" .standard)]

theorem replacement_isWhole_opened :
    opened.issuers.get? "main" = some ⟨.standard⟩ ∧
      opened.IsSound ∧
      opened.step .bare (.updateConfig "main" fun config => .ok { config with lifespan := 0 }) =
        (opened, ⟨[], .failed (.config "token_lifespan_seconds must be greater than zero")⟩) ∧
      opened.step .bare (.updateConfig "main" fun config => .ok { config with lifespan := 60 }) =
        (opened.putIssuer "main" ⟨{ Config.standard with lifespan := 60 }⟩,
          ⟨[.event .replacedConfig], .done (.config { Config.standard with lifespan := 60 })⟩) := by
  obtain ⟨sound, replaced⟩ := replacement_isWhole
  have present : opened.issuers.get? "main" = some ⟨.standard⟩ := rfl
  have updated := ((replaced .bare opened "main" .standard).2 _ present).2
  refine ⟨present, (sound _).1, ?_, ?_⟩
  · exact ((updated fun config => { config with lifespan := 0 }).refused _ rfl).2
  · exact (updated fun config => { config with lifespan := 60 }).installed rfl

end Jose.Session
