import Jose.Session
import Jose.Proofs.Build
import Jose.Proofs.Members

/-!
What a command can do to a session. It leaves everything in place, it loses a builder, it writes one
issuer, or it fills one slot. What these keep, of all issuers and of all builders, is kept by every
run.
-/

namespace Jose

def Surroundings.bare : Surroundings :=
  ⟨⟨0, 0⟩, .ofMemory [], ⟨fun _ => 0, fun _ => 0, fun _ => 0, fun _ => 0⟩⟩

namespace Command

def issuer? : Command → Option String
  | .makeIssuer name _ | .cloneIssuer _ name | .setConfig name _ | .updateConfig name _ => some name
  | _ => none

def slot? : Command → Option String
  | .cloneBuilder slot _ | .preview slot | .move slot _ _ => some slot
  | _ => none

def target? : Command → Option String
  | .claims _ slot => some slot
  | .cloneBuilder _ copy => some copy
  | .move _ next _ => some next
  | _ => none

end Command

namespace Session

def IsIdle (command : Command) (reply : Build Reply) : Prop :=
  reply.outcome = .done .done → command.target? = none

inductive Effect (around : Surroundings) (session : Session) : Command → Result → Prop
  | kept {command : Command} {reply : Build Reply} : IsIdle command reply →
      Effect around session command (session, reply)
  | lost {command : Command} {slot : String} {reply : Build Reply} : command.slot? = some slot →
      IsIdle command reply → Effect around session command (session.dropBuilder slot, reply)
  | installed {command : Command} {name : String} {config : Config} {trace : List Note} :
      command.issuer? = some name → config.validate = .ok () →
      Effect around session command
        (session.putIssuer name ⟨config⟩, ⟨trace, .done (.config config)⟩)
  | copiedIssuer {name copy : String} {issuer : Issuer} :
      session.issuers.get? name = some issuer →
      Effect around session (.cloneIssuer name copy) (session.putIssuer copy issuer, pure .done)
  | started {name slot : String} {issuer : Issuer} : session.issuers.get? name = some issuer →
      Effect around session (.claims name slot)
        (session.putBuilder slot (.claims issuer.claims), pure .done)
  | copied {slot copy : String} {builder : ClaimsBuilder} :
      session.builders.get? slot = some (.claims builder) →
      Effect around session (.cloneBuilder slot copy)
        (session.putBuilder copy (.claims builder), pure .done)
  | moved {slot next : String} {move : Move} {builder made : Builder} {progress : Build Progress} :
      session.builders.get? slot = some builder → builder.move? around move = some progress →
      progress.outcome = .done (.builder made) →
      Effect around session (.move slot next move)
        ((session.dropBuilder slot).putBuilder next made, ⟨progress.trace, .done .done⟩)

variable {around : Surroundings} {command : Command}

theorem isIdle_refused (refusal : Refusal) : IsIdle command (pure (.refused refusal)) := by
  intro filled
  simp at filled

theorem isIdle_of_target {reply : Build Reply} (none : command.target? = none) :
    IsIdle command reply := fun _ => none

theorem withIssuer_effect (session : Session) (name : String) {next : Issuer → Result}
    (effect : ∀ issuer, session.issuers.get? name = some issuer →
      Effect around session command (next issuer)) :
    Effect around session command (session.withIssuer name next) := by
  cases found : session.issuers.get? name with
  | none =>
      simp only [withIssuer, found]
      exact .kept (isIdle_refused .noIssuer)
  | some issuer =>
      simp only [withIssuer, found]
      exact effect issuer found

theorem withBuilder_effect (session : Session) (slot : String) {next : Builder → Result}
    (effect : ∀ builder, session.builders.get? slot = some builder →
      Effect around session command (next builder)) :
    Effect around session command (session.withBuilder slot next) := by
  cases found : session.builders.get? slot with
  | none =>
      simp only [withBuilder, found]
      exact .kept (isIdle_refused .noBuilder)
  | some builder =>
      simp only [withBuilder, found]
      exact effect builder found

theorem withClaims_effect (session : Session) (slot : String) {next : ClaimsBuilder → Result}
    (takes : command.slot? = some slot)
    (effect : ∀ builder, session.builders.get? slot = some (.claims builder) →
      Effect around session command (next builder)) :
    Effect around session command (session.withClaims slot next) := by
  apply withBuilder_effect
  intro builder found
  cases builder with
  | claims builder => exact effect builder found
  | jws builder => exact .lost takes (isIdle_refused .wrongStage)
  | jwe builder => exact .lost takes (isIdle_refused .wrongStage)

theorem keep_effect (session : Session) {reply : Build Reply} (none : command.target? = none) :
    Effect around session command (session.keep reply) :=
  .kept (isIdle_of_target none)

theorem install_effect (session : Session) (name : String) {change : Build Issuer}
    (names : command.issuer? = some name) (idle : command.target? = none)
    (valid : ∀ issuer, change.outcome = .done issuer → issuer.config.validate = .ok ()) :
    Effect around session command (session.install name change) := by
  cases outcome : change.outcome with
  | done issuer =>
      simp only [install, outcome]
      exact .installed names (valid issuer outcome)
  | failed error =>
      simp only [install, outcome]
      exact .kept (isIdle_of_target idle)
  | crashed =>
      simp only [install, outcome]
      exact .kept (isIdle_of_target idle)

theorem advance_effect (session : Session) {slot next : String} {move : Move} {builder : Builder}
    {progress : Build Progress} (standing : session.builders.get? slot = some builder)
    (moved : builder.move? around move = some progress) :
    Effect around session (.move slot next move)
      ((session.dropBuilder slot).advance next progress) := by
  cases outcome : progress.outcome with
  | done result =>
      cases result with
      | builder made =>
          simp only [advance, outcome]
          exact .moved standing moved outcome
      | claims claims =>
          simp only [advance, outcome]
          exact .lost rfl (by simp [IsIdle])
      | token token =>
          simp only [advance, outcome]
          exact .lost rfl (by simp [IsIdle])
  | failed error =>
      simp only [advance, outcome]
      exact .lost rfl (by simp [IsIdle])
  | crashed =>
      simp only [advance, outcome]
      exact .lost rfl (by simp [IsIdle])

theorem make_validate {config : Config} {issuer : Issuer}
    (made : (Build.ofExcept (Issuer.make config)).outcome = .done issuer) :
    issuer.config.validate = .ok () := by
  rw [Build.outcome_ofExcept_eq_done] at made
  cases valid : config.validate with
  | error refused => simp [Issuer.make, valid, bind, Except.bind] at made
  | ok _ =>
      simp only [Issuer.make, valid, bind, Except.bind, pure, Except.pure] at made
      injection made with same
      exact same ▸ valid

theorem setConfig_validate {config : Config} {issuer next : Issuer}
    (set : (issuer.setConfig config).outcome = .done next) : next.config.validate = .ok () := by
  simp only [Issuer.setConfig, Build.bind_eq_done, Build.outcome_ofExcept_eq_done,
    Build.outcome_report, Build.outcome_pure] at set
  obtain ⟨_, valid, _, _, same⟩ := set
  injection same with same
  exact same ▸ valid

theorem step_effect (around : Surroundings) (session : Session) (command : Command) :
    Effect around session command (session.step around command) := by
  cases command with
  | makeIssuer name config => exact session.install_effect name rfl rfl fun _ => make_validate
  | cloneIssuer name copy => exact session.withIssuer_effect name fun _ found => .copiedIssuer found
  | config name => exact session.withIssuer_effect name fun _ _ => session.keep_effect rfl
  | setConfig name config =>
      exact session.withIssuer_effect name fun _ _ =>
        session.install_effect name rfl rfl fun _ => setConfig_validate
  | updateConfig name edit =>
      apply session.withIssuer_effect name
      intro issuer _
      cases edited : edit issuer.config with
      | ok config => exact session.install_effect name rfl rfl fun _ => setConfig_validate
      | error problem => exact session.keep_effect rfl
  | spec name role keyId => exact session.withIssuer_effect name fun _ _ => session.keep_effect rfl
  | resolveSigning name keyId =>
      exact session.withIssuer_effect name fun _ _ => session.keep_effect rfl
  | resolveEncryption name keyId =>
      exact session.withIssuer_effect name fun _ _ => session.keep_effect rfl
  | signClaims name claims choices =>
      exact session.withIssuer_effect name fun _ _ => session.keep_effect rfl
  | encryptOctets name payload nested choices =>
      exact session.withIssuer_effect name fun _ _ => session.keep_effect rfl
  | claims name slot => exact session.withIssuer_effect name fun _ found => .started found
  | cloneBuilder slot copy => exact session.withClaims_effect slot rfl fun _ found => .copied found
  | preview slot => exact session.withClaims_effect slot rfl fun _ _ => session.keep_effect rfl
  | inspect slot => exact session.withBuilder_effect slot fun _ _ => session.keep_effect rfl
  | move slot next move =>
      apply session.withBuilder_effect slot
      intro builder standing
      cases moved : builder.move? around move with
      | some progress => exact session.advance_effect standing moved
      | none => exact .lost rfl (isIdle_refused .wrongStage)

section Frame

variable {session : Session} {result : Result}

theorem putIssuer_get?_other {name other : String} (apart : some name ≠ some other)
    (issuer : Issuer) :
    (session.putIssuer name issuer).issuers.get? other = session.issuers.get? other :=
  Members.get?_put_other (fun same => apart (congrArg some same.symm)) _ _

theorem putBuilder_get?_other {slot other : String} (apart : some slot ≠ some other)
    (builder : Builder) :
    (session.putBuilder slot builder).builders.get? other = session.builders.get? other :=
  Members.get?_put_other (fun same => apart (congrArg some same.symm)) _ _

theorem dropBuilder_get?_other {slot other : String} (apart : some slot ≠ some other) :
    (session.dropBuilder slot).builders.get? other = session.builders.get? other := by
  rw [dropBuilder, Members.get?_drop, if_neg fun same => apart (congrArg some same.symm)]

theorem Effect.issuer_frame (effect : Effect around session command result) {other : String}
    (apart : command.issuer? ≠ some other) :
    result.1.issuers.get? other = session.issuers.get? other := by
  cases effect with
  | installed names _ => exact putIssuer_get?_other (names ▸ apart) _
  | copiedIssuer _ => exact putIssuer_get?_other apart _
  | _ => rfl

theorem Effect.builder_frame (effect : Effect around session command result) {other : String}
    (taken : command.slot? ≠ some other) (filled : command.target? ≠ some other) :
    result.1.builders.get? other = session.builders.get? other := by
  -- A move may fill the slot that it empties, so neither slot alone would do.
  cases effect with
  | lost takes _ => exact dropBuilder_get?_other (takes ▸ taken)
  | started _ => exact putBuilder_get?_other filled _
  | copied _ => exact putBuilder_get?_other filled _
  | moved _ _ _ =>
      rw [putBuilder_get?_other filled]
      exact dropBuilder_get?_other taken
  | _ => rfl

end Frame

def after (steps : List (Surroundings × Command)) (session : Session) : Session :=
  steps.foldl (fun session step => (session.step step.1 step.2).1) session

theorem after_append (before later : List (Surroundings × Command)) (session : Session) :
    session.after (before ++ later) = (session.after before).after later := by
  simp [after]

section Kept

structure Holds (ofIssuer : Issuer → Prop) (ofBuilder : Builder → Prop) (session : Session) :
    Prop where
  issuer : ∀ name issuer, session.issuers.get? name = some issuer → ofIssuer issuer
  builder : ∀ slot builder, session.builders.get? slot = some builder → ofBuilder builder

structure IsKept (ofIssuer : Issuer → Prop) (ofBuilder : Builder → Prop) : Prop where
  made : ∀ config : Config, config.validate = .ok () → ofIssuer ⟨config⟩
  started : ∀ issuer, ofIssuer issuer → ofBuilder (.claims issuer.claims)
  moved : ∀ around move builder progress made, ofBuilder builder →
    Builder.move? around move builder = some progress → progress.outcome = .done (.builder made) →
    ofBuilder made

variable {ofIssuer : Issuer → Prop} {ofBuilder : Builder → Prop} {session : Session}

theorem Holds.putIssuer (holds : session.Holds ofIssuer ofBuilder) (name : String)
    {issuer : Issuer} (new : ofIssuer issuer) :
    (session.putIssuer name issuer).Holds ofIssuer ofBuilder where
  issuer := by
    intro other found present
    rcases Members.get?_put_cases present with ⟨_, rfl⟩ | ⟨_, before⟩
    · exact new
    · exact holds.issuer other found before
  builder := holds.builder

theorem Holds.putBuilder (holds : session.Holds ofIssuer ofBuilder) (slot : String)
    {builder : Builder} (new : ofBuilder builder) :
    (session.putBuilder slot builder).Holds ofIssuer ofBuilder where
  issuer := holds.issuer
  builder := by
    intro other found present
    rcases Members.get?_put_cases present with ⟨_, rfl⟩ | ⟨_, before⟩
    · exact new
    · exact holds.builder other found before

theorem Holds.dropBuilder (holds : session.Holds ofIssuer ofBuilder) (slot : String) :
    (session.dropBuilder slot).Holds ofIssuer ofBuilder where
  issuer := holds.issuer
  builder := fun other found present => holds.builder other found (Members.get?_of_drop present)

theorem Effect.holds {result : Result} (effect : Effect around session command result)
    (kept : IsKept ofIssuer ofBuilder) (holds : session.Holds ofIssuer ofBuilder) :
    result.1.Holds ofIssuer ofBuilder := by
  cases effect with
  | kept _ => exact holds
  | lost _ _ => exact holds.dropBuilder _
  | installed _ valid => exact holds.putIssuer _ (kept.made _ valid)
  | copiedIssuer found => exact holds.putIssuer _ (holds.issuer _ _ found)
  | started found => exact holds.putBuilder _ (kept.started _ (holds.issuer _ _ found))
  | copied found => exact holds.putBuilder _ (holds.builder _ _ found)
  | moved standing moved done =>
      exact (holds.dropBuilder _).putBuilder _
        (kept.moved _ _ _ _ _ (holds.builder _ _ standing) moved done)

theorem empty_holds : empty.Holds ofIssuer ofBuilder where
  issuer := by simp [empty, Members.get?]
  builder := by simp [empty, Members.get?]

theorem after_holds (kept : IsKept ofIssuer ofBuilder) (steps : List (Surroundings × Command))
    (holds : session.Holds ofIssuer ofBuilder) :
    (session.after steps).Holds ofIssuer ofBuilder := by
  induction steps generalizing session with
  | nil => exact holds
  | cons step rest ih =>
      have next := (session.step_effect step.1 step.2).holds kept holds
      exact ih next

end Kept

end Session

end Jose
