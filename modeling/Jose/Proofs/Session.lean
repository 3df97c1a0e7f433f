import Jose.Session
import Jose.Proofs.Members
import Jose.Proofs.Warning

/-!
Runs of commands. Whatever is done with issuers and builders, in whatever order, the trace warns of
each unsigned token that comes out of it, and of nothing else.
-/

namespace Jose

def Builder.nested? : Builder → Option Token
  | .jwe ⟨_, .nested token, _⟩ => some token
  | _ => none

def Builder.warningsDue (builder : Builder) : Nat := (builder.nested?.map Token.warningsDue).getD 0

def Progress.warningsDue (move : Move) : Progress → Nat
  | .token made => made.warningsDue
  | .builder next =>
      match move with
      | .innerSign => next.warningsDue
      | _ => 0
  | .claims _ => 0

namespace ClaimsBuilder

theorem jws_isQuiet (around : Surroundings) (builder : ClaimsBuilder) :
    (builder.jws around).IsQuiet :=
  (builder.finish_isQuiet around).bind fun _ => Build.isQuiet_pure _

theorem jwe_isQuiet (around : Surroundings) (builder : ClaimsBuilder) :
    (builder.jwe around).IsQuiet :=
  (builder.finish_isQuiet around).bind fun _ => Build.isQuiet_pure _

end ClaimsBuilder

namespace JwsBuilder

theorem sign_isBalanced (around : Surroundings) (builder : JwsBuilder) :
    (builder.sign around).IsBalanced Token.warningsDue :=
  Jws.sign_isBalanced _ _ _ _

theorem innerSign_isBalanced (around : Surroundings) (builder : JwsBuilder) :
    (builder.innerSign around).IsBalanced fun next => Builder.warningsDue (.jwe next) :=
  (builder.sign_isBalanced around).map fun _ => rfl

end JwsBuilder

theorem JweBuilder.encrypt_isBalanced (around : Surroundings) (builder : JweBuilder) :
    (builder.encrypt around).IsBalanced Token.warningsDue :=
  Jwe.encrypt_isBalanced _ _ _ _ _ _

section Moves

variable {around : Surroundings} {move : Move} {progress : Build Progress}

theorem ClaimsBuilder.move?_isBalanced {builder : ClaimsBuilder}
    (moved : builder.move? around move = some progress) :
    progress.IsBalanced (Progress.warningsDue move) := by
  cases move with
  | call call =>
      injection moved with same
      exact same ▸ (Build.isQuiet_ofExcept _).isBalanced.map fun _ => rfl
  | finish =>
      injection moved with same
      exact same ▸ (builder.finish_isQuiet around).isBalanced.map fun _ => rfl
  | jws =>
      injection moved with same
      exact same ▸ (builder.jws_isQuiet around).isBalanced.map fun _ => rfl
  | jwe =>
      injection moved with same
      exact same ▸ (builder.jwe_isQuiet around).isBalanced.map fun _ => rfl
  | innerSign =>
      injection moved with same
      exact same ▸ (builder.jws_isQuiet around).bind_isBalanced fun signing =>
        (signing.innerSign_isBalanced around).map fun _ => rfl
  | sign =>
      injection moved with same
      exact same ▸ (builder.jws_isQuiet around).bind_isBalanced fun signing =>
        (signing.sign_isBalanced around).map fun _ => rfl
  | encrypt =>
      injection moved with same
      exact same ▸ (builder.jwe_isQuiet around).bind_isBalanced fun encryption =>
        (encryption.encrypt_isBalanced around).map fun _ => rfl
  | _ => contradiction

theorem JwsBuilder.move?_isBalanced {builder : JwsBuilder}
    (moved : builder.move? around move = some progress) :
    progress.IsBalanced (Progress.warningsDue move) := by
  cases move with
  | keyId keyId =>
      injection moved with same
      exact same ▸ rfl
  | algorithm algorithm =>
      injection moved with same
      exact same ▸ rfl
  | innerSign =>
      injection moved with same
      exact same ▸ (builder.innerSign_isBalanced around).map fun _ => rfl
  | sign =>
      injection moved with same
      exact same ▸ (builder.sign_isBalanced around).map fun _ => rfl
  | signLater inside =>
      injection moved with same
      exact same ▸ (Pool.run_isBalanced inside (builder.sign_isBalanced around)).map fun _ => rfl
  | _ => contradiction

theorem JweBuilder.move?_isBalanced {builder : JweBuilder}
    (moved : builder.move? around move = some progress) :
    progress.IsBalanced (Progress.warningsDue move) := by
  cases move with
  | keyId keyId =>
      injection moved with same
      exact same ▸ rfl
  | contentAlgorithm algorithm =>
      injection moved with same
      exact same ▸ rfl
  | encrypt =>
      injection moved with same
      exact same ▸ (builder.encrypt_isBalanced around).map fun _ => rfl
  | encryptLater inside =>
      injection moved with same
      exact same ▸ (Pool.run_isBalanced inside (builder.encrypt_isBalanced around)).map fun _ => rfl
  | _ => contradiction

theorem Builder.move?_isBalanced {builder : Builder}
    (moved : builder.move? around move = some progress) :
    progress.IsBalanced (Progress.warningsDue move) := by
  cases builder with
  | claims builder => exact builder.move?_isBalanced moved
  | jws builder => exact builder.move?_isBalanced moved
  | jwe builder => exact builder.move?_isBalanced moved

end Moves

def Reply.warningsDue : Reply → Nat
  | .token made => made.warningsDue
  | _ => 0

namespace Session

/-- The token that a command has produced: the one it answers with, or the signed one that waits
for encryption in the slot it has filled. -/
def produced? (command : Command) (result : Result) : Option Token :=
  match result.2.outcome, command with
  | .done (.token token), _ => some token
  | .done .done, .move _ next .innerSign => (result.1.builders.get? next).bind Builder.nested?
  | _, _ => none

def IsBalanced (command : Command) (result : Result) : Prop :=
  Build.warnings result.2.trace = ((produced? command result).map Token.warningsDue).getD 0

variable {around : Surroundings} {command : Command}

theorem refuse_isBalanced (session : Session) (refusal : Refusal) :
    IsBalanced command (session.refuse refusal) := rfl

theorem withIssuer_isBalanced (session : Session) (name : String) {next : Issuer → Result}
    (balanced : ∀ issuer, IsBalanced command (next issuer)) :
    IsBalanced command (session.withIssuer name next) := by
  rw [withIssuer]
  split
  · exact balanced _
  · exact refuse_isBalanced session .noIssuer

theorem withBuilder_isBalanced (session : Session) (slot : String) {next : Builder → Result}
    (balanced : ∀ builder, IsBalanced command (next builder)) :
    IsBalanced command (session.withBuilder slot next) := by
  rw [withBuilder]
  split
  · exact balanced _
  · exact refuse_isBalanced session .noBuilder

theorem withClaims_isBalanced (session : Session) (slot : String) {next : ClaimsBuilder → Result}
    (balanced : ∀ builder, IsBalanced command (next builder)) :
    IsBalanced command (session.withClaims slot next) := by
  apply withBuilder_isBalanced
  intro builder
  cases builder with
  | claims builder => exact balanced builder
  | _ => exact refuse_isBalanced _ .wrongStage

theorem keep_isBalanced (session : Session) {reply : Build Reply}
    (still : ∀ slot next, command ≠ .move slot next .innerSign)
    (balanced : reply.IsBalanced Reply.warningsDue) :
    IsBalanced command (session.keep reply) := by
  rw [IsBalanced, keep, balanced]
  cases outcome : reply.outcome with
  | done answer =>
      cases answer with
      | done =>
          cases command with
          | move slot next move =>
              cases move with
              | innerSign => exact absurd rfl (still slot next)
              | _ => simp [produced?, outcome, Reply.warningsDue]
          | _ => simp [produced?, outcome, Reply.warningsDue]
      | _ => simp [produced?, outcome, Reply.warningsDue]
  | failed error => simp [produced?, outcome]
  | crashed => simp [produced?, outcome]

theorem install_isBalanced (session : Session) (name : String) {change : Build Issuer}
    (quiet : change.IsQuiet) : IsBalanced command (session.install name change) := by
  simp only [install]
  split <;> exact quiet

/-- What a move gives is in its answer or in the slot that it fills. -/
theorem advance_isBalanced (session : Session) (slot next : String) {move : Move}
    {progress : Build Progress} (balanced : progress.IsBalanced (Progress.warningsDue move)) :
    IsBalanced (.move slot next move) (session.advance next progress) := by
  simp only [Build.IsBalanced] at balanced
  cases outcome : progress.outcome with
  | done result =>
      simp only [outcome] at balanced
      cases result with
      | builder builder =>
          simp only [IsBalanced, advance, outcome, balanced]
          cases move <;> simp [produced?, Progress.warningsDue, putBuilder, Builder.warningsDue]
      | claims claims =>
          simp [IsBalanced, advance, outcome, balanced, produced?, Progress.warningsDue]
      | token token =>
          simp [IsBalanced, advance, outcome, balanced, produced?, Progress.warningsDue]
  | failed error => simpa [IsBalanced, advance, outcome, produced?] using balanced
  | crashed => simpa [IsBalanced, advance, outcome, produced?] using balanced

theorem signClaims_isBalanced (issuer : Issuer) (claims : Json) (choices : JwsChoices) :
    (signClaims around issuer claims choices).IsBalanced Token.warningsDue :=
  (Build.isQuiet_ofExcept _).bind_isBalanced fun builder =>
    (builder.finish_isQuiet around).bind_isBalanced fun finished =>
      Jws.sign_isBalanced _ _ finished choices

theorem setConfig_isQuiet (issuer : Issuer) (config : Config) :
    (issuer.setConfig config).IsQuiet :=
  (Build.isQuiet_ofExcept _).bind fun _ =>
    (Build.isQuiet_report (by simp)).bind fun _ => Build.isQuiet_pure _

/-- One command warns of what it produces. -/
theorem step_isBalanced (around : Surroundings) (session : Session) (command : Command) :
    IsBalanced command (session.step around command) := by
  cases command with
  | makeIssuer name config => exact session.install_isBalanced name (Build.isQuiet_ofExcept _)
  | cloneIssuer name copy => exact session.withIssuer_isBalanced name fun issuer => rfl
  | config name => exact session.withIssuer_isBalanced name fun issuer => rfl
  | setConfig name config =>
      exact session.withIssuer_isBalanced name fun issuer =>
        session.install_isBalanced name (setConfig_isQuiet issuer config)
  | updateConfig name edit =>
      apply session.withIssuer_isBalanced name
      intro issuer
      cases edited : edit issuer.config with
      | ok config =>
          exact session.install_isBalanced name (setConfig_isQuiet issuer config)
      | error problem =>
          exact session.refuse_isBalanced (.edit problem)
  | spec name role keyId => exact session.withIssuer_isBalanced name fun issuer => rfl
  | resolveSigning name keyId =>
      exact session.withIssuer_isBalanced name fun issuer =>
        session.keep_isBalanced (by simp)
          ((KeyReader.resolve_isQuiet _ _ _).isBalanced.map fun _ => rfl)
  | resolveEncryption name keyId =>
      exact session.withIssuer_isBalanced name fun issuer =>
        session.keep_isBalanced (by simp)
          ((KeyReader.resolve_isQuiet _ _ _).isBalanced.map fun _ => rfl)
  | signClaims name claims choices =>
      exact session.withIssuer_isBalanced name fun issuer =>
        session.keep_isBalanced (by simp)
          ((signClaims_isBalanced issuer claims choices).map fun _ => rfl)
  | encryptOctets name payload nested choices =>
      exact session.withIssuer_isBalanced name fun issuer =>
        session.keep_isBalanced (by simp)
          ((Jwe.encrypt_isBalanced _ _ _ payload nested choices).map fun _ => rfl)
  | claims name slot => exact session.withIssuer_isBalanced name fun issuer => rfl
  | cloneBuilder slot copy => exact session.withClaims_isBalanced slot fun builder => rfl
  | preview slot =>
      exact session.withClaims_isBalanced slot fun builder =>
        session.keep_isBalanced (by simp)
          ((builder.finish_isQuiet around).isBalanced.map fun _ => rfl)
  | inspect slot => exact session.withBuilder_isBalanced slot fun builder => rfl
  | move slot next move =>
      apply session.withBuilder_isBalanced slot
      intro builder
      cases moved : builder.move? around move with
      | some progress =>
          exact advance_isBalanced _ slot next (Builder.move?_isBalanced moved)
      | none =>
          exact refuse_isBalanced _ .wrongStage

def history : List (Surroundings × Command) → Session → List (Command × Result)
  | [], _ => []
  | (around, command) :: rest, session =>
      let result := session.step around command
      (command, result) :: history rest result.1

def traceOf (history : List (Command × Result)) : List Note :=
  history.flatMap fun entry => entry.2.2.trace

def tokensOf (history : List (Command × Result)) : List Token :=
  history.filterMap fun entry => produced? entry.1 entry.2

theorem traceOf_history_cons (around : Surroundings) (command : Command)
    (rest : List (Surroundings × Command)) (session : Session) :
    traceOf (history ((around, command) :: rest) session) =
      (session.step around command).2.trace ++
        traceOf (history rest (session.step around command).1) := rfl

/-- A run warns as often as it produces an unsigned token. -/
theorem history_warnings (steps : List (Surroundings × Command)) (session : Session) :
    Build.warnings (traceOf (history steps session)) =
      (tokensOf (history steps session)).countP Token.isUnsigned := by
  induction steps generalizing session with
  | nil => rfl
  | cons step rest ih =>
      obtain ⟨around, command⟩ := step
      have first := step_isBalanced around session command
      have later := ih (session.step around command).1
      rw [IsBalanced] at first
      rw [traceOf_history_cons, Build.warnings_append, first, later, history]
      cases produced : produced? command (session.step around command) with
      | none => simp [tokensOf, produced]
      | some token =>
          simp [tokensOf, produced, List.countP_cons, Token.warningsDue, Nat.add_comm]

end Session

end Jose
