import Jose.Proofs.Builder
import Jose.Proofs.Reads
import Jose.Proofs.Session

/-!
What a session reads. A command reads the key that it uses, if it gets to a key at all: a command
that is refused, or that fails in the claims, reads nothing. So what a run of commands reads can be
told from its commands and from the sessions they are given in.
-/

namespace Jose

section Moves

def Move.role? : Move → Option KeyRole
  | .sign | .innerSign | .signLater _ => some .signing
  | .encrypt | .encryptLater _ => some .keyEncryption
  | _ => none

def Builder.key? (builder : Builder) (move : Move) : Option KeyConfig :=
  move.role?.map fun role => builder.config.key role

def Builder.place? (builder : Builder) (move : Move) : Option String :=
  (builder.key? move).bind KeyConfig.place?

variable {around : Surroundings} {move : Move} {progress : Build Progress}

theorem ClaimsBuilder.finish_reads (around : Surroundings) (builder : ClaimsBuilder) :
    (builder.finish around).Reads [] := rfl

theorem ClaimsBuilder.jws_reads (around : Surroundings) (builder : ClaimsBuilder) :
    (builder.jws around).Reads [] := rfl

theorem ClaimsBuilder.jwe_reads (around : Surroundings) (builder : ClaimsBuilder) :
    (builder.jwe around).Reads [] := rfl

theorem Pool.run_reads {locations : List String} (inside : Bool) {job : Job}
    (reads : (job around).Reads locations) : (run inside job around).Reads locations := by
  rw [run_eq]
  exact reads

theorem ClaimsBuilder.move?_reads {builder : ClaimsBuilder}
    (moved : builder.move? around move = some progress) :
    progress.Reads ((Builder.claims builder).place? move).toList := by
  cases move with
  | call call =>
      injection moved with same
      exact same ▸ (Build.reads_ofExcept _).bind fun _ => Build.reads_pure _
  | finish =>
      injection moved with same
      exact same ▸ (builder.finish_reads around).bind fun _ => Build.reads_pure _
  | jws =>
      injection moved with same
      exact same ▸ rfl
  | jwe =>
      injection moved with same
      exact same ▸ rfl
  -- The claims are finished first, which never fails.
  | innerSign =>
      injection moved with same
      subst same
      apply (builder.jws_reads around).after rfl
      exact (JwsBuilder.innerSign_reads around _).bind fun _ => Build.reads_pure _
  | sign =>
      injection moved with same
      subst same
      apply (builder.jws_reads around).after rfl
      exact (Jws.sign_reads _ _ _ _).bind fun _ => Build.reads_pure _
  | encrypt =>
      injection moved with same
      subst same
      apply (builder.jwe_reads around).after rfl
      exact (Jwe.encrypt_reads _ _ _ _ _ _).bind fun _ => Build.reads_pure _
  | _ => contradiction

theorem JwsBuilder.move?_reads {builder : JwsBuilder}
    (moved : builder.move? around move = some progress) :
    progress.Reads ((Builder.jws builder).place? move).toList := by
  have signs : (builder.sign around).Reads builder.config.signingKey.place?.toList :=
    Jws.sign_reads _ _ _ _
  cases move with
  | keyId keyId =>
      injection moved with same
      exact same ▸ rfl
  | algorithm algorithm =>
      injection moved with same
      exact same ▸ rfl
  | innerSign =>
      injection moved with same
      exact same ▸ (builder.innerSign_reads around).bind fun _ => Build.reads_pure _
  | sign =>
      injection moved with same
      exact same ▸ signs.bind fun _ => Build.reads_pure _
  | signLater inside =>
      injection moved with same
      exact same ▸ (Pool.run_reads inside signs).bind fun _ => Build.reads_pure _
  | _ => contradiction

theorem JweBuilder.move?_reads {builder : JweBuilder}
    (moved : builder.move? around move = some progress) :
    progress.Reads ((Builder.jwe builder).place? move).toList := by
  have encrypts : (builder.encrypt around).Reads builder.config.encryptionKey.place?.toList :=
    Jwe.encrypt_reads _ _ _ _ _ _
  cases move with
  | keyId keyId =>
      injection moved with same
      exact same ▸ rfl
  | contentAlgorithm algorithm =>
      injection moved with same
      exact same ▸ rfl
  | encrypt =>
      injection moved with same
      exact same ▸ encrypts.bind fun _ => Build.reads_pure _
  | encryptLater inside =>
      injection moved with same
      exact same ▸ (Pool.run_reads inside encrypts).bind fun _ => Build.reads_pure _
  | _ => contradiction

theorem Builder.move?_reads {builder : Builder}
    (moved : builder.move? around move = some progress) :
    progress.Reads (builder.place? move).toList := by
  cases builder with
  | claims builder => exact builder.move?_reads moved
  | jws builder => exact builder.move?_reads moved
  | jwe builder => exact builder.move?_reads moved

end Moves

namespace Session

def key? (around : Surroundings) (session : Session) : Command → Option KeyConfig
  | .resolveSigning name _ => do
      let issuer ← session.issuers.get? name
      return issuer.config.signingKey
  | .resolveEncryption name _ | .encryptOctets name _ _ _ => do
      let issuer ← session.issuers.get? name
      return issuer.config.encryptionKey
  | .signClaims name claims _ => do
      let issuer ← session.issuers.get? name
      let _ ← (issuer.claims.call around.now (.object claims)).toOption
      return issuer.config.signingKey
  | .move slot _ move => do
      let builder ← session.builders.get? slot
      let _ ← builder.move? around move
      builder.key? move
  | _ => none

def place? (around : Surroundings) (session : Session) (command : Command) : Option String :=
  (session.key? around command).bind KeyConfig.place?

def placesOf : List (Surroundings × Command) → Session → List String
  | [], _ => []
  | (around, command) :: rest, session =>
      (session.place? around command).toList ++ placesOf rest (session.step around command).1

section Steps

variable {around : Surroundings} {session : Session} {locations : List String}

theorem withIssuer_reads {name : String} {next : Issuer → Result}
    (missing : session.issuers.get? name = none → locations = [])
    (reads : ∀ issuer, session.issuers.get? name = some issuer →
      (next issuer).2.Reads locations) :
    (session.withIssuer name next).2.Reads locations := by
  rw [withIssuer]
  split
  · next issuer found => exact reads issuer found
  · next none => exact missing none ▸ Build.reads_pure _

theorem withBuilder_reads {slot : String} {next : Builder → Result}
    (missing : session.builders.get? slot = none → locations = [])
    (reads : ∀ builder, session.builders.get? slot = some builder →
      (next builder).2.Reads locations) :
    (session.withBuilder slot next).2.Reads locations := by
  rw [withBuilder]
  split
  · next builder found => exact reads builder found
  · next none => exact missing none ▸ Build.reads_pure _

theorem withClaims_reads {slot : String} {next : ClaimsBuilder → Result}
    (reads : ∀ builder, (next builder).2.Reads []) :
    (session.withClaims slot next).2.Reads [] := by
  apply withBuilder_reads fun _ => rfl
  intro builder _
  cases builder with
  | claims builder => exact reads builder
  | _ => exact Build.reads_pure _

theorem install_reads (name : String) {change : Build Issuer} (reads : change.Reads []) :
    (session.install name change).2.Reads [] := by
  simp only [install]
  split <;> exact reads

theorem advance_reads (next : String) {progress : Build Progress}
    (reads : progress.Reads locations) : (session.advance next progress).2.Reads locations := by
  simp only [advance]
  split <;> exact reads

theorem setConfig_reads (issuer : Issuer) (config : Config) :
    (issuer.setConfig config).Reads [] :=
  (Build.reads_ofExcept _).bind fun _ => (Build.reads_report _).bind fun _ => Build.reads_pure _

theorem signClaims_reads (issuer : Issuer) (claims : Json) (choices : JwsChoices) :
    (signClaims around issuer claims choices).Reads
      ((issuer.claims.call around.now (.object claims)).toOption.bind fun _ =>
        issuer.config.signingKey.place?).toList := by
  rw [signClaims]
  cases called : issuer.claims.call around.now (.object claims) with
  | error refused => rfl
  | ok builder =>
      apply (Build.reads_ofExcept (.ok builder)).after rfl
      apply (builder.finish_reads around).after rfl
      exact Jws.sign_reads _ _ _ _

/-- One command reads the key that it uses, and nothing else. -/
theorem step_reads (around : Surroundings) (session : Session) (command : Command) :
    (session.step around command).2.Reads (session.place? around command).toList := by
  cases command with
  | makeIssuer name config => exact install_reads name (Build.reads_ofExcept _)
  | setConfig name config =>
      exact withIssuer_reads (fun _ => rfl) fun issuer _ =>
        install_reads name (setConfig_reads issuer config)
  | updateConfig name edit =>
      apply withIssuer_reads fun _ => rfl
      intro issuer _
      cases edited : edit issuer.config with
      | ok config => exact install_reads name (setConfig_reads issuer config)
      | error problem => exact Build.reads_pure _
  | cloneIssuer name copy => exact withIssuer_reads (fun _ => rfl) fun _ _ => rfl
  | config name => exact withIssuer_reads (fun _ => rfl) fun _ _ => rfl
  | spec name role keyId => exact withIssuer_reads (fun _ => rfl) fun _ _ => rfl
  | claims name slot => exact withIssuer_reads (fun _ => rfl) fun _ _ => rfl
  | resolveSigning name keyId =>
      apply withIssuer_reads fun missing => by simp [place?, key?, missing]
      intro issuer found
      simp only [place?, key?, found]
      exact (KeyReader.resolve_reads _ _ .signing keyId issuer.config).bind fun _ =>
        Build.reads_pure _
  | resolveEncryption name keyId =>
      apply withIssuer_reads fun missing => by simp [place?, key?, missing]
      intro issuer found
      simp only [place?, key?, found]
      exact (KeyReader.resolve_reads _ _ .keyEncryption keyId issuer.config).bind fun _ =>
        Build.reads_pure _
  | signClaims name claims choices =>
      apply withIssuer_reads fun missing => by simp [place?, key?, missing]
      intro issuer found
      have place : session.place? around (.signClaims name claims choices) =
          (issuer.claims.call around.now (.object claims)).toOption.bind fun _ =>
            issuer.config.signingKey.place? := by
        simp [place?, key?, found, Option.bind_assoc]
      rw [place]
      exact (signClaims_reads issuer claims choices).bind fun _ => Build.reads_pure _
  | encryptOctets name payload isNested choices =>
      apply withIssuer_reads fun missing => by simp [place?, key?, missing]
      intro issuer found
      simp only [place?, key?, found]
      exact (Jwe.encrypt_reads issuer.config _ _ payload isNested choices).bind fun _ =>
        Build.reads_pure _
  | cloneBuilder slot copy => exact withClaims_reads fun _ => rfl
  | preview slot =>
      exact withClaims_reads fun builder => (builder.finish_reads around).bind fun _ =>
        Build.reads_pure _
  | inspect slot => exact withBuilder_reads (fun _ => rfl) fun _ _ => rfl
  | move slot next move =>
      apply withBuilder_reads fun missing => by simp [place?, key?, missing]
      intro builder found
      have place : session.place? around (.move slot next move) =
          (builder.move? around move).bind fun _ => builder.place? move := by
        simp [place?, key?, found, Builder.place?, Option.bind_assoc]
      rw [place]
      cases moved : builder.move? around move with
      | some progress => exact advance_reads next (Builder.move?_reads moved)
      | none => exact Build.reads_pure _

end Steps

theorem history_reads (steps : List (Surroundings × Command)) (session : Session) :
    Build.reads (traceOf (history steps session)) = placesOf steps session := by
  induction steps generalizing session with
  | nil => rfl
  | cons step rest ih =>
      obtain ⟨around, command⟩ := step
      have first := step_reads around session command
      rw [Build.Reads] at first
      rw [traceOf_history_cons, Build.reads_append, first, ih, placesOf]

end Session

end Jose
