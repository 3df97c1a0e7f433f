import Jose.Proofs.Origin
import Jose.Proofs.Session.Reads

/-!
The two roles are apart. A stage reads nothing for the other role, and nothing that is configured or
stored for the other role changes what comes out of it.
-/

namespace Jose

section Statement

variable {config : Config} {source elsewhere : KeySource}

theorem Jws.outcome_sign_apart (encryptionKey : KeyConfig) (contentAlgorithm : ContentAlgorithm)
    (same : ∀ location, config.signingKey.place? = some location →
      elsewhere.answer location = source.answer location)
    (claims : Claims) (choices : JwsChoices) :
    (sign { config with encryptionKey, contentAlgorithm } elsewhere claims choices).outcome =
      (sign config source claims choices).outcome := by
  apply outcome_sign_congr rfl rfl
  apply KeyReader.outcome_resolve_congr
  intro location target
  exact same location (KeySpec.target_eq_ok_iff_place?.mp target)

theorem Jwe.outcome_encrypt_apart (signingKey : KeyConfig)
    (signatureAlgorithm : Option SignatureAlgorithm) (unsignedFallback : Bool)
    (same : ∀ location, config.encryptionKey.place? = some location →
      elsewhere.answer location = source.answer location)
    (entropy : Entropy) (payload : Bytes) (isNested : Bool) (choices : JweChoices) :
    (encrypt { config with signingKey, signatureAlgorithm, unsignedFallback } elsewhere entropy
        payload isNested choices).outcome =
      (encrypt config source entropy payload isNested choices).outcome := by
  apply outcome_encrypt_congr rfl
  apply KeyReader.outcome_resolve_congr
  intro location target
  exact same location (KeySpec.target_eq_ok_iff_place?.mp target)

structure Config.KeepsApart (config : Config) (source : KeySource) : Prop where
  signed : ∀ encryptionKey contentAlgorithm elsewhere claims choices,
    (∀ location, config.signingKey.place? = some location →
      elsewhere.answer location = source.answer location) →
    (Jws.sign { config with encryptionKey, contentAlgorithm } elsewhere claims choices).outcome =
      (Jws.sign config source claims choices).outcome
  encrypted : ∀ signingKey signatureAlgorithm unsignedFallback elsewhere entropy payload isNested
    choices, (∀ location, config.encryptionKey.place? = some location →
      elsewhere.answer location = source.answer location) →
    (Jwe.encrypt { config with signingKey, signatureAlgorithm, unsignedFallback } elsewhere entropy
        payload isNested choices).outcome =
      (Jwe.encrypt config source entropy payload isNested choices).outcome

/-- Stages that are called one after the other, by themselves or in a session, read the keys that
they use, each once and in order; and neither role depends on the other. -/
theorem roles_areApart :
    (∀ calls, Build.reads (StageCall.run calls) =
        calls.flatMap fun call => call.2.key.place?.toList) ∧
      (∀ steps session, Build.reads (Session.traceOf (Session.history steps session)) =
        Session.placesOf steps session) ∧
      ∀ (config : Config) source, config.KeepsApart source := by
  refine ⟨StageCall.run_reads, Session.history_reads, ?_⟩
  intro config source
  exact {
    signed := fun encryptionKey contentAlgorithm _ claims choices same =>
      Jws.outcome_sign_apart encryptionKey contentAlgorithm same claims choices
    encrypted := fun signingKey algorithm fallback _ entropy payload isNested choices same =>
      Jwe.outcome_encrypt_apart signingKey algorithm fallback same entropy payload isNested
        choices }

end Statement

section Found

def strandedConfig (available : Bool) : Config :=
  { plainConfig with
    encryptionKey := (KeyConfig.pem "gone.pem").withAvailable available
    contentAlgorithm := .a128gcm }

def signingSource : KeySource := .ofMemory [("sign.pem", Bytes.ofText scalarArmour)]

def signingAround : Surroundings := ⟨⟨0, 0⟩, signingSource, flatEntropy⟩

def wrappingSource : KeySource :=
  .ofMemory [("wrap.json", (Jwk.ofPublicKey none wideKey).toJson.encode)]

theorem roles_areApart_stranded :
    Build.reads (StageCall.run [
        (signingAround, .encrypt (strandedConfig false) [1, 2, 3] false .blank),
        (signingAround, .sign (strandedConfig false) ⟨[("sub", .text "ada")]⟩ .blank),
        (signingAround, .resolveEncryption (strandedConfig true) none)]) =
          ["sign.pem", "gone.pem"] ∧
      (Jws.sign (strandedConfig true) signingSource ⟨[("sub", .text "ada")]⟩ .blank).outcome =
        (Jws.sign plainConfig doubledSource ⟨[("sub", .text "ada")]⟩ .blank).outcome ∧
      (Jwe.encrypt { plainConfig with signingKey := .jwk "gone.json", unsignedFallback := true }
          wrappingSource flatEntropy [1, 2, 3] false .blank).outcome =
        (Jwe.encrypt plainConfig doubledSource flatEntropy [1, 2, 3] false .blank).outcome := by
  obtain ⟨called, _, apart⟩ := roles_areApart
  have kept := apart plainConfig doubledSource
  refine ⟨called _, kept.signed _ _ signingSource _ _ ?_, kept.encrypted _ none true wrappingSource
    _ _ _ _ ?_⟩
  · rintro location ⟨⟩
    rfl
  · rintro location ⟨⟩
    rfl

end Found

end Jose
