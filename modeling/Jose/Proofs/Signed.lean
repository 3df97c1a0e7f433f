import Jose.Proofs.Jws

/-!
What is signed once there is a key. The algorithm is settled by the caller, else by the
configuration, else by the key; the signature is made with it or not at all, and the header names
it.
-/

namespace Jose

def Token.IsSignedBy (key : SigningKey) (algorithm : SignatureAlgorithm) (token : Token) : Prop :=
  ∃ first second third octets, token.segments = [first, second, third] ∧
    Base64.decodeUrl third = .ok octets ∧
    key.sign algorithm (Bytes.ofText (first ++ "." ++ second)) = .ok octets

namespace Jws

def keyHeader (config : Config) (choices : JwsChoices) (key : SigningKey) : JwsHeader :=
  header choices (some ⟨key, algorithmFor config choices key⟩)

def assemble (header : JwsHeader) (claims : Claims) (octets : Bytes) : Token :=
  .ofSegments ((contents header claims octets).map Base64.encodeUrl)

theorem header?_assemble (header : JwsHeader) (claims : Claims) (octets : Bytes) :
    (assemble header claims octets).header? = some header :=
  Token.header?_ofSegments _ _

theorem isSignedBy_assemble {key : SigningKey} {algorithm : SignatureAlgorithm}
    {header : JwsHeader} {claims : Claims} {octets : Bytes}
    (signed : key.sign algorithm (signingInput header claims) = .ok octets) :
    (assemble header claims octets).IsSignedBy key algorithm := by
  rw [signingInput_eq] at signed
  exact ⟨_, _, _, octets, Token.segments_ofSegments (by simp [contents]),
    Base64.decodeUrl_encodeUrl octets, signed⟩

variable {config : Config} {source : KeySource} {choices : JwsChoices} {key : SigningKey}

/-- With a key, signing ends the way that the key's own signing ends. -/
theorem outcome_sign_of_key
    (resolved : (config.resolveSigning source choices.keyId).outcome = .done (.key key))
    (claims : Claims) :
    (sign config source claims choices).outcome =
      .ofExcept ((key.sign (algorithmFor config choices key)
        (signingInput (keyHeader config choices key) claims)).map
          (assemble (keyHeader config choices key) claims)) := by
  have signer : Build.ofExcept (signer? config choices (.key key)) =
      pure (some ⟨key, algorithmFor config choices key⟩) := rfl
  rw [sign, Build.bind_of_done resolved, keyHeader]
  simp only [signer, Build.pure_bind, signature]
  cases key.sign (algorithmFor config choices key)
      (signingInput (header choices (some ⟨key, algorithmFor config choices key⟩)) claims) with
  | error refused => rfl
  | ok octets => rfl

theorem sign_of_key_eq_done_iff
    (resolved : (config.resolveSigning source choices.keyId).outcome = .done (.key key))
    {claims : Claims} {token : Token} :
    (sign config source claims choices).outcome = .done token ↔
      ∃ octets, key.sign (algorithmFor config choices key)
          (signingInput (keyHeader config choices key) claims) = .ok octets ∧
        assemble (keyHeader config choices key) claims octets = token := by
  rw [outcome_sign_of_key resolved]
  cases key.sign (algorithmFor config choices key)
      (signingInput (keyHeader config choices key) claims) <;>
    simp [Except.map, Outcome.ofExcept]

theorem sign_of_key_eq_failed_iff
    (resolved : (config.resolveSigning source choices.keyId).outcome = .done (.key key))
    {claims : Claims} {error : BuildError} :
    (sign config source claims choices).outcome = .failed error ↔
      key.sign (algorithmFor config choices key)
        (signingInput (keyHeader config choices key) claims) = .error error := by
  rw [outcome_sign_of_key resolved]
  cases key.sign (algorithmFor config choices key)
      (signingInput (keyHeader config choices key) claims) <;>
    simp [Except.map, Outcome.ofExcept]

theorem resolved_of_sign {claims : Claims} {token : Token}
    (signed : (sign config source claims choices).outcome = .done token)
    (made : token.isUnsigned = false) :
    ∃ key, (config.resolveSigning source choices.keyId).outcome = .done (.key key) := by
  obtain ⟨resolution, signer, octets, resolved, chosen, _, rfl⟩ := sign_eq_done_iff.mp signed
  cases signer with
  | none =>
      rw [isUnsigned_contents] at made
      contradiction
  | some signer =>
      obtain ⟨key, rfl, _⟩ := signer?_eq_some_iff.mp chosen
      exact ⟨key, resolved⟩

end Jws

section Statement

structure SigningKey.IsBoundTo (algorithm : SignatureAlgorithm) (key : SigningKey) : Prop where
  unsupported : ∀ input, (∃ text, key.sign algorithm input = .error (.unsupportedAlgorithm text)) ↔
    key.supports algorithm = false
  shortSecret : ∀ input, (∃ text, key.sign algorithm input = .error (.invalidKey text)) ↔
    key.HasShortSecret algorithm
  reached : key.supports algorithm = true → ¬ key.HasShortSecret algorithm →
    ∃ primitive, key.Reaches algorithm primitive ∧
      ∀ input, key.sign algorithm input = (primitive.run input).mapError .signing
  -- An algorithm of the key's family is never left over for the last arm, nor is any but one for
  -- the hash that the table gives by default.
  ownArm : key.supports algorithm = true → ∀ input text,
    key.dispatch algorithm input ≠ .error (.unsupportedAlgorithm text)
  ownHash : ∀ secret, key = .hmac secret → key.supports algorithm = true →
    algorithm ≠ .hs384 → algorithm ≠ .hs512 → algorithm = .hs256

structure Jws.Binds (config : Config) (source : KeySource) (claims : Claims)
    (choices : JwsChoices) (key : SigningKey) : Prop where
  asked : ∀ algorithm, choices.algorithm = some algorithm →
    algorithmFor config choices key = algorithm
  configured : ∀ algorithm, choices.algorithm = none →
    config.signatureAlgorithm = some algorithm → algorithmFor config choices key = algorithm
  natural : choices.algorithm = none → config.signatureAlgorithm = none →
    algorithmFor config choices key = key.naturalAlgorithm
  unsupported :
    (∃ text, (sign config source claims choices).outcome =
        .failed (.unsupportedAlgorithm text)) ↔
      key.supports (algorithmFor config choices key) = false
  shortSecret :
    (∃ text, (sign config source claims choices).outcome = .failed (.invalidKey text)) ↔
      key.HasShortSecret (algorithmFor config choices key)
  reached : key.supports (algorithmFor config choices key) = true →
    ¬ key.HasShortSecret (algorithmFor config choices key) →
    ∃ primitive, key.Reaches (algorithmFor config choices key) primitive ∧
      (sign config source claims choices).outcome =
        .ofExcept (((primitive.run (signingInput (keyHeader config choices key) claims)).mapError
          .signing).map (assemble (keyHeader config choices key) claims))
  signed : ∀ token, (sign config source claims choices).outcome = .done token →
    ∃ primitive, key.Reaches (algorithmFor config choices key) primitive ∧
      token.header? = some ⟨(algorithmFor config choices key).name, tokenType, choices.keyId⟩ ∧
      ∃ first second third octets, token.segments = [first, second, third] ∧
        Base64.decodeUrl third = .ok octets ∧
        primitive.run (Bytes.ofText (first ++ "." ++ second)) = .ok octets

theorem SigningKey.isBoundTo (algorithm : SignatureAlgorithm) (key : SigningKey) :
    key.IsBoundTo algorithm where
  unsupported input := sign_unsupported_iff
  shortSecret input := sign_invalidKey_iff
  reached fits long := by
    obtain ⟨primitive, reaches⟩ := exists_reaches fits long
    exact ⟨primitive, reaches, reaches.sign_eq⟩
  ownArm fits input text leftOver := by
    have refused : key.sign algorithm input = .error (.unsupportedAlgorithm text) := by
      rw [sign, if_pos fits, leftOver]
    rw [sign_unsupported_iff.mp ⟨text, refused⟩] at fits
    contradiction
  ownHash := by
    rintro secret rfl
    exact eq_hs256_of_supports

theorem Jws.binds {config : Config} {source : KeySource} {choices : JwsChoices} {key : SigningKey}
    (resolved : (config.resolveSigning source choices.keyId).outcome = .done (.key key))
    (claims : Claims) : Binds config source claims choices key where
  asked algorithm asked := by simp [algorithmFor, asked]
  configured algorithm silent configured := by simp [algorithmFor, silent, configured]
  natural silent unset := by simp [algorithmFor, silent, unset]
  unsupported := by
    simp only [sign_of_key_eq_failed_iff resolved]
    exact SigningKey.sign_unsupported_iff
  shortSecret := by
    simp only [sign_of_key_eq_failed_iff resolved]
    exact SigningKey.sign_invalidKey_iff
  reached fits long := by
    obtain ⟨primitive, reaches⟩ := SigningKey.exists_reaches fits long
    exact ⟨primitive, reaches, by rw [outcome_sign_of_key resolved, reaches.sign_eq]⟩
  signed token made := by
    obtain ⟨octets, signed, rfl⟩ := (sign_of_key_eq_done_iff resolved).mp made
    obtain ⟨primitive, reaches⟩ := SigningKey.reaches_of_sign signed
    obtain ⟨first, second, third, octets, segments, decoded, run⟩ := isSignedBy_assemble signed
    rw [reaches.sign_eq, mapError_eq_ok_iff] at run
    exact ⟨primitive, reaches, header?_assemble _ _ _, first, second, third, octets, segments,
      decoded, run⟩

/-- The algorithm that is settled on is the one that signs and the one that the header names. -/
theorem algorithm_isBound :
    (∀ (key : SigningKey) algorithm, key.IsBoundTo algorithm) ∧
      (∀ key : SigningKey, key.supports key.naturalAlgorithm = true) ∧
      ∀ (config : Config) source claims (choices : JwsChoices) key,
        (config.resolveSigning source choices.keyId).outcome = .done (.key key) →
        Jws.Binds config source claims choices key := by
  refine ⟨fun key algorithm => key.isBoundTo algorithm, SigningKey.supports_naturalAlgorithm, ?_⟩
  intro config source claims choices key resolved
  exact Jws.binds resolved claims

end Statement

section Found

theorem algorithm_isBound_storedSecret :
    (Jws.secretConfig.resolveSigning Jws.storedSecret (some "k")).outcome =
        .done (.key (.hmac (List.replicate 32 7))) ∧
      (∃ octets, (Jws.sign Jws.secretConfig Jws.storedSecret ⟨[("sub", .text "ada")]⟩
          ⟨some "k", none⟩).outcome =
        .done (Jws.assemble ⟨"HS256", "JWT", some "k"⟩ ⟨[("sub", .text "ada")]⟩ octets)) ∧
      (∃ text, (Jws.sign Jws.secretConfig Jws.storedSecret ⟨[("sub", .text "ada")]⟩
          ⟨some "k", some .hs384⟩).outcome = .failed (.invalidKey text)) ∧
      (∃ text, (Jws.sign Jws.secretConfig Jws.storedSecret ⟨[("sub", .text "ada")]⟩
          ⟨some "k", some .es256⟩).outcome = .failed (.unsupportedAlgorithm text)) ∧
      ∀ input, (SigningKey.rsa ⟨35, 5, 5, 5, 7⟩).sign .rs384 input =
        ((SigningKey.Primitive.rsa ⟨35, 5, 5, 5, 7⟩ .sha384).run input).mapError .signing := by
  obtain ⟨bound, _, binds⟩ := algorithm_isBound
  have resolved := Jws.storedSecret_resolved
  have plain := binds _ _ ⟨[("sub", .text "ada")]⟩ ⟨some "k", none⟩ _ resolved
  have short := binds _ _ ⟨[("sub", .text "ada")]⟩ ⟨some "k", some .hs384⟩ _ resolved
  have foreign := binds _ _ ⟨[("sub", .text "ada")]⟩ ⟨some "k", some .es256⟩ _ resolved
  refine ⟨resolved, ?_, short.shortSecret.mpr ?_, foreign.unsupported.mpr rfl, ?_⟩
  · have long : SigningKey.Reaches (.hmac (List.replicate 32 7)) .hs256 _ := .hs256 (by decide)
    obtain ⟨primitive, reaches, signed⟩ := plain.reached rfl long.not_hasShortSecret
    cases reaches
    exact ⟨_, signed⟩
  · exact .hs384 (by decide)
  · obtain ⟨primitive, reaches, same⟩ :=
      (bound (.rsa ⟨35, 5, 5, 5, 7⟩) .rs384).reached rfl (by rintro ⟨⟩)
    cases reaches
    exact same

end Found

end Jose
