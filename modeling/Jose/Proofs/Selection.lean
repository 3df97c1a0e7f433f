import Jose.Proofs.Origin
import Jose.Proofs.Signed

/-!
What a key id does. A role whose keys are in a set uses the first key with the id that is asked for,
or else configured, and no other; so a token with an id in its header was made with a key that has
this id, whatever other keys the set has.
-/

namespace Jose

def Token.jweHeader? (token : Token) : Option JweHeader := do
  let octets ← token.protectedOctets?
  (JweHeader.record.ofBytes octets).toOption

def Token.IsWrappedFor (key : EncryptionKey) (entropy : Entropy) (header : JweHeader)
    (token : Token) : Prop :=
  ∃ first second rest wrapped, token.segments = first :: second :: rest ∧
    Base64.decodeUrl second = .ok wrapped ∧
    Jwe.wrap key (entropy.seed.take Rsa.hashLength) (Jwe.contentKey entropy header) = .ok wrapped

structure JwkSet.Picks {κ : Type} (set : JwkSet) (wanted : Option String)
    (convert : Jwk → Except BuildError κ) (outcome : Outcome (Resolution κ)) : Prop where
  first : ∀ keyId key, wanted = some keyId → IsFirst keyId set.keys key →
    outcome = .ofExcept ((convert key).map .key)
  missing : ∀ keyId, wanted = some keyId → (∀ key ∈ set.keys, key.kid ≠ some keyId) →
    outcome = .failed (.keyNotFound keyId)
  only : ∀ key, wanted = none → set.keys = [key] → outcome = .ofExcept ((convert key).map .key)
  unclear : wanted = none → set.keys.length ≠ 1 → ∃ error, outcome = .failed error

namespace KeyReader

variable {κ : Type} {reader : KeyReader κ} {source elsewhere : KeySource} {config : Config}
  {requested : Option String}

theorem picks (reader : KeyReader κ) (role : KeyRole) {set : JwkSet}
    (holds : (config.key role).HoldsSet source set) :
    set.Picks (requested.or (config.key role).keyId) reader.ofJwk
      (reader.resolve source (.ofConfig role requested config)).outcome := by
  rw [outcome_resolve_jwk holds]
  exact {
    first := by
      intro keyId key wanted first
      rw [wanted, JwkSet.select_eq_ok_iff.mpr first]
      rfl
    missing := by
      intro keyId wanted unmatched
      rw [wanted, JwkSet.select_unmatched unmatched]
      rfl
    only := by
      intro key wanted only
      rw [wanted, JwkSet.select_only only]
      rfl
    unclear := by
      intro wanted unclear
      obtain ⟨error, refused⟩ := JwkSet.select_unclear unclear
      rw [wanted, refused]
      exact ⟨error, rfl⟩ }

theorem outcome_resolve_edited (role : KeyRole) {left right : JwkSet} {keyId : String}
    (here : (config.key role).HoldsSet source left)
    (there : (config.key role).HoldsSet elsewhere right)
    (wanted : requested.or (config.key role).keyId = some keyId)
    (edits : Relation.ReflTransGen (JwkSet.Edit keyId) left.keys right.keys) :
    (reader.resolve elsewhere (.ofConfig role requested config)).outcome =
      (reader.resolve source (.ofConfig role requested config)).outcome := by
  rw [outcome_resolve_jwk here, outcome_resolve_jwk there, wanted, JwkSet.select_edited edits]

end KeyReader

namespace Jws

variable {config : Config} {source : KeySource} {claims : Claims} {choices : JwsChoices}
  {token : Token}

/-- The id in the header of a signed token is that of the key that has signed it. -/
theorem sign_isNamed (format : config.signingKey.format = .jwk)
    (signed : (sign config source claims choices).outcome = .done token)
    (made : token.isUnsigned = false) :
    ∃ header, token.header? = some header ∧ ∀ keyId, header.kid = some keyId →
      ∃ set key signing algorithm, config.signingKey.HoldsSet source set ∧ key ∈ set.keys ∧
        key.kid = some keyId ∧ key.toSigningKey = .ok signing ∧
        header.alg = SignatureAlgorithm.name algorithm ∧ token.IsSignedBy signing algorithm := by
  obtain ⟨signing, resolved⟩ := resolved_of_sign signed made
  obtain ⟨octets, answer, rfl⟩ := (sign_of_key_eq_done_iff resolved).mp signed
  refine ⟨keyHeader config choices signing, header?_assemble _ _ _, ?_⟩
  intro keyId named
  -- The id in the header is the caller's, and the caller's id wins over the configured one.
  have asked : choices.keyId = some keyId := named
  have wanted : choices.keyId.or config.signingKey.keyId = some keyId := by simp [asked]
  obtain ⟨set, key, holds, first, converted⟩ :=
    KeyReader.resolve_named .signing format wanted resolved
  exact ⟨set, key, signing, algorithmFor config choices signing, holds, first.mem, first.1,
    converted, rfl, isSignedBy_assemble answer⟩

end Jws

namespace Jwe

variable {config : Config} {source : KeySource} {entropy : Entropy} {payload : Bytes}
  {isNested : Bool} {choices : JweChoices} {token : Token}

/-- The id in the header of an encrypted token is that of the key it is encrypted for. -/
theorem encrypt_isNamed (format : config.encryptionKey.format = .jwk)
    (encrypted : (encrypt config source entropy payload isNested choices).outcome = .done token) :
    ∃ made, token.jweHeader? = some made ∧ ∀ keyId, made.kid = some keyId →
      ∃ set key encryption, config.encryptionKey.HoldsSet source set ∧ key ∈ set.keys ∧
        key.kid = some keyId ∧ key.toEncryptionKey = .ok encryption ∧
        token.IsWrappedFor encryption entropy made := by
  obtain ⟨encryption, wrapped, content, resolved, wraps, _, rfl⟩ :=
    encrypt_eq_done_iff.mp encrypted
  refine ⟨header config choices isNested encryption, ?_, ?_⟩
  · rw [Token.jweHeader?, contents, Token.protectedOctets?_ofSegments]
    simp [JweHeader.ofBytes_toJson, Except.toOption]
  · intro keyId named
    have asked : choices.keyId = some keyId := named
    have wanted : choices.keyId.or config.encryptionKey.keyId = some keyId := by simp [asked]
    obtain ⟨set, key, holds, first, converted⟩ :=
      KeyReader.resolve_named .keyEncryption format wanted resolved
    exact ⟨set, key, encryption, holds, first.mem, first.1, converted, _, _, _, wrapped,
      Token.segments_ofSegments (by simp [contents]), Base64.decodeUrl_encodeUrl wrapped, wraps⟩

end Jwe

section Statement

structure Config.UsesNamed (config : Config) (source : KeySource) : Prop where
  signing : ∀ set requested, config.signingKey.HoldsSet source set →
    set.Picks (requested.or config.signingKey.keyId) Jwk.toSigningKey
      (config.resolveSigning source requested).outcome
  encryption : ∀ set requested, config.encryptionKey.HoldsSet source set →
    set.Picks (requested.or config.encryptionKey.keyId) Jwk.toEncryptionKey
      (config.resolveEncryption source requested).outcome
  signed : ∀ claims choices token, config.signingKey.format = .jwk →
    (Jws.sign config source claims choices).outcome = .done token → token.isUnsigned = false →
    ∃ header, token.header? = some header ∧ ∀ keyId, header.kid = some keyId →
      ∃ set key signing algorithm, config.signingKey.HoldsSet source set ∧ key ∈ set.keys ∧
        key.kid = some keyId ∧ key.toSigningKey = .ok signing ∧
        header.alg = SignatureAlgorithm.name algorithm ∧ token.IsSignedBy signing algorithm
  encrypted : ∀ entropy payload isNested choices token, config.encryptionKey.format = .jwk →
    (Jwe.encrypt config source entropy payload isNested choices).outcome = .done token →
    ∃ header, token.jweHeader? = some header ∧ ∀ keyId, header.kid = some keyId →
      ∃ set key encryption, config.encryptionKey.HoldsSet source set ∧ key ∈ set.keys ∧
        key.kid = some keyId ∧ key.toEncryptionKey = .ok encryption ∧
        token.IsWrappedFor encryption entropy header
  editedSigning : ∀ elsewhere left right requested keyId,
    config.signingKey.HoldsSet source left → config.signingKey.HoldsSet elsewhere right →
    requested.or config.signingKey.keyId = some keyId →
    Relation.ReflTransGen (JwkSet.Edit keyId) left.keys right.keys →
    (config.resolveSigning elsewhere requested).outcome =
      (config.resolveSigning source requested).outcome
  editedEncryption : ∀ elsewhere left right requested keyId,
    config.encryptionKey.HoldsSet source left → config.encryptionKey.HoldsSet elsewhere right →
    requested.or config.encryptionKey.keyId = some keyId →
    Relation.ReflTransGen (JwkSet.Edit keyId) left.keys right.keys →
    (config.resolveEncryption elsewhere requested).outcome =
      (config.resolveEncryption source requested).outcome

/-- For either role the id that the caller asks for goes before the configured one and picks the
first key with this id, wherever that stands in the set; without an id there has to be a single key.
A header names no key that is not there. -/
theorem Config.usesNamed (config : Config) (source : KeySource) : config.UsesNamed source where
  signing _ _ holds := KeyReader.signing.picks .signing holds
  encryption _ _ holds := KeyReader.encryption.picks .keyEncryption holds
  signed _ _ _ := Jws.sign_isNamed
  encrypted _ _ _ _ _ := Jwe.encrypt_isNamed
  editedSigning _ _ _ _ _ := KeyReader.outcome_resolve_edited .signing
  editedEncryption _ _ _ _ _ := KeyReader.outcome_resolve_edited .keyEncryption

end Statement

section Found

def secretJwk : Jwk := .ofSecret (some "k") (List.replicate 32 7)

def brokenJwk : Jwk := { Jwk.blank "EC" with kid := some "broken", crv := some "P-000" }

def crowdedSet : JwkSet := ⟨[brokenJwk, secretJwk, .ofSecret (some "k") [1, 2, 3]]⟩

def crowdedSource : KeySource := .ofMemory [("secret", crowdedSet.toJson.encode)]

theorem storedSecret_holds : Jws.secretConfig.signingKey.HoldsSet Jws.storedSecret ⟨[secretJwk]⟩ :=
  ⟨rfl, rfl, "secret", _, rfl, rfl, Jwk.ofBytes_ofSecret (some "k") (List.replicate 32 7)⟩

theorem crowdedSource_holds : Jws.secretConfig.signingKey.HoldsSet crowdedSource crowdedSet :=
  ⟨rfl, rfl, "secret", _, rfl, rfl, by decide +kernel⟩

theorem crowdedSet_edits :
    Relation.ReflTransGen (JwkSet.Edit "k") [secretJwk] crowdedSet.keys := by
  have crowded : JwkSet.Edit "k" [secretJwk] [brokenJwk, secretJwk] :=
    .added [] [secretJwk] (by decide)
  have inside : secretJwk ∈ [brokenJwk, secretJwk] := by simp
  exact .tail (.single crowded) (.repeated [brokenJwk, secretJwk] [] inside rfl rfl)

theorem Config.usesNamed_storedSecret :
    (Jws.secretConfig.resolveSigning Jws.storedSecret (some "other")).outcome =
        .failed (.keyNotFound "other") ∧
      (Jws.secretConfig.resolveSigning crowdedSource none).outcome ≠
        (Jws.secretConfig.resolveSigning Jws.storedSecret none).outcome ∧
      (Jws.secretConfig.resolveSigning crowdedSource (some "k")).outcome =
        (Jws.secretConfig.resolveSigning Jws.storedSecret (some "k")).outcome ∧
      (∃ token, (Jws.sign Jws.secretConfig Jws.storedSecret ⟨[("sub", .text "ada")]⟩
          ⟨some "k", none⟩).outcome = .done token ∧
        ∃ set key signing algorithm, Jws.secretConfig.signingKey.HoldsSet Jws.storedSecret set ∧
          key ∈ set.keys ∧ key.kid = some "k" ∧ key.toSigningKey = .ok signing ∧
          token.IsSignedBy signing algorithm) ∧
      ∃ token, (Jwe.encrypt pickingConfig doubledSource flatEntropy [1, 2, 3] false
          ⟨some "wide", none⟩).outcome = .done token ∧
        ∃ header set key encryption, pickingConfig.encryptionKey.HoldsSet doubledSource set ∧
          key ∈ set.keys ∧ key.kid = some "wide" ∧ key.toEncryptionKey = .ok encryption ∧
          token.IsWrappedFor encryption flatEntropy header := by
  have stored := usesNamed Jws.secretConfig Jws.storedSecret
  have crowded := usesNamed Jws.secretConfig crowdedSource
  have picking := usesNamed pickingConfig doubledSource
  refine ⟨?_, ?_, ?_, ?_, ?_⟩
  · exact (stored.signing _ (some "other") storedSecret_holds).missing "other" rfl (by decide)
  · obtain ⟨error, refused⟩ :=
      (crowded.signing _ none crowdedSource_holds).unclear rfl (by decide)
    have usable : secretJwk.toSigningKey = .ok (.hmac (List.replicate 32 7)) := by decide +kernel
    rw [refused, (stored.signing _ none storedSecret_holds).only secretJwk rfl rfl, usable]
    simp [Outcome.ofExcept, Except.map]
  · exact stored.editedSigning crowdedSource _ _ (some "k") "k" storedSecret_holds
      crowdedSource_holds rfl crowdedSet_edits
  · obtain ⟨token, signed⟩ := Jws.sign_storedSecret ⟨[("sub", .text "ada")]⟩
    have resolved : (Jws.secretConfig.resolveSigning Jws.storedSecret
        (JwsChoices.mk (some "k") none).keyId).outcome = _ := Jws.storedSecret_resolved
    have parsed : token.header? = some ⟨"HS256", "JWT", some "k"⟩ := by
      obtain ⟨octets, _, rfl⟩ := (Jws.sign_of_key_eq_done_iff resolved).mp signed
      exact Jws.header?_assemble _ _ _
    have made : token.isUnsigned = false := by
      rw [Token.isUnsigned, parsed]
      rfl
    obtain ⟨header, read, named⟩ := stored.signed _ _ token rfl signed made
    rw [parsed] at read
    injection read with read
    subst read
    obtain ⟨set, key, signing, algorithm, holds, member, same, converted, _, signs⟩ :=
      named "k" rfl
    exact ⟨token, signed, set, key, signing, algorithm, holds, member, same, converted, signs⟩
  · have resolved : (pickingConfig.resolveEncryption doubledSource
        (JweChoices.mk (some "wide") none).keyId).outcome = .done (.key (.rsa wideKey)) :=
      Config.resolveEncryption_usable rfl rfl rfl
        (Jwk.read_ofPublicKey (some "wide") wideKey_valid)
    have made : ∃ token, (Jwe.encrypt pickingConfig doubledSource flatEntropy [1, 2, 3] false
        ⟨some "wide", none⟩).outcome = .done token := by
      apply Jwe.encrypt_of_key resolved
      decide +kernel
    obtain ⟨token, encrypted⟩ := made
    obtain ⟨header, read, named⟩ := picking.encrypted _ _ _ _ token rfl encrypted
    have same : header.kid = some "wide" := by
      obtain ⟨enc, octets⟩ := Jwe.protectedOctets?_encrypt encrypted
      rw [Token.jweHeader?, octets] at read
      simp [JweHeader.ofBytes_toJson, Except.toOption] at read
      rw [← read]
    obtain ⟨set, key, encryption, found⟩ := named "wide" same
    exact ⟨token, encrypted, header, set, key, encryption, found⟩

end Found

end Jose
