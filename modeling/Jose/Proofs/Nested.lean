import Jose.Builder
import Jose.Proofs.Jwe
import Mathlib.NumberTheory.LucasLehmer

/-!
What the receiver of an encrypted token holds in the end: the signed token that was encrypted, or
the claims themselves, and the claims are the payload that a signed token would have carried.
-/

namespace Jose

namespace ClaimsBuilder

def nest (finishing signing encrypting : Surroundings) (jws : JwsChoices) (jwe : JweChoices)
    (builder : ClaimsBuilder) : Build Token := do
  let signer ← builder.jws finishing
  let encrypter ← { signer with choices := jws }.innerSign signing
  { encrypter with choices := jwe }.encrypt encrypting

def encryptClaims (finishing encrypting : Surroundings) (jwe : JweChoices)
    (builder : ClaimsBuilder) : Build Token := do
  let encrypter ← builder.jwe finishing
  { encrypter with choices := jwe }.encrypt encrypting

variable {builder : ClaimsBuilder} {finishing signing encrypting : Surroundings}
  {jws : JwsChoices} {jwe : JweChoices}

theorem jws_eq_done_iff {signer : JwsBuilder} :
    (builder.jws finishing).outcome = .done signer ↔
      ∃ claims, (builder.finish finishing).outcome = .done claims ∧
        signer = ⟨builder.config, claims, .blank⟩ := by
  simp only [ClaimsBuilder.jws, Build.bind_eq_done, Build.outcome_pure, Outcome.done.injEq]
  exact exists_congr fun _ => and_congr_right fun _ => eq_comm

theorem jwe_eq_done_iff {encrypter : JweBuilder} :
    (builder.jwe finishing).outcome = .done encrypter ↔
      ∃ claims, (builder.finish finishing).outcome = .done claims ∧
        encrypter = .make builder.config (.claims claims) := by
  simp only [ClaimsBuilder.jwe, Build.bind_eq_done, Build.outcome_pure, Outcome.done.injEq]
  exact exists_congr fun _ => and_congr_right fun _ => eq_comm

theorem nest_eq_done_iff {token : Token} :
    (builder.nest finishing signing encrypting jws jwe).outcome = .done token ↔
      ∃ claims signed, (builder.finish finishing).outcome = .done claims ∧
        (Jws.sign builder.config signing.source claims jws).outcome = .done signed ∧
        (Jwe.encrypt builder.config encrypting.source encrypting.entropy signed.encode true
          jwe).outcome = .done token := by
  simp only [nest, Build.bind_eq_done, jws_eq_done_iff, JwsBuilder.innerSign, Build.outcome_pure,
    Outcome.done.injEq]
  constructor
  · rintro ⟨_, ⟨claims, finished, rfl⟩, _, ⟨signed, made, rfl⟩, encrypted⟩
    exact ⟨claims, signed, finished, made, encrypted⟩
  · rintro ⟨claims, signed, finished, made, encrypted⟩
    exact ⟨_, ⟨claims, finished, rfl⟩, _, ⟨signed, made, rfl⟩, encrypted⟩

theorem encryptClaims_eq_done_iff {token : Token} :
    (builder.encryptClaims finishing encrypting jwe).outcome = .done token ↔
      ∃ claims, (builder.finish finishing).outcome = .done claims ∧
        (Jwe.encrypt builder.config encrypting.source encrypting.entropy claims.payload false
          jwe).outcome = .done token := by
  simp only [encryptClaims, Build.bind_eq_done, jwe_eq_done_iff]
  constructor
  · rintro ⟨_, ⟨claims, finished, rfl⟩, encrypted⟩
    exact ⟨claims, finished, encrypted⟩
  · rintro ⟨claims, finished, encrypted⟩
    exact ⟨_, ⟨claims, finished, rfl⟩, encrypted⟩

end ClaimsBuilder

theorem Jws.sign_carries {config : Config} {source : KeySource} {claims : Claims}
    {choices : JwsChoices} {token : Token}
    (signed : (sign config source claims choices).outcome = .done token) :
    ∃ second, token.segments[1]? = some second ∧
      Base64.decodeUrl second = .ok claims.payload := by
  obtain ⟨_, signer, octets, _, _, _, rfl⟩ := sign_eq_done_iff.mp signed
  exact ⟨_, by rw [Token.segments_ofSegments (by simp [contents])]; rfl,
    Base64.decodeUrl_encodeUrl _⟩

/-- With the private half of the key that a token was encrypted for, the token opens to what was
signed or, without a signature, to the claims. -/
theorem ClaimsBuilder.open?_encrypted {key : Rsa.PrivateKey} (unwraps : key.Unwraps)
    (builder : ClaimsBuilder) (finishing signing encrypting : Surroundings) (jws : JwsChoices)
    (jwe : JweChoices)
    (matching : (builder.config.resolveEncryption encrypting.source jwe.keyId).outcome =
      .done (.key (.rsa key.publicKey))) :
    (∀ token, (builder.nest finishing signing encrypting jws jwe).outcome = .done token →
      ∃ claims signed contentKey, (builder.finish finishing).outcome = .done claims ∧
        (Jws.sign builder.config signing.source claims jws).outcome = .done signed ∧
        Jwe.open? key token = some ⟨contentKey, signed.encode⟩) ∧
      ∀ token, (builder.encryptClaims finishing encrypting jwe).outcome = .done token →
        ∃ claims contentKey, (builder.finish finishing).outcome = .done claims ∧
          Jwe.open? key token = some ⟨contentKey, claims.toJson.encode⟩ ∧
          ∀ source choices signed,
            (Jws.sign builder.config source claims choices).outcome = .done signed →
            ∃ second, signed.segments[1]? = some second ∧
              Base64.decodeUrl second = .ok claims.toJson.encode := by
  constructor
  · intro token nested
    obtain ⟨claims, signed, finished, made, encrypted⟩ := nest_eq_done_iff.mp nested
    exact ⟨claims, signed, _, finished, made, Jwe.open?_encrypt unwraps matching encrypted⟩
  · intro token plain
    obtain ⟨claims, finished, encrypted⟩ := encryptClaims_eq_done_iff.mp plain
    exact ⟨claims, _, finished, Jwe.open?_encrypt unwraps matching encrypted,
      fun source choices signed made => Jws.sign_carries made⟩

section Mersenne

def Rsa.mersenneKey : Rsa.PrivateKey where
  modulus := (2 ^ 521 - 1) * (2 ^ 607 - 1)
  exponent := 65537
  privateExponent := (10880 * ((2 ^ 521 - 2) * (2 ^ 607 - 2)) + 1) / 65537
  firstFactor := 2 ^ 521 - 1
  secondFactor := 2 ^ 607 - 1

theorem Rsa.mersenneKey_isGenuine : mersenneKey.IsGenuine where
  firstPrime := lucas_lehmer_sufficiency 521 (by simp) (by norm_num)
  secondPrime := lucas_lehmer_sufficiency 607 (by simp) (by norm_num)
  different := by decide +kernel
  product := by decide +kernel
  undoneFirst := by decide +kernel
  undoneSecond := by decide +kernel

def storedKeys : KeySource :=
  .ofMemory [("secret", (Jwk.ofSecret none (List.replicate 32 7)).toJson.encode),
    ("public", (Jwk.ofPublicKey none Rsa.mersenneKey.publicKey).toJson.encode)]

def Surroundings.still : Surroundings :=
  ⟨⟨0, 0⟩, storedKeys, ⟨fun _ => 0, fun _ => 1, fun _ => 2, fun _ => 3⟩⟩

def ClaimsBuilder.keyed : ClaimsBuilder :=
  .make { Config.standard with signingKey := .jwk "secret", encryptionKey := .jwk "public" }

theorem storedKeys_signing :
    (ClaimsBuilder.keyed.config.resolveSigning storedKeys none).outcome =
      .done (.key (.hmac (List.replicate 32 7))) :=
  Config.resolveSigning_usable rfl rfl rfl (Jwk.read_ofSecret none (List.replicate 32 7))

theorem storedKeys_encryption :
    (ClaimsBuilder.keyed.config.resolveEncryption storedKeys none).outcome =
      .done (.key (.rsa Rsa.mersenneKey.publicKey)) := by
  have valid : Rsa.PublicKey.make Rsa.mersenneKey.publicKey.modulus
      Rsa.mersenneKey.publicKey.exponent = .ok Rsa.mersenneKey.publicKey := by
    have checked : Rsa.checkPublic Rsa.mersenneKey.publicKey.modulus
        Rsa.mersenneKey.publicKey.exponent = .ok () := by decide +kernel
    rw [Rsa.PublicKey.make, if_neg (by decide +kernel), checked]
    rfl
  exact Config.resolveEncryption_usable rfl rfl rfl (Jwk.read_ofPublicKey none valid)

theorem storedKeys_encrypt (entropy : Entropy) (payload : Bytes) (isNested : Bool) :
    ∃ token, (Jwe.encrypt ClaimsBuilder.keyed.config storedKeys entropy payload isNested
      .blank).outcome = .done token := by
  have room : (Jwe.header ClaimsBuilder.keyed.config .blank isNested
      (.rsa Rsa.mersenneKey.publicKey)).enc.keyLength + 2 * Rsa.hashLength + 2 ≤
        Rsa.octetLength Rsa.mersenneKey.publicKey.modulus := by
    cases isNested <;> decide +kernel
  exact Jwe.encrypt_of_key storedKeys_encryption room

theorem storedKeys_sign (claims : Claims) :
    ∃ token, (Jws.sign ClaimsBuilder.keyed.config storedKeys claims .blank).outcome =
      .done token :=
  Jws.sign_of_secret storedKeys_signing rfl (by decide)

theorem ClaimsBuilder.finish_done (around : Surroundings) (builder : ClaimsBuilder) :
    ∃ claims, (builder.finish around).outcome = .done claims := ⟨_, rfl⟩

theorem ClaimsBuilder.open?_encrypted_storedKeys :
    (∃ token claims signed contentKey,
      (keyed.nest .still .still .still .blank .blank).outcome = .done token ∧
        (keyed.finish .still).outcome = .done claims ∧
        (Jws.sign keyed.config storedKeys claims .blank).outcome = .done signed ∧
        Jwe.open? Rsa.mersenneKey token = some ⟨contentKey, signed.encode⟩) ∧
      ∃ token claims contentKey,
        (keyed.encryptClaims .still .still .blank).outcome = .done token ∧
          (keyed.finish .still).outcome = .done claims ∧
          Jwe.open? Rsa.mersenneKey token = some ⟨contentKey, claims.toJson.encode⟩ := by
  obtain ⟨nested, plain⟩ := open?_encrypted Rsa.mersenneKey_isGenuine.unwraps keyed .still .still
    .still .blank .blank storedKeys_encryption
  constructor
  · obtain ⟨claims, finished⟩ := finish_done .still keyed
    obtain ⟨signed, made⟩ := storedKeys_sign claims
    obtain ⟨token, encrypted⟩ := storedKeys_encrypt Surroundings.still.entropy signed.encode true
    have done : (keyed.nest .still .still .still .blank .blank).outcome = .done token :=
      nest_eq_done_iff.mpr ⟨claims, signed, finished, made, encrypted⟩
    obtain ⟨claims, signed, contentKey, finished, made, opened⟩ := nested token done
    exact ⟨token, claims, signed, contentKey, done, finished, made, opened⟩
  · obtain ⟨claims, finished⟩ := finish_done .still keyed
    obtain ⟨token, encrypted⟩ :=
      storedKeys_encrypt Surroundings.still.entropy claims.payload false
    have done : (keyed.encryptClaims .still .still .blank).outcome = .done token :=
      encryptClaims_eq_done_iff.mpr ⟨claims, finished, encrypted⟩
    obtain ⟨claims, contentKey, finished, opened, _⟩ := plain token done
    exact ⟨token, claims, contentKey, done, finished, opened⟩

end Mersenne

end Jose
