import Jose.Proofs.Key.Selection
import Jose.Proofs.Session
import Jose.Proofs.Signed

/-!
When a token goes out unsigned: only where the configuration has no signing key, allows that, and
nobody has asked for an algorithm. Whatever is wrong with a key that is there ends in an error.
-/

namespace Jose

inductive Jws.Obstacle (config : Config) (source : KeySource) (choices : JwsChoices)
    (location : String) : BuildError → Prop
  | unread {error : BuildError} : source.answer location = .failed error →
      Obstacle config source choices location error
  | armour {material : Bytes} {error : BuildError} : source.answer location = .done material →
      config.signingKey.format = .pem → SigningKey.ofArmour material = .error error →
      Obstacle config source choices location error
  | notKeys {material : Bytes} {error : BuildError} : source.answer location = .done material →
      config.signingKey.format = .jwk → JwkSet.ofBytes material = .error error →
      Obstacle config source choices location error
  | unmatched {material : Bytes} {set : JwkSet} {keyId : String} :
      source.answer location = .done material → config.signingKey.format = .jwk →
      JwkSet.ofBytes material = .ok set →
      choices.keyId.or config.signingKey.keyId = some keyId →
      (∀ key ∈ set.keys, key.kid ≠ some keyId) →
      Obstacle config source choices location (.keyNotFound keyId)
  | ambiguous {material : Bytes} {set : JwkSet} :
      source.answer location = .done material → config.signingKey.format = .jwk →
      JwkSet.ofBytes material = .ok set → choices.keyId.or config.signingKey.keyId = none →
      1 < set.keys.length →
      Obstacle config source choices location (.keyNotFound JwkSet.unsetKeyId)
  | noKeys {material : Bytes} : source.answer location = .done material →
      config.signingKey.format = .jwk → JwkSet.ofBytes material = .ok ⟨[]⟩ →
      choices.keyId.or config.signingKey.keyId = none →
      Obstacle config source choices location (.invalidKey "JWK set is empty")
  | unusable {material : Bytes} {set : JwkSet} {key : Jwk} {error : BuildError} :
      source.answer location = .done material → config.signingKey.format = .jwk →
      JwkSet.ofBytes material = .ok set →
      set.select (choices.keyId.or config.signingKey.keyId) = .ok key →
      key.toSigningKey = .error error →
      Obstacle config source choices location error
  | misfit {material : Bytes} {key : SigningKey} : source.answer location = .done material →
      KeyReader.signing.read config.signingKey.format
        (choices.keyId.or config.signingKey.keyId) material = .ok key →
      key.supports (algorithmFor config choices key) = false →
      Obstacle config source choices location (key.misfit (algorithmFor config choices key))
  | shortSecret {material secret : Bytes} {least : Nat} :
      source.answer location = .done material →
      KeyReader.signing.read config.signingKey.format
        (choices.keyId.or config.signingKey.keyId) material = .ok (.hmac secret) →
      (algorithmFor config choices (.hmac secret)).leastSecret? = some least →
      secret.length < least →
      Obstacle config source choices location
        (SigningKey.shortSecret (algorithmFor config choices (.hmac secret)) least secret.length)

namespace Jws

variable {config : Config} {source : KeySource} {claims : Claims} {choices : JwsChoices}

theorem sign_of_unresolved {error : BuildError}
    (failed : (config.resolveSigning source choices.keyId).outcome = .failed error) :
    (sign config source claims choices).outcome = .failed error := by
  rw [sign, Build.bind_of_failed failed]

theorem Obstacle.sign_failed {location : String} {error : BuildError}
    (available : config.signingKey.available = true)
    (present : config.signingKey.location = some location)
    (obstacle : Obstacle config source choices location error) :
    (sign config source claims choices).outcome = .failed error := by
  have target : (KeySpec.ofConfig .signing choices.keyId config).target = .ok location :=
    KeySpec.target_eq_ok_iff.mpr ⟨available, present⟩
  -- All but the last two leave the key unresolved.
  have unread : ∀ material refused, source.answer location = .done material →
      KeyReader.signing.read config.signingKey.format
        (choices.keyId.or config.signingKey.keyId) material = .error refused →
      (sign config source claims choices).outcome = .failed refused :=
    fun material refused answered read =>
      sign_of_unresolved (KeyReader.resolve_unusable target answered read)
  cases obstacle with
  | unread failed => exact sign_of_unresolved (KeyReader.resolve_unread target failed)
  | armour answered format refused =>
      exact unread _ _ answered (by rw [format]; exact refused)
  | notKeys answered format refused =>
      exact unread _ _ answered (by rw [format, KeyReader.read, refused]; rfl)
  | unmatched answered format decoded wanted none =>
      exact unread _ _ answered (by
        rw [format, KeyReader.read_jwk _ decoded, wanted, JwkSet.select_unmatched none]
        rfl)
  | ambiguous answered format decoded wanted several =>
      exact unread _ _ answered (by
        rw [format, KeyReader.read_jwk _ decoded, wanted, JwkSet.select_ambiguous several]
        rfl)
  | noKeys answered format decoded wanted =>
      exact unread _ _ answered (by
        rw [format, KeyReader.read_jwk _ decoded, wanted]
        rfl)
  | unusable answered format decoded selected refused =>
      exact unread _ _ answered (by
        rw [format, KeyReader.read_jwk _ decoded, selected]
        exact refused)
  | misfit answered read unfit =>
      exact (sign_of_key_eq_failed_iff (KeyReader.resolve_usable target answered read)).mpr
        (SigningKey.sign_misfit unfit _)
  | shortSecret answered read bounded short =>
      exact (sign_of_key_eq_failed_iff (KeyReader.resolve_usable target answered read)).mpr
        (SigningKey.sign_short bounded short _)

theorem sign_crashed {location : String} (available : config.signingKey.available = true)
    (present : config.signingKey.location = some location)
    (crashed : source.answer location = .crashed) :
    (sign config source claims choices).outcome = .crashed := by
  have target : (KeySpec.ofConfig .signing choices.keyId config).target = .ok location :=
    KeySpec.target_eq_ok_iff.mpr ⟨available, present⟩
  have unresolved : (config.resolveSigning source choices.keyId).outcome = .crashed :=
    KeyReader.resolve_crashed target crashed
  rw [sign, Build.bind_of_crashed unresolved]

theorem sign_refused (absent : config.signingKey.IsAbsent)
    (refused : ¬ (config.unsignedFallback = true ∧ choices.algorithm = none)) :
    ∃ reason, (sign config source claims choices).outcome =
      .failed (.keyResolution .signing reason) := by
  obtain ⟨absence, resolved⟩ := Config.resolveSigning_unavailable_iff.mpr absent
  obtain ⟨reason, same⟩ := signer?_eq_error absence refused
  have failed : (Build.ofExcept (signer? config choices (.unavailable absence))).outcome =
      .failed (.keyResolution .signing reason) := by
    simp [same]
  refine ⟨reason, ?_⟩
  rw [sign, Build.bind_of_done resolved]
  simp only [Build.bind_of_failed failed]

theorem sign_unsigned (absent : config.signingKey.IsAbsent)
    (fallback : config.unsignedFallback = true) (unasked : choices.algorithm = none) :
    (sign config source claims choices).outcome =
      .done (.ofSegments ((contents (header choices none) claims []).map Base64.encodeUrl)) := by
  obtain ⟨absence, resolved⟩ := Config.resolveSigning_unavailable_iff.mpr absent
  exact sign_eq_done_iff.mpr ⟨.unavailable absence, none, [], resolved,
    signer?_eq_none_iff.mpr ⟨⟨absence, rfl⟩, fallback, unasked⟩, rfl, rfl⟩

theorem isUnsigned_iff_empty {token : Token}
    (signed : (sign config source claims choices).outcome = .done token) :
    token.isUnsigned = true ↔ token.segments[2]? = some "" := by
  obtain ⟨_, signer, octets, _, _, made, rfl⟩ := sign_eq_done_iff.mp signed
  rw [isUnsigned_contents, Token.segments_ofSegments (by simp [contents])]
  rcases signature_eq_done_iff.mp made with ⟨rfl, rfl⟩ | ⟨maker, rfl, signature⟩
  · simp [contents, Base64.encodeUrl_eq_empty_iff]
  · simp [contents, Base64.encodeUrl_eq_empty_iff, SigningKey.sign_ne_nil signature]

theorem sign_isUnsigned_iff :
    (∃ token, (sign config source claims choices).outcome = .done token ∧
        token.isUnsigned = true) ↔
      config.signingKey.IsAbsent ∧ config.unsignedFallback = true ∧ choices.algorithm = none := by
  constructor
  · rintro ⟨token, signed, unsigned⟩
    obtain ⟨resolution, signer, octets, resolved, chosen, _, rfl⟩ := sign_eq_done_iff.mp signed
    rw [isUnsigned_contents, Option.isNone_iff_eq_none] at unsigned
    rw [unsigned] at chosen
    obtain ⟨⟨absence, rfl⟩, allowed⟩ := signer?_eq_none_iff.mp chosen
    exact ⟨Config.resolveSigning_unavailable_iff.mp ⟨absence, resolved⟩, allowed⟩
  · rintro ⟨absent, fallback, unasked⟩
    exact ⟨_, sign_unsigned absent fallback unasked, isUnsigned_contents choices none claims []⟩

structure IsGuarded (config : Config) (source : KeySource) (claims : Claims)
    (choices : JwsChoices) : Prop where
  unsigned : (∃ token, (sign config source claims choices).outcome = .done token ∧
      token.isUnsigned = true) ↔
    (∃ absence, (config.resolveSigning source choices.keyId).outcome =
      .done (.unavailable absence)) ∧ config.unsignedFallback = true ∧ choices.algorithm = none
  unavailable : (∃ absence, (config.resolveSigning source choices.keyId).outcome =
      .done (.unavailable absence)) ↔
    config.signingKey.available = false ∨ config.signingKey.location = none
  empty : ∀ token, (sign config source claims choices).outcome = .done token →
    (token.isUnsigned = true ↔ token.segments[2]? = some "")
  refused : ∀ absence, (config.resolveSigning source choices.keyId).outcome =
      .done (.unavailable absence) →
    ¬ (config.unsignedFallback = true ∧ choices.algorithm = none) →
    ∃ reason, (sign config source claims choices).outcome =
      .failed (.keyResolution .signing reason)
  obstacle : ∀ location error, config.signingKey.available = true →
    config.signingKey.location = some location →
    Obstacle config source choices location error →
    (sign config source claims choices).outcome = .failed error
  crash : ∀ location, config.signingKey.available = true →
    config.signingKey.location = some location → source.answer location = .crashed →
    (sign config source claims choices).outcome = .crashed

end Jws

/-- Unsigned tokens are guarded in every signing, and every run warns of each of them once. -/
theorem unsigned_guarded :
    (∀ config source claims choices, Jws.IsGuarded config source claims choices) ∧
      ∀ steps session, Build.warnings (Session.traceOf (Session.history steps session)) =
        (Session.tokensOf (Session.history steps session)).countP Token.isUnsigned := by
  refine ⟨?_, Session.history_warnings⟩
  intro config source claims choices
  exact {
    unsigned := by rw [Config.resolveSigning_unavailable_iff, Jws.sign_isUnsigned_iff]
    unavailable := Config.resolveSigning_unavailable_iff
    empty := fun token signed => Jws.isUnsigned_iff_empty signed
    refused := fun absence resolved notAllowed =>
      Jws.sign_refused (Config.resolveSigning_unavailable_iff.mp ⟨absence, resolved⟩) notAllowed
    obstacle := fun location error available present obstacle =>
      obstacle.sign_failed available present
    crash := fun location available present crashed =>
      Jws.sign_crashed available present crashed }

def Config.fallback : Config :=
  { Config.standard with unsignedFallback := true, signatureAlgorithm := some .es256 }

theorem unsigned_guarded_fallback :
    ∃ token, (Jws.sign Config.fallback (.ofMemory []) ⟨[]⟩ .blank).outcome = .done token ∧
      token.isUnsigned = true ∧ token.segments[2]? = some "" := by
  have guarded := unsigned_guarded.1 Config.fallback (.ofMemory []) ⟨[]⟩ .blank
  obtain ⟨token, signed, unsigned⟩ := guarded.unsigned.mpr
    ⟨guarded.unavailable.mpr (Or.inr rfl), rfl, rfl⟩
  exact ⟨token, signed, unsigned, (guarded.empty token signed).mp unsigned⟩

end Jose
