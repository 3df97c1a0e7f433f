import Jose.Proofs.Json.Guarded
import Jose.Proofs.Key.Armour
import Jose.Proofs.Key.Jwk
import Jose.Proofs.Key.Selection

/-!
What key material does to a build. Every octet string at the location of a key comes to a key or to
an error, with all operations on it kept within their domains, save for one: where the check of a
private key lets a factor of one through, a remainder by zero comes after it.
-/

namespace Jose

namespace Jwk

def octetsGuarded (key : Jwk) (member : String) : Option String → Guarded BuildError Bytes
  | none => .answer (key.octets member none)
  | some text => (Base64.decodeGuarded Base64.urlSafe (Bytes.ofText text)).mapError fun fault =>
      .invalidKey ("JWK member '" ++ member ++ "': " ++ fault.message)

def numberGuarded (key : Jwk) (member : String) (text : Option String) : Guarded BuildError Nat :=
  (key.octetsGuarded member text).map Bytes.toNat

def toSigningKeyGuarded (least : Nat) (key : Jwk) : Guarded BuildError SigningKey :=
  match key.kty with
  | "RSA" => do
      let n ← key.numberGuarded "n" key.n
      let e ← key.numberGuarded "e" key.e
      let d ← key.numberGuarded "d" key.d
      let p ← key.numberGuarded "p" key.p
      let q ← key.numberGuarded "q" key.q
      ((Rsa.PrivateKey.makeGuarded least n e d p q).mapError fun problem =>
        .invalidKey ("Invalid RSA JWK: " ++ problem.message)).map .rsa
  | "EC" => do
      .answer key.requireP256
      let d ← key.octetsGuarded "d" key.d
      ((P256.scalarGuarded d).mapError fun _ =>
        .invalidKey "Invalid P-256 JWK: signature error").map .p256
  | "oct" => (key.octetsGuarded "k" key.k).map .hmac
  | other => .fail (.invalidKey ("Unsupported JWK key type '" ++ other ++ "'"))

def toEncryptionKeyGuarded (key : Jwk) : Guarded BuildError EncryptionKey :=
  match key.kty with
  | "RSA" => do
      let n ← key.numberGuarded "n" key.n
      let e ← key.numberGuarded "e" key.e
      .answer ((rsaResult (Rsa.PublicKey.make n e)).map .rsa)
  | other =>
      .fail (.unsupportedAlgorithm
        ("JWK key type '" ++ other ++ "' cannot be used for key encryption"))

theorem octetsGuarded_eq (key : Jwk) (member : String) (text : Option String) :
    key.octetsGuarded member text = .answer (key.octets member text) := by
  cases text with
  | none => rfl
  | some text =>
      rw [octetsGuarded, Base64.decodeGuarded_eq, octets, Base64.decodeUrl]
      cases Base64.decode Base64.urlSafe (Bytes.ofText text) <;> rfl

theorem numberGuarded_eq (key : Jwk) (member : String) (text : Option String) :
    key.numberGuarded member text = .answer (key.number member text) := by
  rw [numberGuarded, octetsGuarded_eq]
  rfl

theorem toSigningKeyGuarded_eq (key : Jwk) :
    key.toSigningKeyGuarded Rsa.leastFactor = .answer key.toSigningKey := by
  simp only [toSigningKeyGuarded, toSigningKey, numberGuarded_eq, octetsGuarded_eq]
  by_cases rsa : key.kty = "RSA"
  · simp only [rsa]
    refine Guarded.answer_bind fun n _ => Guarded.answer_bind fun e _ => ?_
    refine Guarded.answer_bind fun d _ => Guarded.answer_bind fun p _ => ?_
    refine Guarded.answer_bind fun q _ => ?_
    rw [Rsa.PrivateKey.makeGuarded_eq]
    rfl
  · by_cases elliptic : key.kty = "EC"
    · simp only [elliptic]
      refine Guarded.answer_bind fun _ _ => Guarded.answer_bind fun d _ => ?_
      rw [P256.scalarGuarded_eq]
      cases P256.scalar? d <;> rfl
    · by_cases secret : key.kty = "oct"
      · simp only [secret]
        rfl
      · simp only
        rfl

def HoldsFlat (key : Jwk) : Prop :=
  key.kty = "RSA" ∧ ∃ n e d p q, key.number "n" key.n = .ok n ∧ key.number "e" key.e = .ok e ∧
    key.number "d" key.d = .ok d ∧ key.number "p" key.p = .ok p ∧ key.number "q" key.q = .ok q ∧
    Rsa.IsFlat n e d p q

theorem toSigningKeyGuarded_eq_crash_iff {least : Nat} {key : Jwk} :
    key.toSigningKeyGuarded least = .crash ↔ least ≤ 1 ∧ key.HoldsFlat := by
  simp only [toSigningKeyGuarded, numberGuarded_eq, octetsGuarded_eq, HoldsFlat]
  split
  · next rsa =>
      simp only [Guarded.answer_bind_eq_crash_iff, Guarded.map_eq_crash_iff,
        Guarded.mapError_eq_crash_iff, Rsa.makeGuarded_eq_crash_iff, rsa, true_and]
      constructor
      · rintro ⟨n, readN, e, readE, d, readD, p, readP, q, readQ, lax, flat⟩
        exact ⟨lax, n, e, d, p, q, readN, readE, readD, readP, readQ, flat⟩
      · rintro ⟨lax, n, e, d, p, q, readN, readE, readD, readP, readQ, flat⟩
        exact ⟨n, readN, e, readE, d, readD, p, readP, q, readQ, lax, flat⟩
  · next elliptic =>
      refine iff_of_false ?_ fun flat => absurd (elliptic.symm.trans flat.2.1) (by decide)
      simp only [Guarded.answer_bind_eq_crash_iff, Guarded.map_eq_crash_iff,
        Guarded.mapError_eq_crash_iff, P256.scalarGuarded_eq, Guarded.ofOption_ne_crash, and_false,
        exists_false, not_false_eq_true]
  · next secret =>
      exact iff_of_false nofun fun flat => absurd (secret.symm.trans flat.2.1) (by decide)
  · next other _ _ => exact iff_of_false nofun fun flat => other flat.2.1

theorem toEncryptionKeyGuarded_eq (key : Jwk) :
    key.toEncryptionKeyGuarded = .answer key.toEncryptionKey := by
  simp only [toEncryptionKeyGuarded, toEncryptionKey, numberGuarded_eq]
  by_cases rsa : key.kty = "RSA"
  · simp only [rsa]
    exact Guarded.answer_bind fun n _ => Guarded.answer_bind fun e _ => rfl
  · simp only
    rfl

end Jwk

namespace JwkSet

def ofBytesGuarded (bytes : Bytes) : Guarded BuildError JwkSet := do
  let value ← (Json.decodeGuarded bytes).mapError fun problem =>
    .invalidKey ("JWK is not valid JSON: " ++ problem.message)
  .answer (ofJson value)

theorem ofBytesGuarded_eq (bytes : Bytes) : ofBytesGuarded bytes = .answer (ofBytes bytes) := by
  rw [ofBytesGuarded, Json.decodeGuarded_eq, ofBytes]
  cases Json.decode bytes <;> rfl

end JwkSet

structure GuardedReader (κ : Type) where
  ofArmour : Bytes → Guarded BuildError κ
  ofJwk : Jwk → Guarded BuildError κ

namespace GuardedReader

variable {κ : Type} {guarded : GuardedReader κ} {reader : KeyReader κ}

def signing (least : Nat) : GuardedReader SigningKey :=
  ⟨ofArmourGuarded (SigningKey.ofBlockGuarded least), Jwk.toSigningKeyGuarded least⟩

def encryption : GuardedReader EncryptionKey :=
  ⟨ofArmourGuarded EncryptionKey.ofBlockGuarded, Jwk.toEncryptionKeyGuarded⟩

def read (guarded : GuardedReader κ) (format : KeyFormat) (keyId : Option String)
    (material : Bytes) : Guarded BuildError κ :=
  match format with
  | .pem => guarded.ofArmour material
  | .jwk => do
      let set ← JwkSet.ofBytesGuarded material
      let key ← .answer (set.select keyId)
      guarded.ofJwk key

def resolve (guarded : GuardedReader κ) (source : KeySource) (spec : KeySpec) :
    Build (Resolution κ) :=
  match spec.target with
  | .error absence => do
      Build.report (absence.event spec.role)
      return .unavailable absence
  | .ok location => do
      let material ← source.read location
      let key ← (guarded.read spec.format spec.keyId material).build
      Build.report (.resolvedKey spec.role location spec.format)
      return .key key

structure Follows (guarded : GuardedReader κ) (reader : KeyReader κ) : Prop where
  ofArmour : ∀ material, guarded.ofArmour material = .answer (reader.ofArmour material)
  ofJwk : ∀ key, guarded.ofJwk key = .answer (reader.ofJwk key)

theorem signing_follows : (signing Rsa.leastFactor).Follows .signing :=
  ⟨ofArmourGuarded_eq SigningKey.ofBlockGuarded_eq, Jwk.toSigningKeyGuarded_eq⟩

theorem encryption_follows : encryption.Follows .encryption :=
  ⟨ofArmourGuarded_eq EncryptionKey.ofBlockGuarded_eq, Jwk.toEncryptionKeyGuarded_eq⟩

theorem Follows.read_eq (follows : guarded.Follows reader) (format : KeyFormat)
    (keyId : Option String) (material : Bytes) :
    guarded.read format keyId material = .answer (reader.read format keyId material) := by
  cases format with
  | pem => exact follows.ofArmour material
  | jwk =>
      rw [read, JwkSet.ofBytesGuarded_eq]
      refine Guarded.answer_bind fun set _ => Guarded.answer_bind fun key _ => ?_
      exact follows.ofJwk key

theorem Follows.resolve_eq (follows : guarded.Follows reader) (source : KeySource)
    (spec : KeySpec) : guarded.resolve source spec = reader.resolve source spec := by
  unfold resolve KeyReader.resolve
  simp only [follows.read_eq]
  rfl

section Present

variable {source : KeySource} {spec : KeySpec} {location : String} {material : Bytes}

theorem outcome_resolve_of_answer {answer : Except BuildError κ}
    (present : spec.target = .ok location) (answered : source.answer location = .done material)
    (ended : guarded.read spec.format spec.keyId material = .answer answer) :
    (guarded.resolve source spec).outcome = .ofExcept (answer.map .key) := by
  have read : (source.read location).outcome = .done material := answered
  simp only [resolve, present, Build.bind_of_done read, ended]
  cases answer <;> rfl

theorem outcome_resolve_of_crash (present : spec.target = .ok location)
    (answered : source.answer location = .done material)
    (crashed : guarded.read spec.format spec.keyId material = .crash) :
    (guarded.resolve source spec).outcome = .crashed := by
  have read : (source.read location).outcome = .done material := answered
  simp only [resolve, present, Build.bind_of_done read, crashed]
  rfl

theorem outcome_resolve_eq_crashed_iff (present : spec.target = .ok location)
    (answered : source.answer location = .done material) :
    (guarded.resolve source spec).outcome = .crashed ↔
      guarded.read spec.format spec.keyId material = .crash := by
  refine ⟨fun crashed => ?_, outcome_resolve_of_crash present answered⟩
  cases ended : guarded.read spec.format spec.keyId material with
  | crash => rfl
  | answer answer =>
      rw [outcome_resolve_of_answer present answered ended] at crashed
      cases answer <;> contradiction

end Present

structure EndsWell (guarded : GuardedReader κ) (reader : KeyReader κ) (source : KeySource)
    (spec : KeySpec) (material : Bytes) : Prop where
  same : guarded.resolve source spec = reader.resolve source spec
  ends : ∃ answer : Except BuildError κ,
    guarded.read spec.format spec.keyId material = .answer answer ∧
      (guarded.resolve source spec).outcome = .ofExcept (answer.map .key)

theorem Follows.endsWell (follows : guarded.Follows reader) {source : KeySource} {spec : KeySpec}
    {location : String} {material : Bytes} (present : spec.target = .ok location)
    (answered : source.answer location = .done material) :
    guarded.EndsWell reader source spec material where
  same := follows.resolve_eq source spec
  ends :=
    have ended := follows.read_eq spec.format spec.keyId material
    ⟨_, ended, outcome_resolve_of_answer present answered ended⟩

end GuardedReader

-- Material with the numbers of a private key one of whose factors is one.
def KeyFormat.HoldsFlat (keyId : Option String) (material : Bytes) : KeyFormat → Prop
  | .pem => ∃ text name, armouredText material = .ok text ∧ armourLabel text = .ok name ∧
      Pem.HoldsFlat name text
  | .jwk => ∃ set key, JwkSet.ofBytes material = .ok set ∧ set.select keyId = .ok key ∧
      key.HoldsFlat

theorem GuardedReader.read_eq_crash_iff {least : Nat} {format : KeyFormat} {keyId : Option String}
    {material : Bytes} :
    (signing least).read format keyId material = .crash ↔
      least ≤ 1 ∧ format.HoldsFlat keyId material := by
  cases format with
  | pem =>
      simp only [read, signing, ofArmourGuarded_eq_crash_iff,
        SigningKey.ofBlockGuarded_eq_crash_iff, KeyFormat.HoldsFlat]
      constructor
      · rintro ⟨text, name, legible, labelled, lax, flat⟩
        exact ⟨lax, text, name, legible, labelled, flat⟩
      · rintro ⟨lax, text, name, legible, labelled, flat⟩
        exact ⟨text, name, legible, labelled, lax, flat⟩
  | jwk =>
      simp only [read, signing, JwkSet.ofBytesGuarded_eq, Guarded.answer_bind_eq_crash_iff,
        Jwk.toSigningKeyGuarded_eq_crash_iff, KeyFormat.HoldsFlat]
      constructor
      · rintro ⟨set, parsed, key, selected, lax, flat⟩
        exact ⟨lax, set, key, parsed, selected, flat⟩
      · rintro ⟨lax, set, key, parsed, selected, flat⟩
        exact ⟨set, parsed, key, selected, lax, flat⟩

def KeyConfig.HoldsOctets (key : KeyConfig) (source : KeySource) (material : Bytes) : Prop :=
  key.available = true ∧
    ∃ location, key.location = some location ∧ source.answer location = .done material

theorem KeyConfig.HoldsOctets.located {config : Config} {role : KeyRole} {source : KeySource}
    {material : Bytes} (holds : (config.key role).HoldsOctets source material)
    (requested : Option String) :
    ∃ location, (KeySpec.ofConfig role requested config).target = .ok location ∧
      source.answer location = .done material := by
  obtain ⟨available, location, present, answered⟩ := holds
  exact ⟨location, KeySpec.target_eq_ok_iff.mpr ⟨available, present⟩, answered⟩

namespace Config

variable (config : Config) (source : KeySource) (requested : Option String)

def signingOutcome (least : Nat) : Outcome (Resolution SigningKey) :=
  ((GuardedReader.signing least).resolve source (.ofConfig .signing requested config)).outcome

def HoldsFlat (material : Bytes) : Prop :=
  config.signingKey.format.HoldsFlat (requested.or config.signingKey.keyId) material

structure CrashesOnlyFlat : Prop where
  crashed : ∀ least material, (config.key .signing).HoldsOctets source material →
    (config.signingOutcome source requested least = .crashed ↔
      least ≤ 1 ∧ config.HoldsFlat requested material)
  ended : ∀ least material, (config.key .signing).HoldsOctets source material →
    ¬ (least ≤ 1 ∧ config.HoldsFlat requested material) → ∃ answer : Except BuildError SigningKey,
      config.signingOutcome source requested least = .ofExcept (answer.map .key)
  signing : ∀ material, (config.key .signing).HoldsOctets source material →
    (GuardedReader.signing Rsa.leastFactor).EndsWell .signing source
      (.ofConfig .signing requested config) material
  encryption : ∀ material, (config.key .keyEncryption).HoldsOctets source material →
    GuardedReader.encryption.EndsWell .encryption source
      (.ofConfig .keyEncryption requested config) material

/-- What a private key is checked for decides whether key material can crash a build. Where the
check lets a factor of one through, as that of the required release does, the numbers that crash are
those with such a factor and nothing else; with the stricter check, and for public keys, every octet
string comes to a key or to an error. -/
theorem crashesOnlyFlat : config.CrashesOnlyFlat source requested where
  crashed := by
    intro least material holds
    obtain ⟨location, present, answered⟩ := holds.located requested
    exact (GuardedReader.outcome_resolve_eq_crashed_iff present answered).trans
      GuardedReader.read_eq_crash_iff
  ended := by
    intro least material holds whole
    obtain ⟨location, present, answered⟩ := holds.located requested
    cases ended : (GuardedReader.signing least).read config.signingKey.format
        (requested.or config.signingKey.keyId) material with
    | crash => exact absurd (GuardedReader.read_eq_crash_iff.mp ended) whole
    | answer answer =>
        exact ⟨answer, GuardedReader.outcome_resolve_of_answer present answered ended⟩
  signing := by
    intro material holds
    obtain ⟨location, present, answered⟩ := holds.located requested
    exact GuardedReader.signing_follows.endsWell present answered
  encryption := by
    intro material holds
    obtain ⟨location, present, answered⟩ := holds.located requested
    exact GuardedReader.encryption_follows.endsWell present answered

-- A key with a factor of one, whose other numbers pass every check.
def flatKey : Jwk := { Jwk.blank "RSA" with
  n := some (Base64.encodeUrl [35])
  e := some (Base64.encodeUrl [3])
  d := some (Base64.encodeUrl [23])
  p := some (Base64.encodeUrl [35])
  q := some (Base64.encodeUrl [1]) }

def flatSource : KeySource := .ofMemory [("flat", flatKey.toJson.encode)]

def flatConfig : Config := { standard with signingKey := .jwk "flat" }

theorem flatConfig_holdsFlat : flatConfig.HoldsFlat none flatKey.toJson.encode := by
  refine ⟨⟨[flatKey]⟩, flatKey, Jwk.ofBytes_toJson _, rfl, rfl, 35, 3, 23, 35, 1, ?_⟩
  simp only [Rsa.IsFlat]
  decide +kernel

theorem crashesOnlyFlat_factorOne :
    (flatConfig.key .signing).HoldsOctets flatSource flatKey.toJson.encode ∧
      flatConfig.signingOutcome flatSource none Rsa.requiredFactor = .crashed ∧
      flatConfig.signingOutcome flatSource none Rsa.leastFactor =
        .failed (.invalidKey "Invalid RSA JWK: invalid prime value") := by
  have holds : (flatConfig.key .signing).HoldsOctets flatSource flatKey.toJson.encode :=
    ⟨rfl, "flat", rfl, rfl⟩
  have law := crashesOnlyFlat flatConfig flatSource none
  refine ⟨holds, (law.crashed _ _ holds).mpr ⟨le_rfl, flatConfig_holdsFlat⟩, ?_⟩
  have stored : (flatConfig.key .signing).HoldsSet flatSource ⟨[flatKey]⟩ :=
    ⟨rfl, rfl, "flat", _, rfl, rfl, Jwk.ofBytes_toJson _⟩
  have refused : flatKey.toSigningKey =
      .error (.invalidKey "Invalid RSA JWK: invalid prime value") := by
    decide +kernel
  rw [signingOutcome, (law.signing _ holds).same, KeyReader.outcome_resolve_jwk stored]
  change Outcome.ofExcept (Except.map .key flatKey.toSigningKey) = _
  rw [refused]
  rfl

theorem not_endsAlways :
    ¬ ∀ (config : Config) (source : KeySource) (requested : Option String) (material : Bytes),
      (config.key .signing).HoldsOctets source material →
        config.signingOutcome source requested Rsa.requiredFactor ≠ .crashed := by
  intro never
  refine never flatConfig flatSource none _ ⟨rfl, "flat", rfl, rfl⟩ ?_
  exact GuardedReader.outcome_resolve_of_crash rfl rfl
    (GuardedReader.read_eq_crash_iff.mpr ⟨le_rfl, flatConfig_holdsFlat⟩)

end Config

end Jose
