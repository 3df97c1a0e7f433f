import Jose.Key.Resolution
import Jose.Proofs.Build

/-!
What resolving a key comes to. Whether there is a key to read is decided by the configuration alone;
once there is one, nothing but reading it from its location gives a result.
-/

namespace Jose

def KeyConfig.IsAbsent (key : KeyConfig) : Prop := key.available = false ∨ key.location = none

instance (key : KeyConfig) : Decidable key.IsAbsent := inferInstanceAs (Decidable (_ ∨ _))

def Config.withKeyId (role : KeyRole) (keyId : Option String) (config : Config) : Config :=
  match role with
  | .signing => { config with signingKey := { config.signingKey with keyId } }
  | .keyEncryption => { config with encryptionKey := { config.encryptionKey with keyId } }

namespace KeySpec

theorem target_eq_error_iff {spec : KeySpec} :
    (∃ absence, spec.target = .error absence) ↔ spec.available = false ∨ spec.location = none := by
  cases available : spec.available with
  | false => simp [target, available]
  | true => cases location : spec.location <;> simp [target, available, location]

theorem target_eq_ok_iff {spec : KeySpec} {location : String} :
    spec.target = .ok location ↔ spec.available = true ∧ spec.location = some location := by
  cases available : spec.available with
  | false => simp [target, available]
  | true => cases present : spec.location <;> simp [target, available, present]

theorem ofConfig_withKeyId (role : KeyRole) (config : Config) (keyId requested : Option String) :
    ofConfig role requested (config.withKeyId role keyId) =
      { ofConfig role none config with keyId := requested.or keyId } := by
  cases role <;> rfl

end KeySpec

namespace KeyReader

variable {κ : Type} {reader : KeyReader κ} {source : KeySource} {spec : KeySpec}

theorem resolve_absent {absence : Absence} (nothing : spec.target = .error absence) :
    reader.resolve source spec =
      ⟨[.event (absence.event spec.role)], .done (.unavailable absence)⟩ := by
  simp only [resolve, nothing]
  rfl

theorem resolve_unread {location : String} {error : BuildError}
    (present : spec.target = .ok location) (failed : source.answer location = .failed error) :
    (reader.resolve source spec).outcome = .failed error := by
  have read : (source.read location).outcome = .failed error := failed
  simp only [resolve, present, Build.bind_of_failed read]

theorem resolve_crashed {location : String} (present : spec.target = .ok location)
    (crashed : source.answer location = .crashed) :
    (reader.resolve source spec).outcome = .crashed := by
  have read : (source.read location).outcome = .crashed := crashed
  simp only [resolve, present, Build.bind_of_crashed read]

theorem resolve_unusable {location : String} {material : Bytes} {error : BuildError}
    (present : spec.target = .ok location) (answered : source.answer location = .done material)
    (refused : reader.read spec.format spec.keyId material = .error error) :
    (reader.resolve source spec).outcome = .failed error := by
  have read : (source.read location).outcome = .done material := answered
  simp only [resolve, present, Build.bind_of_done read, refused]
  rfl

theorem resolve_usable {location : String} {material : Bytes} {key : κ}
    (present : spec.target = .ok location) (answered : source.answer location = .done material)
    (usable : reader.read spec.format spec.keyId material = .ok key) :
    (reader.resolve source spec).outcome = .done (.key key) := by
  have read : (source.read location).outcome = .done material := answered
  simp only [resolve, present, Build.bind_of_done read, usable]
  rfl

theorem resolve_eq_done_iff {resolution : Resolution κ} :
    (reader.resolve source spec).outcome = .done resolution ↔
      (∃ absence, spec.target = .error absence ∧ resolution = .unavailable absence) ∨
        ∃ location material key, spec.target = .ok location ∧
          source.answer location = .done material ∧
          reader.read spec.format spec.keyId material = .ok key ∧ resolution = .key key := by
  cases target : spec.target with
  | error absence => simp [resolve_absent target, eq_comm]
  | ok location =>
      cases answer : source.answer location with
      | failed error => simp [resolve_unread target answer, answer]
      | crashed => simp [resolve_crashed target answer, answer]
      | done material =>
          cases read : reader.read spec.format spec.keyId material with
          | error error => simp [resolve_unusable target answer read, answer, read]
          | ok key => simp [resolve_usable target answer read, answer, read, eq_comm]

theorem resolve_eq_failed_iff {error : BuildError} :
    (reader.resolve source spec).outcome = .failed error ↔
      ∃ location, spec.target = .ok location ∧ (source.answer location = .failed error ∨
        ∃ material, source.answer location = .done material ∧
          reader.read spec.format spec.keyId material = .error error) := by
  cases target : spec.target with
  | error absence => simp [resolve_absent target]
  | ok location =>
      cases answer : source.answer location with
      | failed error => simp [resolve_unread target answer, answer]
      | crashed => simp [resolve_crashed target answer, answer]
      | done material =>
          cases read : reader.read spec.format spec.keyId material with
          | error error => simp [resolve_unusable target answer read, answer, read]
          | ok key => simp [resolve_usable target answer read, answer, read]

/-- Nothing but the source of a key crashes. -/
theorem resolve_eq_crashed_iff :
    (reader.resolve source spec).outcome = .crashed ↔
      ∃ location, spec.target = .ok location ∧ source.answer location = .crashed := by
  cases target : spec.target with
  | error absence => simp [resolve_absent target]
  | ok location =>
      cases answer : source.answer location with
      | failed error => simp [resolve_unread target answer, answer]
      | crashed => simp [resolve_crashed target answer, answer]
      | done material =>
          cases read : reader.read spec.format spec.keyId material with
          | error error => simp [resolve_unusable target answer read, answer]
          | ok key => simp [resolve_usable target answer read, answer]

/-- What a key resolves to is decided by what the source answers at its location alone. -/
theorem outcome_resolve_congr {other : KeySource}
    (same : ∀ location, spec.target = .ok location →
      other.answer location = source.answer location) :
    (reader.resolve other spec).outcome = (reader.resolve source spec).outcome := by
  cases target : spec.target with
  | error absence => rw [resolve_absent target, resolve_absent target]
  | ok location =>
      simp only [resolve, target]
      exact Build.outcome_bind_congr (same location target) fun _ => rfl

/-- Armoured text holds one key, so that no id matters. -/
theorem resolve_armour (source : KeySource) (armour : spec.format = .pem)
    (keyId : Option String) :
    reader.resolve source { spec with keyId } = reader.resolve source spec := by
  simp only [resolve, armour, read]
  rfl

theorem resolve_armour_withKeyId (role : KeyRole) {config : Config} (source : KeySource)
    (armour : (config.key role).format = .pem) (keyId requested : Option String) :
    reader.resolve source (.ofConfig role requested (config.withKeyId role keyId)) =
      reader.resolve source (.ofConfig role none config) := by
  have format : (KeySpec.ofConfig role none config).format = .pem := armour
  rw [KeySpec.ofConfig_withKeyId, resolve_armour source format]

end KeyReader

namespace Config

variable {config : Config} {source : KeySource} {requested : Option String}

theorem resolveSigning_unavailable_iff :
    (∃ absence, (config.resolveSigning source requested).outcome = .done (.unavailable absence)) ↔
      config.signingKey.IsAbsent := by
  have role : (KeySpec.ofConfig .signing requested config).available = config.signingKey.available ∧
      (KeySpec.ofConfig .signing requested config).location = config.signingKey.location :=
    ⟨rfl, rfl⟩
  rw [KeyConfig.IsAbsent, ← role.1, ← role.2, ← KeySpec.target_eq_error_iff]
  simp [resolveSigning, KeyReader.resolve_eq_done_iff]

theorem resolveSigning_usable {location : String} {material : Bytes} {key : SigningKey}
    (available : config.signingKey.available = true)
    (present : config.signingKey.location = some location)
    (answered : source.answer location = .done material)
    (usable : KeyReader.signing.read config.signingKey.format
      (requested.or config.signingKey.keyId) material = .ok key) :
    (config.resolveSigning source requested).outcome = .done (.key key) :=
  KeyReader.resolve_usable (KeySpec.target_eq_ok_iff.mpr ⟨available, present⟩) answered usable

theorem resolveEncryption_usable {location : String} {material : Bytes} {key : EncryptionKey}
    (available : config.encryptionKey.available = true)
    (present : config.encryptionKey.location = some location)
    (answered : source.answer location = .done material)
    (usable : KeyReader.encryption.read config.encryptionKey.format
      (requested.or config.encryptionKey.keyId) material = .ok key) :
    (config.resolveEncryption source requested).outcome = .done (.key key) :=
  KeyReader.resolve_usable (KeySpec.target_eq_ok_iff.mpr ⟨available, present⟩) answered usable

end Config

end Jose
