import Jose.Proofs.Key.Jwk
import Jose.Proofs.Key.Selection

/-!
In which kinds key resolution fails. Loading, reading and selecting fail each in a kind of its own,
with two exceptions. A signing key on another curve counts as an algorithm that is not supported,
and a set without keys as an invalid key.
-/

namespace Jose

namespace BuildError

inductive IsOfKey : BuildError → Prop
  | unloaded (location reason : String) : IsOfKey (.keyLoad location reason)
  | invalid (reason : String) : IsOfKey (.invalidKey reason)
  | missing (keyId : String) : IsOfKey (.keyNotFound keyId)

def IsInvalidKey (error : BuildError) : Prop := ∃ reason, error = .invalidKey reason

def IsUnsupported (error : BuildError) : Prop := ∃ name, error = .unsupportedAlgorithm name

def IsMissingKey (error : BuildError) : Prop := ∃ keyId, error = .keyNotFound keyId

theorem IsInvalidKey.isOfKey {error : BuildError} (invalid : error.IsInvalidKey) :
    error.IsOfKey := by
  obtain ⟨reason, rfl⟩ := invalid
  exact .invalid reason

theorem IsMissingKey.isOfKey {error : BuildError} (missing : error.IsMissingKey) :
    error.IsOfKey := by
  obtain ⟨keyId, rfl⟩ := missing
  exact .missing keyId

end BuildError

def FailsAs {α : Type} (kind : BuildError → Prop) (answer : Except BuildError α) : Prop :=
  ∀ error, answer = .error error → kind error

namespace FailsAs

variable {α β : Type} {kind : BuildError → Prop} {answer : Except BuildError α}

theorem ok (value : α) : FailsAs kind (.ok value : Except BuildError α) := fun _ failed => by
  contradiction

theorem error {error : BuildError} (fits : kind error) :
    FailsAs kind (.error error : Except BuildError α) := by
  intro other failed
  injection failed with same
  exact same ▸ fits

theorem bind (first : FailsAs kind answer) {next : α → Except BuildError β}
    (later : ∀ value, answer = .ok value → FailsAs kind (next value)) :
    FailsAs kind (answer >>= next) := by
  cases answer with
  | ok value => exact later value rfl
  | error problem => exact .error (first problem rfl)

theorem map (first : FailsAs kind answer) (change : α → β) : FailsAs kind (answer.map change) := by
  cases answer with
  | ok value => exact .ok _
  | error problem => exact .error (first problem rfl)

theorem mapError {ε : Type} {change : ε → BuildError} (fits : ∀ problem, kind (change problem))
    (answer : Except ε α) : FailsAs kind (answer.mapError change) := by
  cases answer with
  | ok value => exact .ok _
  | error problem => exact .error (fits problem)

theorem mono {wider : BuildError → Prop} (fails : FailsAs kind answer)
    (widens : ∀ error, kind error → wider error) : FailsAs wider answer :=
  fun error failed => widens error (fails error failed)

end FailsAs

namespace Jwk

variable {key : Jwk} {curve : String}

def foreignCurve (curve : String) : BuildError :=
  .unsupportedAlgorithm ("EC curve '" ++ curve ++ "'")

structure IsForeign (key : Jwk) (curve : String) : Prop where
  elliptic : key.kty = "EC"
  named : key.crv = some curve
  other : curve ≠ "P-256"

def IsUnfit (key : Jwk) (error : BuildError) : Prop :=
  error.IsInvalidKey ∨ ∃ curve, key.IsForeign curve ∧ error = foreignCurve curve

theorem octets_failsAs (key : Jwk) (member : String) (text : Option String) :
    FailsAs BuildError.IsInvalidKey (key.octets member text) := by
  cases text with
  | none => exact .error ⟨_, rfl⟩
  | some text =>
      simp only [octets]
      cases Base64.decodeUrl text with
      | ok bytes => exact .ok bytes
      | error fault => exact .error ⟨_, rfl⟩

theorem number_failsAs (key : Jwk) (member : String) (text : Option String) :
    FailsAs BuildError.IsInvalidKey (key.number member text) :=
  (key.octets_failsAs member text).map _

theorem rsaResult_failsAs {α : Type} (answer : Except Rsa.KeyProblem α) :
    FailsAs BuildError.IsInvalidKey (rsaResult answer) :=
  .mapError (fun _ => ⟨_, rfl⟩) answer

theorem requireP256_foreign (named : key.crv = some curve) (other : curve ≠ "P-256") :
    key.requireP256 = .error (foreignCurve curve) := by
  rw [requireP256, named]
  split
  · next same => exact absurd (Option.some.inj same) other
  · next same =>
      injection same with same
      rw [same]
      rfl
  · contradiction

theorem requireP256_failsAs (key : Jwk) :
    FailsAs (fun error => error.IsInvalidKey ∨
      ∃ curve, key.crv = some curve ∧ curve ≠ "P-256" ∧ error = foreignCurve curve)
      key.requireP256 := by
  cases named : key.crv with
  | none =>
      rw [requireP256, named]
      exact .error (.inl ⟨_, rfl⟩)
  | some curve =>
      by_cases same : curve = "P-256"
      · rw [requireP256, named, same]
        exact .ok ()
      · rw [requireP256_foreign named same]
        exact .error (.inr ⟨curve, rfl, same, rfl⟩)

theorem toSigningKey_foreign (foreign : key.IsForeign curve) :
    key.toSigningKey = .error (foreignCurve curve) := by
  rw [toSigningKey, foreign.elliptic]
  simp only [requireP256_foreign foreign.named foreign.other]
  rfl

theorem toSigningKey_failsAs (key : Jwk) : FailsAs key.IsUnfit key.toSigningKey := by
  have invalid {α : Type} {answer : Except BuildError α}
      (fails : FailsAs BuildError.IsInvalidKey answer) : FailsAs key.IsUnfit answer :=
    fails.mono fun _ => .inl
  rw [toSigningKey]
  split
  · apply invalid
    refine (key.number_failsAs _ _).bind fun n _ => ?_
    refine (key.number_failsAs _ _).bind fun e _ => ?_
    refine (key.number_failsAs _ _).bind fun d _ => ?_
    refine (key.number_failsAs _ _).bind fun p _ => ?_
    refine (key.number_failsAs _ _).bind fun q _ => ?_
    exact (rsaResult_failsAs _).map _
  · next elliptic =>
      have curve : FailsAs key.IsUnfit key.requireP256 := by
        refine key.requireP256_failsAs.mono ?_
        rintro error (invalid | ⟨curve, named, other, same⟩)
        · exact .inl invalid
        · exact .inr ⟨curve, ⟨elliptic, named, other⟩, same⟩
      refine curve.bind fun _ _ => (invalid (key.octets_failsAs _ _)).bind fun d _ => ?_
      split
      · exact .ok _
      · exact .error (.inl ⟨_, rfl⟩)
  · exact invalid ((key.octets_failsAs _ _).map _)
  · exact .error (.inl ⟨_, rfl⟩)

theorem toEncryptionKey_failsAs (key : Jwk) :
    FailsAs (fun error => error.IsInvalidKey ∨ error.IsUnsupported) key.toEncryptionKey := by
  rw [toEncryptionKey]
  split
  · apply FailsAs.mono _ fun _ => Or.inl
    refine (key.number_failsAs _ _).bind fun n _ => ?_
    refine (key.number_failsAs _ _).bind fun e _ => ?_
    exact (rsaResult_failsAs _).map _
  · exact .error (.inr ⟨_, rfl⟩)

end Jwk

namespace JwkSet

theorem ofBytes_failsAs (material : Bytes) :
    FailsAs BuildError.IsInvalidKey (ofBytes material) := by
  rw [ofBytes]
  cases Json.decode material with
  | error problem => exact .error ⟨_, rfl⟩
  | ok value =>
      simp only [ofJson]
      split
      · exact .mapError (fun _ => ⟨_, rfl⟩) _
      · cases Jwk.record.ofJson value with
        | ok key => exact .ok _
        | error problem => exact .error ⟨_, rfl⟩

theorem select_empty {set : JwkSet} (empty : set.keys = []) :
    set.select none = .error (.invalidKey "JWK set is empty") := by
  simp only [select, empty]

theorem select_failsAs (set : JwkSet) (wanted : Option String) :
    FailsAs (fun error => error.IsMissingKey ∨
      (wanted = none ∧ set.keys = [] ∧ error = .invalidKey "JWK set is empty"))
      (set.select wanted) := by
  cases wanted with
  | some keyId =>
      rw [select]
      split
      · exact .ok _
      · exact .error (.inl ⟨keyId, rfl⟩)
  | none =>
      rcases keys : set.keys with _ | ⟨first, _ | ⟨second, rest⟩⟩
      · rw [select_empty keys]
        exact .error (.inr ⟨rfl, rfl, rfl⟩)
      · rw [select_only keys]
        exact .ok _
      · rw [select_ambiguous (by simp [keys])]
        exact .error (.inl ⟨unsetKeyId, rfl⟩)

end JwkSet

section Armour

theorem armouredText_failsAs (material : Bytes) :
    FailsAs BuildError.IsInvalidKey (armouredText material) := by
  rw [armouredText]
  split
  · exact .ok _
  · exact .error ⟨_, rfl⟩

theorem armourLabel_failsAs (text : List Char) :
    FailsAs BuildError.IsInvalidKey (armourLabel text) :=
  .mapError (fun _ => ⟨_, rfl⟩) _

theorem SigningKey.ofBlock_failsAs (name : String) (text : List Char) :
    FailsAs BuildError.IsInvalidKey (ofBlock name text) := by
  unfold ofBlock
  split
  · split
    · exact .ok _
    · exact .error ⟨_, rfl⟩
  · split
    · exact .ok _
    · exact .error ⟨_, rfl⟩
  · exact .error ⟨_, rfl⟩

theorem SigningKey.ofArmour_failsAs (material : Bytes) :
    FailsAs BuildError.IsInvalidKey (ofArmour material) :=
  (armouredText_failsAs material).bind fun text _ =>
    (armourLabel_failsAs text).bind fun name _ => ofBlock_failsAs name text

theorem EncryptionKey.ofKeyInfo_failsAs (info : Der.KeyInfo) :
    FailsAs (fun error => error.IsInvalidKey ∨ error.IsUnsupported) (ofKeyInfo info) := by
  simp only [ofKeyInfo]
  split
  · split
    · exact .ok _
    · exact .error (.inl ⟨_, rfl⟩)
  · split
    · exact .error (.inr ⟨_, rfl⟩)
    · exact .error (.inl ⟨_, rfl⟩)

theorem EncryptionKey.ofBlock_failsAs (name : String) (text : List Char) :
    FailsAs (fun error => error.IsInvalidKey ∨ error.IsUnsupported) (ofBlock name text) := by
  unfold ofBlock
  split
  · split
    · exact ofKeyInfo_failsAs _
    · exact .error (.inl ⟨_, rfl⟩)
  · split
    · exact .ok _
    · exact .error (.inl ⟨_, rfl⟩)
  · exact .error (.inl ⟨_, rfl⟩)

theorem EncryptionKey.ofArmour_failsAs (material : Bytes) :
    FailsAs (fun error => error.IsInvalidKey ∨ error.IsUnsupported) (ofArmour material) :=
  ((armouredText_failsAs material).mono fun _ => .inl).bind fun text _ =>
    ((armourLabel_failsAs text).mono fun _ => .inl).bind fun name _ => ofBlock_failsAs name text

end Armour

namespace KeyReader

variable {κ : Type} {reader : KeyReader κ} {kind : BuildError → Prop}

/-- In either format reading fails as its parts do: reading a set, selecting, or making a key of
what was selected. -/
theorem read_failsAs (armour : ∀ material, FailsAs kind (reader.ofArmour material))
    (invalid : ∀ error : BuildError, error.IsInvalidKey → kind error)
    (missing : ∀ error : BuildError, error.IsMissingKey → kind error) {format : KeyFormat}
    {keyId : Option String} {material : Bytes}
    (made : ∀ set key, format = .jwk → JwkSet.ofBytes material = .ok set →
      set.select keyId = .ok key → FailsAs kind (reader.ofJwk key)) :
    FailsAs kind (reader.read format keyId material) := by
  cases format with
  | pem => exact armour material
  | jwk =>
      refine ((JwkSet.ofBytes_failsAs material).mono invalid).bind fun set decoded => ?_
      have selects : FailsAs kind (set.select keyId) := by
        refine (set.select_failsAs keyId).mono ?_
        rintro error (absent | ⟨_, _, rfl⟩)
        · exact missing error absent
        · exact invalid _ ⟨_, rfl⟩
      exact selects.bind fun key selected => made set key rfl decoded selected

theorem signing_read_failsAs (format : KeyFormat) (keyId : Option String) (material : Bytes) :
    FailsAs (fun error => error.IsOfKey ∨ ∃ set key curve, format = .jwk ∧
        JwkSet.ofBytes material = .ok set ∧ set.select keyId = .ok key ∧ key.IsForeign curve ∧
        error = Jwk.foreignCurve curve) (signing.read format keyId material) := by
  refine read_failsAs ?_ (fun _ invalid => .inl invalid.isOfKey)
    (fun _ missing => .inl missing.isOfKey) ?_
  · exact fun other => (SigningKey.ofArmour_failsAs other).mono fun _ invalid =>
      .inl invalid.isOfKey
  · intro set key format decoded selected
    refine key.toSigningKey_failsAs.mono ?_
    rintro problem (invalid | ⟨curve, foreign, same⟩)
    · exact .inl invalid.isOfKey
    · exact .inr ⟨set, key, curve, format, decoded, selected, foreign, same⟩

theorem encryption_read_failsAs (format : KeyFormat) (keyId : Option String) (material : Bytes) :
    FailsAs (fun error => error.IsOfKey ∨ error.IsUnsupported)
      (encryption.read format keyId material) := by
  have widens : ∀ problem : BuildError, problem.IsInvalidKey ∨ problem.IsUnsupported →
      problem.IsOfKey ∨ problem.IsUnsupported :=
    fun _ => .imp_left BuildError.IsInvalidKey.isOfKey
  refine read_failsAs ?_ (fun _ invalid => .inl invalid.isOfKey)
    (fun _ missing => .inl missing.isOfKey) ?_
  · exact fun other => (EncryptionKey.ofArmour_failsAs other).mono widens
  · exact fun _ key _ _ _ => key.toEncryptionKey_failsAs.mono widens

end KeyReader

def KeySource.FailsToLoad (source : KeySource) : Prop :=
  ∀ location error, source.answer location = .failed error →
    ∃ place reason, error = .keyLoad place reason

namespace KeyReader

variable {κ : Type} {reader : KeyReader κ} {source : KeySource} {spec : KeySpec}
  {error : BuildError}

theorem failed_of_resolve (loads : source.FailsToLoad)
    (failed : (reader.resolve source spec).outcome = .failed error) :
    error.IsOfKey ∨ ∃ location material, spec.target = .ok location ∧
      source.answer location = .done material ∧
      reader.read spec.format spec.keyId material = .error error := by
  obtain ⟨location, target, unread | ⟨material, answered, refused⟩⟩ :=
    resolve_eq_failed_iff.mp failed
  · obtain ⟨place, reason, rfl⟩ := loads location error unread
    exact .inl (.unloaded place reason)
  · exact .inr ⟨location, material, target, answered, refused⟩

end KeyReader

namespace Config

variable {config : Config} {source : KeySource} {requested : Option String} {error : BuildError}

def MeetsForeign (config : Config) (source : KeySource) (requested : Option String)
    (error : BuildError) : Prop :=
  ∃ set key curve, config.signingKey.HoldsSet source set ∧
    set.select (requested.or config.signingKey.keyId) = .ok key ∧ key.IsForeign curve ∧
    error = Jwk.foreignCurve curve

theorem resolveSigning_failed (loads : source.FailsToLoad)
    (failed : (config.resolveSigning source requested).outcome = .failed error) :
    error.IsOfKey ∨ config.MeetsForeign source requested error := by
  rcases KeyReader.failed_of_resolve loads failed with
    known | ⟨location, material, target, answered, refused⟩
  · exact .inl known
  · obtain ⟨available, present⟩ := KeySpec.target_eq_ok_iff.mp target
    rcases KeyReader.signing_read_failsAs _ _ _ error refused with
      known | ⟨set, key, curve, format, decoded, selected, foreign, same⟩
    · exact .inl known
    · exact .inr ⟨set, key, curve, ⟨available, format, location, material, present, answered,
        decoded⟩, selected, foreign, same⟩

theorem resolveSigning_foreign (foreign : config.MeetsForeign source requested error) :
    (config.resolveSigning source requested).outcome = .failed error := by
  obtain ⟨set, key, curve, holds, selected, foreign, rfl⟩ := foreign
  have stored : (config.key .signing).HoldsSet source set := holds
  have resolved : (config.resolveSigning source requested).outcome = .ofExcept
      (((set.select (requested.or config.signingKey.keyId)).bind Jwk.toSigningKey).map .key) :=
    KeyReader.outcome_resolve_jwk stored
  rw [resolved, selected]
  simp only [Except.bind, Jwk.toSigningKey_foreign foreign]
  rfl

theorem resolveEncryption_failed (loads : source.FailsToLoad)
    (failed : (config.resolveEncryption source requested).outcome = .failed error) :
    error.IsOfKey ∨ error.IsUnsupported := by
  rcases KeyReader.failed_of_resolve loads failed with known | ⟨_, _, _, _, refused⟩
  · exact .inl known
  · exact KeyReader.encryption_read_failsAs _ _ _ error refused

structure FailsInKind (config : Config) (source : KeySource) : Prop where
  signing : ∀ requested error,
    (config.resolveSigning source requested).outcome = .failed error →
      error.IsOfKey ∨ config.MeetsForeign source requested error
  foreign : ∀ requested error, config.MeetsForeign source requested error →
    (config.resolveSigning source requested).outcome = .failed error ∧ ¬ error.IsOfKey
  encryption : ∀ requested error,
    (config.resolveEncryption source requested).outcome = .failed error →
      error.IsOfKey ∨ error.IsUnsupported
  selection : ∀ (set : JwkSet) wanted error, set.select wanted = .error error →
    error.IsMissingKey ∨
      (wanted = none ∧ set.keys = [] ∧ error = .invalidKey "JWK set is empty")

/-- Resolving a key fails as a key that cannot be loaded, is not valid or is not in its set. Where
it fails as an algorithm that is not supported, the key is an elliptic one of another curve, or no
key to encrypt with. -/
theorem failsInKind (config : Config) {source : KeySource} (loads : source.FailsToLoad) :
    config.FailsInKind source where
  signing _ _ := resolveSigning_failed loads
  foreign requested error foreign := by
    refine ⟨resolveSigning_foreign foreign, ?_⟩
    obtain ⟨_, _, _, _, _, _, rfl⟩ := foreign
    intro known
    cases known
  encryption _ _ := resolveEncryption_failed loads
  selection set wanted := set.select_failsAs wanted

def strangerKey : Jwk := { Jwk.blank "EC" with
  crv := some "P-384"
  d := some (Base64.encodeUrl (List.replicate 32 7)) }

def strangerSource : KeySource := .ofMemory [("stranger", strangerKey.toJson.encode)]

def strangerConfig : Config := { standard with signingKey := .jwk "stranger" }

end Config

theorem KeySource.ofMemory_failsToLoad (entries : Members Bytes) :
    (KeySource.ofMemory entries).FailsToLoad := by
  intro location error failed
  simp only [ofMemory] at failed
  split at failed
  · contradiction
  · injection failed with same
    exact ⟨location, _, same.symm⟩

namespace Config

theorem strangerSource_meets :
    strangerConfig.MeetsForeign strangerSource none (Jwk.foreignCurve "P-384") :=
  ⟨⟨[strangerKey]⟩, strangerKey, "P-384",
    ⟨rfl, rfl, "stranger", _, rfl, rfl, Jwk.ofBytes_toJson _⟩, rfl, ⟨rfl, rfl, by decide⟩, rfl⟩

theorem failsInKind_stranger :
    strangerSource.FailsToLoad ∧
      (strangerConfig.resolveSigning strangerSource none).outcome =
        .failed (.unsupportedAlgorithm "EC curve 'P-384'") := by
  have loads : strangerSource.FailsToLoad := KeySource.ofMemory_failsToLoad _
  exact ⟨loads, ((failsInKind strangerConfig loads).foreign none _ strangerSource_meets).1⟩

/-- Neither a signing key nor the choice of a key fails in the kinds of keys alone. -/
theorem not_failsOfKeyAlone :
    ¬ (∀ (config : Config) (source : KeySource), source.FailsToLoad → ∀ requested error,
      (config.resolveSigning source requested).outcome = .failed error → error.IsOfKey) ∧
      ¬ ∀ (set : JwkSet) wanted error, set.select wanted = .error error →
        error.IsMissingKey := by
  constructor
  · intro always
    have known := always strangerConfig strangerSource (KeySource.ofMemory_failsToLoad _) none _
      (resolveSigning_foreign strangerSource_meets)
    cases known
  · intro always
    obtain ⟨keyId, same⟩ := always ⟨[]⟩ none _ (JwkSet.select_empty rfl)
    contradiction

end Config

end Jose
