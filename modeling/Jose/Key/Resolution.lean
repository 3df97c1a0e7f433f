import Jose.Config
import Jose.Key.Armour
import Jose.Key.Jwk
import Jose.Key.Source

/-!
Finding the key of a role. A key may be unavailable, which is not an error; one that is available
and has a location is read once, from there, and must be usable.
-/

namespace Jose

inductive Absence where
  | disabled
  | noLocation
  deriving DecidableEq, Repr

def Absence.reason : Absence → String
  | disabled => "key disabled by configuration"
  | noLocation => "no key location configured"

inductive Resolution (κ : Type) where
  | key (key : κ)
  | unavailable (absence : Absence)
  deriving DecidableEq, Repr

structure KeySpec where
  role : KeyRole
  location : Option String
  format : KeyFormat
  keyId : Option String
  available : Bool
  deriving DecidableEq, Repr

namespace KeySpec

/-- The id that the caller asks for wins over the configured one. -/
def ofConfig (role : KeyRole) (requested : Option String) (config : Config) : KeySpec :=
  let key := config.key role
  ⟨role, key.location, key.format, requested.or key.keyId, key.available⟩

def target (spec : KeySpec) : Except Absence String :=
  if spec.available then
    match spec.location with
    | some location => .ok location
    | none => .error .noLocation
  else .error .disabled

end KeySpec

def Absence.event (role : KeyRole) : Absence → Event
  | disabled => .keyDisabled role
  | noLocation => .noLocation role

structure KeyReader (κ : Type) where
  ofArmour : Bytes → Except BuildError κ
  ofJwk : Jwk → Except BuildError κ

namespace KeyReader

variable {κ : Type}

def signing : KeyReader SigningKey := ⟨SigningKey.ofArmour, Jwk.toSigningKey⟩

def encryption : KeyReader EncryptionKey := ⟨EncryptionKey.ofArmour, Jwk.toEncryptionKey⟩

/-- The key in some material. Only a set of keys has ids. -/
def read (reader : KeyReader κ) (format : KeyFormat) (keyId : Option String) (material : Bytes) :
    Except BuildError κ :=
  match format with
  | .pem => reader.ofArmour material
  | .jwk => do
      let set ← JwkSet.ofBytes material
      let key ← set.select keyId
      reader.ofJwk key

def resolve (reader : KeyReader κ) (source : KeySource) (spec : KeySpec) :
    Build (Resolution κ) :=
  match spec.target with
  | .error absence => do
      Build.report (absence.event spec.role)
      return .unavailable absence
  | .ok location => do
      let material ← source.read location
      let key ← Build.ofExcept (reader.read spec.format spec.keyId material)
      Build.report (.resolvedKey spec.role location spec.format)
      return .key key

end KeyReader

namespace Config

def resolveSigning (config : Config) (source : KeySource) (requested : Option String) :
    Build (Resolution SigningKey) :=
  KeyReader.signing.resolve source (.ofConfig .signing requested config)

def resolveEncryption (config : Config) (source : KeySource) (requested : Option String) :
    Build (Resolution EncryptionKey) :=
  KeyReader.encryption.resolve source (.ofConfig .keyEncryption requested config)

end Config

end Jose
