import Jose.Algorithm
import Jose.Json.Write
import Jose.Key.Files

/-!
The configuration of builds: where the key of each role lies, and the defaults of a token. It is a
JSON document in which every member may be left out.
-/

namespace Jose

structure KeyConfig where
  location : Option String
  format : KeyFormat
  keyId : Option String
  available : Bool
  deriving DecidableEq, Repr

namespace KeyConfig

def standard : KeyConfig := ⟨none, .pem, none, true⟩

def pem (location : String) : KeyConfig := { standard with location := some location }

def jwk (location : String) : KeyConfig :=
  { standard with location := some location, format := .jwk }

def withKeyId (keyId : String) (key : KeyConfig) : KeyConfig := { key with keyId := some keyId }

def withAvailable (available : Bool) (key : KeyConfig) : KeyConfig := { key with available }

def toJson (key : KeyConfig) : Json :=
  .object [
    ("location", Json.ofOption .text key.location),
    ("format", .text key.format.name),
    ("key_id", Json.ofOption .text key.keyId),
    ("available", .bool key.available)]

def set (origin : Origin) (name : String) (item : Document) (key : KeyConfig) :
    Except Problem KeyConfig :=
  match name with
  | "location" => (item.toOption Document.toText).map fun location => { key with location }
  | "format" => (item.toVariant origin KeyFormat.known).map fun format => { key with format }
  | "key_id" => (item.toOption Document.toText).map fun keyId => { key with keyId }
  | "available" => item.toBool.map fun available => { key with available }
  | _ => .ok key

def record : Record KeyConfig where
  title := "struct KeyConfig"
  fields := ["location", "format", "key_id", "available"]
  required := []
  positional := []
  blank := standard
  set := set

end KeyConfig

structure Config where
  signingKey : KeyConfig
  encryptionKey : KeyConfig
  /-- Seconds from the issue time to the default expiry. -/
  lifespan : Nat
  issuer : Option String
  audience : Option String
  signatureAlgorithm : Option SignatureAlgorithm
  contentAlgorithm : ContentAlgorithm
  /-- Lets a token go out unsigned where no signing key is available. -/
  unsignedFallback : Bool
  deriving DecidableEq, Repr

namespace Config

def standard : Config where
  signingKey := .standard
  encryptionKey := .standard
  lifespan := 300
  issuer := none
  audience := none
  signatureAlgorithm := none
  contentAlgorithm := .standard
  unsignedFallback := false

def key (role : KeyRole) (config : Config) : KeyConfig :=
  match role with
  | .signing => config.signingKey
  | .keyEncryption => config.encryptionKey

def toJson (config : Config) : Json :=
  .object [
    ("signing_key", config.signingKey.toJson),
    ("encryption_key", config.encryptionKey.toJson),
    ("token_lifespan_seconds", .int config.lifespan),
    ("issuer", Json.ofOption .text config.issuer),
    ("audience", Json.ofOption .text config.audience),
    ("signature_algorithm",
      Json.ofOption (fun algorithm => .text algorithm.name) config.signatureAlgorithm),
    ("content_encryption_algorithm", .text config.contentAlgorithm.name),
    ("allow_unsigned_fallback", .bool config.unsignedFallback)]

def set (origin : Origin) (name : String) (item : Document) (config : Config) :
    Except Problem Config :=
  match name with
  | "signing_key" =>
      (KeyConfig.record.read origin item).map fun signingKey => { config with signingKey }
  | "encryption_key" =>
      (KeyConfig.record.read origin item).map fun encryptionKey => { config with encryptionKey }
  | "token_lifespan_seconds" => item.toUnsigned.map fun lifespan => { config with lifespan }
  | "issuer" => (item.toOption Document.toText).map fun issuer => { config with issuer }
  | "audience" => (item.toOption Document.toText).map fun audience => { config with audience }
  | "signature_algorithm" =>
      (item.toOption (Document.toVariant origin SignatureAlgorithm.known)).map
        fun signatureAlgorithm => { config with signatureAlgorithm }
  | "content_encryption_algorithm" =>
      (item.toVariant origin ContentAlgorithm.known).map
        fun contentAlgorithm => { config with contentAlgorithm }
  | "allow_unsigned_fallback" =>
      item.toBool.map fun unsignedFallback => { config with unsignedFallback }
  | _ => .ok config

def record : Record Config where
  title := "struct JwtBuildConfig"
  fields := ["signing_key", "encryption_key", "token_lifespan_seconds", "issuer", "audience",
    "signature_algorithm", "content_encryption_algorithm", "allow_unsigned_fallback"]
  required := []
  positional := []
  blank := standard
  set := set

def patch (changes : Json) (config : Config) : Except Problem Config :=
  record.ofJson (config.toJson.merge changes)

def hasEmptyLocation (config : Config) (role : KeyRole) : Bool :=
  (config.key role).location == some ""

def validate (config : Config) : Except BuildError Unit :=
  if config.lifespan = 0 then
    .error (.config "token_lifespan_seconds must be greater than zero")
  else
    match [KeyRole.signing, KeyRole.keyEncryption].find? config.hasEmptyLocation with
    | some role => .error (.config (role.name ++ " key location must not be empty"))
    | none => .ok ()

def ofText (text : String) : Except BuildError Config :=
  match record.ofBytes (Bytes.ofText text) with
  | .error problem => .error (.config ("Invalid JSON configuration: " ++ problem.message))
  | .ok config => do
      config.validate
      return config

def ofFile (path : String) (files : Files) : Except BuildError Config :=
  match files.readText path with
  | .error problem => .error (.config ("Failed to read " ++ path ++ ": " ++ problem.message))
  | .ok text => ofText text

end Config

end Jose
