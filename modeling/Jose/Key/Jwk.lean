import Jose.Base64
import Jose.Header
import Jose.Key.Material

/-!
JSON Web Keys and sets of them. A key is selected by its id, or by being the only one, and its
members are base64url texts of big-endian numbers or of secrets.
-/

namespace Jose

structure Jwk where
  kty : String
  kid : Option String
  alg : Option String
  keyUse : Option String
  n : Option String
  e : Option String
  d : Option String
  p : Option String
  q : Option String
  crv : Option String
  x : Option String
  y : Option String
  k : Option String
  deriving DecidableEq, Repr

namespace Jwk

def blank (kty : String) : Jwk :=
  ⟨kty, none, none, none, none, none, none, none, none, none, none, none, none⟩

def toJson (key : Jwk) : Json :=
  .object ([("kty", .text key.kty)] ++ optionalMember "kid" key.kid ++
    optionalMember "alg" key.alg ++ optionalMember "use" key.keyUse ++
    optionalMember "n" key.n ++ optionalMember "e" key.e ++ optionalMember "d" key.d ++
    optionalMember "p" key.p ++ optionalMember "q" key.q ++ optionalMember "crv" key.crv ++
    optionalMember "x" key.x ++ optionalMember "y" key.y ++ optionalMember "k" key.k)

def set (_ : Origin) (name : String) (item : Document) (key : Jwk) : Except Problem Jwk :=
  let text := item.toOption Document.toText
  match name with
  | "kty" => item.toText.map fun kty => { key with kty }
  | "kid" => text.map fun kid => { key with kid }
  | "alg" => text.map fun alg => { key with alg }
  | "use" => text.map fun keyUse => { key with keyUse }
  | "n" => text.map fun n => { key with n }
  | "e" => text.map fun e => { key with e }
  | "d" => text.map fun d => { key with d }
  | "p" => text.map fun p => { key with p }
  | "q" => text.map fun q => { key with q }
  | "crv" => text.map fun crv => { key with crv }
  | "x" => text.map fun x => { key with x }
  | "y" => text.map fun y => { key with y }
  | "k" => text.map fun k => { key with k }
  | _ => .ok key

def record : Record Jwk where
  title := "struct Jwk"
  fields := ["kty", "kid", "alg", "use", "n", "e", "d", "p", "q", "crv", "x", "y", "k"]
  required := ["kty"]
  positional := ["kty"]
  blank := blank ""
  set := set

def octets (key : Jwk) (member : String) : Option String → Except BuildError Bytes
  | none =>
      .error (.invalidKey
        ("JWK " ++ key.kid.getD "<no kid>" ++ " is missing '" ++ member ++ "'"))
  | some text =>
      match Base64.decodeUrl text with
      | .ok bytes => .ok bytes
      | .error fault => .error (.invalidKey ("JWK member '" ++ member ++ "': " ++ fault.message))

def number (key : Jwk) (member : String) (text : Option String) : Except BuildError Nat :=
  (key.octets member text).map Bytes.toNat

def requireP256 (key : Jwk) : Except BuildError Unit :=
  match key.crv with
  | some "P-256" => .ok ()
  | some curve => .error (.unsupportedAlgorithm ("EC curve '" ++ curve ++ "'"))
  | none => .error (.invalidKey "EC JWK is missing 'crv'")

def rsaResult (answer : Except Rsa.KeyProblem α) : Except BuildError α :=
  answer.mapError fun problem => .invalidKey ("Invalid RSA JWK: " ++ problem.message)

def toSigningKey (key : Jwk) : Except BuildError SigningKey :=
  match key.kty with
  | "RSA" => do
      let n ← key.number "n" key.n
      let e ← key.number "e" key.e
      let d ← key.number "d" key.d
      let p ← key.number "p" key.p
      let q ← key.number "q" key.q
      (rsaResult (Rsa.PrivateKey.make n e d p q)).map .rsa
  | "EC" => do
      key.requireP256
      let d ← key.octets "d" key.d
      match P256.scalar? d with
      | some scalar => .ok (.p256 scalar)
      | none => .error (.invalidKey "Invalid P-256 JWK: signature error")
  | "oct" => (key.octets "k" key.k).map .hmac
  | other => .error (.invalidKey ("Unsupported JWK key type '" ++ other ++ "'"))

def toEncryptionKey (key : Jwk) : Except BuildError EncryptionKey :=
  match key.kty with
  | "RSA" => do
      let n ← key.number "n" key.n
      let e ← key.number "e" key.e
      (rsaResult (Rsa.PublicKey.make n e)).map .rsa
  | other =>
      .error (.unsupportedAlgorithm
        ("JWK key type '" ++ other ++ "' cannot be used for key encryption"))

end Jwk

structure JwkSet where
  keys : List Jwk
  deriving DecidableEq, Repr

namespace JwkSet

def toJson (set : JwkSet) : Json := .object [("keys", .list (set.keys.map Jwk.toJson))]

def set (origin : Origin) (name : String) (item : Document) (keys : JwkSet) :
    Except Problem JwkSet :=
  match name with
  | "keys" => (item.toList (Jwk.record.read origin)).map fun keys => { keys }
  | _ => .ok keys

def record : Record JwkSet where
  title := "struct JwkSet"
  fields := ["keys"]
  required := ["keys"]
  positional := ["keys"]
  blank := ⟨[]⟩
  set := set

/-- A value with a member `keys` is a set, any other a key of its own. -/
def ofJson (value : Json) : Except BuildError JwkSet :=
  if (value.get? "keys").isSome then
    (record.ofJson value).mapError fun problem =>
      .invalidKey ("Invalid JWK set: " ++ problem.message)
  else
    match Jwk.record.ofJson value with
    | .ok key => .ok ⟨[key]⟩
    | .error problem => .error (.invalidKey ("Invalid JWK: " ++ problem.message))

def ofBytes (bytes : Bytes) : Except BuildError JwkSet :=
  match Json.decode bytes with
  | .ok value => ofJson value
  | .error problem => .error (.invalidKey ("JWK is not valid JSON: " ++ problem.message))

def unsetKeyId : String := "<unset> (key id required to select from a JWK set with several keys)"

/-- The first key with the id; without an id the only key. -/
def select (set : JwkSet) : Option String → Except BuildError Jwk
  | some keyId =>
      match set.keys.find? fun key => key.kid == some keyId with
      | some key => .ok key
      | none => .error (.keyNotFound keyId)
  | none =>
      match set.keys with
      | [only] => .ok only
      | [] => .error (.invalidKey "JWK set is empty")
      | _ => .error (.keyNotFound unsetKeyId)

end JwkSet

end Jose
