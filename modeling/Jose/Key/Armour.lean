import Jose.Der
import Jose.Key.Material
import Jose.Pem

/-!
Keys in armoured text. The label of the first block decides what it can hold: a private key for
signing, or a public key for wrapping.
-/

namespace Jose

def armouredText (material : Bytes) : Except BuildError (List Char) :=
  match Bytes.text? material with
  | some text => .ok (Text.trim text.toList)
  | none => .error (.invalidKey "PEM key is not valid UTF-8")

def armourLabel (text : List Char) : Except BuildError String :=
  (Pem.label text).mapError fun problem => .invalidKey problem.message

namespace Rsa

/-- A private key in its own form: a version, the five numbers, and three more that are not used. -/
def PrivateKey.ofDer? (bytes : Bytes) : Option PrivateKey := do
  match ← Der.naturals? 9 bytes with
  | [0, n, e, d, p, q, _, _, _] => (PrivateKey.make n e d p q).toOption
  | _ => none

def PublicKey.ofDer? (bytes : Bytes) : Option PublicKey := do
  match ← Der.naturals? 2 bytes with
  | [n, e] => (PublicKey.make n e).toOption
  | _ => none

end Rsa

namespace P256

/-- A curve or public key that stands beside a private scalar fits it. -/
def fits (scalar : Nat) (curve publicKey : Option Der.Element) : Option Unit := do
  match curve with
  | none => pure ()
  | some element => do
      let inner ← Der.explicit? element
      guard (inner = ⟨Der.objectId, Der.p256Id⟩)
  match publicKey with
  | none => pure ()
  | some element => do
      let inner ← Der.explicit? element
      guard (inner.tag = Der.bitString)
      let octets ← Der.wholeBits? inner.content
      let point := publicPoint scalar
      guard (octets = point.encode ∨ octets = point.compress)

def scalarOfDer? (bytes : Bytes) : Option Nat := do
  let content ← Der.whole? Der.sequence bytes
  let (version, rest) ← Der.naturalField? content
  guard (version = 1)
  let (octets, rest) ← Der.field? Der.octetString rest
  let (curve, rest) ← Der.contextField? 0 rest.length rest
  let (publicKey, rest) ← Der.contextField? 1 rest.length rest
  guard rest.isEmpty
  let scalar ← scalar? octets
  fits scalar curve publicKey
  return scalar

end P256

namespace SigningKey

def ofKeyInfo? (info : Der.KeyInfo) : Option SigningKey :=
  if info.algorithm = Der.rsaAlgorithm then (Rsa.PrivateKey.ofDer? info.key).map .rsa
  else if info.algorithm = Der.p256Algorithm then (P256.scalarOfDer? info.key).map .p256
  else none

def ofBlock (name : String) (text : List Char) : Except BuildError SigningKey :=
  match name with
  | "PRIVATE KEY" =>
      match ((Pem.decode? name text).bind Der.privateKeyInfo?).bind ofKeyInfo? with
      | some key => .ok key
      | none => .error (.invalidKey "PKCS#8 private key is neither RSA nor P-256")
  | "RSA PRIVATE KEY" =>
      match (Pem.decode? name text).bind Rsa.PrivateKey.ofDer? with
      | some key => .ok (.rsa key)
      | none => .error (.invalidKey "Invalid PKCS#1 RSA private key")
  | _ => .error (.invalidKey ("PEM block '" ++ name ++ "' is not a supported signing key"))

def ofArmour (material : Bytes) : Except BuildError SigningKey := do
  let text ← armouredText material
  let name ← armourLabel text
  ofBlock name text

end SigningKey

namespace EncryptionKey

def noCurves : String :=
  "EC keys cannot be used for key encryption; an RSA public key is required"

/-- A public key with its algorithm; a point of the curve is told from what is no key at all. -/
def ofKeyInfo (info : Der.KeyInfo) : Except BuildError EncryptionKey :=
  let unknown := .error (.invalidKey "Unrecognized SubjectPublicKeyInfo")
  if info.algorithm = Der.rsaAlgorithm then
    match Rsa.PublicKey.ofDer? info.key with
    | some key => .ok (.rsa key)
    | none => unknown
  else if info.algorithm = Der.p256Algorithm ∧ (P256.Point.decode? info.key).isSome then
    .error (.unsupportedAlgorithm noCurves)
  else unknown

def ofBlock (name : String) (text : List Char) : Except BuildError EncryptionKey :=
  match name with
  | "PUBLIC KEY" =>
      match (Pem.decode? name text).bind Der.publicKeyInfo? with
      | some info => ofKeyInfo info
      | none => .error (.invalidKey "Unrecognized SubjectPublicKeyInfo")
  | "RSA PUBLIC KEY" =>
      match (Pem.decode? name text).bind Rsa.PublicKey.ofDer? with
      | some key => .ok (.rsa key)
      | none => .error (.invalidKey "Invalid PKCS#1 RSA public key")
  | _ => .error (.invalidKey ("PEM block '" ++ name ++ "' is not a supported key-encryption key"))

def ofArmour (material : Bytes) : Except BuildError EncryptionKey := do
  let text ← armouredText material
  let name ← armourLabel text
  ofBlock name text

end EncryptionKey

end Jose
