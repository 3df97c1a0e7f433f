import Jose.Cipher.Gcm
import Jose.Key.Resolution
import Jose.Noise
import Jose.Rsa.Oaep
import Jose.Token

/-!
Encrypted tokens. A fresh content key encrypts the payload and is itself wrapped for the receiver.
The tag also covers the encoded header, so that no part of the token can be exchanged.
-/

namespace Jose

structure JweChoices where
  keyId : Option String
  contentAlgorithm : Option ContentAlgorithm
  deriving DecidableEq, Repr

def JweChoices.blank : JweChoices := ⟨none, none⟩

/-- The random octets of one token. -/
structure Entropy where
  tokenId : Noise
  contentKey : Noise
  seed : Noise
  nonce : Noise

namespace Jwe

def header (config : Config) (choices : JweChoices) (nested : Bool) (key : EncryptionKey) :
    JweHeader :=
  ((JweHeader.make key.naturalAlgorithm
    (choices.contentAlgorithm.getD config.contentAlgorithm)).nested nested).withKeyId choices.keyId

def requireKey : Resolution EncryptionKey → Except BuildError EncryptionKey
  | .key key => .ok key
  | .unavailable absence => .error (.keyResolution .keyEncryption absence.reason)

def wrap (key : EncryptionKey) (seed contentKey : Bytes) : Except BuildError Bytes :=
  match key with
  | .rsa publicKey =>
      match publicKey.wrap? seed contentKey with
      | some wrapped => .ok wrapped
      | none => .error (.encryption "RSA-OAEP key wrap failed: message too long")

/-- The encrypted payload and the tag over it. -/
structure Content where
  ciphertext : Bytes
  tag : Bytes
  deriving DecidableEq, Repr

def Content.ofSealed (bytes : Bytes) : Content :=
  let length := bytes.length - Gcm.tagLength
  ⟨bytes.take length, bytes.drop length⟩

def sizeProblem (enc : ContentAlgorithm) (length : Nat) : BuildError :=
  .encryption (enc.name ++ " requires a " ++ toString enc.keyLength ++ " byte key, got " ++
    toString length)

def encryptContent (enc : ContentAlgorithm) (contentKey nonce associated payload : Bytes) :
    Except BuildError Content :=
  if contentKey.length = enc.keyLength then
    .ok (.ofSealed (Gcm.close contentKey nonce associated payload))
  else .error (sizeProblem enc contentKey.length)

def encrypt (config : Config) (source : KeySource) (entropy : Entropy) (payload : Bytes)
    (nested : Bool) (choices : JweChoices) : Build Token := do
  let resolution ← config.resolveEncryption source choices.keyId
  let key ← Build.ofExcept (requireKey resolution)
  let header := header config choices nested key
  let protectedText := Base64.encodeUrl header.toJson.encode
  let contentKey := entropy.contentKey.take header.enc.keyLength
  let nonce := entropy.nonce.take Gcm.nonceLength
  let wrapped ← Build.ofExcept (wrap key (entropy.seed.take Rsa.hashLength) contentKey)
  let content ← Build.ofExcept
    (encryptContent header.enc contentKey nonce (Bytes.ofText protectedText) payload)
  Build.report (.builtJwe header.alg.name header.enc.name nested header.kid)
  return .ofSegments (protectedText ::
    [wrapped, nonce, content.ciphertext, content.tag].map Base64.encodeUrl)

structure Opened where
  contentKey : Bytes
  plaintext : Bytes
  deriving DecidableEq, Repr

def segmentOctets? (text : String) : Option Bytes := (Base64.decodeUrl text).toOption

/-- Opens a token with the private key that it was encrypted for. -/
def open? (key : Rsa.PrivateKey) (token : Token) : Option Opened :=
  match token.segments with
  | [protectedText, wrappedText, nonceText, ciphertextText, tagText] => do
      let header ← (JweHeader.record.ofBytes (← segmentOctets? protectedText)).toOption
      let wrapped ← segmentOctets? wrappedText
      let nonce ← segmentOctets? nonceText
      let ciphertext ← segmentOctets? ciphertextText
      let tag ← segmentOctets? tagText
      let contentKey ← key.unwrap? wrapped
      guard (contentKey.length = header.enc.keyLength)
      let plaintext ← Gcm.open? contentKey nonce (Bytes.ofText protectedText) (ciphertext ++ tag)
      return ⟨contentKey, plaintext⟩
  | _ => none

end Jwe

end Jose
