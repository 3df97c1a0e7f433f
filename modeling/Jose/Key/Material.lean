import Jose.Algorithm
import Jose.P256.Curve
import Jose.Rsa.Key

/-!
Keys that have been read. A signing key belongs to one family of algorithms; an encryption key is
always an RSA public key.
-/

namespace Jose

inductive SigningKey where
  | rsa (key : Rsa.PrivateKey)
  | p256 (scalar : Nat)
  | hmac (secret : Bytes)
  deriving DecidableEq, Repr

namespace SigningKey

/-- The family's name, which is all that is ever shown of a signing key. -/
def family : SigningKey → String
  | rsa _ => "RSA"
  | p256 _ => "EC P-256"
  | hmac _ => "HMAC"

def naturalAlgorithm : SigningKey → SignatureAlgorithm
  | rsa _ => .rs256
  | p256 _ => .es256
  | hmac _ => .hs256

def supports : SigningKey → SignatureAlgorithm → Bool
  | rsa _, .rs256 | rsa _, .rs384 | rsa _, .rs512 => true
  | p256 _, .es256 => true
  | hmac _, .hs256 | hmac _, .hs384 | hmac _, .hs512 => true
  | _, _ => false

/-- How a signing key stands in a log or message: its family and nothing of its material. -/
def shown (key : SigningKey) : String := "SigningKey(" ++ Text.quoted key.family ++ ")"

end SigningKey

inductive EncryptionKey where
  | rsa (key : Rsa.PublicKey)
  deriving DecidableEq, Repr

namespace EncryptionKey

def naturalAlgorithm : EncryptionKey → KeyAlgorithm
  | rsa _ => .rsaOaep256

end EncryptionKey

end Jose
