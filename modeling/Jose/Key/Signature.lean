import Jose.Key.Material
import Jose.P256.Ecdsa
import Jose.Rsa.Signature

/-!
Signing with a key. The algorithm must belong to the family of the key, and a shared secret must not
be shorter than what the algorithm's hash gives.
-/

namespace Jose

namespace SignatureAlgorithm

/-- The hash that goes with a shared secret. -/
def hmacKind : SignatureAlgorithm → Rsa.DigestKind
  | hs384 => .sha384
  | hs512 => .sha512
  | _ => .sha256

end SignatureAlgorithm

namespace SigningKey

def misfit (key : SigningKey) (algorithm : SignatureAlgorithm) : BuildError :=
  .unsupportedAlgorithm
    (algorithm.name ++ " cannot be used with a " ++ key.family ++ " key")

def shortSecret (algorithm : SignatureAlgorithm) (least length : Nat) : BuildError :=
  .invalidKey (algorithm.name ++ " requires a secret of at least " ++ toString least ++
    " bytes, got " ++ toString length)

def signHmac (secret : Bytes) (algorithm : SignatureAlgorithm) (input : Bytes) :
    Except BuildError Bytes :=
  let least := algorithm.leastSecret?.getD 0
  if secret.length < least then .error (shortSecret algorithm least secret.length)
  else .ok (algorithm.hmacKind.hash.hmac secret input)

def signRsa (key : Rsa.PrivateKey) (kind : Rsa.DigestKind) (input : Bytes) :
    Except BuildError Bytes :=
  (key.sign kind input).mapError fun problem =>
    .signing ("RSA signing failed: " ++ problem.message)

def signP256 (scalar : Nat) (input : Bytes) : Except BuildError Bytes :=
  (P256.sign? scalar input).elim (.error (.signing "ECDSA signing failed: signature error")) .ok

/-- The way to sign for a key and an algorithm; they must fit. -/
def dispatch (key : SigningKey) (algorithm : SignatureAlgorithm) (input : Bytes) :
    Except BuildError Bytes :=
  match key, algorithm with
  | .rsa key, .rs256 => signRsa key .sha256 input
  | .rsa key, .rs384 => signRsa key .sha384 input
  | .rsa key, .rs512 => signRsa key .sha512 input
  | .p256 scalar, .es256 => signP256 scalar input
  | .hmac secret, algorithm => signHmac secret algorithm input
  | _, algorithm => .error (.unsupportedAlgorithm algorithm.name)

def sign (key : SigningKey) (algorithm : SignatureAlgorithm) (input : Bytes) :
    Except BuildError Bytes :=
  if key.supports algorithm then key.dispatch algorithm input
  else .error (key.misfit algorithm)

end SigningKey

end Jose
