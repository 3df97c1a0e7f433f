import Jose.Error

/-!
The registered algorithms: signatures, key management and content encryption. Each is written by its
registered name and read from nothing else.
-/

namespace Jose

inductive SignatureAlgorithm where
  | rs256
  | rs384
  | rs512
  | es256
  | hs256
  | hs384
  | hs512
  deriving DecidableEq, Repr

/-- The one way of wrapping a content key: RSAES-OAEP with SHA-256. -/
inductive KeyAlgorithm where
  | rsaOaep256
  deriving DecidableEq, Repr

inductive ContentAlgorithm where
  | a256gcm
  | a128gcm
  deriving DecidableEq, Repr

def algorithmNamed (known : Members α) (name : String) : Except BuildError α :=
  match known.get? name with
  | some algorithm => .ok algorithm
  | none => .error (.unsupportedAlgorithm name)

namespace SignatureAlgorithm

def name : SignatureAlgorithm → String
  | rs256 => "RS256"
  | rs384 => "RS384"
  | rs512 => "RS512"
  | es256 => "ES256"
  | hs256 => "HS256"
  | hs384 => "HS384"
  | hs512 => "HS512"

def all : List SignatureAlgorithm := [rs256, rs384, rs512, es256, hs256, hs384, hs512]

def known : Members SignatureAlgorithm := all.map fun algorithm => (algorithm.name, algorithm)

def ofName (name : String) : Except BuildError SignatureAlgorithm := algorithmNamed known name

/-- The least length of a shared secret, in octets. -/
def leastSecret? : SignatureAlgorithm → Option Nat
  | hs256 => some 32
  | hs384 => some 48
  | hs512 => some 64
  | _ => none

end SignatureAlgorithm

namespace KeyAlgorithm

def name : KeyAlgorithm → String
  | rsaOaep256 => "RSA-OAEP-256"

def known : Members KeyAlgorithm := [("RSA-OAEP-256", rsaOaep256)]

def ofName (name : String) : Except BuildError KeyAlgorithm := algorithmNamed known name

end KeyAlgorithm

namespace ContentAlgorithm

def name : ContentAlgorithm → String
  | a256gcm => "A256GCM"
  | a128gcm => "A128GCM"

def known : Members ContentAlgorithm := [("A256GCM", a256gcm), ("A128GCM", a128gcm)]

def ofName (name : String) : Except BuildError ContentAlgorithm := algorithmNamed known name

def keyLength : ContentAlgorithm → Nat
  | a256gcm => 32
  | a128gcm => 16

def standard : ContentAlgorithm := a256gcm

end ContentAlgorithm

end Jose
