import Jose.Json.Record

/-!
What a key is for, and how its material is stored.
-/

namespace Jose

inductive KeyRole where
  | signing
  | keyEncryption
  deriving DecidableEq, Repr

namespace KeyRole

def name : KeyRole → String
  | signing => "signing"
  | keyEncryption => "key-encryption"

end KeyRole

inductive KeyFormat where
  | pem
  | jwk
  deriving DecidableEq, Repr

namespace KeyFormat

/-- The format's name in log fields. -/
def label : KeyFormat → String
  | pem => "PEM"
  | jwk => "JWK"

/-- The format's name in configurations. -/
def name : KeyFormat → String
  | pem => "pem"
  | jwk => "jwk"

def known : Members KeyFormat := [("pem", pem), ("jwk", jwk)]

end KeyFormat

end Jose
