import Jose.Config

/-!
The finished claims of one token. Finishing adds what the caller left out: the issue time, the
expiry, an id, and the configured issuer and audience.
-/

namespace Jose

namespace ClaimName

def issuedAt : String := "iat"

def expiresAt : String := "exp"

def tokenId : String := "jti"

def issuer : String := "iss"

def audience : String := "aud"

def subject : String := "sub"

def notBefore : String := "nbf"

end ClaimName

structure Claims where
  entries : Members Json
  deriving Repr

namespace Claims

def greatestTime : Int := 0x7fffffffffffffff

/-- The expiry of a token of a given issue time; it stops at the greatest time. -/
def expiry (lifespan : Nat) (issued : Int) : Int :=
  min (issued + min (lifespan : Int) greatestTime) greatestTime

def issuedAt? (entries : Members Json) : Option Int :=
  (entries.get? ClaimName.issuedAt).bind Json.int64?

def putOption (name : String) (value : Option String) (entries : Members Json) : Members Json :=
  match value with
  | some text => entries.putNew name (.text text)
  | none => entries

/-- Adds what is missing, in a fixed order; what the caller has set stays as it is. -/
def finish (config : Config) (now : Int) (tokenId : String) (entries : Members Json) : Claims :=
  let issued := (issuedAt? entries).getD now
  ⟨(((entries.putNew ClaimName.issuedAt (.int now)).putNew ClaimName.expiresAt
    (.int (expiry config.lifespan issued))).putNew ClaimName.tokenId (.text tokenId))
    |> putOption ClaimName.issuer config.issuer
    |> putOption ClaimName.audience config.audience⟩

def get? (name : String) (claims : Claims) : Option Json := claims.entries.get? name

def size (claims : Claims) : Nat := claims.entries.length

def issuedAt (claims : Claims) : Option Int := issuedAt? claims.entries

def expiresAt (claims : Claims) : Option Int :=
  (claims.get? ClaimName.expiresAt).bind Json.int64?

def tokenId (claims : Claims) : Option String := (claims.get? ClaimName.tokenId).bind Json.text?

def toJson (claims : Claims) : Json := .object claims.entries

def payload (claims : Claims) : Bytes := claims.toJson.encode

end Claims

end Jose
