import Jose.Claims
import Jose.Claims.Datum
import Jose.Time

/-!
The calls that set claims. A call writes some members, in order, or is refused; a value that cannot
be a claim is never written.
-/

namespace Jose

inductive ClaimsCall where
  | claim (name : String) (value : Datum)
  | object (value : Json)
  | issuer (text : String)
  | subject (text : String)
  | audience (text : String)
  | audiences (texts : List String)
  | issuedAt (time : Instant)
  | expiresAt (time : Instant)
  | expiresIn (span : Span)
  | notBefore (time : Instant)
  | tokenId (text : String)

namespace ClaimsCall

def textMember (name text : String) : Members Json := [(name, .text text)]

def timeMember (name : String) (time : Instant) : Members Json := [(name, .int time.seconds)]

def checked : List (String × Json) → Except BuildError (Members Json)
  | [] => .ok []
  | (name, value) :: rest => do
      let first ← Datum.claimValue name (.json value)
      let others ← checked rest
      return (name, first) :: others

def written (now : Instant) : ClaimsCall → Except BuildError (Members Json)
  | claim name value => (Datum.claimValue name value).map fun json => [(name, json)]
  | object (.object members) => checked members
  | object _ => .error (.invalidClaim "claims must be a JSON object")
  | issuer text => .ok (textMember ClaimName.issuer text)
  | subject text => .ok (textMember ClaimName.subject text)
  | audience text => .ok (textMember ClaimName.audience text)
  | audiences texts => .ok [(ClaimName.audience, .list (texts.map Json.text))]
  | issuedAt time => .ok (timeMember ClaimName.issuedAt time)
  | expiresAt time => .ok (timeMember ClaimName.expiresAt time)
  | expiresIn span => .ok (timeMember ClaimName.expiresAt (now.shift span))
  | notBefore time => .ok (timeMember ClaimName.notBefore time)
  | tokenId text => .ok (textMember ClaimName.tokenId text)

end ClaimsCall

end Jose
