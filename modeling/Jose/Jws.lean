import Jose.Claims
import Jose.Key.Resolution
import Jose.Key.Signature
import Jose.Token

/-!
Signed tokens. The signature covers the encoded header and payload. Where no signing key is
available a token may go out unsigned, if the configuration allows that and the caller asked for no
algorithm.
-/

namespace Jose

structure JwsChoices where
  keyId : Option String
  algorithm : Option SignatureAlgorithm
  deriving DecidableEq, Repr

def JwsChoices.blank : JwsChoices := ⟨none, none⟩

namespace Jws

structure Signer where
  key : SigningKey
  algorithm : SignatureAlgorithm
  deriving DecidableEq, Repr

/-- The algorithm asked for, else the configured one, else the natural one of the key. -/
def algorithmFor (config : Config) (choices : JwsChoices) (key : SigningKey) :
    SignatureAlgorithm :=
  (choices.algorithm.or config.signatureAlgorithm).getD key.naturalAlgorithm

def explicitReason (absence : Absence) (algorithm : SignatureAlgorithm) : String :=
  absence.reason ++ "; " ++ algorithm.name ++ " was requested explicitly"

/-- The signer of a token; none for a token that may go out unsigned. -/
def signer? (config : Config) (choices : JwsChoices) :
    Resolution SigningKey → Except BuildError (Option Signer)
  | .key key => .ok (some ⟨key, algorithmFor config choices key⟩)
  | .unavailable absence =>
      if config.unsignedFallback then
        match choices.algorithm with
        | some algorithm => .error (.keyResolution .signing (explicitReason absence algorithm))
        | none => .ok none
      else .error (.keyResolution .signing absence.reason)

def header (choices : JwsChoices) (signer : Option Signer) : JwsHeader :=
  let blank := match signer with
    | some signer => JwsHeader.signed signer.algorithm
    | none => .unsigned
  blank.withKeyId choices.keyId

def signingSegments (header : JwsHeader) (claims : Claims) : List String :=
  [Base64.encodeUrl header.toJson.encode, Base64.encodeUrl claims.payload]

def signingInput (header : JwsHeader) (claims : Claims) : Bytes :=
  (Token.ofSegments (signingSegments header claims)).encode

def signature (signer : Option Signer) (input : Bytes) : Build Bytes :=
  match signer with
  | some signer => Build.ofExcept (signer.key.sign signer.algorithm input)
  | none => do
      Build.report .unsignedToken
      return []

def sign (config : Config) (source : KeySource) (claims : Claims) (choices : JwsChoices) :
    Build Token := do
  let resolution ← config.resolveSigning source choices.keyId
  let signer ← Build.ofExcept (signer? config choices resolution)
  let header := header choices signer
  let signature ← signature signer (signingInput header claims)
  Build.report (.builtJws header.alg header.kid)
  return .ofSegments (signingSegments header claims ++ [Base64.encodeUrl signature])

end Jws

end Jose
