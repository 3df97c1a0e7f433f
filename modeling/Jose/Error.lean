import Jose.Key.Role

/-!
Why a build ends without a token. The kinds are what a caller can tell apart; each carries the words
for its message.
-/

namespace Jose

inductive BuildError where
  | invalidClaim (reason : String)
  | keyResolution (role : KeyRole) (reason : String)
  | keyNotFound (keyId : String)
  | keyLoad (location reason : String)
  | invalidKey (reason : String)
  | serialization (reason : String)
  | signing (reason : String)
  | encryption (reason : String)
  | unsupportedAlgorithm (name : String)
  | config (reason : String)
  | taskFailed
  deriving DecidableEq, Repr

namespace BuildError

def message : BuildError → String
  | invalidClaim reason => "Invalid claim: " ++ reason
  | keyResolution role reason => "No " ++ role.name ++ " key available: " ++ reason
  | keyNotFound keyId => "Key not found in JWK set: " ++ keyId
  | keyLoad location reason => "Failed to load key from " ++ location ++ ": " ++ reason
  | invalidKey reason => "Invalid key: " ++ reason
  | serialization reason => "Serialization error: " ++ reason
  | signing reason => "Signing error: " ++ reason
  | encryption reason => "Encryption error: " ++ reason
  | unsupportedAlgorithm name => "Unsupported algorithm: " ++ name
  | config reason => "Configuration error: " ++ reason
  | taskFailed => "Token build task failed"

/-- A problem of a JSON value where no better kind is known. -/
def ofProblem (problem : Problem) : BuildError := .serialization problem.message

end BuildError

end Jose
