import Jose.Key.Role
import Jose.Text.Quoted

/-!
What a build reports while it runs. An event names roles, locations, algorithms and key ids; it has
no place for key material or for the value of a claim.
-/

namespace Jose

inductive Event where
  | finalizedClaims (count : Nat)
  | replacedConfig
  | readingFile (location path : String)
  | keyDisabled (role : KeyRole)
  | noLocation (role : KeyRole)
  | resolvedKey (role : KeyRole) (location : String) (format : KeyFormat)
  | unsignedToken
  | builtJws (alg : String) (keyId : Option String)
  | builtJwe (alg enc : String) (nested : Bool) (keyId : Option String)
  deriving DecidableEq, Repr

inductive Level where
  | debug
  | warn
  deriving DecidableEq, Repr

def Level.name : Level → String
  | debug => "DEBUG"
  | warn => "WARN"

namespace Event

def level : Event → Level
  | keyDisabled _ | unsignedToken => .warn
  | _ => .debug

def message : Event → String
  | finalizedClaims _ => "Finalized claims"
  | replacedConfig => "Replaced JWT build configuration"
  | readingFile _ _ => "Reading key file"
  | keyDisabled _ => "Key disabled by configuration"
  | noLocation _ => "No key location configured"
  | resolvedKey _ _ _ => "Resolved key"
  | unsignedToken =>
      "No signing key available; emitting an UNSIGNED token (alg: none). " ++
        "Never enable allow_unsigned_fallback in production"
  | builtJws _ _ => "Built JWS"
  | builtJwe _ _ _ _ => "Built JWE"

def fields : Event → Members String
  | finalizedClaims count => [("claims", toString count)]
  | replacedConfig => []
  | readingFile location path => [("location", location), ("path", path)]
  | keyDisabled role => [("role", role.name)]
  | noLocation role => [("role", role.name)]
  | resolvedKey role location format =>
      [("role", role.name), ("location", location), ("format", format.label)]
  | unsignedToken => []
  | builtJws alg keyId => [("alg", alg), ("kid", Text.quotedOption keyId)]
  | builtJwe alg enc nested keyId =>
      [("alg", alg), ("enc", enc), ("nested", if nested then "true" else "false"),
        ("kid", Text.quotedOption keyId)]

end Event

end Jose
