import Jose.Claims.Call
import Jose.Jwe
import Jose.Jws
import Jose.Uuid

/-!
A token under construction. It goes through three stages: claims are collected, then signed, then
encrypted; signing or encrypting may be left out. A builder keeps the configuration it started with.
-/

namespace Jose

/-- What a step of a build finds around it. -/
structure Surroundings where
  now : Instant
  source : KeySource
  entropy : Entropy

structure ClaimsBuilder where
  config : Config
  entries : Members Json

structure JwsBuilder where
  config : Config
  claims : Claims
  choices : JwsChoices

inductive JwePayload where
  | claims (claims : Claims)
  | nested (token : Token)

structure JweBuilder where
  config : Config
  payload : JwePayload
  choices : JweChoices

namespace JwePayload

def isNested : JwePayload → Bool
  | .claims _ => false
  | .nested _ => true

def plaintext : JwePayload → Bytes
  | .claims finished => finished.payload
  | .nested token => token.encode

end JwePayload

namespace JweBuilder

def make (config : Config) (payload : JwePayload) : JweBuilder := ⟨config, payload, .blank⟩

def keyId (keyId : String) (builder : JweBuilder) : JweBuilder :=
  { builder with choices := { builder.choices with keyId := some keyId } }

def contentAlgorithm (algorithm : ContentAlgorithm) (builder : JweBuilder) : JweBuilder :=
  { builder with choices := { builder.choices with contentAlgorithm := some algorithm } }

def encrypt (around : Surroundings) (builder : JweBuilder) : Build Token :=
  Jwe.encrypt builder.config around.source around.entropy builder.payload.plaintext
    builder.payload.isNested builder.choices

end JweBuilder

namespace JwsBuilder

def keyId (keyId : String) (builder : JwsBuilder) : JwsBuilder :=
  { builder with choices := { builder.choices with keyId := some keyId } }

def algorithm (algorithm : SignatureAlgorithm) (builder : JwsBuilder) : JwsBuilder :=
  { builder with choices := { builder.choices with algorithm := some algorithm } }

def sign (around : Surroundings) (builder : JwsBuilder) : Build Token :=
  Jws.sign builder.config around.source builder.claims builder.choices

def innerSign (around : Surroundings) (builder : JwsBuilder) : Build JweBuilder := do
  let token ← builder.sign around
  return .make builder.config (.nested token)

end JwsBuilder

namespace ClaimsBuilder

def make (config : Config) : ClaimsBuilder := ⟨config, []⟩

def call (now : Instant) (call : ClaimsCall) (builder : ClaimsBuilder) :
    Except BuildError ClaimsBuilder :=
  (call.written now).map fun members =>
    { builder with entries := builder.entries.putAll members }

def finish (around : Surroundings) (builder : ClaimsBuilder) : Build Claims := do
  let claims := Claims.finish builder.config around.now.seconds
    (Uuid.random around.entropy.tokenId) builder.entries
  Build.report (.finalizedClaims claims.size)
  return claims

def jws (around : Surroundings) (builder : ClaimsBuilder) : Build JwsBuilder := do
  let claims ← builder.finish around
  return ⟨builder.config, claims, .blank⟩

def jwe (around : Surroundings) (builder : ClaimsBuilder) : Build JweBuilder := do
  let claims ← builder.finish around
  return .make builder.config (.claims claims)

end ClaimsBuilder

end Jose
