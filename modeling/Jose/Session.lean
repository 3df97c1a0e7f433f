import Jose.Issuer
import Jose.Pool

/-!
Issuers and builders under names, and the commands that work on them. A step takes the builder out
of its slot; only what comes out of the step goes back, so that a failed step leaves the slot empty.
-/

namespace Jose

inductive Builder where
  | claims (builder : ClaimsBuilder)
  | jws (builder : JwsBuilder)
  | jwe (builder : JweBuilder)

inductive Move where
  | call (call : ClaimsCall)
  | finish
  | jws
  | jwe
  | innerSign
  | keyId (keyId : String)
  | algorithm (algorithm : SignatureAlgorithm)
  | contentAlgorithm (algorithm : ContentAlgorithm)
  | sign
  | encrypt
  /-- Signs on a worker, or at once outside the workers' pool. -/
  | signLater (inside : Bool)
  | encryptLater (inside : Bool)

inductive Progress where
  | builder (builder : Builder)
  | claims (claims : Claims)
  | token (token : Token)

namespace ClaimsBuilder

def move? (around : Surroundings) (builder : ClaimsBuilder) : Move → Option (Build Progress)
  | .call call => some do
      let next ← Build.ofExcept (builder.call around.now call)
      return .builder (.claims next)
  | .finish => some do return .claims (← builder.finish around)
  | .jws => some do return .builder (.jws (← builder.jws around))
  | .jwe => some do return .builder (.jwe (← builder.jwe around))
  | .innerSign => some do
      let signing ← builder.jws around
      return .builder (.jwe (← signing.innerSign around))
  | .sign => some do
      let signing ← builder.jws around
      return .token (← signing.sign around)
  | .encrypt => some do
      let encryption ← builder.jwe around
      return .token (← encryption.encrypt around)
  | _ => none

end ClaimsBuilder

namespace JwsBuilder

def move? (around : Surroundings) (builder : JwsBuilder) : Move → Option (Build Progress)
  | .keyId keyId => some (pure (.builder (.jws (builder.keyId keyId))))
  | .algorithm algorithm => some (pure (.builder (.jws (builder.algorithm algorithm))))
  | .innerSign => some do return .builder (.jwe (← builder.innerSign around))
  | .sign => some do return .token (← builder.sign around)
  | .signLater inside => some do
      return .token (← Pool.run inside (fun around => builder.sign around) around)
  | _ => none

end JwsBuilder

namespace JweBuilder

def move? (around : Surroundings) (builder : JweBuilder) : Move → Option (Build Progress)
  | .keyId keyId => some (pure (.builder (.jwe (builder.keyId keyId))))
  | .contentAlgorithm algorithm =>
      some (pure (.builder (.jwe (builder.contentAlgorithm algorithm))))
  | .encrypt => some do return .token (← builder.encrypt around)
  | .encryptLater inside => some do
      return .token (← Pool.run inside (fun around => builder.encrypt around) around)
  | _ => none

end JweBuilder

/-- The move of a builder; none where its stage has no such move. -/
def Builder.move? (around : Surroundings) (move : Move) : Builder → Option (Build Progress)
  | claims builder => builder.move? around move
  | jws builder => builder.move? around move
  | jwe builder => builder.move? around move

structure Session where
  issuers : Members Issuer
  builders : Members Builder

inductive Command where
  | makeIssuer (name : String) (config : Config)
  | cloneIssuer (name copy : String)
  | config (issuer : String)
  | setConfig (issuer : String) (config : Config)
  /-- Edits the configuration; the edit itself may be refused. -/
  | updateConfig (issuer : String) (edit : Config → Except Problem Config)
  | spec (issuer : String) (role : KeyRole) (keyId : Option String)
  | resolveSigning (issuer : String) (keyId : Option String)
  | resolveEncryption (issuer : String) (keyId : Option String)
  /-- Signs claims given as one value, without a builder. -/
  | signClaims (issuer : String) (claims : Json) (choices : JwsChoices)
  | encryptOctets (issuer : String) (payload : Bytes) (nested : Bool) (choices : JweChoices)
  | claims (issuer slot : String)
  | cloneBuilder (slot copy : String)
  | preview (slot : String)
  | inspect (slot : String)
  | move (slot next : String) (move : Move)

inductive Refusal where
  | noIssuer
  | noBuilder
  | wrongStage
  | edit (problem : Problem)

inductive Reply where
  | done
  | config (config : Config)
  | spec (spec : KeySpec)
  | signingKey (resolution : Resolution SigningKey)
  | encryptionKey (resolution : Resolution EncryptionKey)
  | claims (claims : Claims)
  | token (token : Token)
  | builder (builder : Builder)
  | refused (refusal : Refusal)

namespace Session

def empty : Session := ⟨[], []⟩

def putIssuer (name : String) (issuer : Issuer) (session : Session) : Session :=
  { session with issuers := session.issuers.put name issuer }

def putBuilder (slot : String) (builder : Builder) (session : Session) : Session :=
  { session with builders := session.builders.put slot builder }

def dropBuilder (slot : String) (session : Session) : Session :=
  { session with builders := session.builders.drop slot }

abbrev Result := Session × Build Reply

def keep (session : Session) (reply : Build Reply) : Result := (session, reply)

def refuse (session : Session) (refusal : Refusal) : Result :=
  (session, pure (.refused refusal))

def withIssuer (session : Session) (name : String) (next : Issuer → Result) : Result :=
  match session.issuers.get? name with
  | some issuer => next issuer
  | none => session.refuse .noIssuer

def withBuilder (session : Session) (slot : String) (next : Builder → Result) : Result :=
  match session.builders.get? slot with
  | some builder => next builder
  | none => session.refuse .noBuilder

/-- For builders that are still collecting claims; any other is lost. -/
def withClaims (session : Session) (slot : String) (next : ClaimsBuilder → Result) : Result :=
  session.withBuilder slot fun
    | .claims builder => next builder
    | _ => (session.dropBuilder slot).refuse .wrongStage

def install (session : Session) (name : String) (change : Build Issuer) : Result :=
  match change.outcome with
  | .done issuer =>
      (session.putIssuer name issuer, ⟨change.trace, .done (.config issuer.config)⟩)
  | .failed error => (session, ⟨change.trace, .failed error⟩)
  | .crashed => (session, ⟨change.trace, .crashed⟩)

def advance (session : Session) (next : String) (progress : Build Progress) : Result :=
  match progress.outcome with
  | .done (.builder builder) => (session.putBuilder next builder, ⟨progress.trace, .done .done⟩)
  | .done (.claims claims) => (session, ⟨progress.trace, .done (.claims claims)⟩)
  | .done (.token token) => (session, ⟨progress.trace, .done (.token token)⟩)
  | .failed error => (session, ⟨progress.trace, .failed error⟩)
  | .crashed => (session, ⟨progress.trace, .crashed⟩)

def signClaims (around : Surroundings) (issuer : Issuer) (claims : Json) (choices : JwsChoices) :
    Build Token := do
  let builder ← Build.ofExcept (issuer.claims.call around.now (.object claims))
  let finished ← builder.finish around
  Jws.sign issuer.config around.source finished choices

def step (around : Surroundings) (session : Session) : Command → Result
  | .makeIssuer name config =>
      session.install name (Build.ofExcept (Issuer.make config))
  | .cloneIssuer name copy => session.withIssuer name fun issuer =>
      (session.putIssuer copy issuer).keep (pure .done)
  | .config name => session.withIssuer name fun issuer =>
      session.keep (pure (.config issuer.config))
  | .setConfig name config => session.withIssuer name fun issuer =>
      session.install name (issuer.setConfig config)
  | .updateConfig name edit => session.withIssuer name fun issuer =>
      match edit issuer.config with
      | .ok config => session.install name (issuer.updateConfig fun _ => config)
      | .error problem => session.refuse (.edit problem)
  | .spec name role keyId => session.withIssuer name fun issuer =>
      session.keep (pure (.spec (.ofConfig role keyId issuer.config)))
  | .resolveSigning name keyId => session.withIssuer name fun issuer =>
      session.keep do return .signingKey (← issuer.config.resolveSigning around.source keyId)
  | .resolveEncryption name keyId => session.withIssuer name fun issuer =>
      session.keep do return .encryptionKey (← issuer.config.resolveEncryption around.source keyId)
  | .signClaims name claims choices => session.withIssuer name fun issuer =>
      session.keep do return .token (← signClaims around issuer claims choices)
  | .encryptOctets name payload nested choices => session.withIssuer name fun issuer =>
      session.keep do
        return .token
          (← Jwe.encrypt issuer.config around.source around.entropy payload nested choices)
  | .claims name slot => session.withIssuer name fun issuer =>
      (session.putBuilder slot (.claims issuer.claims)).keep (pure .done)
  | .cloneBuilder slot copy => session.withClaims slot fun builder =>
      (session.putBuilder copy (.claims builder)).keep (pure .done)
  | .preview slot => session.withClaims slot fun builder =>
      session.keep do return .claims (← builder.finish around)
  | .inspect slot => session.withBuilder slot fun builder =>
      session.keep (pure (.builder builder))
  | .move slot next move => session.withBuilder slot fun builder =>
      let without := session.dropBuilder slot
      match builder.move? around move with
      | some progress => without.advance next progress
      | none => without.refuse .wrongStage

end Session

end Jose
