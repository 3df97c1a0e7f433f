import Jose.Session
import Jose.Proofs.Build

/-!
What the stages of a builder hand on. Every stage keeps the configuration of the one before it.
-/

namespace Jose

def Builder.config : Builder → Config
  | claims builder => builder.config
  | jws builder => builder.config
  | jwe builder => builder.config

def Progress.Keeps (config : Config) : Progress → Prop
  | .builder made => made.config = config
  | _ => True

namespace ClaimsBuilder

variable (around : Surroundings) (builder : ClaimsBuilder)

theorem call_config {builder next : ClaimsBuilder} {now : Instant} {call : ClaimsCall}
    (called : builder.call now call = .ok next) : next.config = builder.config := by
  cases members : call.written now with
  | error refused => simp [ClaimsBuilder.call, members, Except.map] at called
  | ok written =>
      simp only [ClaimsBuilder.call, members, Except.map] at called
      injection called with same
      exact same ▸ rfl

theorem jws_gives_config :
    (builder.jws around).Gives fun signing => signing.config = builder.config :=
  Build.Gives.bind (fun _ _ => trivial) fun _ _ => Build.gives_pure rfl

theorem jwe_gives_config :
    (builder.jwe around).Gives fun encryption => encryption.config = builder.config :=
  Build.Gives.bind (fun _ _ => trivial) fun _ _ => Build.gives_pure rfl

end ClaimsBuilder

theorem JwsBuilder.innerSign_gives_config (around : Surroundings) (builder : JwsBuilder) :
    (builder.innerSign around).Gives fun encryption => encryption.config = builder.config :=
  Build.Gives.bind (fun _ _ => trivial) fun _ _ => Build.gives_pure rfl

section Moves

variable {around : Surroundings} {move : Move} {progress : Build Progress}

/-- A build that goes on to something else than a builder. -/
theorem Build.gives_keeps {α : Type} {build : Build α} {wrap : α → Progress} {config : Config}
    (other : ∀ value, (wrap value).Keeps config) :
    (do return wrap (← build) : Build Progress).Gives (Progress.Keeps config) :=
  Build.Gives.bind (fun _ _ => trivial) fun value _ => Build.gives_pure (other value)

theorem ClaimsBuilder.move?_keeps {builder : ClaimsBuilder}
    (moved : builder.move? around move = some progress) :
    progress.Gives (Progress.Keeps builder.config) := by
  cases move with
  | call call =>
      injection moved with same
      exact same ▸ (Build.gives_ofExcept fun _ => call_config).bind fun _ kept =>
        Build.gives_pure kept
  | finish =>
      injection moved with same
      exact same ▸ Build.gives_keeps fun _ => trivial
  | jws =>
      injection moved with same
      exact same ▸ (builder.jws_gives_config around).bind fun _ kept => Build.gives_pure kept
  | jwe =>
      injection moved with same
      exact same ▸ (builder.jwe_gives_config around).bind fun _ kept => Build.gives_pure kept
  | innerSign =>
      injection moved with same
      exact same ▸ (builder.jws_gives_config around).bind fun signing kept =>
        (signing.innerSign_gives_config around).bind fun _ signed =>
          Build.gives_pure (signed.trans kept)
  | sign =>
      injection moved with same
      exact same ▸ (builder.jws_gives_config around).bind fun _ _ =>
        Build.gives_keeps fun _ => trivial
  | encrypt =>
      injection moved with same
      exact same ▸ (builder.jwe_gives_config around).bind fun _ _ =>
        Build.gives_keeps fun _ => trivial
  | _ => contradiction

theorem JwsBuilder.move?_keeps {builder : JwsBuilder}
    (moved : builder.move? around move = some progress) :
    progress.Gives (Progress.Keeps builder.config) := by
  cases move with
  | keyId keyId =>
      injection moved with same
      exact same ▸ Build.gives_pure rfl
  | algorithm algorithm =>
      injection moved with same
      exact same ▸ Build.gives_pure rfl
  | innerSign =>
      injection moved with same
      exact same ▸ (builder.innerSign_gives_config around).bind fun _ kept =>
        Build.gives_pure kept
  | sign =>
      injection moved with same
      exact same ▸ Build.gives_keeps fun _ => trivial
  | signLater inside =>
      injection moved with same
      exact same ▸ Build.gives_keeps fun _ => trivial
  | _ => contradiction

theorem JweBuilder.move?_keeps {builder : JweBuilder}
    (moved : builder.move? around move = some progress) :
    progress.Gives (Progress.Keeps builder.config) := by
  cases move with
  | keyId keyId =>
      injection moved with same
      exact same ▸ Build.gives_pure rfl
  | contentAlgorithm algorithm =>
      injection moved with same
      exact same ▸ Build.gives_pure rfl
  | encrypt =>
      injection moved with same
      exact same ▸ Build.gives_keeps fun _ => trivial
  | encryptLater inside =>
      injection moved with same
      exact same ▸ Build.gives_keeps fun _ => trivial
  | _ => contradiction

theorem Builder.move?_keeps {builder : Builder}
    (moved : builder.move? around move = some progress) :
    progress.Gives (Progress.Keeps builder.config) := by
  cases builder with
  | claims builder => exact builder.move?_keeps moved
  | jws builder => exact builder.move?_keeps moved
  | jwe builder => exact builder.move?_keeps moved

theorem Builder.config_of_move? {builder made : Builder}
    (moved : builder.move? around move = some progress)
    (done : progress.outcome = .done (.builder made)) : made.config = builder.config :=
  Builder.move?_keeps moved _ done

end Moves

end Jose
