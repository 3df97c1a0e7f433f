import Jose.Builder
import Jose.Proofs.Key.Resolution

/-!
What a stage reads. It reads the key of its own role from the location in its configuration, once,
however the stage ends, and nothing for the other role. So the reads of a run of stages are those of
its stages, one after the other.
-/

namespace Jose

def KeyConfig.place? (key : KeyConfig) : Option String :=
  if key.available then key.location else none

namespace Build

@[simp] theorem reads_append (left right : List Note) :
    reads (left ++ right) = reads left ++ reads right := by
  simp [reads]

variable {α β : Type}

/-- A build reads these locations and no others, however it ends. -/
def Reads (locations : List String) (build : Build α) : Prop := reads build.trace = locations

theorem reads_pure (value : α) : (Pure.pure value : Build α).Reads [] := rfl

theorem reads_report (event : Event) : (report event).Reads [] := rfl

theorem reads_ofExcept (answer : Except BuildError α) : (ofExcept answer).Reads [] := rfl

theorem Reads.bind {locations : List String} {first : Build α} (reads : first.Reads locations)
    {next : α → Build β} (silent : ∀ value, (next value).Reads []) :
    (first >>= next).Reads locations := by
  cases outcome : first.outcome with
  | done value => rw [bind_of_done outcome, Reads, reads_append, reads, silent, List.append_nil]
  | failed error =>
      rw [bind_of_failed outcome]
      exact reads
  | crashed =>
      rw [bind_of_crashed outcome]
      exact reads

theorem Reads.after {locations : List String} {first : Build α} (silent : first.Reads [])
    {value : α} (done : first.outcome = .done value) {next : α → Build β}
    (reads : (next value).Reads locations) : (first >>= next).Reads locations := by
  rw [bind_of_done done, Reads, reads_append, silent, reads, List.nil_append]

end Build

section Stages

variable {config : Config} {source : KeySource}

theorem KeySource.read_reads (source : KeySource) (location : String) :
    (source.read location).Reads [location] := by
  simp [Build.Reads, Build.reads, KeySource.read]

theorem KeySpec.target_eq_ok_iff_place? {role : KeyRole} {requested : Option String}
    {location : String} :
    (ofConfig role requested config).target = .ok location ↔
      (config.key role).place? = some location := by
  rw [target_eq_ok_iff, KeyConfig.place?]
  simp [ofConfig]

theorem KeySpec.target_eq_error_place? {role : KeyRole} {requested : Option String}
    {absence : Absence} (nothing : (ofConfig role requested config).target = .error absence) :
    (config.key role).place? = none := by
  cases place : (config.key role).place? with
  | none => rfl
  | some location =>
      rw [target_eq_ok_iff_place?.mpr place] at nothing
      contradiction

theorem KeyReader.resolve_reads {κ : Type} (reader : KeyReader κ) (source : KeySource)
    (role : KeyRole) (requested : Option String) (config : Config) :
    (reader.resolve source (.ofConfig role requested config)).Reads
      (config.key role).place?.toList := by
  cases target : (KeySpec.ofConfig role requested config).target with
  | error absence =>
      rw [KeySpec.target_eq_error_place? target]
      simp only [resolve, target]
      exact (Build.reads_report _).bind fun _ => Build.reads_pure _
  | ok location =>
      rw [KeySpec.target_eq_ok_iff_place?.mp target]
      simp only [resolve, target]
      apply (source.read_reads location).bind
      intro material
      apply (Build.reads_ofExcept _).bind
      intro key
      exact (Build.reads_report _).bind fun _ => Build.reads_pure _

theorem Jws.sign_reads (config : Config) (source : KeySource) (claims : Claims)
    (choices : JwsChoices) :
    (sign config source claims choices).Reads config.signingKey.place?.toList := by
  apply (KeyReader.resolve_reads _ source .signing choices.keyId config).bind
  intro resolution
  apply (Build.reads_ofExcept _).bind
  intro signer
  have signs : (signature signer (signingInput (header choices signer) claims)).Reads [] := by
    cases signer <;> rfl
  apply signs.bind
  intro octets
  exact (Build.reads_report _).bind fun _ => Build.reads_pure _

theorem Jwe.encrypt_reads (config : Config) (source : KeySource) (entropy : Entropy)
    (payload : Bytes) (isNested : Bool) (choices : JweChoices) :
    (encrypt config source entropy payload isNested choices).Reads
      config.encryptionKey.place?.toList := by
  apply (KeyReader.resolve_reads _ source .keyEncryption choices.keyId config).bind
  intro resolution
  apply (Build.reads_ofExcept _).bind
  intro key
  apply (Build.reads_ofExcept _).bind
  intro wrapped
  apply (Build.reads_ofExcept _).bind
  intro content
  exact (Build.reads_report _).bind fun _ => Build.reads_pure _

theorem JwsBuilder.innerSign_reads (around : Surroundings) (builder : JwsBuilder) :
    (builder.innerSign around).Reads builder.config.signingKey.place?.toList :=
  (Jws.sign_reads _ _ _ _).bind fun _ => Build.reads_pure _

end Stages

section Calls

inductive StageCall where
  | resolveSigning (config : Config) (requested : Option String)
  | resolveEncryption (config : Config) (requested : Option String)
  | sign (config : Config) (claims : Claims) (choices : JwsChoices)
  | innerSign (builder : JwsBuilder)
  | encrypt (config : Config) (payload : Bytes) (isNested : Bool) (choices : JweChoices)

namespace StageCall

def trace (around : Surroundings) : StageCall → List Note
  | resolveSigning config requested => (config.resolveSigning around.source requested).trace
  | resolveEncryption config requested => (config.resolveEncryption around.source requested).trace
  | sign config claims choices => (Jws.sign config around.source claims choices).trace
  | innerSign builder => (builder.innerSign around).trace
  | encrypt config payload isNested choices =>
      (Jwe.encrypt config around.source around.entropy payload isNested choices).trace

def key : StageCall → KeyConfig
  | resolveSigning config _ | sign config _ _ => config.signingKey
  | innerSign builder => builder.config.signingKey
  | resolveEncryption config _ | encrypt config _ _ _ => config.encryptionKey

theorem trace_reads (around : Surroundings) (call : StageCall) :
    Build.reads (call.trace around) = call.key.place?.toList := by
  cases call with
  | resolveSigning config requested =>
      exact KeyReader.resolve_reads _ around.source .signing requested config
  | resolveEncryption config requested =>
      exact KeyReader.resolve_reads _ around.source .keyEncryption requested config
  | sign config claims choices => exact Jws.sign_reads config around.source claims choices
  | innerSign builder => exact builder.innerSign_reads around
  | encrypt config payload isNested choices =>
      exact Jwe.encrypt_reads config around.source around.entropy payload isNested choices

def run (calls : List (Surroundings × StageCall)) : List Note :=
  calls.flatMap fun call => call.2.trace call.1

theorem run_reads (calls : List (Surroundings × StageCall)) :
    Build.reads (run calls) = calls.flatMap fun call => call.2.key.place?.toList := by
  induction calls with
  | nil => rfl
  | cons call rest ih =>
      rw [run] at ih
      rw [run, List.flatMap_cons, List.flatMap_cons, Build.reads_append, trace_reads, ih]

end StageCall

end Calls

end Jose
