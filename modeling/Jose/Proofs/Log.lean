import Jose.Proofs.Key.Resolution
import Jose.Proofs.Warning

/-!
What builds report. The trace of a build follows from its configuration, from what its key resolves
to, and from whether it succeeds: a stage reports what it has made, and only once it has made it.
-/

namespace Jose

namespace Build

variable {α β : Type}

def IsDone (build : Build α) : Prop := ∃ value, build.outcome = .done value

theorem isDone_bind_iff {first : Build α} {next : α → Build β} :
    (first >>= next).IsDone ↔ ∃ value, first.outcome = .done value ∧ (next value).IsDone := by
  simp only [IsDone, bind_eq_done]
  constructor
  · rintro ⟨result, value, found, done⟩
    exact ⟨value, found, result, done⟩
  · rintro ⟨value, found, result, done⟩
    exact ⟨result, value, found, done⟩

theorem isDone_map_iff (build : Build α) (change : α → β) :
    (do return change (← build) : Build β).IsDone ↔ build.IsDone := by
  rw [isDone_bind_iff]
  exact ⟨fun ⟨value, found, _⟩ => ⟨value, found⟩, fun ⟨value, found⟩ => ⟨value, found, _, rfl⟩⟩

structure Reports (before after : List Note) (build : Build α) : Prop where
  done : build.IsDone → build.trace = before ++ after
  undone : ¬ build.IsDone → build.trace = before

variable {before after : List Note} {build : Build α}

theorem Reports.trace_eq {other : Build β} (reports : build.Reports before after)
    (others : other.Reports before after) (ends : build.IsDone ↔ other.IsDone) :
    build.trace = other.trace := by
  by_cases done : build.IsDone
  · rw [reports.done done, others.done (ends.mp done)]
  · rw [reports.undone done, others.undone (mt ends.mpr done)]

theorem Reports.congr {other : Build β} (reports : build.Reports before after)
    (trace : other.trace = build.trace) (ends : other.IsDone ↔ build.IsDone) :
    other.Reports before after :=
  ⟨fun done => trace.trans (reports.done (ends.mp done)),
    fun undone => trace.trans (reports.undone (mt ends.mpr undone))⟩

theorem reports_ofExcept (answer : Except BuildError α) : (ofExcept answer).Reports [] [] :=
  ⟨fun _ => rfl, fun _ => rfl⟩

/-- What a build reports in any case includes all that an earlier stage has reported. -/
theorem Reports.after_done {first : Build α} {value : α} (done : first.outcome = .done value)
    {next : α → Build β} (reports : (next value).Reports before after) :
    (first >>= next).Reports (first.trace ++ before) after := by
  rw [bind_of_done done]
  refine ⟨fun succeeded => ?_, fun failed => ?_⟩
  · exact (congrArg (first.trace ++ ·) (reports.done succeeded)).trans
      (List.append_assoc _ _ _).symm
  · exact congrArg (first.trace ++ ·) (reports.undone failed)

theorem reports_of_undone {first : Build α} (undone : ¬ first.IsDone) (next : α → Build β)
    (after : List Note) : (first >>= next).Reports first.trace after := by
  have ended : ¬ (first >>= next).IsDone := by
    rw [isDone_bind_iff]
    rintro ⟨value, found, _⟩
    exact undone ⟨value, found⟩
  refine ⟨fun done => absurd done ended, fun _ => ?_⟩
  cases outcome : first.outcome with
  | done value => exact absurd ⟨value, outcome⟩ undone
  | failed error => rw [bind_of_failed outcome]
  | crashed => rw [bind_of_crashed outcome]

theorem Reports.bind_silent {first : Build α} (silent : first.Reports [] []) {next : α → Build β}
    (later : ∀ value, first.outcome = .done value → (next value).Reports [] after) :
    (first >>= next).Reports [] after := by
  by_cases done : first.IsDone
  · obtain ⟨value, found⟩ := done
    have nothing : first.trace = [] := silent.done ⟨value, found⟩
    have reports := (later value found).after_done found
    rwa [nothing] at reports
  · exact silent.undone done ▸ reports_of_undone done next after

theorem Reports.map (reports : build.Reports before after) (change : α → β) :
    (do return change (← build) : Build β).Reports before after := by
  have trace : (do return change (← build) : Build β).trace = build.trace := by
    cases outcome : build.outcome with
    | done value => rw [bind_of_done outcome, trace_pure, List.append_nil]
    | failed error => rw [bind_of_failed outcome]
    | crashed => rw [bind_of_crashed outcome]
  exact reports.congr trace (isDone_map_iff build change)

end Build

inductive Finding where
  | key (family : String)
  | unavailable (absence : Absence)
  | failed
  deriving DecidableEq, Repr

namespace Finding

def of {κ : Type} (family : κ → String) : Outcome (Resolution κ) → Finding
  | .done (.key held) => .key (family held)
  | .done (.unavailable absence) => .unavailable absence
  | .failed _ | .crashed => .failed

def isKey : Finding → Bool
  | key _ => true
  | _ => false

end Finding

def EncryptionKey.family : EncryptionKey → String
  | rsa _ => "RSA"

def Config.finding (role : KeyRole) (source : KeySource) (requested : Option String)
    (config : Config) : Finding :=
  match role with
  | .signing => .of SigningKey.family (config.resolveSigning source requested).outcome
  | .keyEncryption => .of EncryptionKey.family (config.resolveEncryption source requested).outcome

def KeySource.log (paths : String → List String) (location : String) : List Note :=
  .read location :: (paths location).map fun path => .event (.readingFile location path)

def KeySpec.log (paths : String → List String) (finding : Finding) (spec : KeySpec) : List Note :=
  match spec.target with
  | .error absence => [.event (absence.event spec.role)]
  | .ok location =>
      KeySource.log paths location ++
        if finding.isKey then [.event (.resolvedKey spec.role location spec.format)] else []

theorem KeyReader.resolve_trace {κ : Type} (reader : KeyReader κ) (family : κ → String)
    (source : KeySource) (spec : KeySpec) :
    (reader.resolve source spec).trace =
      spec.log source.paths (.of family (reader.resolve source spec).outcome) := by
  cases target : spec.target with
  | error absence =>
      rw [resolve_absent target]
      simp only [KeySpec.log, target]
  | ok location =>
      simp only [KeySpec.log, target, resolve]
      cases answer : source.answer location with
      | failed error =>
          have read : (source.read location).outcome = .failed error := answer
          rw [Build.bind_of_failed read]
          simp [KeySource.read, KeySource.log, Finding.of, Finding.isKey]
      | crashed =>
          have read : (source.read location).outcome = .crashed := answer
          rw [Build.bind_of_crashed read]
          simp [KeySource.read, KeySource.log, Finding.of, Finding.isKey]
      | done material =>
          have read : (source.read location).outcome = .done material := answer
          rw [Build.bind_of_done read]
          cases reader.read spec.format spec.keyId material <;> rfl

theorem Config.resolveSigning_trace (config : Config) (source : KeySource)
    (requested : Option String) :
    (config.resolveSigning source requested).trace =
      (KeySpec.ofConfig .signing requested config).log source.paths
        (config.finding .signing source requested) :=
  KeyReader.resolve_trace _ SigningKey.family _ _

theorem Config.resolveEncryption_trace (config : Config) (source : KeySource)
    (requested : Option String) :
    (config.resolveEncryption source requested).trace =
      (KeySpec.ofConfig .keyEncryption requested config).log source.paths
        (config.finding .keyEncryption source requested) :=
  KeyReader.resolve_trace _ EncryptionKey.family _ _

namespace Jws

def naturalOf (family : String) : SignatureAlgorithm :=
  if family = "RSA" then .rs256 else if family = "EC P-256" then .es256 else .hs256

theorem naturalOf_family (key : SigningKey) : naturalOf key.family = key.naturalAlgorithm := by
  cases key <;> rfl

def closing (config : Config) (choices : JwsChoices) : Finding → List Note
  | .key family =>
      [.event (.builtJws
        ((choices.algorithm.or config.signatureAlgorithm).getD (naturalOf family)).name
        choices.keyId)]
  | .unavailable _ => [.event .unsignedToken, .event (.builtJws unsignedName choices.keyId)]
  | .failed => []

theorem finish_reports (config : Config) (claims : Claims) (choices : JwsChoices)
    (resolution : Resolution SigningKey) :
    Build.Reports [] (closing config choices (.of SigningKey.family (.done resolution))) (do
      let signer ← Build.ofExcept (signer? config choices resolution)
      let header := header choices signer
      let signature ← signature signer (signingInput header claims)
      Build.report (.builtJws header.alg header.kid)
      return Token.ofSegments (signingSegments header claims ++ [Base64.encodeUrl signature])) := by
  apply (Build.reports_ofExcept _).bind_silent
  intro signer chosen
  rw [Build.outcome_ofExcept_eq_done] at chosen
  cases resolution with
  | key key =>
      obtain rfl : some (Signer.mk key (algorithmFor config choices key)) = signer := by
        simpa [signer?] using chosen
      simp only [Finding.of, closing, naturalOf_family]
      apply (Build.reports_ofExcept _).bind_silent
      intro octets _
      exact ⟨fun _ => rfl, fun undone => absurd ⟨_, rfl⟩ undone⟩
  | unavailable absence =>
      cases signer with
      | some signer =>
          obtain ⟨key, same, _⟩ := signer?_eq_some_iff.mp chosen
          contradiction
      | none => exact ⟨fun _ => rfl, fun undone => absurd ⟨_, rfl⟩ undone⟩

theorem sign_reports (config : Config) (source : KeySource) (claims : Claims)
    (choices : JwsChoices) :
    (sign config source claims choices).Reports
      ((KeySpec.ofConfig .signing choices.keyId config).log source.paths
        (config.finding .signing source choices.keyId))
      (closing config choices (config.finding .signing source choices.keyId)) := by
  rw [← Config.resolveSigning_trace]
  by_cases done : (config.resolveSigning source choices.keyId).IsDone
  · obtain ⟨resolution, found⟩ := done
    have finding : config.finding .signing source choices.keyId =
        .of SigningKey.family (.done resolution) := congrArg (Finding.of SigningKey.family) found
    have reports : (sign config source claims choices).Reports (_ ++ []) _ :=
      Build.Reports.after_done found (finish_reports config claims choices resolution)
    rwa [List.append_nil, ← finding] at reports
  · exact Build.reports_of_undone done _ _

end Jws

namespace Jwe

def closing (config : Config) (isNested : Bool) (choices : JweChoices) : Finding → List Note
  | .key _ =>
      [.event (.builtJwe KeyAlgorithm.rsaOaep256.name
        (choices.contentAlgorithm.getD config.contentAlgorithm).name isNested choices.keyId)]
  | .unavailable _ | .failed => []

theorem finish_reports (config : Config) (entropy : Entropy) (payload : Bytes) (isNested : Bool)
    (choices : JweChoices) (resolution : Resolution EncryptionKey) :
    Build.Reports [] (closing config isNested choices (.of EncryptionKey.family (.done resolution)))
      (do
        let key ← Build.ofExcept (requireKey resolution)
        let header := header config choices isNested key
        let protectedText := Base64.encodeUrl header.toJson.encode
        let contentKey := entropy.contentKey.take header.enc.keyLength
        let nonce := entropy.nonce.take Gcm.nonceLength
        let wrapped ← Build.ofExcept (wrap key (entropy.seed.take Rsa.hashLength) contentKey)
        let content ← Build.ofExcept
          (encryptContent header.enc contentKey nonce (Bytes.ofText protectedText) payload)
        Build.report (.builtJwe header.alg.name header.enc.name isNested header.kid)
        return Token.ofSegments (protectedText ::
          [wrapped, nonce, content.ciphertext, content.tag].map Base64.encodeUrl)) := by
  apply (Build.reports_ofExcept _).bind_silent
  intro key required
  obtain rfl := requireKey_eq_ok_iff.mp (Build.outcome_ofExcept_eq_done.mp required)
  apply (Build.reports_ofExcept _).bind_silent
  intro wrapped _
  apply (Build.reports_ofExcept _).bind_silent
  intro content _
  cases key with
  | rsa key => exact ⟨fun _ => rfl, fun undone => absurd ⟨_, rfl⟩ undone⟩

theorem encrypt_reports (config : Config) (source : KeySource) (entropy : Entropy)
    (payload : Bytes) (isNested : Bool) (choices : JweChoices) :
    (encrypt config source entropy payload isNested choices).Reports
      ((KeySpec.ofConfig .keyEncryption choices.keyId config).log source.paths
        (config.finding .keyEncryption source choices.keyId))
      (closing config isNested choices (config.finding .keyEncryption source choices.keyId)) := by
  rw [← Config.resolveEncryption_trace]
  by_cases done : (config.resolveEncryption source choices.keyId).IsDone
  · obtain ⟨resolution, found⟩ := done
    have finding : config.finding .keyEncryption source choices.keyId =
        .of EncryptionKey.family (.done resolution) :=
      congrArg (Finding.of EncryptionKey.family) found
    have reports : (encrypt config source entropy payload isNested choices).Reports (_ ++ []) _ :=
      Build.Reports.after_done found
        (finish_reports config entropy payload isNested choices resolution)
    rwa [List.append_nil, ← finding] at reports
  · exact Build.reports_of_undone done _ _

end Jwe

theorem Pool.run_reports {before after : List Note} (inside : Bool) {job : Job}
    {around : Surroundings} (reports : (job around).Reports before after) :
    (run inside job around).Reports before after := by
  have trace : (run inside job around).trace = (job around).trace := by rw [run_eq]
  have ends : (run inside job around).IsDone ↔ (job around).IsDone := by
    rw [run_eq]
    exact exists_congr fun token => Outcome.deferred_eq_done_iff
  exact reports.congr trace ends

end Jose
