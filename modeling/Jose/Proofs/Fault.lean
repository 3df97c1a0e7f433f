import Jose.Builder
import Jose.Proofs.Build
import Jose.Proofs.Key.Failure

/-!
Whose fault it is that a build fails. A build never fails as the task of a worker does, unless its
key source tells it to.
-/

namespace Jose

def BuildError.IsOwn (error : BuildError) : Prop := error ≠ .taskFailed

def KeySource.FailsItself (source : KeySource) : Prop :=
  ∀ location error, source.answer location = .failed error → error.IsOwn

namespace Build

variable {α β : Type}

def FailsItself (build : Build α) : Prop :=
  ∀ error, build.outcome = .failed error → error.IsOwn

theorem FailsItself.bind {first : Build α} (own : first.FailsItself) {next : α → Build β}
    (later : ∀ value, (next value).FailsItself) : (first >>= next).FailsItself := by
  intro error failed
  cases outcome : first.outcome with
  | done value =>
      rw [bind_of_done outcome] at failed
      exact later value error failed
  | failed fault =>
      rw [bind_of_failed outcome] at failed
      injection failed with same
      exact same ▸ own fault outcome
  | crashed =>
      rw [bind_of_crashed outcome] at failed
      contradiction

theorem failsItself_ofExcept {answer : Except BuildError α}
    (fails : FailsAs BuildError.IsOwn answer) : (ofExcept answer).FailsItself :=
  fun error failed => fails error (outcome_ofExcept_eq_failed.mp failed)

theorem failsItself_done (trace : List Note) (value : α) :
    (⟨trace, .done value⟩ : Build α).FailsItself :=
  fun _ failed => nomatch failed

end Build

theorem BuildError.IsOfKey.isOwn {error : BuildError} (known : error.IsOfKey) : error.IsOwn := by
  rintro rfl
  cases known

theorem KeyReader.resolve_failsItself {κ : Type} {reader : KeyReader κ} {source : KeySource}
    (own : source.FailsItself)
    (reads : ∀ format keyId material, FailsAs BuildError.IsOwn (reader.read format keyId material))
    (spec : KeySpec) : (reader.resolve source spec).FailsItself := by
  intro error failed
  obtain ⟨location, _, unread | ⟨material, _, refused⟩⟩ := resolve_eq_failed_iff.mp failed
  · exact own location error unread
  · exact reads _ _ material error refused

theorem Config.resolveSigning_failsItself (config : Config) {source : KeySource}
    (own : source.FailsItself) (requested : Option String) :
    (config.resolveSigning source requested).FailsItself := by
  refine KeyReader.resolve_failsItself own (fun format keyId material => ?_) _
  refine (KeyReader.signing_read_failsAs format keyId material).mono ?_
  rintro error (known | ⟨_, _, _, _, _, _, _, rfl⟩)
  · exact known.isOwn
  · exact BuildError.noConfusion

theorem Config.resolveEncryption_failsItself (config : Config) {source : KeySource}
    (own : source.FailsItself) (requested : Option String) :
    (config.resolveEncryption source requested).FailsItself := by
  refine KeyReader.resolve_failsItself own (fun format keyId material => ?_) _
  refine (KeyReader.encryption_read_failsAs format keyId material).mono ?_
  rintro error (known | ⟨_, rfl⟩)
  · exact known.isOwn
  · exact BuildError.noConfusion

theorem SigningKey.sign_failsAs (key : SigningKey) (algorithm : SignatureAlgorithm)
    (input : Bytes) : FailsAs BuildError.IsOwn (key.sign algorithm input) := by
  have rsa (privateKey : Rsa.PrivateKey) (kind : Rsa.DigestKind) :
      FailsAs BuildError.IsOwn (signRsa privateKey kind input) :=
    .mapError (fun _ => BuildError.noConfusion) _
  rw [sign]
  split
  · unfold dispatch
    split
    · exact rsa _ _
    · exact rsa _ _
    · exact rsa _ _
    · rw [signP256]
      cases P256.sign? _ input with
      | none => exact .error BuildError.noConfusion
      | some octets => exact .ok octets
    · simp only [signHmac]
      split
      · exact .error BuildError.noConfusion
      · exact .ok _
    · exact .error BuildError.noConfusion
  · exact .error BuildError.noConfusion

theorem Jws.signer?_failsAs (config : Config) (choices : JwsChoices) :
    ∀ resolution, FailsAs BuildError.IsOwn (signer? config choices resolution)
  | .key key => .ok _
  | .unavailable absence => by
      simp only [signer?]
      split
      · cases choices.algorithm with
        | none => exact .ok none
        | some algorithm => exact .error BuildError.noConfusion
      · exact .error BuildError.noConfusion

theorem Jws.sign_failsItself (config : Config) {source : KeySource} (own : source.FailsItself)
    (claims : Claims) (choices : JwsChoices) :
    (sign config source claims choices).FailsItself := by
  refine (config.resolveSigning_failsItself own _).bind fun resolution => ?_
  refine (Build.failsItself_ofExcept (signer?_failsAs _ _ resolution)).bind fun signer => ?_
  have signs (input : Bytes) : (signature signer input).FailsItself := by
    cases signer with
    | none => exact Build.failsItself_done _ _
    | some signer => exact Build.failsItself_ofExcept (signer.key.sign_failsAs _ _)
  exact (signs _).bind fun octets => Build.failsItself_done _ _

theorem Jwe.requireKey_failsAs : ∀ resolution, FailsAs BuildError.IsOwn (requireKey resolution)
  | .key key => .ok key
  | .unavailable _ => .error BuildError.noConfusion

theorem Jwe.wrap_failsAs (key : EncryptionKey) (seed contentKey : Bytes) :
    FailsAs BuildError.IsOwn (wrap key seed contentKey) := by
  cases key with
  | rsa publicKey =>
      simp only [wrap]
      split
      · exact .ok _
      · exact .error BuildError.noConfusion

theorem Jwe.encryptContent_failsAs (enc : ContentAlgorithm)
    (contentKey nonce associated payload : Bytes) :
    FailsAs BuildError.IsOwn (encryptContent enc contentKey nonce associated payload) := by
  rw [encryptContent]
  split
  · exact .ok _
  · exact .error BuildError.noConfusion

theorem Jwe.encrypt_failsItself (config : Config) {source : KeySource} (own : source.FailsItself)
    (entropy : Entropy) (payload : Bytes) (nested : Bool) (choices : JweChoices) :
    (encrypt config source entropy payload nested choices).FailsItself := by
  refine (config.resolveEncryption_failsItself own _).bind fun resolution => ?_
  refine (Build.failsItself_ofExcept (requireKey_failsAs resolution)).bind fun key => ?_
  refine (Build.failsItself_ofExcept (wrap_failsAs _ _ _)).bind fun wrapped => ?_
  refine (Build.failsItself_ofExcept (encryptContent_failsAs _ _ _ _ _)).bind fun content => ?_
  exact Build.failsItself_done _ _

end Jose
