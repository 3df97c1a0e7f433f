import Jose.Proofs.Jwe
import Jose.Proofs.Warning
import Jose.Session

/-!
Builds in surroundings that agree. Two builds that find the same keys, the same time and the same
token id come to the same end, up to the random octets of an encrypted token.
-/

namespace Jose

structure Surroundings.Agree (left right : Surroundings) : Prop where
  now : left.now = right.now
  source : left.source = right.source
  tokenId : Uuid.random left.entropy.tokenId = Uuid.random right.entropy.tokenId

theorem Surroundings.Agree.refl (around : Surroundings) : around.Agree around := ⟨rfl, rfl, rfl⟩

inductive Outcome.IsAlike {α : Type} (alike : α → α → Prop) : Outcome α → Outcome α → Prop
  | done {left right : α} : alike left right → IsAlike alike (.done left) (.done right)
  | failed (error : BuildError) : IsAlike alike (.failed error) (.failed error)
  | crashed : IsAlike alike .crashed .crashed

namespace Build

variable {α β : Type} {alike : α → α → Prop} {alikeAfter : β → β → Prop}

structure IsAlike (alike : α → α → Prop) (left right : Build α) : Prop where
  trace : left.trace = right.trace
  outcome : Outcome.IsAlike alike left.outcome right.outcome

theorem isAlike_pure {left right : α} (related : alike left right) :
    IsAlike alike (Pure.pure left) (Pure.pure right) := ⟨rfl, .done related⟩

theorem isAlike_refl (related : ∀ value, alike value value) (build : Build α) :
    IsAlike alike build build := by
  refine ⟨rfl, ?_⟩
  cases build.outcome with
  | done value => exact .done (related value)
  | failed error => exact .failed error
  | crashed => exact .crashed

theorem isAlike_ofExcept_ok {left right : Except BuildError α} {here there : α}
    (accepted : left = .ok here) (acceptedThere : right = .ok there) (related : alike here there) :
    IsAlike alike (ofExcept left) (ofExcept right) := by
  rw [accepted, acceptedThere]
  exact ⟨rfl, .done related⟩

theorem isAlike_ofExcept_error {left right : Except BuildError α} {error : BuildError}
    (refused : left = .error error) (refusedThere : right = .error error) :
    IsAlike alike (ofExcept left) (ofExcept right) := by
  rw [refused, refusedThere]
  exact ⟨rfl, .failed error⟩

theorem IsAlike.bind {left right : Build α} (first : IsAlike alike left right)
    {nextLeft nextRight : α → Build β} (later : ∀ here there, alike here there →
      IsAlike alikeAfter (nextLeft here) (nextRight there)) :
    IsAlike alikeAfter (left >>= nextLeft) (right >>= nextRight) := by
  obtain ⟨leftTrace, leftOutcome⟩ := left
  obtain ⟨rightTrace, rightOutcome⟩ := right
  obtain ⟨trace, outcome⟩ := first
  obtain rfl : leftTrace = rightTrace := trace
  cases outcome with
  | done related =>
      have after := later _ _ related
      exact ⟨congrArg (leftTrace ++ ·) after.trace, after.outcome⟩
  | failed error => exact ⟨rfl, .failed error⟩
  | crashed => exact ⟨rfl, .crashed⟩

theorem isAlike_bind_same (first : Build α) {nextLeft nextRight : α → Build β}
    (later : ∀ value, IsAlike alikeAfter (nextLeft value) (nextRight value)) :
    IsAlike alikeAfter (first >>= nextLeft) (first >>= nextRight) :=
  (isAlike_refl (fun _ => rfl) first).bind fun here _ same => same ▸ later here

end Build

namespace Jwe

def tokenFor (key : EncryptionKey) (header : JweHeader) (payload : Bytes) (entropy : Entropy) :
    Except BuildError Token := do
  let wrapped ← wrap key (entropy.seed.take Rsa.hashLength) (contentKey entropy header)
  let content ← encryptContent header.enc (contentKey entropy header)
    (entropy.nonce.take Gcm.nonceLength)
    (Bytes.ofText (Base64.encodeUrl header.toJson.encode)) payload
  return .ofSegments ((contents header wrapped (entropy.nonce.take Gcm.nonceLength) content).map
    Base64.encodeUrl)

end Jwe

inductive Token.IsAlike : Token → Token → Prop
  | same (token : Token) : IsAlike token token
  | fresh {key : EncryptionKey} {header : JweHeader} {payload : Bytes} {here there : Entropy}
      {left right : Token} : Jwe.tokenFor key header payload here = .ok left →
      Jwe.tokenFor key header payload there = .ok right → IsAlike left right

namespace Jwe

theorem exists_wrap {key : Rsa.PublicKey} {secret : Bytes} (seed : Bytes)
    (room : secret.length + 2 * Rsa.hashLength + 2 ≤ Rsa.octetLength key.modulus) :
    ∃ wrapped, wrap (.rsa key) seed secret = .ok wrapped :=
  ⟨_, wrap_eq_ok_iff.mpr (Rsa.wrap?_eq_some_iff.mpr ⟨room, rfl⟩)⟩

theorem wrap_short {key : Rsa.PublicKey} {secret : Bytes} (seed : Bytes)
    (short : Rsa.octetLength key.modulus < secret.length + 2 * Rsa.hashLength + 2) :
    wrap (.rsa key) seed secret =
      .error (.encryption "RSA-OAEP key wrap failed: message too long") := by
  simp only [wrap, Rsa.PublicKey.wrap?, short, if_true]

theorem wrap_isAlike (key : EncryptionKey) (seed seedThere : Bytes) {secret secretThere : Bytes}
    (long : secret.length = secretThere.length) :
    Build.IsAlike
      (fun left right =>
        wrap key seed secret = .ok left ∧ wrap key seedThere secretThere = .ok right)
      (Build.ofExcept (wrap key seed secret))
      (Build.ofExcept (wrap key seedThere secretThere)) := by
  cases key with
  | rsa key =>
      by_cases room : secret.length + 2 * Rsa.hashLength + 2 ≤ Rsa.octetLength key.modulus
      · obtain ⟨wrapped, here⟩ := exists_wrap seed room
        obtain ⟨wrappedThere, there⟩ := exists_wrap seedThere (long ▸ room)
        exact Build.isAlike_ofExcept_ok here there ⟨here, there⟩
      · have short := Nat.not_le.mp room
        exact Build.isAlike_ofExcept_error (wrap_short seed short)
          (wrap_short seedThere (long ▸ short))

theorem exists_encryptContent {enc : ContentAlgorithm} {contentKey : Bytes}
    (long : contentKey.length = enc.keyLength) (nonce associated payload : Bytes) :
    ∃ content, encryptContent enc contentKey nonce associated payload = .ok content :=
  ⟨_, encryptContent_eq_ok_iff.mpr ⟨long, rfl⟩⟩

theorem length_contentKey (entropy : Entropy) (header : JweHeader) :
    (contentKey entropy header).length = header.enc.keyLength := length_take _ _

theorem tokenFor_eq_ok {key : EncryptionKey} {header : JweHeader} {payload : Bytes}
    {entropy : Entropy} {wrapped : Bytes} {content : Content}
    (wrap : wrap key (entropy.seed.take Rsa.hashLength) (contentKey entropy header) = .ok wrapped)
    (encrypted : encryptContent header.enc (contentKey entropy header)
      (entropy.nonce.take Gcm.nonceLength) (Bytes.ofText (Base64.encodeUrl header.toJson.encode))
      payload = .ok content) :
    tokenFor key header payload entropy = .ok (.ofSegments ((contents header wrapped
      (entropy.nonce.take Gcm.nonceLength) content).map Base64.encodeUrl)) := by
  rw [tokenFor, wrap]
  simp only [bind, Except.bind, encrypted]
  rfl

theorem encrypt_isAlike (config : Config) (source : KeySource) (here there : Entropy)
    (payload : Bytes) (isNested : Bool) (choices : JweChoices) :
    Build.IsAlike Token.IsAlike (encrypt config source here payload isNested choices)
      (encrypt config source there payload isNested choices) := by
  apply Build.isAlike_bind_same
  intro resolution
  apply Build.isAlike_bind_same
  intro key
  have long := length_contentKey here (header config choices isNested key)
  have longThere := length_contentKey there (header config choices isNested key)
  -- Only the lengths of key and seed decide whether the key is wrapped, and they are fixed.
  apply (wrap_isAlike key _ _ (long.trans longThere.symm)).bind
  rintro wrapped wrappedThere ⟨wrap, wrapThere⟩
  obtain ⟨content, encrypted⟩ := exists_encryptContent long (here.nonce.take Gcm.nonceLength)
    (Bytes.ofText (Base64.encodeUrl (header config choices isNested key).toJson.encode)) payload
  obtain ⟨contentThere, encryptedThere⟩ := exists_encryptContent longThere
    (there.nonce.take Gcm.nonceLength)
    (Bytes.ofText (Base64.encodeUrl (header config choices isNested key).toJson.encode)) payload
  have made := tokenFor_eq_ok wrap encrypted
  have madeThere := tokenFor_eq_ok wrapThere encryptedThere
  have sealedContents : Build.IsAlike (fun left right => left = content ∧ right = contentThere)
      _ _ := Build.isAlike_ofExcept_ok encrypted encryptedThere ⟨rfl, rfl⟩
  apply sealedContents.bind
  rintro _ _ ⟨rfl, rfl⟩
  apply Build.isAlike_bind_same
  intro _
  exact Build.isAlike_pure (.fresh made madeThere)

end Jwe

theorem Pool.run_isAlike (inside : Bool) {job : Job} {left right : Surroundings}
    (alike : Build.IsAlike Token.IsAlike (job left) (job right)) :
    Build.IsAlike Token.IsAlike (run inside job left) (run inside job right) := by
  obtain ⟨trace, outcome⟩ := alike
  rw [run_eq, run_eq]
  refine ⟨trace, ?_⟩
  -- A crash of the source is the only end that depends on where the build runs.
  generalize (job left).outcome = here at outcome ⊢
  generalize (job right).outcome = there at outcome ⊢
  cases outcome with
  | done related => exact .done related
  | failed error => exact .failed error
  | crashed =>
      cases inside with
      | true => exact .failed .taskFailed
      | false => exact .crashed

inductive Progress.IsAlike : Progress → Progress → Prop
  | same (progress : Progress) : IsAlike progress progress
  | token {left right : Token} : left.IsAlike right → IsAlike (.token left) (.token right)

section Moves

variable {left right : Surroundings}

theorem ClaimsBuilder.finish_agree (agree : left.Agree right) (builder : ClaimsBuilder) :
    builder.finish left = builder.finish right := by
  simp only [ClaimsBuilder.finish, agree.now, agree.tokenId]

theorem ClaimsBuilder.jws_agree (agree : left.Agree right) (builder : ClaimsBuilder) :
    builder.jws left = builder.jws right := by
  simp only [ClaimsBuilder.jws, builder.finish_agree agree]

theorem ClaimsBuilder.jwe_agree (agree : left.Agree right) (builder : ClaimsBuilder) :
    builder.jwe left = builder.jwe right := by
  simp only [ClaimsBuilder.jwe, builder.finish_agree agree]

theorem JwsBuilder.sign_agree (agree : left.Agree right) (builder : JwsBuilder) :
    builder.sign left = builder.sign right := by
  simp only [JwsBuilder.sign, agree.source]

theorem JwsBuilder.innerSign_agree (agree : left.Agree right) (builder : JwsBuilder) :
    builder.innerSign left = builder.innerSign right := by
  simp only [JwsBuilder.innerSign, builder.sign_agree agree]

theorem JweBuilder.encrypt_isAlike (agree : left.Agree right) (builder : JweBuilder) :
    Build.IsAlike Token.IsAlike (builder.encrypt left) (builder.encrypt right) := by
  rw [JweBuilder.encrypt, JweBuilder.encrypt, agree.source]
  exact Jwe.encrypt_isAlike _ _ _ _ _ _ _

abbrev Move.IsAlike : Option (Build Progress) → Option (Build Progress) → Prop :=
  Option.Rel (Build.IsAlike Progress.IsAlike)

theorem Move.isAlike_refl (moved : Option (Build Progress)) : Move.IsAlike moved moved := by
  cases moved with
  | none => exact .none
  | some progress => exact .some (Build.isAlike_refl Progress.IsAlike.same progress)

theorem Move.isAlike_token {here there : Build Token}
    (alike : Build.IsAlike Token.IsAlike here there) :
    Move.IsAlike (some do return .token (← here)) (some do return .token (← there)) :=
  .some (alike.bind fun _ _ related => Build.isAlike_pure (.token related))

theorem ClaimsBuilder.move?_isAlike (agree : left.Agree right) (builder : ClaimsBuilder)
    (move : Move) : Move.IsAlike (builder.move? left move) (builder.move? right move) := by
  cases move with
  | call call =>
      simp only [ClaimsBuilder.move?, agree.now]
      exact Move.isAlike_refl _
  | finish =>
      simp only [ClaimsBuilder.move?, builder.finish_agree agree]
      exact Move.isAlike_refl _
  | jws =>
      simp only [ClaimsBuilder.move?, builder.jws_agree agree]
      exact Move.isAlike_refl _
  | jwe =>
      simp only [ClaimsBuilder.move?, builder.jwe_agree agree]
      exact Move.isAlike_refl _
  | innerSign =>
      simp only [ClaimsBuilder.move?, builder.jws_agree agree, JwsBuilder.innerSign_agree agree]
      exact Move.isAlike_refl _
  | sign =>
      simp only [ClaimsBuilder.move?, builder.jws_agree agree, JwsBuilder.sign_agree agree]
      exact Move.isAlike_refl _
  | encrypt =>
      simp only [ClaimsBuilder.move?, builder.jwe_agree agree]
      refine .some (Build.isAlike_bind_same _ ?_)
      intro encryption
      exact (encryption.encrypt_isAlike agree).bind fun _ _ related =>
        Build.isAlike_pure (.token related)
  | _ => exact .none

theorem JwsBuilder.move?_isAlike (agree : left.Agree right) (builder : JwsBuilder)
    (move : Move) : Move.IsAlike (builder.move? left move) (builder.move? right move) := by
  cases move with
  | keyId keyId => exact Move.isAlike_refl _
  | algorithm algorithm => exact Move.isAlike_refl _
  | innerSign =>
      simp only [JwsBuilder.move?, builder.innerSign_agree agree]
      exact Move.isAlike_refl _
  | sign =>
      simp only [JwsBuilder.move?, builder.sign_agree agree]
      exact Move.isAlike_refl _
  | signLater inside =>
      simp only [JwsBuilder.move?, Pool.run_eq, builder.sign_agree agree]
      exact Move.isAlike_refl _
  | _ => exact .none

theorem JweBuilder.move?_isAlike (agree : left.Agree right) (builder : JweBuilder)
    (move : Move) : Move.IsAlike (builder.move? left move) (builder.move? right move) := by
  cases move with
  | keyId keyId => exact Move.isAlike_refl _
  | contentAlgorithm algorithm => exact Move.isAlike_refl _
  | encrypt => exact Move.isAlike_token (builder.encrypt_isAlike agree)
  | encryptLater inside =>
      exact Move.isAlike_token (Pool.run_isAlike inside (builder.encrypt_isAlike agree))
  | _ => exact .none

theorem Builder.move?_isAlike (agree : left.Agree right) (builder : Builder) (move : Move) :
    Move.IsAlike (builder.move? left move) (builder.move? right move) := by
  cases builder with
  | claims builder => exact builder.move?_isAlike agree move
  | jws builder => exact builder.move?_isAlike agree move
  | jwe builder => exact builder.move?_isAlike agree move

end Moves

end Jose
