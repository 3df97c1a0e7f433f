import Jose.Proofs.Alike
import Jose.Proofs.Nested
import Jose.Proofs.Selection

/-!
Encryption is all or nothing. There is a whole token of five segments, or an error; without a key
there is no token, whatever the configuration says of unsigned ones. For a key that is found only
its size decides, and never the payload or the random octets.
-/

namespace Jose

namespace Jwe

variable {config : Config} {source : KeySource} {entropy : Entropy} {payload : Bytes}
  {isNested : Bool} {choices : JweChoices}

def Fits (enc : ContentAlgorithm) : EncryptionKey → Prop
  | .rsa key => enc.keyLength + 2 * Rsa.hashLength + 2 ≤ Rsa.octetLength key.modulus

def chosen (config : Config) (choices : JweChoices) : ContentAlgorithm :=
  choices.contentAlgorithm.getD config.contentAlgorithm

theorem length_ofSealed {closed : Bytes} {length : Nat}
    (long : closed.length = length + Gcm.tagLength) :
    (Content.ofSealed closed).ciphertext.length = length ∧
      (Content.ofSealed closed).tag.length = Gcm.tagLength := by
  simp only [Content.ofSealed, List.length_take, List.length_drop]
  omega

def closed (entropy : Entropy) (header : JweHeader) (associated payload : Bytes) : Content :=
  .ofSealed (Gcm.close (contentKey entropy header) (entropy.nonce.take Gcm.nonceLength) associated
    payload)

theorem encryptContent_fresh (entropy : Entropy) (header : JweHeader)
    (associated payload : Bytes) :
    encryptContent header.enc (contentKey entropy header) (entropy.nonce.take Gcm.nonceLength)
      associated payload = .ok (closed entropy header associated payload) :=
  encryptContent_eq_ok_iff.mpr ⟨length_contentKey entropy header, rfl⟩

theorem closed_lengths (entropy : Entropy) (header : JweHeader) (associated payload : Bytes) :
    (closed entropy header associated payload).ciphertext.length = payload.length ∧
      (closed entropy header associated payload).tag.length = Gcm.tagLength :=
  length_ofSealed (Gcm.close_parts _ (length_take Gcm.nonceLength entropy.nonce) _ _).1

end Jwe

structure Token.IsComplete (header : JweHeader) (wrapped nonce : Bytes) (content : Jwe.Content)
    (length : Nat) (token : Token) : Prop where
  isAscii : ∀ char ∈ token.text.toList, char.toNat < 128
  readsBack : token.jweHeader? = some header
  segments : token.segments.map Base64.decodeUrl = [.ok header.toJson.encode, .ok wrapped,
    .ok nonce, .ok content.ciphertext, .ok content.tag]
  nonceLength : nonce.length = 12
  ciphertextLength : content.ciphertext.length = length
  tagLength : content.tag.length = 16

namespace Jwe

variable {config : Config} {source : KeySource} {entropy : Entropy} {payload : Bytes}
  {isNested : Bool} {choices : JweChoices}

def protectedText (header : JweHeader) : Bytes :=
  Bytes.ofText (Base64.encodeUrl header.toJson.encode)

theorem isComplete_ofSegments (entropy : Entropy) (header : JweHeader)
    (wrapped payload : Bytes) :
    (Token.ofSegments ((contents header wrapped (entropy.nonce.take Gcm.nonceLength)
      (closed entropy header (protectedText header) payload)).map Base64.encodeUrl)).IsComplete
        header wrapped (entropy.nonce.take Gcm.nonceLength)
        (closed entropy header (protectedText header) payload) payload.length where
  isAscii := Token.ofSegments_isAscii _
  readsBack := by
    rw [Token.jweHeader?, contents, Token.protectedOctets?_ofSegments]
    simp [JweHeader.ofBytes_toJson, Except.toOption]
  segments := by
    rw [Token.segments_ofSegments (by simp [contents])]
    simp [contents]
  nonceLength := length_take _ _
  ciphertextLength := (closed_lengths entropy header _ payload).1
  tagLength := (closed_lengths entropy header _ payload).2

inductive Ending (config : Config) (source : KeySource) (entropy : Entropy) (payload : Bytes)
    (isNested : Bool) (choices : JweChoices) : Outcome Token → Prop
  | whole {key : EncryptionKey} {wrapped : Bytes} {token : Token}
      (resolved : (config.resolveEncryption source choices.keyId).outcome = .done (.key key))
      (sized : (contentKey entropy (header config choices isNested key)).length =
        (header config choices isNested key).enc.keyLength)
      (wraps : wrap key (entropy.seed.take Rsa.hashLength)
        (contentKey entropy (header config choices isNested key)) = .ok wrapped)
      (complete : token.IsComplete (header config choices isNested key) wrapped
        (entropy.nonce.take Gcm.nonceLength)
        (closed entropy (header config choices isNested key)
          (protectedText (header config choices isNested key)) payload) payload.length) :
      Ending config source entropy payload isNested choices (.done token)
  | small {key : EncryptionKey}
      (resolved : (config.resolveEncryption source choices.keyId).outcome = .done (.key key))
      (small : ¬ Fits (chosen config choices) key) :
      Ending config source entropy payload isNested choices
        (.failed (.encryption "RSA-OAEP key wrap failed: message too long"))
  | absent {absence : Absence}
      (absent : (config.resolveEncryption source choices.keyId).outcome =
        .done (.unavailable absence)) :
      Ending config source entropy payload isNested choices
        (.failed (.keyResolution .keyEncryption absence.reason))
  | unresolved {error : BuildError}
      (failed : (config.resolveEncryption source choices.keyId).outcome = .failed error) :
      Ending config source entropy payload isNested choices (.failed error)
  | crashed {location : String} (present : config.encryptionKey.location = some location)
      (crashed : source.answer location = .crashed) :
      Ending config source entropy payload isNested choices .crashed

theorem encrypt_whole (entropy : Entropy) (payload : Bytes) (isNested : Bool)
    {key : EncryptionKey}
    (resolved : (config.resolveEncryption source choices.keyId).outcome = .done (.key key))
    (fits : Fits (chosen config choices) key) :
    ∃ wrapped token, wrap key (entropy.seed.take Rsa.hashLength)
        (contentKey entropy (header config choices isNested key)) = .ok wrapped ∧
      (encrypt config source entropy payload isNested choices).outcome = .done token ∧
      token.IsComplete (header config choices isNested key) wrapped
        (entropy.nonce.take Gcm.nonceLength)
        (closed entropy (header config choices isNested key)
          (protectedText (header config choices isNested key)) payload) payload.length := by
  cases key with
  | rsa publicKey =>
      let made := header config choices isNested (.rsa publicKey)
      have room : (contentKey entropy made).length + 2 * Rsa.hashLength + 2 ≤
          Rsa.octetLength publicKey.modulus := by
        rw [length_contentKey]
        exact fits
      obtain ⟨wrapped, wraps⟩ := exists_wrap (entropy.seed.take Rsa.hashLength) room
      have encrypted := encryptContent_fresh entropy made (protectedText made) payload
      exact ⟨wrapped, _, wraps,
        encrypt_eq_done_iff.mpr ⟨_, wrapped, _, resolved, wraps, encrypted, rfl⟩,
        isComplete_ofSegments entropy made wrapped payload⟩

theorem encrypt_small {key : EncryptionKey}
    (resolved : (config.resolveEncryption source choices.keyId).outcome = .done (.key key))
    (small : ¬ Fits (chosen config choices) key) :
    (encrypt config source entropy payload isNested choices).outcome =
      .failed (.encryption "RSA-OAEP key wrap failed: message too long") := by
  cases key with
  | rsa publicKey =>
      have short : Rsa.octetLength publicKey.modulus <
          (contentKey entropy (header config choices isNested (.rsa publicKey))).length +
            2 * Rsa.hashLength + 2 := by
        rw [length_contentKey]
        exact Nat.not_le.mp small
      have refused := wrap_short (entropy.seed.take Rsa.hashLength) short
      rw [encrypt, Build.bind_of_done resolved]
      simp only [requireKey, Build.ofExcept, Outcome.ofExcept, Build.mk_done_bind]
      exact congrArg Build.outcome
        (Build.bind_of_failed (Build.outcome_ofExcept_eq_failed.mpr refused))

theorem encrypt_absent {absence : Absence}
    (absent : (config.resolveEncryption source choices.keyId).outcome =
      .done (.unavailable absence)) :
    (encrypt config source entropy payload isNested choices).outcome =
      .failed (.keyResolution .keyEncryption absence.reason) := by
  rw [encrypt, Build.bind_of_done absent]
  rfl

theorem encrypt_unresolved {error : BuildError}
    (failed : (config.resolveEncryption source choices.keyId).outcome = .failed error) :
    (encrypt config source entropy payload isNested choices).outcome = .failed error := by
  rw [encrypt, Build.bind_of_failed failed]

theorem encrypt_ends (config : Config) (source : KeySource) (entropy : Entropy) (payload : Bytes)
    (isNested : Bool) (choices : JweChoices) :
    Ending config source entropy payload isNested choices
      (encrypt config source entropy payload isNested choices).outcome := by
  cases resolved : (config.resolveEncryption source choices.keyId).outcome with
  | crashed =>
      obtain ⟨location, target, crashed⟩ := KeyReader.resolve_eq_crashed_iff.mp resolved
      rw [encrypt, Build.bind_of_crashed resolved]
      exact .crashed (KeySpec.target_eq_ok_iff.mp target).2 crashed
  | failed error =>
      rw [encrypt_unresolved resolved]
      exact .unresolved resolved
  | done resolution =>
      cases resolution with
      | unavailable absence =>
          rw [encrypt_absent resolved]
          exact .absent resolved
      | key key =>
          by_cases fits : Fits (chosen config choices) key
          · obtain ⟨wrapped, token, wraps, encrypted, complete⟩ :=
              encrypt_whole entropy payload isNested resolved fits
            rw [encrypted]
            exact .whole resolved (length_contentKey _ _) wraps complete
          · rw [encrypt_small resolved fits]
            exact .small resolved fits

theorem encrypt_done_iff_fits {key : EncryptionKey}
    (resolved : (config.resolveEncryption source choices.keyId).outcome = .done (.key key)) :
    (∃ token, (encrypt config source entropy payload isNested choices).outcome = .done token) ↔
      Fits (chosen config choices) key := by
  constructor
  · rintro ⟨token, encrypted⟩
    by_contra small
    rw [encrypt_small resolved small] at encrypted
    contradiction
  · intro fits
    obtain ⟨_, token, _, encrypted, _⟩ := encrypt_whole entropy payload isNested resolved fits
    exact ⟨token, encrypted⟩

end Jwe

section Statement

structure Config.EncryptsWholly (config : Config) (source : KeySource) : Prop where
  ends : ∀ entropy payload isNested choices,
    Jwe.Ending config source entropy payload isNested choices
      (Jwe.encrypt config source entropy payload isNested choices).outcome
  absent : config.encryptionKey.IsAbsent → ∀ entropy payload isNested choices,
    ∃ absence : Absence, (Jwe.encrypt config source entropy payload isNested choices).outcome =
      .failed (.keyResolution .keyEncryption absence.reason)
  sized : ∀ entropy (header : JweHeader) associated payload,
    Jwe.encryptContent header.enc (Jwe.contentKey entropy header)
      (entropy.nonce.take Gcm.nonceLength) associated payload =
        .ok (Jwe.closed entropy header associated payload)
  splits : ∀ (entropy : Entropy) (header : JweHeader) associated payload,
    let whole := Gcm.close (Jwe.contentKey entropy header) (entropy.nonce.take Gcm.nonceLength)
      associated payload
    whole.length = payload.length + Gcm.tagLength ∧
      (Jwe.closed entropy header associated payload).ciphertext = whole.take payload.length ∧
      (Jwe.closed entropy header associated payload).tag = whole.drop payload.length
  decided : ∀ choices key,
    (config.resolveEncryption source choices.keyId).outcome = .done (.key key) →
    ∀ entropy payload isNested,
      (∃ token, (Jwe.encrypt config source entropy payload isNested choices).outcome =
        .done token) ↔ Jwe.Fits (Jwe.chosen config choices) key

theorem Config.resolveEncryption_absent {config : Config} (absent : config.encryptionKey.IsAbsent)
    (source : KeySource) (requested : Option String) :
    ∃ absence, (config.resolveEncryption source requested).outcome =
      .done (.unavailable absence) := by
  have missing : ∃ absence,
      (KeySpec.ofConfig .keyEncryption requested config).target = .error absence :=
    KeySpec.target_eq_error_iff.mpr absent
  obtain ⟨absence, target⟩ := missing
  exact ⟨absence, by rw [resolveEncryption, KeyReader.resolve_absent target]⟩

/-- Encryption gives a whole token or none. Its five segments hold the header, the wrapped content
key, the drawn nonce and the closed payload with its tag, each in its length; else the key could not
be had, or is too small to wrap the content key. -/
theorem Config.encryptsWholly (config : Config) (source : KeySource) :
    config.EncryptsWholly source where
  ends := Jwe.encrypt_ends config source
  absent := by
    intro absent entropy payload isNested choices
    obtain ⟨absence, unavailable⟩ := resolveEncryption_absent absent source choices.keyId
    exact ⟨absence, Jwe.encrypt_absent unavailable⟩
  sized := Jwe.encryptContent_fresh
  splits := by
    intro entropy header associated payload whole
    have length : whole.length = payload.length + Gcm.tagLength :=
      (Gcm.close_parts _ (Jwe.length_take _ _) associated payload).1
    have covered : whole.length - Gcm.tagLength = payload.length := by omega
    exact ⟨length, congrArg whole.take covered, congrArg whole.drop covered⟩
  decided _ _ resolved _ _ _ := Jwe.encrypt_done_iff_fits resolved

end Statement

section Found

def laxConfig : Config := { ClaimsBuilder.keyed.config with
  encryptionKey := .standard
  unsignedFallback := true }

theorem Config.encryptsWholly_storedKeys :
    (∀ entropy payload isNested, ∃ token wrapped content,
      (Jwe.encrypt ClaimsBuilder.keyed.config storedKeys entropy payload isNested
        .blank).outcome = .done token ∧
      token.IsComplete (Jwe.header ClaimsBuilder.keyed.config .blank isNested
        (.rsa Rsa.mersenneKey.publicKey)) wrapped (entropy.nonce.take Gcm.nonceLength) content
        payload.length) ∧
      ∀ entropy payload isNested choices, ∃ absence : Absence,
        (Jwe.encrypt laxConfig storedKeys entropy payload isNested choices).outcome =
          .failed (.keyResolution .keyEncryption absence.reason) := by
  have keyed := encryptsWholly ClaimsBuilder.keyed.config storedKeys
  constructor
  · intro entropy payload isNested
    have fits : Jwe.Fits (Jwe.chosen ClaimsBuilder.keyed.config .blank)
        (.rsa Rsa.mersenneKey.publicKey) := by
      simp only [Jwe.Fits]
      decide +kernel
    obtain ⟨token, encrypted⟩ := (keyed.decided .blank _ storedKeys_encryption entropy payload
      isNested).mpr fits
    have ending := keyed.ends entropy payload isNested .blank
    rw [encrypted] at ending
    cases ending with
    | whole resolved _ _ complete =>
        obtain rfl := Resolution.key.inj
          (Outcome.done.inj (storedKeys_encryption.symm.trans resolved))
        exact ⟨token, _, _, encrypted, complete⟩
  · exact (encryptsWholly laxConfig storedKeys).absent (.inr rfl)

end Found

end Jose
