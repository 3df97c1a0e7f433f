import Jose.Jwe
import Jose.Proofs.Cipher.Gcm
import Jose.Proofs.Header
import Jose.Proofs.Jws
import Jose.Proofs.Rsa.Oaep

/-!
What encrypting gives. There is a token exactly when a key is resolved that takes the content key;
its segments are the header, the wrapped key, the nonce, and the two parts of the content. Whoever
has the private half of the key gets the payload back.
-/

namespace Jose.Jwe

variable {config : Config} {source : KeySource} {entropy : Entropy} {payload : Bytes}
  {isNested : Bool} {choices : JweChoices}

theorem requireKey_eq_ok_iff {resolution : Resolution EncryptionKey} {key : EncryptionKey} :
    requireKey resolution = .ok key ↔ resolution = .key key := by
  cases resolution <;> simp [requireKey]

def contentKey (entropy : Entropy) (header : JweHeader) : Bytes :=
  entropy.contentKey.take header.enc.keyLength

def contents (header : JweHeader) (wrapped nonce : Bytes) (content : Content) : List Bytes :=
  [header.toJson.encode, wrapped, nonce, content.ciphertext, content.tag]

theorem encrypt_eq_done_iff {token : Token} :
    (encrypt config source entropy payload isNested choices).outcome = .done token ↔
      ∃ key wrapped content,
        (config.resolveEncryption source choices.keyId).outcome = .done (.key key) ∧
        wrap key (entropy.seed.take Rsa.hashLength)
          (contentKey entropy (header config choices isNested key)) = .ok wrapped ∧
        encryptContent (header config choices isNested key).enc
          (contentKey entropy (header config choices isNested key))
          (entropy.nonce.take Gcm.nonceLength)
          (Bytes.ofText
            (Base64.encodeUrl (header config choices isNested key).toJson.encode)) payload =
          .ok content ∧
        token = .ofSegments ((contents (header config choices isNested key) wrapped
          (entropy.nonce.take Gcm.nonceLength) content).map Base64.encodeUrl) := by
  simp only [encrypt, Build.bind_eq_done, Build.outcome_ofExcept_eq_done, Build.outcome_report,
    Build.outcome_pure, requireKey_eq_ok_iff]
  constructor
  · rintro ⟨_, resolved, key, rfl, wrapped, wrap, content, encrypted, _, _, same⟩
    injection same with same
    exact ⟨key, wrapped, content, resolved, wrap, encrypted, same.symm⟩
  · rintro ⟨key, wrapped, content, resolved, wrap, encrypted, same⟩
    exact ⟨.key key, resolved, key, rfl, wrapped, wrap, content, encrypted, (), trivial,
      same ▸ rfl⟩

/-- The header of an encrypted token has no `typ`, and is not taken for that of a signed one. -/
theorem jwsHeader_ofBytes (header : JweHeader) :
    JwsHeader.record.ofBytes header.toJson.encode = .error (.missingField "typ") := by
  rw [Record.ofBytes_encode JwsHeader.record header.toJson_isWhole]
  cases header with
  | mk alg enc cty kid =>
      cases alg
      cases enc <;> cases cty <;> cases kid <;> rfl

theorem encrypt_not_isUnsigned {token : Token}
    (encrypted : (encrypt config source entropy payload isNested choices).outcome =
      .done token) : token.isUnsigned = false := by
  obtain ⟨key, wrapped, content, _, _, _, rfl⟩ := encrypt_eq_done_iff.mp encrypted
  rw [Token.isUnsigned, Token.header?, Token.segments_ofSegments (by simp [contents])]
  simp [contents, Except.toOption, jwsHeader_ofBytes]

theorem length_take (count : Nat) (noise : Noise) : (noise.take count).length = count := by
  simp [Noise.take]

theorem Content.ofSealed_append (bytes : Bytes) :
    (Content.ofSealed bytes).ciphertext ++ (Content.ofSealed bytes).tag = bytes :=
  List.take_append_drop _ bytes

theorem encryptContent_eq_ok_iff {enc : ContentAlgorithm}
    {contentKey nonce associated payload : Bytes} {content : Content} :
    encryptContent enc contentKey nonce associated payload = .ok content ↔
      contentKey.length = enc.keyLength ∧
        content = .ofSealed (Gcm.close contentKey nonce associated payload) := by
  simp only [encryptContent]
  split
  · next fits => simp [fits, eq_comm]
  · next misfit => simp [misfit]

theorem wrap_eq_ok_iff {key : Rsa.PublicKey} {seed contentKey wrapped : Bytes} :
    wrap (.rsa key) seed contentKey = .ok wrapped ↔
      key.wrap? seed contentKey = some wrapped := by
  cases answer : key.wrap? seed contentKey <;> simp [wrap, answer]

/-- The holder of the private key gets content key and payload out of a token. -/
theorem open?_encrypt {key : Rsa.PrivateKey} (unwraps : key.Unwraps)
    (matching : (config.resolveEncryption source choices.keyId).outcome =
      .done (.key (.rsa key.publicKey))) {token : Token}
    (encrypted : (encrypt config source entropy payload isNested choices).outcome =
      .done token) :
    open? key token = some ⟨contentKey entropy (header config choices isNested
      (.rsa key.publicKey)), payload⟩ := by
  obtain ⟨found, wrapped, content, resolved, wrap, sealed, rfl⟩ := encrypt_eq_done_iff.mp encrypted
  simp only [matching, Outcome.done.injEq, Resolution.key.injEq] at resolved
  subst resolved
  obtain ⟨fits, rfl⟩ := encryptContent_eq_ok_iff.mp sealed
  have unwrapped := unwraps _ _ _ (length_take _ _) (wrap_eq_ok_iff.mp wrap)
  have opened := Gcm.open?_close
    (contentKey entropy (header config choices isNested (.rsa key.publicKey)))
    (length_take Gcm.nonceLength entropy.nonce)
    (Bytes.ofText (Base64.encodeUrl
      (header config choices isNested (.rsa key.publicKey)).toJson.encode)) payload
  rw [← Content.ofSealed_append (Gcm.close _ _ _ _)] at opened
  rw [open?, Token.segments_ofSegments (by simp [contents])]
  simp [contents, segmentOctets?, Except.toOption, JweHeader.ofBytes_toJson, unwrapped, fits,
    opened, guard]

theorem encrypt_of_key {key : Rsa.PublicKey}
    (resolved : (config.resolveEncryption source choices.keyId).outcome = .done (.key (.rsa key)))
    (room : (header config choices isNested (.rsa key)).enc.keyLength + 2 * Rsa.hashLength + 2 ≤
      Rsa.octetLength key.modulus) :
    ∃ token, (encrypt config source entropy payload isNested choices).outcome = .done token := by
  have length : (contentKey entropy (header config choices isNested (.rsa key))).length =
      (header config choices isNested (.rsa key)).enc.keyLength := length_take _ _
  rw [← length] at room
  exact ⟨_, encrypt_eq_done_iff.mpr ⟨.rsa key, _, _, resolved,
    wrap_eq_ok_iff.mpr (Rsa.wrap?_eq_some_iff.mpr ⟨room, rfl⟩),
    encryptContent_eq_ok_iff.mpr ⟨length, rfl⟩, rfl⟩⟩

end Jose.Jwe
