import Jose.Cipher.Gcm
import Jose.Proofs.BigEndian
import Jose.Proofs.Cipher.Aes

/-!
Opening undoes closing: under the same key, nonce and associated data the plaintext comes back,
since the key stream covers it and the tag is computed from the same ciphertext.
-/

namespace Jose.Gcm

variable {nonce : Bytes}

theorem length_counterBlock (whole : nonce.length = nonceLength) (counter : Nat) :
    (counterBlock nonce counter).length = 16 := by
  rw [counterBlock, List.length_append, whole, Bytes.length_ofNatWide]
  rfl

theorem length_keyStream (key : Bytes) (whole : nonce.length = nonceLength) (length : Nat) :
    length ≤ (keyStream (Aes.expand key) nonce length).length := by
  have blocks : ∀ index ∈ List.range (length / 16 + 1),
      (Aes.encrypt (Aes.expand key) (counterBlock nonce (index + 2))).length = 16 :=
    fun index _ => Aes.length_encrypt key (length_counterBlock whole (index + 2))
  rw [keyStream, List.length_flatMap, List.map_congr_left blocks, List.map_const',
    List.sum_replicate_nat, List.length_range]
  omega

theorem length_combine (key : Bytes) (whole : nonce.length = nonceLength) (text : Bytes) :
    (combine (Aes.expand key) nonce text).length = text.length := by
  rw [combine, Bytes.length_xor, Nat.min_eq_left (length_keyStream key whole text.length)]

theorem combine_combine (key : Bytes) (whole : nonce.length = nonceLength) (text : Bytes) :
    combine (Aes.expand key) nonce (combine (Aes.expand key) nonce text) = text := by
  have length := length_combine key whole text
  rw [combine, length]
  exact Bytes.xor_xor (length_keyStream key whole text.length)

theorem length_tag (key : Bytes) (whole : nonce.length = nonceLength)
    (associated ciphertext : Bytes) :
    (tag (Aes.expand key) nonce associated ciphertext).length = tagLength := by
  simp only [tag, Bytes.length_xor, Bytes.length_ofNatWide,
    Aes.length_encrypt key (length_counterBlock whole 1)]
  rfl

theorem close_parts (key : Bytes) (whole : nonce.length = nonceLength)
    (associated plaintext : Bytes) :
    let closed := close key nonce associated plaintext
    closed.length = plaintext.length + tagLength ∧
      closed.take plaintext.length = combine (Aes.expand key) nonce plaintext ∧
      closed.drop plaintext.length =
        tag (Aes.expand key) nonce associated (combine (Aes.expand key) nonce plaintext) := by
  have tagged := length_tag key whole associated (combine (Aes.expand key) nonce plaintext)
  have combined := length_combine key whole plaintext
  refine ⟨?_, ?_, ?_⟩
  · rw [close, List.length_append, tagged, combined]
  · rw [close, ← combined, List.take_left]
  · rw [close, ← combined, List.drop_left]

theorem open?_close (key : Bytes) (whole : nonce.length = nonceLength)
    (associated plaintext : Bytes) :
    open? key nonce associated (close key nonce associated plaintext) = some plaintext := by
  obtain ⟨length, ciphertext, tagged⟩ := close_parts key whole associated plaintext
  simp only [open?, length, Nat.add_sub_cancel, ciphertext, tagged]
  rw [if_pos ⟨Nat.le_add_left _ _, trivial⟩, combine_combine key whole]

end Jose.Gcm
