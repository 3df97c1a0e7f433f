import Jose.Cipher.Aes
import Jose.Proofs.Xor

/-!
Blocks stay blocks: whatever the key, a block of sixteen octets is encrypted to one of sixteen.
-/

namespace Jose.Aes

theorem expand_lengths {key roundKey : Bytes} (member : roundKey ∈ expand key) :
    roundKey.length = 16 :=
  Bytes.length_chunks member

theorem length_shiftRows (block : Bytes) : (shiftRows block).length = 16 := by
  simp [shiftRows]

theorem length_mixColumn {column : Bytes} (four : column.length = 4) :
    (mixColumn column).length = 4 := by
  match column, four with
  | [a, b, c, d], _ => rfl

theorem length_mixColumns {block : Bytes} (whole : block.length = 16) :
    (mixColumns block).length = 16 := by
  have columns : ∀ column ∈ Bytes.chunks 4 block, (mixColumn column).length = 4 :=
    fun column member => length_mixColumn (Bytes.length_chunks member)
  rw [mixColumns, List.length_flatMap, List.map_congr_left columns, List.map_const',
    List.sum_replicate_nat, Bytes.count_chunks, whole]

theorem length_runRounds {block : Bytes} {keys : List Bytes} (whole : block.length = 16)
    (lengths : ∀ key ∈ keys, key.length = 16) : (runRounds block keys).length = 16 := by
  induction keys generalizing block with
  | nil => exact whole
  | cons key rest ih =>
      have first : key.length = 16 := lengths key (by simp)
      cases rest with
      | nil => rw [runRounds, Bytes.length_xor, length_shiftRows, first, Nat.min_self]
      | cons next rest =>
          apply ih
          · rw [Bytes.length_xor, length_mixColumns (length_shiftRows _), first, Nat.min_self]
          · exact fun other member => lengths other (by simp [member])

theorem length_encrypt (key : Bytes) {block : Bytes} (whole : block.length = 16) :
    (encrypt (expand key) block).length = 16 := by
  have lengths : ∀ roundKey ∈ expand key, roundKey.length = 16 := fun _ => expand_lengths
  cases keys : expand key with
  | nil => exact whole
  | cons first rest =>
      rw [keys] at lengths
      rw [encrypt]
      apply length_runRounds
      · rw [Bytes.length_xor, whole, lengths first (by simp), Nat.min_self]
      · exact fun roundKey member => lengths roundKey (by simp [member])

end Jose.Aes
