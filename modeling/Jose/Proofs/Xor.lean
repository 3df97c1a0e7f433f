import Jose.Bytes

/-!
Combining octet strings. What is combined twice with the same octets is what it was before.
-/

namespace Jose.Bytes

theorem length_chunks {length : Nat} {bytes chunk : Bytes} (member : chunk ∈ chunks length bytes) :
    chunk.length = length := by
  simp only [chunks, List.mem_map, List.mem_range] at member
  obtain ⟨index, small, rfl⟩ := member
  have room : (index + 1) * length ≤ bytes.length :=
    Nat.le_trans (Nat.mul_le_mul_right length small) (Nat.div_mul_le_self bytes.length length)
  rw [List.length_take, List.length_drop, Nat.min_eq_left]
  rw [Nat.succ_mul] at room
  omega

theorem count_chunks (length : Nat) (bytes : Bytes) :
    (chunks length bytes).length = bytes.length / length := by
  simp [chunks]

@[simp] theorem length_xor (left right : Bytes) :
    (xor left right).length = min left.length right.length := by
  simp [xor]

theorem xor_xor {left right : Bytes} (covered : left.length ≤ right.length) :
    xor (xor left right) right = left := by
  induction left generalizing right with
  | nil => rfl
  | cons byte rest ih =>
      cases right with
      | nil => simp at covered
      | cons mask others =>
          simp only [List.length_cons, Nat.add_le_add_iff_right] at covered
          have tail := ih covered
          simp only [xor] at tail
          simp only [xor, List.zipWith_cons_cons, tail, UInt8.xor_assoc, UInt8.xor_self,
            UInt8.xor_zero]

end Jose.Bytes
