import Jose.Bytes
import Mathlib.Tactic.Linarith
import Mathlib.Tactic.Ring

/-!
Numbers as big-endian octets. Octets of one length and the numbers below a power of 256 stand for
each other.
-/

namespace Jose.Bytes

@[simp] theorem length_ofNatWide (width value : Nat) : (ofNatWide width value).length = width := by
  induction width with
  | zero => rfl
  | succ width ih => simp [ofNatWide, ih]

theorem foldl_toNat (start : Nat) (bytes : Bytes) :
    bytes.foldl (fun value byte => value * 256 + byte.toNat) start =
      start * 256 ^ bytes.length + toNat bytes := by
  induction bytes generalizing start with
  | nil => simp [toNat]
  | cons byte rest ih =>
      rw [toNat, List.foldl_cons, List.foldl_cons, ih, ih, List.length_cons, Nat.pow_succ]
      ring

theorem toNat_cons (byte : UInt8) (rest : Bytes) :
    toNat (byte :: rest) = byte.toNat * 256 ^ rest.length + toNat rest := by
  have opened := foldl_toNat byte.toNat rest
  simpa [toNat] using opened

theorem toNat_lt (bytes : Bytes) : toNat bytes < 256 ^ bytes.length := by
  induction bytes with
  | nil => simp [toNat]
  | cons byte rest ih =>
      have bound : byte.toNat + 1 ≤ 256 := byte.toNat_lt
      have scaled := Nat.mul_le_mul_right (256 ^ rest.length) bound
      rw [toNat_cons, List.length_cons, Nat.pow_succ]
      linarith

theorem toNat_ofNatWide_mod (width value : Nat) :
    toNat (ofNatWide width value) = value % 256 ^ width := by
  induction width with
  | zero => simp [ofNatWide, toNat, Nat.mod_one]
  | succ width ih =>
      rw [ofNatWide, toNat_cons, length_ofNatWide, ih, Nat.mod_pow_succ, UInt8.toNat_ofNat',
        Nat.pow_eq]
      ring

theorem toNat_ofNatWide {width value : Nat} (small : value < 256 ^ width) :
    toNat (ofNatWide width value) = value := by
  rw [toNat_ofNatWide_mod, Nat.mod_eq_of_lt small]

theorem toNat_inj {left right : Bytes} (length : left.length = right.length)
    (same : toNat left = toNat right) : left = right := by
  induction left generalizing right with
  | nil => exact (List.length_eq_zero_iff.mp length.symm).symm
  | cons byte rest ih =>
      cases right with
      | nil => simp at length
      | cons other others =>
          simp only [List.length_cons, Nat.add_right_cancel_iff] at length
          have low := toNat_lt rest
          have otherLow := toNat_lt others
          rw [toNat_cons, toNat_cons, length] at same
          rw [length] at low
          have positive : 0 < 256 ^ others.length := by positivity
          have first : byte.toNat = other.toNat := by
            have quotient := congrArg (· / 256 ^ others.length) same
            simpa [Nat.add_comm (_ * _), Nat.add_mul_div_right, positive, Nat.div_eq_of_lt low,
              Nat.div_eq_of_lt otherLow] using quotient
          have remaining : toNat rest = toNat others := by
            rw [first] at same
            exact Nat.add_left_cancel same
          rw [UInt8.toNat_inj.mp first, ih length remaining]

theorem ofNatWide_toNat (bytes : Bytes) : ofNatWide bytes.length (toNat bytes) = bytes := by
  apply toNat_inj (length_ofNatWide _ _)
  exact toNat_ofNatWide (toNat_lt bytes)

theorem lt_width (value : Nat) : value < 256 ^ width value := by
  by_cases zero : value = 0
  · simp [width, zero]
  · have bits : value < 2 ^ (value.log2 + 1) := Nat.lt_log2_self
    have enough : 2 ^ (value.log2 + 1) ≤ 2 ^ (8 * (value.log2 / 8 + 1)) :=
      Nat.pow_le_pow_right (by decide) (by omega)
    rw [width, if_neg zero, show (256 : Nat) = 2 ^ 8 from rfl, ← Nat.pow_mul]
    omega

@[simp] theorem toNat_ofNat (value : Nat) : toNat (ofNat value) = value :=
  toNat_ofNatWide (lt_width value)

@[simp] theorem toNat_zeros_append (zeros : Nat) (octets : Bytes) :
    toNat (List.replicate zeros 0 ++ octets) = toNat octets := by
  induction zeros with
  | zero => rfl
  | succ zeros ih =>
      rw [List.replicate_succ, List.cons_append, toNat_cons, ih]
      simp

end Jose.Bytes
