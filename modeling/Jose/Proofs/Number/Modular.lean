import Jose.Number.Modular
import Mathlib.Data.Int.ModEq
import Mathlib.Data.Nat.ModEq
import Mathlib.Tactic.Ring

/-!
Powers and inverses are what they should be: squaring and multiplying along the bits of an exponent
gives the power, and what Euclid's algorithm calls an inverse is one.
-/

namespace Jose

def appendBit (total : Nat) (bit : Bool) : Nat := 2 * total + bit.toNat

theorem foldl_appendBit (value count : Nat) :
    ((List.range count).map value.testBit).reverse.foldl appendBit 0 = value % 2 ^ count := by
  induction count generalizing value with
  | zero => simp [Nat.mod_one]
  | succ count ih =>
      have halves : ((List.range count).map Nat.succ).map value.testBit =
          (List.range count).map (value / 2).testBit := by
        simp [Function.comp_def, Nat.testBit_succ]
      have last : (value.testBit 0).toNat = value % 2 := by
        rw [Nat.testBit_zero]
        rcases Nat.mod_two_eq_zero_or_one value with even | odd <;> simp [*]
      rw [List.range_succ_eq_map, List.map_cons, halves, List.reverse_cons, List.foldl_append, ih,
        List.foldl_cons, List.foldl_nil, appendBit, last, Nat.pow_succ', Nat.mod_mul]
      exact Nat.add_comm _ _

theorem foldl_bitsOf (value : Nat) : (bitsOf value).foldl appendBit 0 = value := by
  by_cases zero : value = 0
  · simp [bitsOf, zero]
  · rw [bitsOf, if_neg zero, foldl_appendBit, Nat.mod_eq_of_lt Nat.lt_log2_self]

section Powers

variable (base modulus : Nat)

def powerStep (result : Nat) (bit : Bool) : Nat :=
  let square := result * result % modulus
  if bit then square * base % modulus else square

theorem powerStep_eq (exponent : Nat) (bit : Bool) :
    powerStep base modulus (base ^ exponent % modulus) bit =
      base ^ appendBit exponent bit % modulus := by
  have square : base ^ exponent % modulus * (base ^ exponent % modulus) % modulus =
      base ^ (2 * exponent) % modulus := by
    rw [← Nat.mul_mod, ← Nat.pow_add, Nat.two_mul]
  cases bit with
  | false => simp [powerStep, appendBit, square]
  | true => simp [powerStep, appendBit, square, Nat.pow_succ, Nat.mul_mod]

theorem foldl_powerStep (bits : List Bool) (exponent : Nat) :
    bits.foldl (powerStep base modulus) (base ^ exponent % modulus) =
      base ^ bits.foldl appendBit exponent % modulus := by
  induction bits generalizing exponent with
  | nil => rfl
  | cons bit rest ih => rw [List.foldl_cons, List.foldl_cons, powerStep_eq, ih]

theorem powMod_eq (exponent : Nat) : powMod base exponent modulus = base ^ exponent % modulus := by
  have stepped := foldl_powerStep base modulus (bitsOf exponent) 0
  rw [foldl_bitsOf, Nat.pow_zero] at stepped
  exact stepped

end Powers

/-- Along Euclid's algorithm each remainder is its factor times the number, modulo the modulus. -/
theorem euclid_modEq {value modulus : Int} (first second : Nat) (factor next : Int)
    (firstFits : first ≡ factor * value [ZMOD modulus])
    (secondFits : second ≡ next * value [ZMOD modulus]) :
    ((euclid first second factor next).1 : Int) ≡
      (euclid first second factor next).2 * value [ZMOD modulus] := by
  induction first, second, factor, next using euclid.induct with
  | case1 first factor next =>
      rw [euclid, dif_pos rfl]
      exact firstFits
  | case2 first second factor next going ih =>
      rw [euclid, dif_neg going]
      apply ih secondFits
      have remainder : ((first % second : Nat) : Int) =
          first - (first / second : Nat) * second := by
        rw [Int.natCast_mod, Int.natCast_div, Int.emod_def]
        ring
      have scaled := secondFits.mul_left ((first / second : Nat) : Int)
      have difference := firstFits.sub scaled
      rw [remainder]
      calc (first : Int) - (first / second : Nat) * second
          ≡ factor * value - (first / second : Nat) * (next * value) [ZMOD modulus] := difference
        _ = (factor - (first / second : Nat) * next) * value := by ring

theorem inverseMod?_modEq {value modulus inverse : Nat} (positive : 0 < modulus)
    (found : inverseMod? value modulus = some inverse) :
    inverse * value ≡ 1 [MOD modulus] := by
  have firstFits : (modulus : Int) ≡ 0 * (value : Int) [ZMOD modulus] := by
    rw [Int.zero_mul]
    exact Int.modEq_zero_iff_dvd.mpr (Int.dvd_refl _)
  have secondFits : ((value % modulus : Nat) : Int) ≡ 1 * (value : Int) [ZMOD modulus] := by
    rw [Int.one_mul, Int.natCast_mod]
    exact Int.mod_modEq _ _
  have fits := euclid_modEq modulus (value % modulus) 0 1 firstFits secondFits
  simp only [inverseMod?] at found
  split at found
  · next one =>
      injection found with same
      have lifted : (inverse : Int) =
          (euclid modulus (value % modulus) 0 1).2 % (modulus : Int) := by
        rw [← same, Int.toNat_of_nonneg (Int.emod_nonneg _ (by omega))]
      rw [one] at fits
      apply (Int.natCast_modEq_iff).mp
      calc ((inverse * value : Nat) : Int)
          = (euclid modulus (value % modulus) 0 1).2 % (modulus : Int) * value := by
            rw [Int.natCast_mul, lifted]
        _ ≡ (euclid modulus (value % modulus) 0 1).2 * value [ZMOD modulus] :=
            (Int.mod_modEq _ _).mul_right _
        _ ≡ (1 : Nat) [ZMOD modulus] := fits.symm
  · contradiction

end Jose
