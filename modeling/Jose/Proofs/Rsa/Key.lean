import Jose.Proofs.Number.Modular
import Jose.Rsa.Key
import Mathlib.FieldTheory.Finite.Basic

/-!
Genuine keys invert what their public halves compute: by Fermat's theorem modulo each factor, and
then modulo their product.
-/

namespace Jose.Rsa

/-- Raising to both exponents changes nothing modulo a prime. -/
theorem pow_modEq_self {factor exponent privateExponent : Nat} (prime : factor.Prime)
    (undone : exponent * privateExponent % (factor - 1) = 1) (message : Nat) :
    message ^ (exponent * privateExponent) ≡ message [MOD factor] := by
  have split := Nat.div_add_mod (exponent * privateExponent) (factor - 1)
  rw [undone] at split
  by_cases divides : factor ∣ message
  · have zero : message ≡ 0 [MOD factor] := (Nat.modEq_zero_iff_dvd).mpr divides
    have power := zero.pow (exponent * privateExponent)
    rw [Nat.zero_pow (by omega)] at power
    exact power.trans zero.symm
  · have coprime : message.Coprime factor :=
      ((Nat.Prime.coprime_iff_not_dvd prime).mpr divides).symm
    have fermat := Nat.ModEq.pow_totient coprime
    rw [Nat.totient_prime prime] at fermat
    rw [← split, Nat.pow_add, Nat.pow_mul, Nat.pow_one]
    have whole := (fermat.pow (exponent * privateExponent / (factor - 1))).mul_right message
    rw [Nat.one_pow, Nat.one_mul] at whole
    exact whole

structure PrivateKey.IsGenuine (key : PrivateKey) : Prop where
  firstPrime : key.firstFactor.Prime
  secondPrime : key.secondFactor.Prime
  different : key.firstFactor ≠ key.secondFactor
  product : key.firstFactor * key.secondFactor = key.modulus
  undoneFirst : key.exponent * key.privateExponent % (key.firstFactor - 1) = 1
  undoneSecond : key.exponent * key.privateExponent % (key.secondFactor - 1) = 1

theorem powMod_powMod_modEq {factor inner outer exponent privateExponent : Nat}
    (prime : factor.Prime) (dividesInner : factor ∣ inner) (dividesOuter : factor ∣ outer)
    (undone : exponent * privateExponent % (factor - 1) = 1) (message : Nat) :
    powMod (powMod message exponent inner) privateExponent outer ≡ message [MOD factor] := by
  have image : message ^ exponent % inner ≡ message ^ exponent [MOD factor] :=
    (Nat.mod_modEq _ _).of_dvd dividesInner
  rw [powMod_eq, powMod_eq]
  calc (message ^ exponent % inner) ^ privateExponent % outer
      ≡ (message ^ exponent % inner) ^ privateExponent [MOD factor] :=
        (Nat.mod_modEq _ _).of_dvd dividesOuter
    _ ≡ (message ^ exponent) ^ privateExponent [MOD factor] := image.pow _
    _ = message ^ (exponent * privateExponent) := (Nat.pow_mul _ _ _).symm
    _ ≡ message [MOD factor] := pow_modEq_self prime undone message

namespace PrivateKey

variable {key : PrivateKey}

theorem IsGenuine.eq_of_modEq (genuine : key.IsGenuine) {left right : Nat}
    (first : left ≡ right [MOD key.firstFactor]) (second : left ≡ right [MOD key.secondFactor])
    (leftSmall : left < key.modulus) (rightSmall : right < key.modulus) : left = right := by
  have coprime : key.firstFactor.Coprime key.secondFactor :=
    (Nat.coprime_primes genuine.firstPrime genuine.secondPrime).mpr genuine.different
  have both := (Nat.modEq_and_modEq_iff_modEq_mul coprime).mp ⟨first, second⟩
  rw [genuine.product] at both
  exact both.eq_of_lt_of_lt leftSmall rightSmall

/-- The number that leaves the given remainders, with the inverse of the second factor. -/
theorem combine_modEq {firstFactor secondFactor inverse first second : Nat}
    (inverts : inverse * secondFactor ≡ 1 [MOD firstFactor]) (positive : 0 < firstFactor) :
    let difference := (((first : Int) - second) % firstFactor).toNat
    difference * inverse % firstFactor * secondFactor + second ≡ first [MOD firstFactor] := by
  intro difference
  have lifted : (difference : Int) ≡ first - second [ZMOD firstFactor] := by
    have nonnegative := Int.emod_nonneg ((first : Int) - second) (b := firstFactor) (by omega)
    rw [show (difference : Int) = ((first : Int) - second) % firstFactor from
      Int.toNat_of_nonneg nonnegative]
    exact Int.mod_modEq _ _
  have restored : difference + second ≡ first [MOD firstFactor] := by
    apply Int.natCast_modEq_iff.mp
    have added := lifted.add_right (second : Int)
    simpa using added
  calc difference * inverse % firstFactor * secondFactor + second
      ≡ difference * inverse * secondFactor + second [MOD firstFactor] :=
        ((Nat.mod_modEq _ _).mul_right _).add_right _
    _ = difference * (inverse * secondFactor) + second := by rw [Nat.mul_assoc]
    _ ≡ difference * 1 + second [MOD firstFactor] := (inverts.mul_left _).add_right _
    _ = difference + second := by rw [Nat.mul_one]
    _ ≡ first [MOD firstFactor] := restored

theorem combine_lt {firstFactor secondFactor low high : Nat} (highSmall : high < firstFactor)
    (lowSmall : low < secondFactor) : high * secondFactor + low < firstFactor * secondFactor :=
  calc high * secondFactor + low
      < high * secondFactor + secondFactor := Nat.add_lt_add_left lowSmall _
    _ = (high + 1) * secondFactor := (Nat.succ_mul _ _).symm
    _ ≤ firstFactor * secondFactor := Nat.mul_le_mul_right _ highSmall

/-- A genuine key inverts the public key on every number below the modulus. -/
theorem IsGenuine.invert_apply (genuine : key.IsGenuine) {message : Nat}
    (small : message < key.modulus) : key.invert (key.publicKey.apply message) = message := by
  have firstPositive := genuine.firstPrime.pos
  have secondPositive := genuine.secondPrime.pos
  have firstDivides : key.firstFactor ∣ key.modulus := ⟨_, genuine.product.symm⟩
  have secondDivides : key.secondFactor ∣ key.modulus :=
    ⟨key.firstFactor, by rw [Nat.mul_comm, genuine.product]⟩
  simp only [invert, publicKey, PublicKey.apply]
  split
  · apply genuine.eq_of_modEq _ _ _ small
    · exact powMod_powMod_modEq genuine.firstPrime firstDivides firstDivides genuine.undoneFirst _
    · exact powMod_powMod_modEq genuine.secondPrime secondDivides secondDivides
        genuine.undoneSecond _
    · rw [powMod_eq]
      exact Nat.mod_lt _ (by omega)
  · next inverse found =>
      have first := powMod_powMod_modEq genuine.firstPrime firstDivides (Nat.dvd_refl _)
        (by rw [Nat.mul_mod_mod]; exact genuine.undoneFirst) message
      have second := powMod_powMod_modEq genuine.secondPrime secondDivides (Nat.dvd_refl _)
        (by rw [Nat.mul_mod_mod]; exact genuine.undoneSecond) message
      apply genuine.eq_of_modEq _ _ _ small
      · exact (combine_modEq (inverseMod?_modEq firstPositive found) firstPositive).trans first
      · exact Nat.mul_modulus_add_modEq_iff.mpr second
      · rw [← genuine.product]
        apply combine_lt (Nat.mod_lt _ firstPositive)
        rw [powMod_eq]
        exact Nat.mod_lt _ secondPositive

end PrivateKey

end Jose.Rsa
