import Jose.Key.Armour
import Jose.Key.Jwk
import Jose.Proofs.BigEndian
import Jose.Proofs.Pem
import Jose.Proofs.Spelling

/-!
Keys made of numbers and octets that are not to be trusted. The checks before a subtraction, a
remainder or a copy keep each of them within its domain, whatever stands in the material; a check of
private keys that lets a factor of one through leaves one remainder by zero.
-/

namespace Jose

namespace Base64

-- Three octets are set apart for every group that has begun.
def decodedEstimate (length : Nat) : Nat := (length / 4 + if length % 4 = 0 then 0 else 1) * 3

def decodeGuarded (alphabet : Alphabet) (bytes : Bytes) : Guarded Fault Bytes :=
  match decode alphabet bytes with
  | .error fault => .fail fault
  | .ok octets =>
      if octets.length ≤ decodedEstimate bytes.length then .answer (.ok octets) else .crash

theorem length_finish {start : Nat} {group : Group} {octets : Bytes}
    (finished : finish start group = .ok octets) : octets.length ≤ 3 := by
  simp only [finish] at finished
  split at finished
  · contradiction
  · contradiction
  · split at finished
    · contradiction
    · split at finished
      · contradiction
      · injection finished with same
        simp [← same]
  · split at finished
    · contradiction
    · split at finished
      · contradiction
      · injection finished with same
        simp [← same]
  · injection finished with same
    simp [← same]

theorem length_decodeFrom {alphabet : Alphabet} {start : Nat} {bytes octets : Bytes}
    (decoded : decodeFrom alphabet start bytes = .ok octets) :
    octets.length ≤ decodedEstimate bytes.length := by
  fun_induction decodeFrom generalizing octets with
  | case1 start first second third fourth next rest ih =>
      simp only [bind_eq_ok_iff] at decoded
      obtain ⟨_, _, _, _, _, _, _, _, later, decodedLater, same⟩ := decoded
      injection same with same
      have shorter := ih decodedLater
      rw [← same]
      simp only [decodedEstimate, List.length_cons] at *
      split at shorter <;> split <;> omega
  | case2 start group shorter =>
      obtain ⟨collected, collects, finished⟩ := bind_eq_ok_iff.mp decoded
      have short := length_finish finished
      cases group with
      | nil =>
          injection collects with same
          subst same
          contradiction
      | cons first rest =>
          simp only [decodedEstimate, List.length_cons]
          split <;> omega

theorem decodeGuarded_eq (alphabet : Alphabet) (bytes : Bytes) :
    decodeGuarded alphabet bytes = .answer (decode alphabet bytes) := by
  rw [decodeGuarded]
  cases decoded : decode alphabet bytes with
  | error fault => rfl
  | ok octets =>
      apply if_pos
      rw [decode] at decoded
      split at decoded
      · contradiction
      · split at decoded
        · injection decoded with same
          subst same
          exact Nat.zero_le _
        · exact length_decodeFrom decoded

end Base64

namespace Rsa

def residue (value factor : Nat) : Guarded KeyProblem Nat := do
  let less ← Guarded.sub factor 1
  Guarded.rem value less

/-- A private key of its numbers, where factors below the least one are refused. The remainders that
later signatures need are computed at once. -/
def PrivateKey.makeGuarded (least modulus exponent privateExponent firstFactor secondFactor : Nat) :
    Guarded KeyProblem PrivateKey := do
  .answer (checkPublic modulus exponent)
  if firstFactor < least ∨ secondFactor < least then .fail .invalidFactor
  else if firstFactor * secondFactor ≠ modulus then .fail .invalidModulus
  else do
    let first ← residue (exponent * privateExponent) firstFactor
    if first ≠ 1 then .fail .invalidExponent
    else do
      let second ← residue (exponent * privateExponent) secondFactor
      if second ≠ 1 then .fail .invalidExponent
      else do
        let _ ← residue privateExponent firstFactor
        let _ ← residue privateExponent secondFactor
        return ⟨modulus, exponent, privateExponent, firstFactor, secondFactor⟩

def leastFactor : Nat := 2

/-- The least factor that the check of the required release lets through. -/
def requiredFactor : Nat := 1

theorem residue_eq {factor : Nat} (large : 1 < factor) (value : Nat) :
    residue value factor = .answer (.ok (value % (factor - 1))) := by
  rw [residue, Guarded.sub_of_le (by omega), Guarded.ok_bind, Guarded.rem_of_pos (by omega)]

theorem PrivateKey.makeGuarded_eq
    (modulus exponent privateExponent firstFactor secondFactor : Nat) :
    makeGuarded leastFactor modulus exponent privateExponent firstFactor secondFactor =
      .answer (make modulus exponent privateExponent firstFactor secondFactor) := by
  apply Guarded.answer_bind
  intro _ _
  by_cases small : firstFactor < 2 ∨ secondFactor < 2
  · have refused : firstFactor ≤ 1 ∨ secondFactor ≤ 1 := by omega
    rw [leastFactor, if_pos small, if_pos refused]
    rfl
  · have large : 1 < firstFactor ∧ 1 < secondFactor := by omega
    have admitted : ¬ (firstFactor ≤ 1 ∨ secondFactor ≤ 1) := by omega
    rw [leastFactor, if_neg small, if_neg admitted]
    by_cases product : firstFactor * secondFactor = modulus
    · rw [if_neg (not_not.mpr product), if_neg (not_not.mpr product)]
      simp only [residue_eq large.1, residue_eq large.2, Guarded.ok_bind, undoes, beq_iff_eq]
      by_cases first : exponent * privateExponent % (firstFactor - 1) = 1
      · by_cases second : exponent * privateExponent % (secondFactor - 1) = 1
        · rw [if_neg (not_not.mpr first), if_neg (not_not.mpr second), if_pos ⟨first, second⟩]
          rfl
        · rw [if_neg (not_not.mpr first), if_pos second, if_neg fun both => second both.2]
          rfl
      · rw [if_pos first, if_neg fun both => first both.1]
        rfl
    · rw [if_pos product, if_pos product]
      rfl

theorem residue_eq_crash_iff {value factor : Nat} :
    residue value factor = .crash ↔ factor ≤ 1 := by
  constructor
  · intro crashed
    by_contra large
    rw [residue_eq (by omega)] at crashed
    contradiction
  · intro small
    rcases Nat.le_one_iff_eq_zero_or_eq_one.mp small with rfl | rfl <;> rfl

theorem modulus_pos {modulus exponent : Nat} (valid : checkPublic modulus exponent = .ok ()) :
    0 < modulus := by
  by_contra none
  have void : modulus = 0 := by omega
  subst void
  simp only [checkPublic, Nat.zero_le, true_or, if_true] at valid
  split at valid <;> contradiction

/-- Numbers of which one factor is the modulus and the other one, and that pass every check which
does not look at the size of the factors. -/
def IsFlat (modulus exponent privateExponent firstFactor secondFactor : Nat) : Prop :=
  checkPublic modulus exponent = .ok () ∧
    (firstFactor = 1 ∧ secondFactor = modulus ∨
      firstFactor = modulus ∧ secondFactor = 1 ∧
        exponent * privateExponent % (modulus - 1) = 1)

section Crash

variable {least modulus exponent privateExponent firstFactor secondFactor : Nat}

theorem isFlat_of_crash
    (crashed : PrivateKey.makeGuarded least modulus exponent privateExponent firstFactor
      secondFactor = .crash) :
    least ≤ 1 ∧ IsFlat modulus exponent privateExponent firstFactor secondFactor := by
  obtain ⟨_, valid, crashed⟩ := Guarded.answer_bind_eq_crash_iff.mp crashed
  have positive := modulus_pos valid
  split at crashed
  · contradiction
  · next admitted =>
      split at crashed
      · contradiction
      · next product =>
          obtain rfl : firstFactor * secondFactor = modulus := not_not.mp product
          have first : 0 < firstFactor := Nat.pos_of_mul_pos_right positive
          have second : 0 < secondFactor := Nat.pos_of_mul_pos_left positive
          by_cases flat : firstFactor ≤ 1
          · obtain rfl : firstFactor = 1 := by omega
            exact ⟨by omega, valid, .inl ⟨rfl, (Nat.one_mul _).symm⟩⟩
          · rw [residue_eq (by omega), Guarded.ok_bind] at crashed
            split at crashed
            · contradiction
            · next undone =>
                by_cases flatToo : secondFactor ≤ 1
                · obtain rfl : secondFactor = 1 := by omega
                  rw [Nat.mul_one]
                  exact ⟨by omega, Nat.mul_one firstFactor ▸ valid,
                    .inr ⟨rfl, rfl, not_not.mp undone⟩⟩
                · rw [residue_eq (by omega), Guarded.ok_bind] at crashed
                  split at crashed
                  · contradiction
                  · rw [residue_eq (by omega), residue_eq (by omega)] at crashed
                    contradiction

theorem IsFlat.crashes (lax : least ≤ 1)
    (flat : IsFlat modulus exponent privateExponent firstFactor secondFactor) :
    PrivateKey.makeGuarded least modulus exponent privateExponent firstFactor secondFactor =
      .crash := by
  obtain ⟨valid, factors⟩ := flat
  have positive := modulus_pos valid
  rw [PrivateKey.makeGuarded, valid, Guarded.ok_bind]
  rcases factors with ⟨rfl, rfl⟩ | ⟨rfl, rfl, undone⟩
  · rw [if_neg (by omega), if_neg (not_not.mpr (Nat.one_mul _)), residue_eq_crash_iff.mpr le_rfl]
    rfl
  · rw [if_neg (by omega), if_neg (not_not.mpr (Nat.mul_one _))]
    by_cases one : firstFactor ≤ 1
    · rw [residue_eq_crash_iff.mpr one]
      rfl
    · rw [residue_eq (by omega), Guarded.ok_bind, if_neg (not_not.mpr undone),
        residue_eq_crash_iff.mpr le_rfl]
      rfl

/-- A check that lets a factor of one through is followed by a remainder by zero. -/
theorem makeGuarded_eq_crash_iff :
    PrivateKey.makeGuarded least modulus exponent privateExponent firstFactor secondFactor =
        .crash ↔
      least ≤ 1 ∧ IsFlat modulus exponent privateExponent firstFactor secondFactor :=
  ⟨isFlat_of_crash, fun ⟨lax, flat⟩ => flat.crashes lax⟩

end Crash

end Rsa

namespace P256

def fieldLength : Nat := 32

def scalarOfField (octets : Bytes) : Guarded Unit Nat :=
  if octets.length ≠ fieldLength then .crash
  else if 0 < Bytes.toNat octets ∧ Bytes.toNat octets < order then pure (Bytes.toNat octets)
  else .fail ()

def scalarGuarded (octets : Bytes) : Guarded Unit Nat :=
  if octets.length = fieldLength then scalarOfField octets
  else if 24 ≤ octets.length ∧ octets.length < fieldLength then do
    let start ← Guarded.sub fieldLength octets.length
    let field ← Guarded.overwrite (List.replicate fieldLength 0) start octets
    scalarOfField field
  else .fail ()

theorem scalarOfField_eq {octets : Bytes} (whole : octets.length = fieldLength) :
    scalarOfField octets = .ofOption () (scalar? octets) := by
  have length : octets.length = 32 := whole
  rw [scalarOfField, if_neg (not_not.mpr whole), scalar?]
  by_cases small : 0 < Bytes.toNat octets ∧ Bytes.toNat octets < order
  · rw [if_pos small, if_pos ⟨by omega, by omega, small⟩]
    rfl
  · rw [if_neg small, if_neg fun all => small all.2.2]
    rfl

theorem scalar?_padded {octets : Bytes} (long : 24 ≤ octets.length)
    (short : octets.length ≤ fieldLength) :
    scalar? (List.replicate (fieldLength - octets.length) 0 ++ octets) = scalar? octets := by
  simp only [fieldLength] at *
  have padded : (List.replicate (32 - octets.length) (0 : UInt8) ++ octets).length = 32 := by
    rw [List.length_append, List.length_replicate]
    omega
  simp only [scalar?, Bytes.toNat_zeros_append, padded]
  simp [long, short]

theorem scalarGuarded_eq (octets : Bytes) :
    scalarGuarded octets = .ofOption () (scalar? octets) := by
  by_cases whole : octets.length = fieldLength
  · rw [scalarGuarded, if_pos whole, scalarOfField_eq whole]
  · rw [scalarGuarded, if_neg whole]
    by_cases within : 24 ≤ octets.length ∧ octets.length < fieldLength
    · have fits : fieldLength - octets.length + octets.length =
          (List.replicate fieldLength (0 : UInt8)).length := by
        rw [List.length_replicate]
        omega
      have field : (List.replicate (fieldLength - octets.length) (0 : UInt8) ++ octets).length =
          fieldLength := by
        rw [List.length_append, List.length_replicate]
        omega
      rw [if_pos within, Guarded.sub_of_le (by omega), Guarded.ok_bind,
        Guarded.overwrite_of_fits fits, Guarded.ok_bind, List.take_replicate,
        Nat.min_eq_left (by omega), scalarOfField_eq field,
        scalar?_padded within.1 (by omega)]
    · have outside : ¬ (24 ≤ octets.length ∧ octets.length ≤ 32 ∧ 0 < Bytes.toNat octets ∧
          Bytes.toNat octets < order) := by
        simp only [fieldLength] at *
        omega
      rw [if_neg within, scalar?, if_neg outside]
      rfl

end P256

end Jose
