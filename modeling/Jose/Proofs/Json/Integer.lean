import Jose.Proofs.Json.Scan

/-!
Whole numbers are read back exactly. The digits of a number up to `2 ^ 64 - 1` fit the significand
of a literal one after the other, so that nothing is rounded.
-/

namespace Jose

namespace Literal

def octet (digit : Nat) : UInt8 := UInt8.ofNat (48 + digit)

theorem utf8EncodeChar_digitChar {digit : Nat} (small : digit < 10) :
    String.utf8EncodeChar digit.digitChar = [octet digit] := by
  have all : ∀ digit < 10, String.utf8EncodeChar digit.digitChar = [octet digit] := by decide
  exact all digit small

theorem digit?_octet {digit : Nat} (small : digit < 10) :
    digit? (octet digit) = some digit := by
  have all : ∀ digit < 10, digit? (octet digit) = some digit := by decide
  exact all digit small

structure IsWhole (literal : Literal) (negative : Bool) (value : Nat) : Prop where
  sign : literal.negative = negative
  fraction : literal.fraction = []
  exponent : literal.exponent = []
  digits : literal.wholeDigits = ⟨value, 0, false⟩

theorem isWhole_digit (negative : Bool) {digit : Nat} (small : digit < 10) :
    IsWhole ⟨negative, [digit], [], false, []⟩ negative digit := by
  refine ⟨rfl, rfl, rfl, ?_⟩
  have fits : ¬ greatest < digit := by
    simp only [greatest]
    omega
  simp [wholeDigits, addWhole, fits]

theorem IsWhole.append {literal : Literal} {negative : Bool} {value digit : Nat}
    (whole : IsWhole literal negative value) (fits : value * 10 + digit ≤ greatest) :
    IsWhole { literal with whole := digit :: literal.whole } negative (value * 10 + digit) := by
  refine ⟨whole.sign, whole.fraction, whole.exponent, ?_⟩
  have before := whole.digits
  simp only [wholeDigits] at before
  simp [wholeDigits, List.foldl_append, before, addWhole, Nat.not_lt.mpr fits]

theorem IsWhole.value?_positive {literal : Literal} {value : Nat}
    (whole : IsWhole literal false value) : literal.value? = some (.int value) := by
  simp [value?, whole.sign, whole.fraction, whole.exponent, whole.digits]

theorem IsWhole.value?_negative {literal : Literal} {value : Nat}
    (whole : IsWhole literal true value) (positive : value ≠ 0)
    (fits : value ≤ 0x8000000000000000) :
    literal.value? = some (.int (-(value : Int))) := by
  have both : value ≠ 0 ∧ value ≤ 0x8000000000000000 := ⟨positive, fits⟩
  simp only [value?, whole.sign, whole.fraction, whole.exponent, whole.digits, ne_eq,
    not_true_eq_false, Bool.false_eq_true, or_self, if_false, Bool.not_true]
  rw [if_pos both]

end Literal

namespace Scan

def InWhole (frames : List Frame) (negative : Bool) (value : Nat) (scan : Scan) : Prop :=
  ∃ literal : Literal, literal.IsWhole negative value ∧
    scan = ⟨frames, .number .whole literal⟩

theorem InWhole.step_digit {frames : List Frame} {negative : Bool} {value digit : Nat} {scan : Scan}
    (inside : InWhole frames negative value scan) (small : digit < 10)
    (fits : value * 10 + digit ≤ Literal.greatest) :
    InWhole frames negative (value * 10 + digit) (scan.step (Literal.octet digit)) := by
  obtain ⟨literal, whole, rfl⟩ := inside
  refine ⟨{ literal with whole := digit :: literal.whole }, whole.append fits, ?_⟩
  simp [step, inNumber, Literal.advance, Literal.digit?_octet small]

/-- The digits of a positive number, where the first of them opens the number or follows its
sign. -/
theorem run_digits {frames : List Frame} {negative : Bool} {scan : Scan}
    (first : ∀ digit, 0 < digit → digit < 10 →
      scan.step (Literal.octet digit) =
        ⟨frames, .number .whole ⟨negative, [digit], [], false, []⟩⟩)
    (value : Nat) (positive : 0 < value) (fits : value ≤ Literal.greatest) :
    InWhole frames negative value (scan.run (Bytes.ofChars (Nat.toDigits 10 value))) := by
  induction value using Nat.strongRecOn with
  | ind value ih =>
      by_cases single : value < 10
      · rw [Nat.toDigits_of_lt_base single, Bytes.ofChars_cons,
          Literal.utf8EncodeChar_digitChar single]
        refine ⟨_, Literal.isWhole_digit negative single, ?_⟩
        simpa using first value positive single
      · have last : value % 10 < 10 := Nat.mod_lt value (by decide)
        have split : value / 10 * 10 + value % 10 = value := Nat.div_add_mod' value 10
        have before := ih (value / 10) (by omega) (by omega) (by omega)
        have after := before.step_digit last (by omega)
        rw [split] at after
        rw [Nat.toDigits_of_base_le (by decide) (by omega), Bytes.ofChars_append, run_append,
          Bytes.ofChars_cons, Literal.utf8EncodeChar_digitChar last]
        simpa using after

theorem isOpening_octet {digit : Nat} (small : digit < 10) : IsOpening (Literal.octet digit) := by
  have all : ∀ digit < 10, isBlank (Literal.octet digit) = false ∧ Literal.octet digit ≠ 93 ∧
      Literal.octet digit ≠ 125 := by decide
  exact all digit small

theorem openValue_octet (frames : List Frame) {digit : Nat} (small : digit < 10) :
    openValue frames (Literal.octet digit) =
      ⟨frames, .number (if digit = 0 then .zero else .whole) ⟨false, [digit], [], false, []⟩⟩ := by
  have other : ∀ digit < 10, Literal.octet digit ≠ 34 ∧ Literal.octet digit ≠ 91 ∧
      Literal.octet digit ≠ 123 ∧ Literal.octet digit ≠ 110 ∧ Literal.octet digit ≠ 116 ∧
      Literal.octet digit ≠ 102 ∧ Literal.octet digit ≠ 45 := by decide
  obtain ⟨noQuote, noBracket, noBrace, noNull, noTrue, noFalse, noMinus⟩ := other digit small
  simp [openValue, noQuote, noBracket, noBrace, noNull, noTrue, noFalse, Literal.open?, noMinus,
    Literal.digit?_octet small]

theorem run_natural (frames : List Frame) (place : Place) (value : Nat)
    (fits : value ≤ Literal.greatest) :
    Ended frames (.number (some (.int value)))
      (Scan.run ⟨frames, .value place⟩ (Bytes.ofChars (Nat.toDigits 10 value))) := by
  by_cases zero : value = 0
  · subst zero
    have zeroSmall : 0 < 10 := by decide
    have opened : Scan.run ⟨frames, .value place⟩ (Bytes.ofChars (Nat.toDigits 10 0)) =
        ⟨frames, .number .zero ⟨false, [0], [], false, []⟩⟩ := by
      rw [Nat.toDigits_zero, Bytes.ofChars_cons,
        show '0' = Nat.digitChar 0 from rfl, Literal.utf8EncodeChar_digitChar zeroSmall]
      rw [Bytes.ofChars_nil, List.append_nil, run_cons, run_nil,
        step_opening frames place (isOpening_octet zeroSmall),
        openValue_octet frames zeroSmall]
      rfl
    rw [opened]
    exact Ended.number .zero ⟨false, [0], [], false, []⟩ rfl
  · have first : ∀ digit, 0 < digit → digit < 10 →
        Scan.step ⟨frames, .value place⟩ (Literal.octet digit) =
          ⟨frames, .number .whole ⟨false, [digit], [], false, []⟩⟩ := by
      intro digit positive small
      rw [step_opening frames place (isOpening_octet small), openValue_octet frames small,
        if_neg (by omega)]
    obtain ⟨literal, whole, reached⟩ := run_digits first value (by omega) fits
    rw [reached, ← whole.value?_positive]
    exact Ended.number .whole literal rfl

theorem run_negative (frames : List Frame) (place : Place) (value : Nat) (positive : value ≠ 0)
    (fits : value ≤ 0x8000000000000000) :
    Ended frames (.number (some (.int (-(value : Int)))))
      (Scan.run ⟨frames, .value place⟩ (Bytes.ofChars ('-' :: Nat.toDigits 10 value))) := by
  have sign : Scan.step ⟨frames, .value place⟩ 45 =
      ⟨frames, .number .minus ⟨true, [], [], false, []⟩⟩ := by
    rw [step_opening frames place (by simp [IsOpening, isBlank])]
    rfl
  have first : ∀ digit, 0 < digit → digit < 10 →
      Scan.step ⟨frames, .number .minus ⟨true, [], [], false, []⟩⟩ (Literal.octet digit) =
        ⟨frames, .number .whole ⟨true, [digit], [], false, []⟩⟩ := by
    intro digit positive small
    simp [step, inNumber, Literal.advance, Literal.digit?_octet small, Nat.ne_of_gt positive]
  have bound : value ≤ Literal.greatest := by
    simp only [Literal.greatest]
    omega
  obtain ⟨literal, whole, reached⟩ := run_digits first value (by omega) bound
  rw [Bytes.ofChars_cons, show String.utf8EncodeChar '-' = [45] from rfl, List.singleton_append,
    run_cons, sign, reached, ← whole.value?_negative positive fits]
  exact Ended.number .whole literal rfl

theorem run_integer (frames : List Frame) (place : Place) {value : Int}
    (low : Number.leastInt ≤ value) (high : value ≤ Number.greatestInt) :
    Ended frames (.number (some (.int value)))
      (Scan.run ⟨frames, .value place⟩ (Bytes.ofChars (Number.text (.int value)).toList)) := by
  simp only [Number.leastInt] at low
  simp only [Number.greatestInt] at high
  cases value with
  | ofNat value =>
      have digits : (Number.text (.int (Int.ofNat value))).toList = Nat.toDigits 10 value := by
        exact Nat.toList_repr
      have bound : (value : Int) ≤ 0xffffffffffffffff := high
      rw [digits]
      apply run_natural frames place value
      simp only [Literal.greatest]
      omega
  | negSucc value =>
      have digits : (Number.text (.int (Int.negSucc value))).toList =
          '-' :: Nat.toDigits 10 (value + 1) := by
        simp [Number.text, Int.toString_eq_repr, Int.repr]
      rw [digits]
      exact run_negative frames place (value + 1) (by omega) (by omega)

end Scan

end Jose
