import Jose.Proofs.Json.Integer

/-!
Every number is written as a number literal: an integer with its sign, and a double as digits with a
point, an exponent or both. The scan goes through the parts of a literal one after the other and
ends where a literal may end.
-/

namespace Jose

namespace Scan

open Literal (Stage)

def IsDigit (char : Char) : Prop := ∃ digit < 10, char = Nat.digitChar digit

def AreDigits (chars : List Char) : Prop := ∀ char ∈ chars, IsDigit char

def Leads (before : Stage) (chars : List Char) (after : Stage) : Prop :=
  ∀ literal, ∃ result, ∀ frames,
    Scan.run ⟨frames, .number before literal⟩ (Bytes.ofChars chars) =
      ⟨frames, .number after result⟩

def Opens (chars : List Char) (stage : Stage) : Prop :=
  ∃ literal, ∀ frames place,
    Scan.run ⟨frames, .value place⟩ (Bytes.ofChars chars) = ⟨frames, .number stage literal⟩

variable {before between after : Stage} {left right : List Char}

theorem Leads.nil (stage : Stage) : Leads stage [] stage := fun literal => ⟨literal, fun _ => rfl⟩

theorem Leads.append (first : Leads before left between) (second : Leads between right after) :
    Leads before (left ++ right) after := by
  intro literal
  obtain ⟨middle, reached⟩ := first literal
  obtain ⟨result, finished⟩ := second middle
  refine ⟨result, fun frames => ?_⟩
  rw [Bytes.ofChars_append, run_append, reached, finished]

theorem Opens.append (first : Opens left between) (second : Leads between right after) :
    Opens (left ++ right) after := by
  obtain ⟨middle, reached⟩ := first
  obtain ⟨result, finished⟩ := second middle
  refine ⟨result, fun frames place => ?_⟩
  rw [Bytes.ofChars_append, run_append, reached, finished]

theorem Leads.octet {char : Char} {byte : UInt8} (written : String.utf8EncodeChar char = [byte])
    (advanced : ∀ literal : Literal, ∃ result, literal.advance before byte = .more after result) :
    Leads before [char] after := by
  intro literal
  obtain ⟨result, more⟩ := advanced literal
  refine ⟨result, fun frames => ?_⟩
  rw [Bytes.ofChars_cons, written]
  simp [Scan.step, inNumber, more]

def afterDigit : Stage → Option Stage
  | .whole => some .whole
  | .point | .fraction => some .fraction
  | .mark | .sign | .exponent => some .exponent
  | .minus | .zero => none

theorem leads_digit (next : afterDigit before = some after) {char : Char} (digit : IsDigit char) :
    Leads before [char] after := by
  obtain ⟨value, small, rfl⟩ := digit
  have plain : Literal.octet value ≠ 43 ∧ Literal.octet value ≠ 45 := by
    have all : ∀ digit < 10, Literal.octet digit ≠ 43 ∧ Literal.octet digit ≠ 45 := by decide
    exact all value small
  refine Leads.octet (Literal.utf8EncodeChar_digitChar small) fun literal => ?_
  cases before <;> cases next <;>
    simp [Literal.advance, Literal.addExponent, Literal.digit?_octet small, plain]

theorem leads_digits (stays : afterDigit before = some before) {chars : List Char}
    (digits : AreDigits chars) : Leads before chars before := by
  induction chars with
  | nil => exact .nil before
  | cons char rest ih =>
      obtain ⟨first, others⟩ := List.forall_mem_cons.mp digits
      exact (leads_digit stays first).append (ih others)

theorem leads_number {chars : List Char} (next : afterDigit before = some after)
    (digits : AreDigits chars) (filled : chars ≠ []) : Leads before chars after := by
  have stays : afterDigit after = some after := by
    cases before <;> cases next <;> rfl
  obtain ⟨first, others, rfl⟩ := List.exists_cons_of_ne_nil filled
  obtain ⟨digit, digits⟩ := List.forall_mem_cons.mp digits
  exact (leads_digit next digit).append (leads_digits stays digits)

theorem leads_point (whole : before = .zero ∨ before = .whole) : Leads before ['.'] .point := by
  refine Leads.octet (show String.utf8EncodeChar '.' = [46] by decide) fun literal => ⟨literal, ?_⟩
  rcases whole with rfl | rfl <;> rfl

theorem leads_mark (complete : before = .zero ∨ before = .whole ∨ before = .fraction) :
    Leads before ['e'] .mark := by
  refine Leads.octet (show String.utf8EncodeChar 'e' = [101] by decide) fun literal => ⟨literal, ?_⟩
  rcases complete with rfl | rfl | rfl <;> rfl

theorem leads_sign {sign : Char} (either : sign = '+' ∨ sign = '-') :
    Leads .mark [sign] .sign := by
  rcases either with rfl | rfl
  · exact Leads.octet (show String.utf8EncodeChar '+' = [43] by decide) fun literal =>
      ⟨literal, rfl⟩
  · exact Leads.octet (show String.utf8EncodeChar '-' = [45] by decide) fun literal =>
      ⟨{ literal with exponentNegative := true }, rfl⟩

theorem leads_fraction (whole : before = .zero ∨ before = .whole) {digits : List Char}
    (all : AreDigits digits) (filled : digits ≠ []) : Leads before ('.' :: digits) .fraction :=
  (leads_point whole).append (leads_number rfl all filled)

theorem leads_exponent (complete : before = .zero ∨ before = .whole ∨ before = .fraction)
    {sign : Char} (either : sign = '+' ∨ sign = '-') {digits : List Char} (all : AreDigits digits)
    (filled : digits ≠ []) : Leads before (['e', sign] ++ digits) .exponent :=
  ((leads_mark complete).append (leads_sign either)).append (leads_number rfl all filled)

inductive Starts : List Char → Stage → Prop
  | zero : Starts ['0'] .zero
  | digits {first : Nat} {others : List Char} : 0 < first → first < 10 → AreDigits others →
      Starts (first.digitChar :: others) .whole

theorem Starts.areDigits {chars : List Char} {stage : Stage} (starts : Starts chars stage) :
    AreDigits chars := by
  cases starts with
  | zero => exact List.forall_mem_singleton.mpr ⟨0, by decide, rfl⟩
  | digits _ small others => exact List.forall_mem_cons.mpr ⟨⟨_, small, rfl⟩, others⟩

theorem Starts.ne_nil {chars : List Char} {stage : Stage} (starts : Starts chars stage) :
    chars ≠ [] := by
  rintro rfl
  cases starts

theorem Starts.append {chars more : List Char} (starts : Starts chars .whole)
    (digits : AreDigits more) : Starts (chars ++ more) .whole := by
  cases starts with
  | digits positive small others =>
      exact .digits positive small (List.forall_mem_append.mpr ⟨others, digits⟩)

theorem Starts.take {chars : List Char} (starts : Starts chars .whole) {count : Nat}
    (filled : 0 < count) : Starts (chars.take count) .whole := by
  obtain ⟨count, rfl⟩ := Nat.exists_eq_add_one.mpr filled
  cases starts with
  | digits positive small others =>
      exact .digits positive small fun char inside => others char (List.mem_of_mem_take inside)

theorem starts_toDigits {value : Nat} (positive : 0 < value) :
    Starts (Nat.toDigits 10 value) .whole := by
  induction value using Nat.strongRecOn with
  | ind value ih =>
      by_cases single : value < 10
      · rw [Nat.toDigits_of_lt_base single]
        exact .digits positive single (by simp [AreDigits])
      · rw [Nat.toDigits_of_base_le (by decide) (by omega)]
        have last : value % 10 < 10 := Nat.mod_lt value (by decide)
        exact (ih (value / 10) (by omega) (by omega)).append
          (List.forall_mem_singleton.mpr ⟨_, last, rfl⟩)

theorem exists_starts_toDigits (value : Nat) : ∃ stage, Starts (Nat.toDigits 10 value) stage := by
  by_cases zero : value = 0
  · exact ⟨.zero, zero ▸ .zero⟩
  · exact ⟨.whole, starts_toDigits (by omega)⟩

def IsMagnitude (chars : List Char) : Prop :=
  ∃ start first rest last, chars = start ++ rest ∧ Starts start first ∧ Leads first rest last ∧
    last.complete = true

theorem Starts.isMagnitude {chars : List Char} {stage : Stage} (starts : Starts chars stage) :
    IsMagnitude chars :=
  ⟨chars, stage, [], stage, (List.append_nil chars).symm, starts, .nil stage, by
    cases starts <;> rfl⟩

theorem isMagnitude_toDigits (value : Nat) : IsMagnitude (Nat.toDigits 10 value) := by
  obtain ⟨stage, starts⟩ := exists_starts_toDigits value
  exact starts.isMagnitude

def signed (negative : Bool) (chars : List Char) : List Char :=
  (if negative then ['-'] else []) ++ chars

theorem opens_digit (negative : Bool) {digit : Nat} (small : digit < 10) :
    Opens (signed negative [digit.digitChar]) (if digit = 0 then .zero else .whole) := by
  refine ⟨⟨negative, [digit], [], false, []⟩, fun frames place => ?_⟩
  cases negative with
  | false =>
      simp only [signed, Bool.false_eq_true, if_false, List.nil_append, Bytes.ofChars_cons,
        Literal.utf8EncodeChar_digitChar small, Bytes.ofChars_nil, List.append_nil, run_cons,
        run_nil, step_opening frames place (isOpening_octet small), openValue_octet frames small]
  | true =>
      have sign : Scan.step ⟨frames, .value place⟩ 45 =
          ⟨frames, .number .minus ⟨true, [], [], false, []⟩⟩ := by
        rw [step_opening frames place (by simp [IsOpening, isBlank])]
        rfl
      simp only [signed, if_true, List.singleton_append, Bytes.ofChars_cons,
        show String.utf8EncodeChar '-' = [45] by decide, Literal.utf8EncodeChar_digitChar small,
        Bytes.ofChars_nil, List.append_nil, run_cons, run_nil, sign]
      simp [Scan.step, inNumber, Literal.advance, Literal.digit?_octet small]

theorem Starts.opens {chars : List Char} {stage : Stage} (starts : Starts chars stage)
    (negative : Bool) : Opens (signed negative chars) stage := by
  cases starts with
  | zero => exact opens_digit negative (show 0 < 10 by decide)
  | @digits first others positive small digits =>
      have opened := opens_digit negative small
      rw [if_neg (by omega)] at opened
      have whole : signed negative (first.digitChar :: others) =
          signed negative [first.digitChar] ++ others := by simp [signed]
      rw [whole]
      exact opened.append (leads_digits rfl digits)

theorem IsMagnitude.opens {chars : List Char} (magnitude : IsMagnitude chars) (negative : Bool) :
    ∃ stage : Stage, stage.complete = true ∧ Opens (signed negative chars) stage := by
  obtain ⟨start, first, rest, last, rfl, starts, leads, complete⟩ := magnitude
  refine ⟨last, complete, ?_⟩
  rw [signed, ← List.append_assoc]
  exact (starts.opens negative).append leads

end Scan

namespace Binary64

open Scan

theorem dropZeros_positive (rounds : Nat) {decimal : Decimal} (positive : 0 < decimal.digits) :
    0 < (dropZeros rounds decimal).digits := by
  induction rounds generalizing decimal with
  | zero => exact positive
  | succ rounds ih =>
      rw [dropZeros]
      split
      · exact ih (show 0 < decimal.digits / 10 by omega)
      · exact positive

theorem nearestAt?_positive {number : Binary64} {power : Int} {decimal : Decimal}
    (found : number.nearestAt? power = some decimal) : 0 < decimal.digits := by
  simp only [nearestAt?, Option.map_eq_some_iff] at found
  obtain ⟨digits, chosen, rfl⟩ := found
  have inside := List.find?_some chosen
  simp only [Bool.and_eq_true, decide_eq_true_eq] at inside
  exact inside.1

theorem shortest_positive {number : Binary64} (present : number.significand ≠ 0) :
    0 < number.shortest.digits := by
  rw [shortest]
  refine dropZeros_positive 17 ?_
  cases found : (List.range 17).findSome? fun places : Nat =>
      number.nearestAt? (number.floorTen - (places : Int)) with
  | none => exact Nat.pos_of_ne_zero present
  | some decimal =>
      obtain ⟨places, _, near⟩ := List.exists_of_findSome?_eq_some found
      exact nearestAt?_positive near

theorem areDigits_zeros (count : Nat) : AreDigits (List.replicate count '0') :=
  fun char inside => ⟨0, by decide, List.eq_of_mem_replicate inside⟩

theorem isMagnitude_positional {digits : List Char} (starts : Starts digits .whole) (point : Int) :
    IsMagnitude (positional digits point) := by
  have all := starts.areDigits
  have filled := starts.ne_nil
  rw [positional]
  split
  · refine ⟨['0'], .zero, '.' :: (List.replicate (-point).toNat '0' ++ digits), .fraction, by simp,
      .zero, leads_fraction (.inl rfl) ?_ (by simp [filled]), rfl⟩
    exact List.forall_mem_append.mpr ⟨areDigits_zeros _, all⟩
  · split
    · exact ⟨digits ++ List.replicate (point.toNat - digits.length) '0', .whole, ['.', '0'],
        .fraction, rfl, starts.append (areDigits_zeros _),
        leads_fraction (.inr rfl) (areDigits_zeros 1) (by simp), rfl⟩
    · refine ⟨digits.take point.toNat, .whole, '.' :: digits.drop point.toNat, .fraction, by simp,
        starts.take (by omega), leads_fraction (.inr rfl) ?_ ?_, rfl⟩
      · exact fun char inside => all char (List.mem_of_mem_drop inside)
      · rw [ne_eq, List.drop_eq_nil_iff]
        omega

theorem isMagnitude_scientific {digits : List Char} (starts : Starts digits .whole)
    (exponent : Int) : IsMagnitude (scientific digits exponent) := by
  have first : Starts (digits.take 1) .whole := starts.take Nat.one_pos
  have sign : (if exponent < 0 then '-' else '+') = '+' ∨
      (if exponent < 0 then '-' else '+') = '-' := by
    split
    · exact .inr rfl
    · exact .inl rfl
  have power : (toString exponent.natAbs).toList = Nat.toDigits 10 exponent.natAbs :=
    Nat.toList_repr
  obtain ⟨_, natural⟩ := exists_starts_toDigits exponent.natAbs
  rw [scientific, power]
  by_cases single : digits.length = 1
  · refine ⟨digits.take 1, .whole, ['e', _] ++ Nat.toDigits 10 exponent.natAbs, .exponent,
      by simp [single], first,
      leads_exponent (.inr (.inl rfl)) sign natural.areDigits natural.ne_nil, rfl⟩
  · have further : digits.drop 1 ≠ [] := by
      have filled := List.length_pos_iff.mpr starts.ne_nil
      rw [ne_eq, List.drop_eq_nil_iff]
      omega
    have behind : AreDigits (digits.drop 1) :=
      fun char inside => starts.areDigits char (List.mem_of_mem_drop inside)
    have fraction : Leads .whole ('.' :: digits.drop 1) .fraction :=
      leads_fraction (.inr rfl) behind further
    refine ⟨digits.take 1, .whole, _, .exponent, by simp [single], first, fraction.append
      (leads_exponent (.inr (.inr rfl)) sign natural.areDigits natural.ne_nil), rfl⟩

theorem isMagnitude_magnitude (number : Binary64) : IsMagnitude number.magnitude := by
  rw [magnitude]
  split
  · exact ⟨['0'], .zero, ['.', '0'], .fraction, rfl, .zero,
      leads_fraction (.inl rfl) (areDigits_zeros 1) (by simp), rfl⟩
  · next present =>
      have starts : Starts (toString number.shortest.digits).toList .whole := by
        rw [show (toString number.shortest.digits).toList = _ from Nat.toList_repr]
        exact starts_toDigits (shortest_positive present)
      dsimp only
      split
      · exact isMagnitude_positional starts _
      · exact isMagnitude_scientific starts _

end Binary64

namespace Number

theorem text_opens (number : Number) :
    ∃ stage : Literal.Stage, stage.complete = true ∧ Scan.Opens number.text.toList stage := by
  cases number with
  | real value =>
      have written : (Number.text (.real value)).toList =
          Scan.signed value.negative value.magnitude := by
        simp [Number.text, Binary64.text, Scan.signed]
      rw [written]
      exact value.isMagnitude_magnitude.opens value.negative
  | int value =>
      cases value with
      | ofNat value =>
          have written : (Number.text (.int (Int.ofNat value))).toList =
              Scan.signed false (Nat.toDigits 10 value) := Nat.toList_repr
          rw [written]
          exact (Scan.isMagnitude_toDigits value).opens false
      | negSucc value =>
          have written : (Number.text (.int (Int.negSucc value))).toList =
              Scan.signed true (Nat.toDigits 10 (value + 1)) := by
            simp [Number.text, Int.toString_eq_repr, Int.repr, Scan.signed]
          rw [written]
          exact (Scan.isMagnitude_toDigits (value + 1)).opens true

def reread (number : Number) : Option Number :=
  match (Scan.run ⟨[], .value .item⟩ (Bytes.ofChars number.text.toList)).next with
  | .number _ literal => literal.value?
  | _ => none

end Number

namespace Scan

theorem run_number (frames : List Frame) (place : Place) (number : Number) :
    Ended frames (.number number.reread)
      (Scan.run ⟨frames, .value place⟩ (Bytes.ofChars number.text.toList)) := by
  obtain ⟨stage, complete, literal, opened⟩ := number.text_opens
  have read : number.reread = literal.value? := by rw [Number.reread, opened]
  rw [opened, read]
  exact .number stage literal complete

theorem Ended.eq_of_number {frames : List Frame} {document : Document} {stage : Literal.Stage}
    {literal : Literal} (ended : Ended frames document ⟨frames, .number stage literal⟩) :
    document = .number literal.value? := by
  generalize same : (⟨frames, .number stage literal⟩ : Scan) = scan at ended
  cases ended with
  | settled =>
      have waiting := complete_isBetween frames document
      rw [← same] at waiting
      exact waiting.elim
  | number =>
      injection same with _ next
      injection next with _ same
      rw [same]

end Scan

theorem Number.reread_int {value : Int} (low : leastInt ≤ value) (high : value ≤ greatestInt) :
    (Number.int value).reread = some (.int value) := by
  have ended := Scan.run_integer [] .item low high
  obtain ⟨stage, complete, literal, opened⟩ := (Number.int value).text_opens
  rw [opened] at ended
  have same := ended.eq_of_number
  injection same with same
  rw [reread, opened, same]

end Jose
