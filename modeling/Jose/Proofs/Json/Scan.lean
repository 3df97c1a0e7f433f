import Jose.Json.Scan
import Jose.Proofs.Octets

/-!
What single octets do to a scan. A value has ended when it is complete, or when it is a number that
waits for the octet after it; from there on commas and closing brackets do the same in both cases.
-/

namespace Jose.Scan

def run (scan : Scan) (bytes : Bytes) : Scan := bytes.foldl step scan

@[simp] theorem run_nil (scan : Scan) : scan.run [] = scan := rfl

@[simp] theorem run_cons (scan : Scan) (byte : UInt8) (rest : Bytes) :
    scan.run (byte :: rest) = (scan.step byte).run rest := rfl

@[simp] theorem run_append (scan : Scan) (left right : Bytes) :
    scan.run (left ++ right) = (scan.run left).run right := by
  simp [run]

def Expectation.IsBetween : Expectation → Prop
  | .value _ | .colon | .comma | .finished _ _ => True
  | .word _ _ _ | .number _ _ | .text _ _ => False

theorem step_between {scan : Scan} (waiting : Expectation.IsBetween scan.next) (byte : UInt8) :
    scan.step byte = scan.between byte := by
  obtain ⟨frames, next⟩ := scan
  cases next <;> simp_all [Expectation.IsBetween, step]

theorem complete_isBetween (frames : List Frame) (document : Document) :
    Expectation.IsBetween (complete frames document).next := by
  cases frames with
  | nil => trivial
  | cons frame rest =>
      cases frame with
      | list items => trivial
      | name members =>
          by_cases text : isText document = true
          · simp [complete, text, Expectation.IsBetween]
          · simp [complete, text, stop, Expectation.IsBetween]
      | value members name => trivial

inductive Ended (frames : List Frame) : Document → Scan → Prop
  | settled (document : Document) : Ended frames document (complete frames document)
  | number (stage : Literal.Stage) (literal : Literal) : stage.complete = true →
      Ended frames (.number literal.value?) ⟨frames, .number stage literal⟩

def IsDelimiter (byte : UInt8) : Prop := byte = 44 ∨ byte = 93 ∨ byte = 125

theorem advance_delimiter {stage : Literal.Stage} (ends : stage.complete = true)
    (literal : Literal) {byte : UInt8} (delimiter : IsDelimiter byte) :
    literal.advance stage byte = .ended := by
  have plain : Literal.digit? byte = none ∧ Literal.isMark byte = false ∧ byte ≠ 46 := by
    rcases delimiter with rfl | rfl | rfl <;> decide
  obtain ⟨noDigit, noMark, noPoint⟩ := plain
  cases stage <;> simp_all [Literal.Stage.complete, Literal.advance, Literal.leaveWhole,
    Literal.addExponent]

theorem Ended.step {frames : List Frame} {document : Document} {scan : Scan}
    (ended : Ended frames document scan) {byte : UInt8} (delimiter : IsDelimiter byte) :
    scan.step byte = (complete frames document).between byte := by
  cases ended with
  | settled => exact step_between (complete_isBetween frames document) byte
  | number stage literal ends =>
      simp [Scan.step, inNumber, advance_delimiter ends literal delimiter]

theorem Ended.finish {document : Document} {scan : Scan} (ended : Ended [] document scan) :
    scan.finish = ⟨[], .finished document false⟩ := by
  cases ended with
  | settled => rfl
  | number stage literal ends => simp [Scan.finish, ends, complete, finishBetween]

section Delimiters

variable {frames : List Frame} {document : Document} {scan : Scan}

theorem Ended.list_comma {items : List Document}
    (ended : Ended (.list items :: frames) document scan) :
    scan.step 44 = ⟨.list (document :: items) :: frames, .value .nextItem⟩ := by
  rw [ended.step (Or.inl rfl)]
  rfl

theorem Ended.list_close {items : List Document}
    (ended : Ended (.list items :: frames) document scan) :
    scan.step 93 = complete frames (.list (document :: items).reverse none) := by
  rw [ended.step (Or.inr (Or.inl rfl))]
  rfl

theorem Ended.object_comma {members : List (Document × Document)} {name : Document}
    (ended : Ended (.value members name :: frames) document scan) :
    scan.step 44 = ⟨.name ((name, document) :: members) :: frames, .value .nextName⟩ := by
  rw [ended.step (Or.inl rfl)]
  rfl

theorem Ended.object_close {members : List (Document × Document)} {name : Document}
    (ended : Ended (.value members name :: frames) document scan) :
    scan.step 125 = complete frames (.object ((name, document) :: members).reverse none) := by
  rw [ended.step (Or.inr (Or.inr rfl))]
  rfl

end Delimiters

def IsOpening (byte : UInt8) : Prop := isBlank byte = false ∧ byte ≠ 93 ∧ byte ≠ 125

theorem step_opening (frames : List Frame) (place : Place) {byte : UInt8}
    (opening : IsOpening byte) :
    Scan.step ⟨frames, .value place⟩ byte = openValue frames byte := by
  obtain ⟨visible, noBracket, noBrace⟩ := opening
  cases place <;> simp [step, between, visible, beginValue, noBracket, noBrace]

end Jose.Scan
