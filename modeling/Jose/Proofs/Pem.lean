import Jose.Pem
import Jose.Proofs.Guarded
import Jose.Proofs.Octets

/-!
The label of armoured text, read from octets. Marks are found by their offset in the UTF-8 form, and
the text is cut at such offsets. A mark of ASCII characters is only ever found between characters,
so that no cut goes through one.
-/

namespace Jose

namespace Bytes

def find? (mark : Bytes) : Bytes → Option Nat
  | [] => if mark.isEmpty then some 0 else none
  | byte :: rest =>
      if mark.isPrefixOf (byte :: rest) then some 0 else (find? mark rest).map (· + 1)

def continues (byte : UInt8) : Bool := 128 ≤ byte.toNat && byte.toNat < 192

def isBoundary (octets : Bytes) (offset : Nat) : Bool :=
  if offset = octets.length then true
  else octets[offset]?.any fun byte => !continues byte

def sliceFrom {ε : Type} (octets : Bytes) (offset : Nat) : Guarded ε Bytes :=
  if isBoundary octets offset then pure (octets.drop offset) else .crash

def sliceTo {ε : Type} (octets : Bytes) (offset : Nat) : Guarded ε Bytes :=
  if isBoundary octets offset then pure (octets.take offset) else .crash

theorem utf8EncodeChar_first (char : Char) :
    ∃ first later, String.utf8EncodeChar char = first :: later ∧ continues first = false := by
  have bound : char.val.toNat < 1114112 := by
    have valid := char.valid
    rcases valid with low | ⟨_, high⟩ <;> omega
  by_cases small : char.toNat < 128
  · refine ⟨_, _, utf8EncodeChar_ascii small, ?_⟩
    have code : (UInt8.ofNat char.toNat).toNat = char.toNat := by
      rw [UInt8.toNat_ofNat']
      omega
    simp only [continues, code]
    simp only [Bool.and_eq_false_imp, decide_eq_true_eq, decide_eq_false_iff_not]
    omega
  · have large : ¬ char.val.toNat ≤ 0x7f := by
      change ¬ char.toNat ≤ 0x7f
      omega
    simp only [String.utf8EncodeChar, large, if_false]
    split
    · exact ⟨_, _, rfl, by simp [continues, UInt8.toNat_ofNat']; omega⟩
    · split
      · exact ⟨_, _, rfl, by simp [continues, UInt8.toNat_ofNat']; omega⟩
      · exact ⟨_, _, rfl, by simp [continues, UInt8.toNat_ofNat']; omega⟩

theorem isBoundary_ofChars (before after : List Char) :
    isBoundary (ofChars (before ++ after)) (ofChars before).length = true := by
  rw [ofChars_append, isBoundary]
  cases after with
  | nil => simp
  | cons char rest =>
      obtain ⟨first, later, encoded, begins⟩ := utf8EncodeChar_first char
      split
      · rfl
      · simp [encoded, begins]

/-- A mark that starts with an octet is not found where that octet does not occur. -/
theorem find?_foreign {start : UInt8} {mark skipped : Bytes}
    (foreign : ∀ byte ∈ skipped, byte ≠ start) (rest : Bytes) :
    find? (start :: mark) (skipped ++ rest) =
      (find? (start :: mark) rest).map (skipped.length + ·) := by
  induction skipped with
  | nil => simp
  | cons byte skipped ih =>
      have different : start ≠ byte := Ne.symm (foreign byte List.mem_cons_self)
      rw [List.cons_append, find?, ih fun other member => foreign other (by simp [member])]
      simp only [List.isPrefixOf, beq_iff_eq, different, Bool.and_eq_true, false_and, if_false,
        Option.map_map, List.length_cons]
      congr 1
      funext offset
      simp only [Function.comp_apply]
      omega

end Bytes

namespace Text

def IsAscii (chars : List Char) : Prop := ∀ char ∈ chars, char.toNat < 128

instance (chars : List Char) : Decidable (IsAscii chars) :=
  List.decidableBAll (fun char : Char => char.toNat < 128) chars

theorem splitAt?_eq_some {mark text before after : List Char}
    (found : splitAt? mark text = some (before, after)) : text = before ++ mark ++ after := by
  induction text generalizing before with
  | nil =>
      simp only [splitAt?] at found
      split at found
      · next empty =>
          simp only [Option.some.injEq, Prod.mk.injEq] at found
          obtain ⟨rfl, rfl⟩ := found
          simpa using empty
      · contradiction
  | cons char rest ih =>
      simp only [splitAt?] at found
      split at found
      · next starts =>
          simp only [Option.some.injEq, Prod.mk.injEq] at found
          obtain ⟨rfl, rfl⟩ := found
          obtain ⟨tail, same⟩ := List.isPrefixOf_iff_prefix.mp starts
          rw [← same, List.drop_left, List.nil_append]
      · simp only [Option.map_eq_some_iff, Prod.exists, Prod.mk.injEq] at found
        obtain ⟨inner, later, split, rfl, rfl⟩ := found
        rw [ih split]
        simp

theorem ofNat_beq_ofNat {left right : Char} (small : left.toNat < 128)
    (smallToo : right.toNat < 128) :
    (UInt8.ofNat left.toNat == UInt8.ofNat right.toNat) = (left == right) := by
  rw [Bool.eq_iff_iff, beq_iff_eq, beq_iff_eq]
  constructor
  · intro same
    have codes := congrArg UInt8.toNat same
    simp only [UInt8.toNat_ofNat'] at codes
    have code : left.toNat = right.toNat := by omega
    rw [← Char.ofNat_toNat left, code, Char.ofNat_toNat]
  · intro same
    rw [same]

/-- Whether a text starts with an ASCII mark is seen from its octets. -/
theorem ofChars_isPrefixOf {mark : List Char} (ascii : IsAscii mark) (text : List Char) :
    (Bytes.ofChars mark).isPrefixOf (Bytes.ofChars text) = mark.isPrefixOf text := by
  induction mark generalizing text with
  | nil => simp
  | cons char mark ih =>
      have small : char.toNat < 128 := ascii char List.mem_cons_self
      rw [Bytes.ofChars_cons, Bytes.utf8EncodeChar_ascii small]
      cases text with
      | nil => rfl
      | cons other text =>
          rw [Bytes.ofChars_cons]
          by_cases low : other.toNat < 128
          · rw [Bytes.utf8EncodeChar_ascii low]
            simp only [List.cons_append, List.nil_append, List.isPrefixOf,
              ofNat_beq_ofNat small low]
            rw [ih (fun inner member => ascii inner (List.mem_cons_of_mem _ member))]
          · obtain ⟨first, later, encoded, _⟩ := Bytes.utf8EncodeChar_first other
            have high : 128 ≤ first.toNat :=
              Bytes.utf8EncodeChar_high (Nat.not_lt.mp low) (by simp [encoded])
            have octets : (UInt8.ofNat char.toNat == first) = false := by
              apply beq_false_of_ne
              intro same
              rw [← same, UInt8.toNat_ofNat'] at high
              omega
            have characters : (char == other) = false := by
              apply beq_false_of_ne
              intro same
              rw [same] at small
              exact low small
            simp [encoded, List.isPrefixOf, octets, characters]

/-- A mark is found in the octets where it is found in the text. -/
theorem find?_ofChars {mark : List Char} (ascii : IsAscii mark) (filled : mark ≠ [])
    (text : List Char) :
    Bytes.find? (Bytes.ofChars mark) (Bytes.ofChars text) =
      (splitAt? mark text).map fun parts => (Bytes.ofChars parts.1).length := by
  obtain ⟨char, tail, rfl⟩ := List.exists_cons_of_ne_nil filled
  have small : char.toNat < 128 := ascii char List.mem_cons_self
  have octets : Bytes.ofChars (char :: tail) =
      UInt8.ofNat char.toNat :: Bytes.ofChars tail := by
    rw [Bytes.ofChars_cons, Bytes.utf8EncodeChar_ascii small]
    rfl
  induction text with
  | nil => simp [Bytes.find?, splitAt?, octets]
  | cons other text ih =>
      have starts := ofChars_isPrefixOf ascii (other :: text)
      obtain ⟨first, later, encoded, _⟩ := Bytes.utf8EncodeChar_first other
      have cut : Bytes.ofChars (other :: text) = first :: (later ++ Bytes.ofChars text) := by
        rw [Bytes.ofChars_cons, encoded]
        rfl
      by_cases here : (char :: tail).isPrefixOf (other :: text) = true
      · rw [splitAt?, if_pos here, cut, Bytes.find?, ← cut, starts, if_pos here]
        simp
      · -- The rest of a longer character has only octets beyond ASCII, where no mark starts.
        have foreign : ∀ byte ∈ later, byte ≠ UInt8.ofNat char.toNat := by
          intro byte member same
          by_cases low : other.toNat < 128
          · rw [Bytes.utf8EncodeChar_ascii low] at encoded
            simp only [List.cons.injEq] at encoded
            rw [← encoded.2] at member
            contradiction
          · have high : 128 ≤ byte.toNat :=
              Bytes.utf8EncodeChar_high (Nat.not_lt.mp low) (by simp [encoded, member])
            rw [same, UInt8.toNat_ofNat'] at high
            omega
        rw [splitAt?, if_neg here, cut, Bytes.find?, ← cut, starts, if_neg here, octets,
          Bytes.find?_foreign foreign, ← octets, ih]
        simp only [Option.map_map]
        congr 1
        funext parts
        simp only [Function.comp_apply, Bytes.ofChars_cons, encoded, List.length_append,
          List.length_cons]
        omega

end Text

namespace Pem

def labelGuarded (text : List Char) : Guarded LabelProblem String := do
  let octets := Bytes.ofChars text
  let start ← .ofOption .missing (Bytes.find? (Bytes.ofChars beginMark) octets)
  let rest ← Bytes.sliceFrom octets (start + (Bytes.ofChars beginMark).length)
  let stop ← .ofOption .malformed (Bytes.find? (Bytes.ofChars dashes) rest)
  let name ← Bytes.sliceTo rest stop
  Guarded.unwrap (Bytes.text? name)

theorem beginMark_isAscii : Text.IsAscii beginMark := by decide

theorem dashes_isAscii : Text.IsAscii dashes := by decide

theorem sliceFrom_ofChars {ε : Type} (before after : List Char) :
    (Bytes.sliceFrom (Bytes.ofChars (before ++ after)) (Bytes.ofChars before).length :
      Guarded ε Bytes) = pure (Bytes.ofChars after) := by
  rw [Bytes.sliceFrom, if_pos (Bytes.isBoundary_ofChars before after), Bytes.ofChars_append,
    List.drop_left]

theorem sliceTo_ofChars {ε : Type} (before after : List Char) :
    (Bytes.sliceTo (Bytes.ofChars (before ++ after)) (Bytes.ofChars before).length :
      Guarded ε Bytes) = pure (Bytes.ofChars before) := by
  rw [Bytes.sliceTo, if_pos (Bytes.isBoundary_ofChars before after), Bytes.ofChars_append,
    List.take_left]

/-- Neither cut goes through a character, and what stands between them is text again. -/
theorem labelGuarded_eq (text : List Char) : labelGuarded text = .answer (label text) := by
  simp only [labelGuarded, label, Text.find?_ofChars beginMark_isAscii (by decide)]
  cases begins : Text.splitAt? beginMark text with
  | none => rfl
  | some parts =>
      obtain ⟨before, after⟩ := parts
      have opened := Text.splitAt?_eq_some begins
      have start : (Bytes.ofChars before).length + (Bytes.ofChars beginMark).length =
          (Bytes.ofChars (before ++ beginMark)).length := by
        rw [Bytes.ofChars_append, List.length_append]
      simp only [Option.map_some, Guarded.ofOption, Guarded.ok_bind, start]
      rw [opened, sliceFrom_ofChars]
      simp only [pure, Guarded.ok_bind, Text.find?_ofChars dashes_isAscii (by decide)]
      cases ends : Text.splitAt? dashes after with
      | none => rfl
      | some parts =>
          obtain ⟨name, later⟩ := parts
          have closed := Text.splitAt?_eq_some ends
          simp only [Option.map_some, Guarded.ok_bind]
          rw [closed, List.append_assoc, sliceTo_ofChars]
          have read : Bytes.text? (Bytes.ofChars name) = some (String.ofList name) := by
            rw [← Bytes.ofText_ofList, Bytes.text?_ofText]
          simp only [pure, Guarded.ok_bind, read]
          rfl

end Pem

end Jose
