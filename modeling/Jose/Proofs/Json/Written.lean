import Jose.Proofs.Json.Numeral
import Jose.Proofs.Json.Text

/-!
The compact text of a value is scanned back to the document of the value, whose numbers are what
their texts are read as: lists and objects by induction over what they hold, with an open frame for
everything that is still being read.
-/

namespace Jose

namespace Json

mutual

def IsWhole : Json → Prop
  | .null | .bool _ | .text _ => True
  | .number (.int value) => Number.leastInt ≤ value ∧ value ≤ Number.greatestInt
  | .number (.real _) => False
  | .list items => AreWhole items
  | .object members => HoldWhole members

def AreWhole : List Json → Prop
  | [] => True
  | item :: rest => item.IsWhole ∧ AreWhole rest

def HoldWhole : List (String × Json) → Prop
  | [] => True
  | (_, value) :: rest => value.IsWhole ∧ HoldWhole rest

end

theorem areWhole_iff {items : List Json} : AreWhole items ↔ ∀ item ∈ items, item.IsWhole := by
  induction items with
  | nil => simp [AreWhole]
  | cons item rest ih => simp [AreWhole, ih]

end Json

namespace Document

mutual

def written : Json → Document
  | .null => .null
  | .bool value => .bool value
  | .number value => .number value.reread
  | .text value => .text (.ok value)
  | .list items => .list (writtenItems items) none
  | .object members => .object (writtenMembers members) none

def writtenItems : List Json → List Document
  | [] => []
  | item :: rest => written item :: writtenItems rest

def writtenMembers : List (String × Json) → List (Document × Document)
  | [] => []
  | (name, value) :: rest => (.text (.ok name), written value) :: writtenMembers rest

end

mutual

theorem written_whole : (value : Json) → value.IsWhole → written value = ofJson value
  | .null, _ => rfl
  | .bool _, _ => rfl
  | .number (.int value), ⟨low, high⟩ => by rw [written, Number.reread_int low high, ofJson]
  | .text _, _ => rfl
  | .list items, whole => by rw [written, writtenItems_whole items whole, ofJson]
  | .object members, whole => by rw [written, writtenMembers_whole members whole, ofJson]

theorem writtenItems_whole : (items : List Json) → Json.AreWhole items →
    writtenItems items = ofItems items
  | [], _ => rfl
  | item :: rest, ⟨first, others⟩ => by
      rw [writtenItems, written_whole item first, writtenItems_whole rest others, ofItems]

theorem writtenMembers_whole : (members : List (String × Json)) → Json.HoldWhole members →
    writtenMembers members = ofMembers members
  | [], _ => rfl
  | (name, value) :: rest, ⟨first, others⟩ => by
      rw [writtenMembers, written_whole value first, writtenMembers_whole rest others, ofMembers]

end

end Document

namespace Scan

theorem run_word (frames : List Frame) (opening : Opening) (result : Document) (first : UInt8)
    (left : Bytes) :
    Scan.run ⟨frames, .word (first :: left) opening result⟩ (first :: left) =
      complete frames result := by
  induction left generalizing first with
  | nil => simp [step, inWord]
  | cons next left ih =>
      have stepped : Scan.step ⟨frames, .word (first :: next :: left) opening result⟩ first =
          ⟨frames, .word (next :: left) opening result⟩ := by
        simp [step, inWord]
      rw [run_cons, stepped, ih]

theorem run_null (frames : List Frame) (place : Place) :
    Scan.run ⟨frames, .value place⟩ (Bytes.ofChars Json.null.chars) = complete frames .null := by
  have written : Bytes.ofChars Json.null.chars = 110 :: nullTail := rfl
  have opened : openValue frames 110 = ⟨frames, .word nullTail .null .null⟩ := rfl
  rw [written, run_cons, step_opening frames place (by simp [IsOpening, isBlank]), opened]
  exact run_word frames .null .null 117 [108, 108]

theorem run_bool (frames : List Frame) (place : Place) (value : Bool) :
    Scan.run ⟨frames, .value place⟩ (Bytes.ofChars (Json.bool value).chars) =
      complete frames (.bool value) := by
  cases value with
  | true =>
      have written : Bytes.ofChars (Json.bool true).chars = 116 :: trueTail := rfl
      have opened : openValue frames 116 = ⟨frames, .word trueTail .other (.bool true)⟩ := rfl
      rw [written, run_cons, step_opening frames place (by simp [IsOpening, isBlank]), opened]
      exact run_word frames .other (.bool true) 114 [117, 101]
  | false =>
      have written : Bytes.ofChars (Json.bool false).chars = 102 :: falseTail := rfl
      have opened : openValue frames 102 = ⟨frames, .word falseTail .other (.bool false)⟩ := rfl
      rw [written, run_cons, step_opening frames place (by simp [IsOpening, isBlank]), opened]
      exact run_word frames .other (.bool false) 97 [108, 115, 101]

theorem step_list (frames : List Frame) (place : Place) :
    Scan.step ⟨frames, .value place⟩ 91 = ⟨.list [] :: frames, .value .firstItem⟩ := by
  rw [step_opening frames place (by simp [IsOpening, isBlank])]
  rfl

theorem step_object (frames : List Frame) (place : Place) :
    Scan.step ⟨frames, .value place⟩ 123 = ⟨.name [] :: frames, .value .firstName⟩ := by
  rw [step_opening frames place (by simp [IsOpening, isBlank])]
  rfl

theorem run_name (frames : List Frame) (members : List (Document × Document)) (place : Place)
    (name : String) :
    Scan.run ⟨.name members :: frames, .value place⟩
        (Bytes.ofChars (Json.quote name ++ [':'])) =
      ⟨.value members (.text (.ok name)) :: frames, .value .item⟩ := by
  rw [Bytes.ofChars_append, run_append, run_text]
  rfl

mutual

theorem run_value : (value : Json) → (frames : List Frame) → (place : Place) →
    Ended frames (.written value) (Scan.run ⟨frames, .value place⟩ (Bytes.ofChars value.chars))
  | .null, frames, place => by
      rw [run_null]
      exact Ended.settled .null
  | .bool value, frames, place => by
      rw [run_bool]
      exact Ended.settled (.bool value)
  | .number value, frames, place => run_number frames place value
  | .text value, frames, place => by
      rw [Json.chars, run_text]
      exact Ended.settled (.text (.ok value))
  | .list [], frames, place => by
      have closed : Scan.run ⟨frames, .value place⟩ (Bytes.ofChars (Json.list []).chars) =
          complete frames (.list [] none) := by
        rw [show Bytes.ofChars (Json.list []).chars = [91, 93] from rfl, run_cons, step_list]
        rfl
      rw [closed]
      exact Ended.settled (.list [] none)
  | .list (item :: rest), frames, place => by
      have opened := run_value item (.list [] :: frames) .firstItem
      have closed := run_items rest opened
      have written : Bytes.ofChars (Json.list (item :: rest)).chars =
          91 :: (Bytes.ofChars item.chars ++ Bytes.ofChars (Json.charsOfItems rest ++ [']'])) := by
        simp only [Json.chars, Bytes.ofChars_append, List.append_assoc]
        rfl
      rw [written, run_cons, step_list, run_append, closed]
      exact Ended.settled _
  | .object [], frames, place => by
      have closed : Scan.run ⟨frames, .value place⟩ (Bytes.ofChars (Json.object []).chars) =
          complete frames (.object [] none) := by
        rw [show Bytes.ofChars (Json.object []).chars = [123, 125] from rfl, run_cons, step_object]
        rfl
      rw [closed]
      exact Ended.settled (.object [] none)
  | .object ((name, value) :: rest), frames, place => by
      have opened := run_value value (.value [] (.text (.ok name)) :: frames) .item
      have closed := run_members rest opened
      have written : Bytes.ofChars (Json.object ((name, value) :: rest)).chars =
          123 :: (Bytes.ofChars (Json.quote name ++ [':']) ++ (Bytes.ofChars value.chars ++
            Bytes.ofChars (Json.charsOfMembers rest ++ ['\x7d']))) := by
        simp only [Json.chars, Bytes.ofChars_append, List.append_assoc]
        rfl
      rw [written, run_cons, step_object, run_append, run_name, run_append, closed]
      exact Ended.settled _

theorem run_items : (rest : List Json) → {frames : List Frame} →
    {items : List Document} → {last : Document} → {scan : Scan} →
    Ended (.list items :: frames) last scan →
    scan.run (Bytes.ofChars (Json.charsOfItems rest ++ [']'])) =
      complete frames (.list ((last :: items).reverse ++ Document.writtenItems rest) none)
  | [], frames, items, last, scan, ended => by
      rw [show Bytes.ofChars (Json.charsOfItems [] ++ [']']) = [93] from rfl, run_cons, run_nil,
        ended.list_close, Document.writtenItems, List.append_nil]
  | item :: rest, frames, items, last, scan, ended => by
      have next := run_value item (.list (last :: items) :: frames) .nextItem
      have closed := run_items rest next
      have written : Bytes.ofChars (Json.charsOfItems (item :: rest) ++ [']']) =
          44 :: (Bytes.ofChars item.chars ++ Bytes.ofChars (Json.charsOfItems rest ++ [']'])) := by
        simp only [Json.charsOfItems, Bytes.ofChars_append, List.append_assoc]
        rfl
      rw [written, run_cons, ended.list_comma, run_append, closed, List.reverse_cons,
        List.append_assoc, List.singleton_append, Document.writtenItems]

theorem run_members : (rest : List (String × Json)) → {frames : List Frame} →
    {members : List (Document × Document)} → {name last : Document} → {scan : Scan} →
    Ended (.value members name :: frames) last scan →
    scan.run (Bytes.ofChars (Json.charsOfMembers rest ++ ['\x7d'])) =
      complete frames
        (.object (((name, last) :: members).reverse ++ Document.writtenMembers rest) none)
  | [], frames, members, name, last, scan, ended => by
      rw [show Bytes.ofChars (Json.charsOfMembers [] ++ ['\x7d']) = [125] from rfl, run_cons,
        run_nil, ended.object_close, Document.writtenMembers, List.append_nil]
  | (label, value) :: rest, frames, members, name, last, scan, ended => by
      have next := run_value value
        (.value ((name, last) :: members) (.text (.ok label)) :: frames) .item
      have closed := run_members rest next
      have written : Bytes.ofChars (Json.charsOfMembers ((label, value) :: rest) ++ ['\x7d']) =
          44 :: (Bytes.ofChars (Json.quote label ++ [':']) ++ (Bytes.ofChars value.chars ++
            Bytes.ofChars (Json.charsOfMembers rest ++ ['\x7d']))) := by
        simp only [Json.charsOfMembers, Bytes.ofChars_append, List.append_assoc]
        rfl
      rw [written, run_cons, ended.object_comma, run_append, run_name, run_append, closed,
        List.reverse_cons, List.append_assoc, List.singleton_append, Document.writtenMembers]

end

end Scan

/-- The text of a value is scanned to the document of the value, with nothing after it. -/
theorem Scanned.ofBytes_written (value : Json) :
    Scanned.ofBytes value.encode = ⟨.written value, false⟩ := by
  have ended : Scan.Ended [] (.written value) (value.encode.foldl Scan.step Scan.start) := by
    rw [Json.encode, Json.write, Bytes.ofText_ofList]
    exact Scan.run_value value [] .item
  rw [Scanned.ofBytes, ended.finish]

theorem Scanned.ofBytes_encode {value : Json} (whole : value.IsWhole) :
    Scanned.ofBytes value.encode = ⟨.ofJson value, false⟩ := by
  rw [ofBytes_written, Document.written_whole value whole]

end Jose
