import Jose.Proofs.Pem

/-!
Texts between blanks, and texts cut at the first occurrence of a mark. Characters around octets
change nothing about whether these are a text, and trimming takes away the blanks around it.
-/

namespace Jose

namespace Bytes

section Validity

variable {left right : ByteArray}

theorem valid_right (whole : (left ++ right).IsValidUTF8) (valid : left.IsValidUTF8) :
    right.IsValidUTF8 := by
  have place : String.Pos.Raw.IsValid ⟨left ++ right, whole⟩ ⟨left.size⟩ := by
    rw [String.Pos.Raw.isValid_iff_isValidUTF8_extract_zero]
    refine ⟨?_, ?_⟩
    · simp [String.rawEndPos, String.utf8ByteSize, String.Pos.Raw.le_iff]
    · rwa [ByteArray.extract_append_eq_left rfl]
  have rest : ((left ++ right).extract left.size (left ++ right).size).IsValidUTF8 :=
    place.isValidUTF8_extract_utf8ByteSize
  rwa [ByteArray.extract_append_eq_right rfl ByteArray.size_append] at rest

theorem valid_left (whole : (left ++ right).IsValidUTF8) (valid : right.IsValidUTF8) :
    left.IsValidUTF8 := by
  have place : String.Pos.Raw.IsValid ⟨left ++ right, whole⟩ ⟨left.size⟩ := by
    rw [String.Pos.Raw.isValid_iff_isValidUTF8_extract_utf8ByteSize]
    refine ⟨?_, ?_⟩
    · simp [String.rawEndPos, String.utf8ByteSize, String.Pos.Raw.le_iff]
    · change ((left ++ right).extract left.size (left ++ right).size).IsValidUTF8
      rwa [ByteArray.extract_append_eq_right rfl ByteArray.size_append]
  have first := place.isValidUTF8_extract_zero
  rwa [ByteArray.extract_append_eq_left rfl] at first

end Validity

theorem text?_eq_some_iff {bytes : Bytes} {text : String} :
    text? bytes = some text ↔ ofText text = bytes := by
  constructor
  · intro read
    simp only [text?, String.fromUTF8?] at read
    split at read
    · injection read with same
      rw [← same]
      rfl
    · contradiction
  · rintro rfl
    exact text?_ofText text

theorem valid_iff {bytes : Bytes} :
    (⟨bytes.toArray⟩ : ByteArray).IsValidUTF8 ↔ ∃ text, text? bytes = some text := by
  constructor
  · intro valid
    exact ⟨_, dif_pos valid⟩
  · rintro ⟨text, read⟩
    rw [← text?_eq_some_iff.mp read]
    exact text.isValidUTF8

/-- Whether octets are a text can be told with characters before and after them. -/
theorem text?_between (before after : List Char) (bytes : Bytes) :
    text? (ofChars before ++ bytes ++ ofChars after) =
      (text? bytes).map fun text => String.ofList (before ++ text.toList ++ after) := by
  have chars : ∀ chars, (⟨(ofChars chars).toArray⟩ : ByteArray).IsValidUTF8 := by
    intro chars
    rw [valid_iff, ← ofText_ofList]
    exact ⟨_, text?_ofText _⟩
  have joined : (⟨(ofChars before ++ bytes ++ ofChars after).toArray⟩ : ByteArray) =
      ⟨(ofChars before).toArray⟩ ++ ⟨bytes.toArray⟩ ++ ⟨(ofChars after).toArray⟩ := by
    apply ByteArray.ext
    simp only [ByteArray.data_append, List.append_toArray]
  cases read : text? bytes with
  | some text =>
      rw [Option.map_some, text?_eq_some_iff, ofText_ofList, ofChars_append, ofChars_append,
        ← ofText_eq, text?_eq_some_iff.mp read]
  | none =>
      rw [Option.map_none]
      cases outer : text? (ofChars before ++ bytes ++ ofChars after) with
      | none => rfl
      | some whole =>
          have valid := valid_iff.mpr ⟨whole, outer⟩
          rw [joined] at valid
          obtain ⟨text, inner⟩ := valid_iff.mp
            (valid_right (valid_left valid (chars after)) (chars before))
          rw [read] at inner
          contradiction

end Bytes

namespace Text

def AreBlank (chars : List Char) : Prop := ∀ char ∈ chars, isBlank char = true

theorem dropWhile_blank {chars : List Char} (blank : AreBlank chars) :
    chars.dropWhile isBlank = [] := by
  rw [← List.append_nil chars, List.dropWhile_append_of_pos blank, List.dropWhile_nil]

theorem trim_between {before after : List Char} (blank : AreBlank before)
    (blankToo : AreBlank after) (text : List Char) : trim (before ++ text ++ after) = trim text := by
  rw [trim, List.append_assoc, List.dropWhile_append_of_pos blank, List.dropWhile_append]
  split
  · next void =>
      rw [dropWhile_blank blankToo, trim, List.isEmpty_iff.mp void]
  · have reversed : AreBlank after.reverse := fun char inside =>
      blankToo char (List.mem_reverse.mp inside)
    rw [List.reverse_append, List.dropWhile_append_of_pos reversed, trim]

structure IsFirst (mark text before after : List Char) : Prop where
  parts : text = before ++ mark ++ after
  earliest : ∀ earlier later, text = earlier ++ mark ++ later → before.length ≤ earlier.length

theorem IsFirst.unique {mark text before after other rest : List Char}
    (first : IsFirst mark text before after) (firstToo : IsFirst mark text other rest) :
    before = other ∧ after = rest := by
  have same : before.length = other.length :=
    Nat.le_antisymm (first.earliest _ _ firstToo.parts) (firstToo.earliest _ _ first.parts)
  have parts := first.parts.symm.trans firstToo.parts
  simp only [List.append_assoc] at parts
  obtain ⟨rfl, marked⟩ := List.append_inj parts same
  exact ⟨rfl, List.append_cancel_left marked⟩

theorem splitAt?_isFirst {mark text before after : List Char}
    (found : splitAt? mark text = some (before, after)) : IsFirst mark text before after := by
  refine ⟨splitAt?_eq_some found, ?_⟩
  induction text generalizing before with
  | nil =>
      intro earlier later parts
      have void := congrArg List.length (splitAt?_eq_some found)
      simp only [List.length_nil, List.length_append] at void
      omega
  | cons char rest ih =>
      intro earlier later parts
      simp only [splitAt?] at found
      split at found
      · simp only [Option.some.injEq, Prod.mk.injEq] at found
        rw [← found.1]
        exact Nat.zero_le _
      · next unlike =>
          simp only [Option.map_eq_some_iff, Prod.exists, Prod.mk.injEq] at found
          obtain ⟨inner, _, inside, rfl, rfl⟩ := found
          cases earlier with
          | nil =>
              refine absurd ?_ unlike
              rw [parts, List.nil_append]
              exact List.isPrefixOf_iff_prefix.mpr (List.prefix_append mark later)
          | cons first earlier =>
              rw [List.cons_append, List.cons_append, List.cons.injEq] at parts
              exact Nat.succ_le_succ (ih inside earlier later parts.2)

theorem exists_splitAt? (mark before after : List Char) :
    ∃ parts, splitAt? mark (before ++ mark ++ after) = some parts := by
  induction before with
  | nil =>
      have starts : mark.isPrefixOf (mark ++ after) = true :=
        List.isPrefixOf_iff_prefix.mpr (List.prefix_append mark after)
      rw [List.nil_append]
      cases text : mark ++ after with
      | nil =>
          have void : mark = [] := (List.append_eq_nil_iff.mp text).1
          exact ⟨([], []), by simp [splitAt?, void]⟩
      | cons char rest =>
          rw [text] at starts
          exact ⟨_, by rw [splitAt?, if_pos starts]⟩
  | cons char before ih =>
      obtain ⟨parts, found⟩ := ih
      rw [List.cons_append, List.cons_append, splitAt?]
      split
      · exact ⟨_, rfl⟩
      · exact ⟨_, by rw [found, Option.map_some]⟩

theorem splitAt?_eq_some_iff {mark text before after : List Char} :
    splitAt? mark text = some (before, after) ↔ IsFirst mark text before after := by
  refine ⟨splitAt?_isFirst, fun first => ?_⟩
  obtain ⟨⟨other, rest⟩, found⟩ := exists_splitAt? mark before after
  rw [← first.parts] at found
  obtain ⟨rfl, rfl⟩ := first.unique (splitAt?_isFirst found)
  exact found

end Text

/-- The label stands between the first mark of a beginning and the first dashes after that. -/
theorem Pem.label_eq_ok_iff {text : List Char} {name : String} :
    Pem.label text = .ok name ↔ ∃ before after,
      Text.IsFirst beginMark text before (name.toList ++ dashes ++ after) ∧
        Text.IsFirst dashes (name.toList ++ dashes ++ after) name.toList after := by
  simp only [← Text.splitAt?_eq_some_iff, label]
  cases begins : Text.splitAt? beginMark text with
  | none => simp
  | some parts =>
      obtain ⟨before, rest⟩ := parts
      cases ends : Text.splitAt? dashes rest with
      | none =>
          simp only [ends, reduceCtorEq, Option.some.injEq, Prod.mk.injEq, false_iff, not_exists]
          rintro _ after ⟨⟨_, rfl⟩, stops⟩
          rw [ends] at stops
          contradiction
      | some parts =>
          obtain ⟨found, after⟩ := parts
          simp only [ends, Except.ok.injEq, Option.some.injEq, Prod.mk.injEq]
          constructor
          · rintro rfl
            have parts := Text.splitAt?_eq_some ends
            rw [String.toList_ofList]
            exact ⟨before, after, ⟨rfl, parts⟩, parts ▸ ends⟩
          · rintro ⟨_, later, ⟨_, rfl⟩, stops⟩
            rw [ends] at stops
            simp only [Option.some.injEq, Prod.mk.injEq] at stops
            rw [stops.1, String.ofList_toList]

end Jose
