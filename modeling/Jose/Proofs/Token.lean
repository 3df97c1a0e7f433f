import Jose.Proofs.Base64
import Jose.Token

/-!
Compact tokens and their segments. Base64url texts have no dots, so that the segments of a token are
the texts it was joined from.
-/

namespace Jose

namespace Text

theorem pieces_cons_ne {mark char : Char} (different : char ≠ mark) {rest first : List Char}
    {others : List (List Char)} (cut : pieces mark rest = first :: others) :
    pieces mark (char :: rest) = (char :: first) :: others := by
  simp [pieces, different, cut]

theorem pieces_unmarked {mark : Char} {chars : List Char} (unmarked : mark ∉ chars) :
    pieces mark chars = [chars] := by
  induction chars with
  | nil => rfl
  | cons char rest ih =>
      simp only [List.mem_cons, not_or] at unmarked
      exact pieces_cons_ne (Ne.symm unmarked.1) (ih unmarked.2)

theorem pieces_ne_nil (mark : Char) (chars : List Char) : pieces mark chars ≠ [] := by
  cases chars with
  | nil => simp [pieces]
  | cons char rest =>
      rw [pieces]
      split
      · simp
      · split <;> simp

theorem pieces_append {mark : Char} (left right : List Char) :
    pieces mark (left ++ mark :: right) = pieces mark left ++ pieces mark right := by
  induction left with
  | nil => simp [pieces]
  | cons char rest ih =>
      by_cases same : char = mark
      · simp [pieces, same, ih]
      · obtain ⟨first, others, cut⟩ := List.exists_cons_of_ne_nil (pieces_ne_nil mark rest)
        have whole : pieces mark (rest ++ mark :: right) =
            first :: (others ++ pieces mark right) := by
          rw [ih, cut, List.cons_append]
        rw [List.cons_append, pieces_cons_ne same whole, pieces_cons_ne same cut,
          List.cons_append]

theorem pieces_append_mark {mark : Char} {piece : List Char} (unmarked : mark ∉ piece)
    (rest : List Char) : pieces mark (piece ++ mark :: rest) = piece :: pieces mark rest := by
  rw [pieces_append, pieces_unmarked unmarked, List.singleton_append]

/-- Marks in front of a text add only empty pieces to it. -/
theorem mem_pieces_of_dropWhile {mark : Char} {piece chars : List Char}
    (inside : piece ∈ pieces mark (chars.dropWhile (· = mark))) : piece ∈ pieces mark chars := by
  induction chars with
  | nil => exact inside
  | cons char rest ih =>
      by_cases same : char = mark
      · rw [List.dropWhile_cons_of_pos (by simp [same])] at inside
        rw [pieces, if_pos same]
        exact List.mem_cons_of_mem _ (ih inside)
      · rwa [List.dropWhile_cons_of_neg (by simp [same])] at inside

theorem pieces_joined {mark : Char} {segments : List (List Char)} (some : segments ≠ [])
    (unmarked : ∀ piece ∈ segments, mark ∉ piece) :
    pieces mark (joined mark segments) = segments := by
  induction segments with
  | nil => exact absurd rfl some
  | cons piece rest ih =>
      have first : mark ∉ piece := unmarked piece (by simp)
      cases rest with
      | nil => exact pieces_unmarked first
      | cons next rest =>
          rw [joined, pieces_append_mark first,
            ih (by simp) fun other member => unmarked other (by simp [member])]
          simp

theorem mem_joined {mark char : Char} {segments : List (List Char)}
    (member : char ∈ joined mark segments) :
    char = mark ∨ ∃ piece ∈ segments, char ∈ piece := by
  induction segments with
  | nil => simp [joined] at member
  | cons piece rest ih =>
      cases rest with
      | nil => exact Or.inr ⟨piece, by simp, by simpa [joined] using member⟩
      | cons next rest =>
          simp only [joined, List.mem_append, List.mem_cons] at member
          rcases member with inside | same | later
          · exact Or.inr ⟨piece, by simp, inside⟩
          · exact Or.inl same
          · rcases ih later with same | ⟨other, belongs, inside⟩
            · exact Or.inl same
            · exact Or.inr ⟨other, by simp [belongs], inside⟩

end Text

namespace Token

/-- A token of base64url texts has these texts as its segments. -/
theorem segments_ofSegments {contents : List Bytes} (some : contents ≠ []) :
    (Token.ofSegments (contents.map Base64.encodeUrl)).segments =
      contents.map Base64.encodeUrl := by
  have cut : Text.pieces '.' (Text.joined '.'
      ((contents.map Base64.encodeUrl).map String.toList)) =
        (contents.map Base64.encodeUrl).map String.toList := by
    apply Text.pieces_joined (by simpa using some)
    intro piece member dot
    simp only [List.map_map, List.mem_map, Function.comp_apply] at member
    obtain ⟨content, _, rfl⟩ := member
    exact (Base64.encodeUrl_chars content '.' dot).2 rfl
  rw [segments, ofSegments, String.toList_ofList, cut, List.map_map]
  simp [Function.comp_def]

theorem ofSegments_two (first second : String) :
    (ofSegments [first, second]).text = first ++ "." ++ second := by
  apply String.toList_inj.mp
  simp [ofSegments, Text.joined]

theorem ofSegments_three (first second third : String) :
    (ofSegments [first, second, third]).text = first ++ "." ++ second ++ "." ++ third := by
  apply String.toList_inj.mp
  simp [ofSegments, Text.joined]

theorem ofSegments_isAscii (contents : List Bytes) :
    ∀ char ∈ (Token.ofSegments (contents.map Base64.encodeUrl)).text.toList, char.toNat < 128 := by
  intro char member
  rw [ofSegments, String.toList_ofList] at member
  rcases Text.mem_joined member with rfl | ⟨piece, belongs, inside⟩
  · decide
  · simp only [List.map_map, List.mem_map, Function.comp_apply] at belongs
    obtain ⟨content, _, rfl⟩ := belongs
    exact (Base64.encodeUrl_chars content char inside).1

end Token

end Jose
