import Jose.Bytes

/-!
Texts come back from their UTF-8 form, and ASCII texts are their octets.
-/

namespace Jose.Bytes

def ofChars (chars : List Char) : Bytes := chars.flatMap String.utf8EncodeChar

@[simp] theorem ofChars_nil : ofChars [] = [] := rfl

@[simp] theorem ofChars_cons (char : Char) (rest : List Char) :
    ofChars (char :: rest) = String.utf8EncodeChar char ++ ofChars rest := by
  simp [ofChars]

@[simp] theorem ofChars_append (left right : List Char) :
    ofChars (left ++ right) = ofChars left ++ ofChars right := by
  simp [ofChars]

theorem ofText_ofList (chars : List Char) : ofText (String.ofList chars) = ofChars chars := by
  simp only [ofText, String.toUTF8, String.toByteArray_ofList, List.utf8Encode]
  exact List.toList_data_toByteArray

theorem ofText_eq (text : String) : ofText text = ofChars text.toList := by
  rw [← ofText_ofList, String.ofList_toList]

@[simp] theorem text?_ofText (text : String) : text? (ofText text) = some text := by
  have bytes : (⟨(ofText text).toArray⟩ : ByteArray) = text.toByteArray := rfl
  simp only [text?, bytes, String.fromUTF8?, text.isValidUTF8, dif_pos]
  rfl

theorem utf8EncodeChar_ascii {char : Char} (small : char.toNat < 128) :
    String.utf8EncodeChar char = [UInt8.ofNat char.toNat] := by
  have bound : char.val.toNat ≤ 0x7f := by
    change char.toNat ≤ 0x7f
    omega
  simp only [String.utf8EncodeChar, bound, if_true]
  rfl

/-- Beyond ASCII every octet of a character has its high bit set. -/
theorem utf8EncodeChar_high {char : Char} (large : 128 ≤ char.toNat) {byte : UInt8}
    (member : byte ∈ String.utf8EncodeChar char) : 128 ≤ byte.toNat := by
  have bound : ¬ char.val.toNat ≤ 0x7f := by
    change ¬ char.toNat ≤ 0x7f
    omega
  simp only [String.utf8EncodeChar, bound, if_false] at member
  split at member
  · simp only [List.mem_cons, List.not_mem_nil, or_false] at member
    rcases member with rfl | rfl <;> simp only [UInt8.toNat_ofNat'] <;> omega
  · split at member
    · simp only [List.mem_cons, List.not_mem_nil, or_false] at member
      rcases member with rfl | rfl | rfl <;> simp only [UInt8.toNat_ofNat'] <;> omega
    · simp only [List.mem_cons, List.not_mem_nil, or_false] at member
      rcases member with rfl | rfl | rfl | rfl <;> simp only [UInt8.toNat_ofNat'] <;> omega

def IsAscii (bytes : Bytes) : Prop := ∀ byte ∈ bytes, byte.toNat < 128

theorem toNat_charOfNat {code : Nat} (small : code < 128) : (Char.ofNat code).toNat = code := by
  have valid : code.isValidChar := Or.inl (by omega)
  rw [Char.ofNat, dif_pos valid]
  rfl

theorem ofText_ascii {bytes : Bytes} (small : IsAscii bytes) : ofText (ascii bytes) = bytes := by
  rw [ascii, ofText_ofList]
  induction bytes with
  | nil => rfl
  | cons byte rest ih =>
      have first : byte.toNat < 128 := small byte (by simp)
      have code := toNat_charOfNat first
      rw [List.map_cons, ofChars_cons, utf8EncodeChar_ascii (by omega), code, UInt8.ofNat_toNat,
        ih fun other member => small other (by simp [member])]
      rfl

theorem ascii_toList (bytes : Bytes) :
    (ascii bytes).toList = bytes.map fun byte => Char.ofNat byte.toNat := by
  simp [ascii]

end Jose.Bytes
