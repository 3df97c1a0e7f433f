import Jose.Base64
import Jose.Proofs.Octets

/-!
Base64url texts. Every octet string is read back from what is written for it, and what is written is
made of letters, digits, minus and underscore.
-/

namespace Jose.Base64

theorem value?_symbol {value : Nat} (small : value < 64) :
    value? urlSafe (symbol urlSafe value) = some value := by
  have all : ∀ value < 64, value? urlSafe (symbol urlSafe value) = some value := by decide
  exact all value small

theorem symbol_ne_padding {value : Nat} (small : value < 64) :
    symbol urlSafe value ≠ padding := by
  have all : ∀ value < 64, symbol urlSafe value ≠ padding := by decide
  exact all value small

theorem valueAt_symbol {value : Nat} (small : value < 64) (offset : Nat) :
    valueAt urlSafe (symbol urlSafe value) offset = .ok value := by
  simp [valueAt, value?_symbol small]

theorem octet_eq {value : Nat} {byte : UInt8} (same : value = byte.toNat) : octet value = byte := by
  rw [same, octet, UInt8.ofNat_toNat]

theorem collect_symbol {value : Nat} (small : value < 64) (start index : Nat) (values : List Nat)
    (last : UInt8) (rest : Bytes) :
    collect urlSafe start index ⟨values, last, none⟩ (symbol urlSafe value :: rest) =
      collect urlSafe start (index + 1) ⟨values ++ [value], symbol urlSafe value, none⟩ rest := by
  rw [collect, if_neg (symbol_ne_padding small)]
  simp only [valueAt_symbol small]
  rfl

theorem encode_eq_nil_iff (bytes : Bytes) : encode urlSafe bytes = [] ↔ bytes = [] := by
  fun_cases encode <;> simp_all

/-- Four symbols that are followed by others give three octets. -/
theorem decodeFrom_group {one two three four : Nat} (oneSmall : one < 64) (twoSmall : two < 64)
    (threeSmall : three < 64) (fourSmall : four < 64) (start : Nat) {rest octets : Bytes}
    (more : rest ≠ []) (read : decodeFrom urlSafe (start + 4) rest = .ok octets) :
    decodeFrom urlSafe start (symbol urlSafe one :: symbol urlSafe two :: symbol urlSafe three ::
        symbol urlSafe four :: rest) =
      .ok (octet (one * 4 + two / 16) :: octet (two % 16 * 16 + three / 4) ::
        octet (three % 4 * 64 + four) :: octets) := by
  obtain ⟨next, tail, rfl⟩ := List.exists_cons_of_ne_nil more
  rw [decodeFrom, valueAt_symbol oneSmall, valueAt_symbol twoSmall, valueAt_symbol threeSmall,
    valueAt_symbol fourSmall, read]
  rfl

theorem decodeFrom_encode (bytes : Bytes) (start : Nat) (some : bytes ≠ []) :
    decodeFrom urlSafe start (encode urlSafe bytes) = .ok bytes := by
  fun_induction encode generalizing start with
  | case1 first second third rest bits ih =>
      have firstBound := first.toNat_lt
      have secondBound := second.toNat_lt
      have thirdBound := third.toNat_lt
      have one : octet (bits / 262144 * 4 + bits / 4096 % 64 / 16) = first := octet_eq (by omega)
      have two : octet (bits / 4096 % 64 % 16 * 16 + bits / 64 % 64 / 4) = second :=
        octet_eq (by omega)
      have three : octet (bits / 64 % 64 % 4 * 64 + bits % 64) = third := octet_eq (by omega)
      by_cases last : rest = []
      · subst last
        simp only [encode, decodeFrom, collect_symbol (show bits / 262144 < 64 by omega),
          collect_symbol (show bits / 4096 % 64 < 64 by omega),
          collect_symbol (show bits / 64 % 64 < 64 by omega),
          collect_symbol (show bits % 64 < 64 by omega)]
        simp only [collect, bind, Except.bind, List.nil_append, List.cons_append, finish, one, two,
          three]
      · rw [decodeFrom_group (by omega) (by omega) (by omega) (by omega) start
          (by simpa [encode_eq_nil_iff] using last) (ih (start + 4) last), one, two, three]
  | case2 first second bits =>
      have firstBound := first.toNat_lt
      have secondBound := second.toNat_lt
      simp only [decodeFrom, collect_symbol (show bits / 1024 < 64 by omega),
        collect_symbol (show bits / 16 % 64 < 64 by omega),
        collect_symbol (show bits % 16 * 4 < 64 by omega)]
      simp only [collect, bind, Except.bind, List.nil_append, List.cons_append, finish]
      have filled : bits % 16 * 4 % 4 = 0 := by omega
      have one : octet (bits / 1024 * 4 + bits / 16 % 64 / 16) = first := octet_eq (by omega)
      have two : octet (bits / 16 % 64 % 16 * 16 + bits % 16 * 4 / 4) = second :=
        octet_eq (by omega)
      simp only [filled, ne_eq, not_true_eq_false, if_false, Option.isSome_none, Bool.false_eq_true,
        one, two]
  | case3 first =>
      have firstBound := first.toNat_lt
      simp only [decodeFrom, collect_symbol (show first.toNat / 4 < 64 by omega),
        collect_symbol (show first.toNat % 4 * 16 < 64 by omega)]
      simp only [collect, bind, Except.bind, List.nil_append, List.cons_append, finish]
      have filled : first.toNat % 4 * 16 % 16 = 0 := by omega
      have one : octet (first.toNat / 4 * 4 + first.toNat % 4 * 16 / 16) = first :=
        octet_eq (by omega)
      simp only [filled, ne_eq, not_true_eq_false, if_false, Option.isSome_none, Bool.false_eq_true,
        one]
  | case4 => exact absurd rfl some

theorem encode_length_mod (bytes : Bytes) : (encode urlSafe bytes).length % 4 ≠ 1 := by
  fun_induction encode with
  | case1 first second third rest bits ih =>
      simp only [List.length_cons]
      omega
  | case2 first second bits => simp
  | case3 first => simp
  | case4 => simp

theorem decode_encode (bytes : Bytes) : decode urlSafe (encode urlSafe bytes) = .ok bytes := by
  have unstray : stray? urlSafe (encode urlSafe bytes) = none := by
    simp [stray?, encode_length_mod]
  rw [decode, unstray]
  by_cases empty : bytes = []
  · simp [empty, encode]
  · have filled : (encode urlSafe bytes).isEmpty = false := by
      simpa [encode_eq_nil_iff] using empty
    simpa [filled] using decodeFrom_encode bytes 0 empty

def isSymbol (byte : UInt8) : Bool := (value? urlSafe byte).isSome

theorem encode_symbols (bytes : Bytes) : ∀ byte ∈ encode urlSafe bytes, isSymbol byte = true := by
  have single {value : Nat} (small : value < 64) : isSymbol (symbol urlSafe value) = true := by
    simp [isSymbol, value?_symbol small]
  fun_induction encode with
  | case1 first second third rest bits ih =>
      have firstBound := first.toNat_lt
      have secondBound := second.toNat_lt
      have thirdBound := third.toNat_lt
      intro byte member
      simp only [List.mem_cons] at member
      rcases member with rfl | rfl | rfl | rfl | member
      · exact single (by omega)
      · exact single (by omega)
      · exact single (by omega)
      · exact single (by omega)
      · exact ih byte member
  | case2 first second bits =>
      have firstBound := first.toNat_lt
      have secondBound := second.toNat_lt
      intro byte member
      simp only [List.mem_cons, List.not_mem_nil, or_false] at member
      rcases member with rfl | rfl | rfl
      · exact single (by omega)
      · exact single (by omega)
      · exact single (by omega)
  | case3 first =>
      have firstBound := first.toNat_lt
      intro byte member
      simp only [List.mem_cons, List.not_mem_nil, or_false] at member
      rcases member with rfl | rfl
      · exact single (by omega)
      · exact single (by omega)
  | case4 => simp

theorem isSymbol_bounds {byte : UInt8} (valid : isSymbol byte = true) :
    byte.toNat < 128 ∧ byte ≠ 46 := by
  have all : ∀ value < 256, isSymbol (UInt8.ofNat value) = true →
      (UInt8.ofNat value).toNat < 128 ∧ UInt8.ofNat value ≠ 46 := by decide +kernel
  have checked := all byte.toNat byte.toNat_lt
  rw [UInt8.ofNat_toNat] at checked
  exact checked valid

/-- A text that starts with neither a symbol nor padding is not read. -/
theorem decode_foreign {alphabet : Alphabet} {byte : UInt8} (foreign : value? alphabet byte = none)
    (mark : byte ≠ padding) (rest : Bytes) :
    ∃ fault, decode alphabet (byte :: rest) = .error fault := by
  have refused : ∀ offset, valueAt alphabet byte offset = .error (.symbol byte offset) := by
    intro offset
    simp [valueAt, foreign]
  rw [decode]
  split
  · next fault _ => exact ⟨fault, rfl⟩
  · rw [if_neg (by simp)]
    rcases rest with _ | ⟨second, _ | ⟨third, _ | ⟨fourth, _ | ⟨next, rest⟩⟩⟩⟩ <;>
      simp [decodeFrom, collect, mark, refused, bind, Except.bind]

theorem encode_isAscii (bytes : Bytes) : Bytes.IsAscii (encode urlSafe bytes) :=
  fun byte member => (isSymbol_bounds (encode_symbols bytes byte member)).1

@[simp] theorem decodeUrl_encodeUrl (bytes : Bytes) : decodeUrl (encodeUrl bytes) = .ok bytes := by
  rw [decodeUrl, encodeUrl, Bytes.ofText_ascii (encode_isAscii bytes), decode_encode]

theorem encodeUrl_chars (bytes : Bytes) :
    ∀ char ∈ (encodeUrl bytes).toList, char.toNat < 128 ∧ char ≠ '.' := by
  intro char member
  rw [encodeUrl, Bytes.ascii_toList, List.mem_map] at member
  obtain ⟨byte, inside, rfl⟩ := member
  obtain ⟨small, noDot⟩ := isSymbol_bounds (encode_symbols bytes byte inside)
  have code := Bytes.toNat_charOfNat small
  refine ⟨by omega, ?_⟩
  intro dot
  apply noDot
  have number : byte.toNat = 46 := by
    rw [← code, dot]
    rfl
  exact UInt8.toNat_inj.mp number

theorem encodeUrl_eq_empty_iff (bytes : Bytes) : encodeUrl bytes = "" ↔ bytes = [] := by
  rw [encodeUrl, Bytes.ascii, String.ofList_eq_empty_iff, List.map_eq_nil_iff, encode_eq_nil_iff]

end Jose.Base64
