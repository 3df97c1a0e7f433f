import Jose.Proofs.Answer
import Jose.Proofs.Base64

/-!
Every octet string has one spelling. A text is read as octets exactly if it is what is written for
them: letters of the alphabet in groups of four, and two or three letters at the end whose unused
bits are zero.
-/

namespace Jose

namespace Base64

def letters : List Char :=
  ['A', 'B', 'C', 'D', 'E', 'F', 'G', 'H', 'I', 'J', 'K', 'L', 'M', 'N', 'O', 'P', 'Q', 'R', 'S',
    'T', 'U', 'V', 'W', 'X', 'Y', 'Z', 'a', 'b', 'c', 'd', 'e', 'f', 'g', 'h', 'i', 'j', 'k', 'l',
    'm', 'n', 'o', 'p', 'q', 'r', 's', 't', 'u', 'v', 'w', 'x', 'y', 'z', '0', '1', '2', '3', '4',
    '5', '6', '7', '8', '9', '-', '_']

inductive IsSpelling : List Char → Prop
  | empty : IsSpelling []
  | two {first second : Char} : first ∈ letters → second ∈ letters →
      letters.idxOf second % 16 = 0 → IsSpelling [first, second]
  | three {first second third : Char} : first ∈ letters → second ∈ letters → third ∈ letters →
      letters.idxOf third % 4 = 0 → IsSpelling [first, second, third]
  | group {first second third fourth : Char} {rest : List Char} : first ∈ letters →
      second ∈ letters → third ∈ letters → fourth ∈ letters → IsSpelling rest →
      IsSpelling (first :: second :: third :: fourth :: rest)

namespace IsSpelling

variable {text : List Char}

theorem mem_letters (spelled : IsSpelling text) : ∀ char ∈ text, char ∈ letters := by
  induction spelled with
  | empty => simp
  | two first second _ => simp [first, second]
  | three first second third _ => simp [first, second, third]
  | group first second third fourth _ ih => simpa [first, second, third, fourth] using ih

theorem length_mod (spelled : IsSpelling text) : text.length % 4 ≠ 1 := by
  induction spelled with
  | empty => simp
  | two => simp
  | three => simp
  | group _ _ _ _ _ ih =>
      simp only [List.length_cons]
      omega

end IsSpelling

section Letters

def letter (value : Nat) : Char := Char.ofNat (symbol urlSafe value).toNat

theorem letter_mem {value : Nat} (small : value < 64) :
    letter value ∈ letters ∧ letters.idxOf (letter value) = value := by
  have all : ∀ value < 64, letter value ∈ letters ∧ letters.idxOf (letter value) = value := by
    decide
  exact all value small

theorem exists_letter {char : Char} (known : char ∈ letters) :
    ∃ value, value < 64 ∧ letter value = char ∧ letters.idxOf char = value := by
  have all : letters = (List.range 64).map letter := by decide
  obtain ⟨value, inside, rfl⟩ := List.mem_map.mp (all ▸ known)
  have small := List.mem_range.mp inside
  exact ⟨value, small, rfl, (letter_mem small).2⟩

theorem encodeUrl_toList (octets : Bytes) :
    (encodeUrl octets).toList = (encode urlSafe octets).map fun byte => Char.ofNat byte.toNat :=
  Bytes.ascii_toList _

theorem isSpelling_encodeUrl (octets : Bytes) : IsSpelling (encodeUrl octets).toList := by
  have known {value : Nat} (small : value < 64) : letter value ∈ letters := (letter_mem small).1
  rw [encodeUrl_toList]
  fun_induction encode with
  | case1 first second third rest bits ih =>
      have firstBound := first.toNat_lt
      have secondBound := second.toNat_lt
      have thirdBound := third.toNat_lt
      exact .group (known (by omega)) (known (by omega)) (known (by omega)) (known (by omega)) ih
  | case2 first second bits =>
      have firstBound := first.toNat_lt
      have secondBound := second.toNat_lt
      have last : bits % 16 * 4 < 64 := by omega
      refine .three (known (by omega)) (known (by omega)) (known last) ?_
      have place : letters.idxOf (letter (bits % 16 * 4)) = bits % 16 * 4 := (letter_mem last).2
      exact (congrArg (· % 4) place).trans (Nat.mul_mod_left _ _)
  | case3 first =>
      have firstBound := first.toNat_lt
      have last : first.toNat % 4 * 16 < 64 := by omega
      refine .two (known (by omega)) (known last) ?_
      have place : letters.idxOf (letter (first.toNat % 4 * 16)) = first.toNat % 4 * 16 :=
        (letter_mem last).2
      exact (congrArg (· % 16) place).trans (Nat.mul_mod_left _ _)
  | case4 => exact .empty

end Letters

section Groups

theorem toNat_octet {value : Nat} (small : value < 256) : (octet value).toNat = value :=
  UInt8.toNat_ofNat_of_lt' small

/-- Values of six bits make octets, and the octets are written as these values. -/
theorem encode_group {one two three four : Nat} (oneSmall : one < 64) (twoSmall : two < 64)
    (threeSmall : three < 64) (fourSmall : four < 64) (octets : Bytes) :
    encode urlSafe (octet (one * 4 + two / 16) :: octet (two % 16 * 16 + three / 4) ::
        octet (three % 4 * 64 + four) :: octets) =
      symbol urlSafe one :: symbol urlSafe two :: symbol urlSafe three :: symbol urlSafe four ::
        encode urlSafe octets := by
  have first : (octet (one * 4 + two / 16)).toNat = one * 4 + two / 16 :=
    toNat_octet (by omega)
  have second : (octet (two % 16 * 16 + three / 4)).toNat = two % 16 * 16 + three / 4 :=
    toNat_octet (by omega)
  have third : (octet (three % 4 * 64 + four)).toNat = three % 4 * 64 + four :=
    toNat_octet (by omega)
  simp only [encode, first, second, third]
  congr <;> omega

theorem encode_three {one two three : Nat} (oneSmall : one < 64) (twoSmall : two < 64)
    (threeSmall : three < 64) (filled : three % 4 = 0) :
    encode urlSafe [octet (one * 4 + two / 16), octet (two % 16 * 16 + three / 4)] =
      [symbol urlSafe one, symbol urlSafe two, symbol urlSafe three] := by
  have first : (octet (one * 4 + two / 16)).toNat = one * 4 + two / 16 :=
    toNat_octet (by omega)
  have second : (octet (two % 16 * 16 + three / 4)).toNat = two % 16 * 16 + three / 4 :=
    toNat_octet (by omega)
  simp only [encode, first, second]
  congr <;> omega

theorem encode_two {one two : Nat} (oneSmall : one < 64) (twoSmall : two < 64)
    (filled : two % 16 = 0) :
    encode urlSafe [octet (one * 4 + two / 16)] = [symbol urlSafe one, symbol urlSafe two] := by
  have first : (octet (one * 4 + two / 16)).toNat = one * 4 + two / 16 :=
    toNat_octet (by omega)
  simp only [encode, first]
  congr <;> omega

end Groups

/-- Whatever is spelled can be written. -/
theorem IsSpelling.exists_octets {text : List Char} (spelled : IsSpelling text) :
    ∃ octets, (encodeUrl octets).toList = text := by
  simp only [encodeUrl_toList]
  induction spelled with
  | empty => exact ⟨[], rfl⟩
  | two first second filled =>
      obtain ⟨one, oneSmall, rfl, _⟩ := exists_letter first
      obtain ⟨two, twoSmall, rfl, place⟩ := exists_letter second
      rw [place] at filled
      exact ⟨_, by rw [encode_two oneSmall twoSmall filled]; rfl⟩
  | three first second third filled =>
      obtain ⟨one, oneSmall, rfl, _⟩ := exists_letter first
      obtain ⟨two, twoSmall, rfl, _⟩ := exists_letter second
      obtain ⟨three, threeSmall, rfl, place⟩ := exists_letter third
      rw [place] at filled
      exact ⟨_, by rw [encode_three oneSmall twoSmall threeSmall filled]; rfl⟩
  | group first second third fourth _ ih =>
      obtain ⟨one, oneSmall, rfl, _⟩ := exists_letter first
      obtain ⟨two, twoSmall, rfl, _⟩ := exists_letter second
      obtain ⟨three, threeSmall, rfl, _⟩ := exists_letter third
      obtain ⟨four, fourSmall, rfl, _⟩ := exists_letter fourth
      obtain ⟨octets, rfl⟩ := ih
      exact ⟨_, by rw [encode_group oneSmall twoSmall threeSmall fourSmall octets]; rfl⟩

section Decoded

theorem value?_eq_some {byte : UInt8} {value : Nat} (found : value? urlSafe byte = some value) :
    value < 64 ∧ symbol urlSafe value = byte := by
  have all : ∀ code < 256, ∀ value ∈ value? urlSafe (UInt8.ofNat code),
      value < 64 ∧ symbol urlSafe value = UInt8.ofNat code := by decide +kernel
  have checked := all byte.toNat byte.toNat_lt value
  rw [UInt8.ofNat_toNat] at checked
  exact checked found

theorem valueAt_eq_ok {byte : UInt8} {offset value : Nat}
    (read : valueAt urlSafe byte offset = .ok value) :
    value < 64 ∧ symbol urlSafe value = byte := by
  rw [valueAt] at read
  split at read
  · next found =>
      injection read with same
      exact value?_eq_some (same ▸ found)
  · contradiction

/-- After padding only padding is collected. -/
theorem collect_padded {bytes : Bytes} {start index offset : Nat} {values : List Nat} {last : UInt8}
    {collected : Group}
    (collects : collect urlSafe start index ⟨values, last, some offset⟩ bytes = .ok collected) :
    collected.padded.isSome ∧ collected.values = values := by
  induction bytes generalizing index with
  | nil =>
      injection collects with same
      exact same ▸ ⟨rfl, rfl⟩
  | cons byte rest ih =>
      rw [collect] at collects
      split at collects
      · split at collects
        · contradiction
        · exact ih collects
      · contradiction

/-- A last group is made of its symbols, unless there is padding in it. -/
theorem collect_eq_ok {bytes : Bytes} {start index : Nat} {group collected : Group}
    (unpadded : group.padded = none)
    (collects : collect urlSafe start index group bytes = .ok collected) :
    (collected.padded = none ∧ ∃ values, (∀ value ∈ values, value < 64) ∧
        collected.values = group.values ++ values ∧ bytes = values.map (symbol urlSafe)) ∨
      (collected.padded.isSome ∧
        collected.values.length < group.values.length + bytes.length) := by
  induction bytes generalizing index group with
  | nil =>
      injection collects with same
      exact .inl (same ▸ ⟨unpadded, [], by simp⟩)
  | cons byte rest ih =>
      rw [collect, unpadded] at collects
      split at collects
      · split at collects
        · contradiction
        · obtain ⟨padded, same⟩ := collect_padded collects
          exact .inr ⟨padded, by simp [same]⟩
      · cases read : valueAt urlSafe byte (start + index) with
        | error fault =>
            rw [read] at collects
            contradiction
        | ok value =>
            rw [read] at collects
            obtain ⟨small, rfl⟩ := valueAt_eq_ok read
            rcases ih rfl collects with ⟨unpadded, values, bounds, same, rfl⟩ | ⟨padded, shorter⟩
            · refine .inl ⟨unpadded, value :: values, ?_, by simp [same], rfl⟩
              exact List.forall_mem_cons.mpr ⟨small, bounds⟩
            · refine .inr ⟨padded, ?_⟩
              simp only [List.length_append, List.length_cons, List.length_nil] at shorter ⊢
              omega

/-- The last group, of at most four octets, is what is written for its octets. -/
theorem encode_of_finish {bytes octets : Bytes} {start : Nat} {collected : Group}
    (short : bytes.length ≤ 4) (some : bytes ≠ [])
    (collects : collect urlSafe start 0 ⟨[], 0, none⟩ bytes = .ok collected)
    (finished : finish start collected = .ok octets) : encode urlSafe octets = bytes := by
  rcases collect_eq_ok rfl collects with ⟨unpadded, values, bounds, same, rfl⟩ | ⟨padded, shorter⟩
  · rw [List.length_map] at short
    replace same : collected.values = values := same
    rcases values with _ | ⟨one, _ | ⟨two, _ | ⟨three, _ | ⟨four, _ | ⟨_, _⟩⟩⟩⟩⟩
    · exact absurd rfl some
    · simp [finish, same] at finished
    · obtain ⟨oneSmall, twoSmall⟩ : one < 64 ∧ two < 64 := by simpa using bounds
      by_cases filled : two % 16 = 0
      · simp only [finish, same, unpadded, filled] at finished
        injection finished with same
        rw [← same, encode_two oneSmall twoSmall filled]
        rfl
      · simp [finish, same, unpadded, filled] at finished
    · obtain ⟨oneSmall, twoSmall, threeSmall⟩ : one < 64 ∧ two < 64 ∧ three < 64 := by
        simpa using bounds
      by_cases filled : three % 4 = 0
      · simp only [finish, same, unpadded, filled] at finished
        injection finished with same
        rw [← same, encode_three oneSmall twoSmall threeSmall filled]
        rfl
      · simp [finish, same, unpadded, filled] at finished
    · obtain ⟨oneSmall, twoSmall, threeSmall, fourSmall⟩ :
          one < 64 ∧ two < 64 ∧ three < 64 ∧ four < 64 := by simpa using bounds
      simp only [finish, same] at finished
      injection finished with same
      rw [← same, encode_group oneSmall twoSmall threeSmall fourSmall]
      rfl
    · simp only [List.length_cons] at short
      omega
  · replace shorter : collected.values.length < bytes.length := by simpa using shorter
    rcases values : collected.values with _ | ⟨_, _ | ⟨_, _ | ⟨_, _ | ⟨_, _⟩⟩⟩⟩
    · simp [finish, values] at finished
    · simp [finish, values] at finished
    · simp [finish, padded, values] at finished
    · simp [finish, padded, values] at finished
    · rw [values] at shorter
      simp only [List.length_cons] at shorter
      omega

theorem encode_of_decodeFrom {bytes octets : Bytes} {start : Nat} (some : bytes ≠ [])
    (decoded : decodeFrom urlSafe start bytes = .ok octets) : encode urlSafe octets = bytes := by
  fun_induction decodeFrom generalizing octets with
  | case1 start first second third fourth next rest ih =>
      simp only [bind_eq_ok_iff] at decoded
      obtain ⟨one, oneRead, two, twoRead, three, threeRead, four, fourRead, later, decodedLater,
        same⟩ := decoded
      obtain ⟨oneSmall, rfl⟩ := valueAt_eq_ok oneRead
      obtain ⟨twoSmall, rfl⟩ := valueAt_eq_ok twoRead
      obtain ⟨threeSmall, rfl⟩ := valueAt_eq_ok threeRead
      obtain ⟨fourSmall, rfl⟩ := valueAt_eq_ok fourRead
      injection same with same
      rw [← same, encode_group oneSmall twoSmall threeSmall fourSmall,
        ih (List.cons_ne_nil _ _) decodedLater]
  | case2 start bytes shorter =>
      obtain ⟨collected, collects, finished⟩ := bind_eq_ok_iff.mp decoded
      refine encode_of_finish ?_ some collects finished
      rcases bytes with _ | ⟨one, _ | ⟨two, _ | ⟨three, _ | ⟨four, _ | ⟨five, rest⟩⟩⟩⟩⟩
      · simp
      · simp
      · simp
      · simp
      · simp
      · exact absurd rfl (shorter one two three four five rest)

theorem encode_of_decode {bytes octets : Bytes} (decoded : decode urlSafe bytes = .ok octets) :
    encode urlSafe octets = bytes := by
  rw [decode] at decoded
  split at decoded
  · contradiction
  · split at decoded
    · next empty =>
        injection decoded with same
        rw [← same, List.isEmpty_iff.mp empty, encode]
    · next filled => exact encode_of_decodeFrom (by simpa using filled) decoded

end Decoded

/-- A text is read as octets exactly if it is what is written for them. -/
theorem decodeUrl_eq_ok_iff {text : String} {octets : Bytes} :
    decodeUrl text = .ok octets ↔ encodeUrl octets = text := by
  constructor
  · intro decoded
    have written : Bytes.ofText (encodeUrl octets) = Bytes.ofText text := by
      rw [encodeUrl, Bytes.ofText_ascii (encode_isAscii octets)]
      exact encode_of_decode decoded
    have same := congrArg Bytes.text? written
    rwa [Bytes.text?_ofText, Bytes.text?_ofText, Option.some.injEq] at same
  · rintro rfl
    exact decodeUrl_encodeUrl octets

end Base64

end Jose
