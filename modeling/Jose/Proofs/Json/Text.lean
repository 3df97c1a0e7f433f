import Jose.Json.Write
import Jose.Proofs.Json.Scan

/-!
Quoted texts. Whatever the characters, what is written between the quotes is scanned back to the
octets of the text, and the first unescaped quote is the closing one.
-/

namespace Jose

theorem Bytes.hexValue?_hexDigit (digit : Nat) (small : digit < 16) :
    ∃ byte, String.utf8EncodeChar (Bytes.hexDigit digit) = [byte] ∧
      Bytes.hexValue? byte = some digit := by
  have all : ∀ digit < 16, String.utf8EncodeChar (Bytes.hexDigit digit) =
      [UInt8.ofNat (Bytes.hexDigit digit).toNat] ∧
        Bytes.hexValue? (UInt8.ofNat (Bytes.hexDigit digit).toNat) = some digit := by decide
  exact ⟨_, all digit small⟩

namespace Scan

def clean (octets : Bytes) : QuotedText := ⟨octets.reverse, none, none⟩

@[simp] theorem clean_settle (octets : Bytes) : (clean octets).settle = clean octets := rfl

@[simp] theorem clean_push (octets more : Bytes) :
    (clean octets).push more = clean (octets ++ more) := by
  simp [clean, QuotedText.push]

def insideText (frames : List Frame) (octets : Bytes) : Scan :=
  ⟨frames, .text .plain (clean octets)⟩

theorem step_plain (frames : List Frame) (octets : Bytes) {byte : UInt8} (noQuote : byte ≠ 34)
    (noBackslash : byte ≠ 92) (noControl : 32 ≤ byte) :
    (insideText frames octets).step byte = insideText frames (octets ++ [byte]) := by
  simp [insideText, step, inText, noQuote, noBackslash, UInt8.not_lt.mpr noControl]

theorem run_plain (frames : List Frame) (octets : Bytes) {bytes : Bytes}
    (plain : ∀ byte ∈ bytes, byte ≠ 34 ∧ byte ≠ 92 ∧ 32 ≤ byte) :
    (insideText frames octets).run bytes = insideText frames (octets ++ bytes) := by
  induction bytes generalizing octets with
  | nil => simp
  | cons byte rest ih =>
      obtain ⟨noQuote, noBackslash, noControl⟩ := plain byte (by simp)
      rw [run_cons, step_plain frames octets noQuote noBackslash noControl,
        ih _ fun other member => plain other (by simp [member])]
      simp

theorem run_escape (frames : List Frame) (octets : Bytes) (letter octet : UInt8)
    (noUnit : letter ≠ 117) (known : QuotedText.escaped? letter = some octet) :
    (insideText frames octets).run [92, letter] = insideText frames (octets ++ [octet]) := by
  have opened : (insideText frames octets).step 92 =
      ⟨frames, .text .escape (clean octets)⟩ := rfl
  rw [run_cons, opened, run_cons, run_nil]
  simp [step, inText, noUnit, known, insideText]

theorem run_unit (frames : List Frame) (octets : Bytes) {code : Nat} (small : code < 32)
    {high low : UInt8} (highDigit : Bytes.hexValue? high = some (code / 16))
    (lowDigit : Bytes.hexValue? low = some (code % 16)) :
    (insideText frames octets).run [92, 117, 48, 48, high, low] =
      insideText frames (octets ++ String.utf8EncodeChar (Char.ofNat code)) := by
  have opened : (insideText frames octets).run [92, 117, 48, 48, high] =
      ⟨frames, .text (.digits [48, 48, high]) (clean octets)⟩ := rfl
  have zero : Bytes.hexValue? 48 = some 0 := by decide
  have number : 0 * 16 + 0 = 0 ∧ 0 * 16 + code / 16 = code / 16 ∧
      code / 16 * 16 + code % 16 = code := by omega
  have noTrailing : QuotedText.isTrailing code = false := by
    simp only [QuotedText.isTrailing, Bool.and_eq_false_iff, decide_eq_false_iff_not]
    omega
  have noLeading : QuotedText.isLeading code = false := by
    simp only [QuotedText.isLeading, Bool.and_eq_false_iff, decide_eq_false_iff_not]
    omega
  have unit : (clean octets).pushUnit code =
      clean (octets ++ String.utf8EncodeChar (Char.ofNat code)) := by
    simp [QuotedText.pushUnit, noTrailing, noLeading, QuotedText.pushCode, clean, QuotedText.push]
  rw [show [92, 117, 48, 48, high, low] = [92, 117, 48, 48, high] ++ [low] from rfl, run_append,
    opened, run_cons, run_nil]
  simp [step, inText, zero, highDigit, lowDigit, number, unit, insideText]

theorem escape_control {char : Char} (control : char.toNat < 32) (noBackspace : char ≠ '\x08')
    (noFeed : char ≠ '\x0c') (noNewline : char ≠ '\n') (noReturn : char ≠ '\r')
    (noTab : char ≠ '\t') :
    Json.escape char = ['\\', 'u', '0', '0', Bytes.hexDigit (char.toNat / 16),
      Bytes.hexDigit (char.toNat % 16)] := by
  have noQuote : char ≠ '"' := by
    rintro rfl
    exact absurd control (by decide)
  have noBackslash : char ≠ '\\' := by
    rintro rfl
    exact absurd control (by decide)
  simp [Json.escape, noQuote, noBackslash, noBackspace, noFeed, noNewline, noReturn, noTab, control]

theorem run_control (frames : List Frame) (octets : Bytes) {char : Char}
    (control : char.toNat < 32) (noBackspace : char ≠ '\x08') (noFeed : char ≠ '\x0c')
    (noNewline : char ≠ '\n') (noReturn : char ≠ '\r') (noTab : char ≠ '\t') :
    (insideText frames octets).run (Bytes.ofChars (Json.escape char)) =
      insideText frames (octets ++ String.utf8EncodeChar char) := by
  obtain ⟨high, highWritten, highDigit⟩ :=
    Bytes.hexValue?_hexDigit (char.toNat / 16) (by omega)
  obtain ⟨low, lowWritten, lowDigit⟩ :=
    Bytes.hexValue?_hexDigit (char.toNat % 16) (by omega)
  have written : Bytes.ofChars (Json.escape char) = [92, 117, 48, 48, high, low] := by
    rw [escape_control control noBackspace noFeed noNewline noReturn noTab]
    simp only [Bytes.ofChars_cons, Bytes.ofChars_nil, highWritten, lowWritten]
    rfl
  rw [written, run_unit frames octets control highDigit lowDigit, Char.ofNat_toNat]

/-- A character that stands for itself has no octet that could end or escape anything. -/
theorem plain_octets {char : Char} (noControl : 32 ≤ char.toNat) (noQuote : char ≠ '"')
    (noBackslash : char ≠ '\\') {byte : UInt8} (member : byte ∈ String.utf8EncodeChar char) :
    byte ≠ 34 ∧ byte ≠ 92 ∧ 32 ≤ byte := by
  have noQuoteCode : char.toNat ≠ 34 := fun same => noQuote (Char.toNat_inj.mp same)
  have noBackslashCode : char.toNat ≠ 92 := fun same => noBackslash (Char.toNat_inj.mp same)
  have bounds : byte.toNat ≠ 34 ∧ byte.toNat ≠ 92 ∧ 32 ≤ byte.toNat := by
    by_cases ascii : char.toNat < 128
    · rw [Bytes.utf8EncodeChar_ascii ascii, List.mem_singleton] at member
      rw [member, UInt8.toNat_ofNat']
      omega
    · have high := Bytes.utf8EncodeChar_high (by omega) member
      omega
  refine ⟨?_, ?_, UInt8.le_iff_toNat_le.mpr bounds.2.2⟩
  · rintro rfl
    exact bounds.1 rfl
  · rintro rfl
    exact bounds.2.1 rfl

theorem run_char (frames : List Frame) (octets : Bytes) (char : Char) :
    (insideText frames octets).run (Bytes.ofChars (Json.escape char)) =
      insideText frames (octets ++ String.utf8EncodeChar char) := by
  by_cases quote : char = '"'
  · subst quote
    exact run_escape frames octets 34 34 (by decide) (by decide)
  by_cases backslash : char = '\\'
  · subst backslash
    exact run_escape frames octets 92 92 (by decide) (by decide)
  by_cases backspace : char = '\x08'
  · subst backspace
    exact run_escape frames octets 98 8 (by decide) (by decide)
  by_cases feed : char = '\x0c'
  · subst feed
    exact run_escape frames octets 102 12 (by decide) (by decide)
  by_cases newline : char = '\n'
  · subst newline
    exact run_escape frames octets 110 10 (by decide) (by decide)
  by_cases carriage : char = '\r'
  · subst carriage
    exact run_escape frames octets 114 13 (by decide) (by decide)
  by_cases tab : char = '\t'
  · subst tab
    exact run_escape frames octets 116 9 (by decide) (by decide)
  by_cases control : char.toNat < 32
  · exact run_control frames octets control backspace feed newline carriage tab
  · have written : Bytes.ofChars (Json.escape char) = String.utf8EncodeChar char := by
      simp [Json.escape, quote, backslash, backspace, feed, newline, carriage, tab, control]
    rw [written]
    exact run_plain frames octets fun byte member =>
      plain_octets (by omega) quote backslash member

theorem run_chars (frames : List Frame) (octets : Bytes) (chars : List Char) :
    (insideText frames octets).run (Bytes.ofChars (chars.flatMap Json.escape)) =
      insideText frames (octets ++ Bytes.ofChars chars) := by
  induction chars generalizing octets with
  | nil => simp
  | cons char rest ih =>
      rw [List.flatMap_cons, Bytes.ofChars_append, run_append, run_char, ih, Bytes.ofChars_cons,
        List.append_assoc]

theorem step_quote (frames : List Frame) (place : Place) :
    Scan.step ⟨frames, .value place⟩ 34 = insideText frames [] := by
  rw [step_opening frames place (by simp [IsOpening, isBlank])]
  rfl

theorem step_closingQuote (frames : List Frame) (text : String) :
    (insideText frames (Bytes.ofText text)).step 34 = complete frames (.text (.ok text)) := by
  have value : (clean (Bytes.ofText text)).value = .ok text := by
    simp [clean, QuotedText.value]
  simp [insideText, step, inText, value]

theorem run_text (frames : List Frame) (place : Place) (text : String) :
    Scan.run ⟨frames, .value place⟩ (Bytes.ofChars (Json.quote text)) =
      complete frames (.text (.ok text)) := by
  have written : Bytes.ofChars (Json.quote text) =
      34 :: (Bytes.ofChars (text.toList.flatMap Json.escape) ++ [34]) := by
    simp only [Json.quote, Bytes.ofChars_append]
    rfl
  rw [written, run_cons, step_quote, run_append, run_chars, List.nil_append, ← Bytes.ofText_eq,
    run_cons, run_nil, step_closingQuote]

end Scan

end Jose
