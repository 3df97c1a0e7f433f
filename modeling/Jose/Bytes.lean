/-!
Octet strings. Key material, signing inputs and segments are lists of octets; this module has their
text, hexadecimal and big-endian views.
-/

namespace Jose

abbrev Bytes := List UInt8

namespace Bytes

def ofText (text : String) : Bytes := text.toUTF8.data.toList

def text? (bytes : Bytes) : Option String := String.fromUTF8? ⟨bytes.toArray⟩

/-- Octets below 128 as the characters they are. -/
def ascii (bytes : Bytes) : String := String.ofList (bytes.map fun byte => Char.ofNat byte.toNat)

def hexDigit (value : Nat) : Char :=
  if value < 10 then Char.ofNat (48 + value) else Char.ofNat (87 + value)

def hex (bytes : Bytes) : String :=
  String.ofList (bytes.flatMap fun byte =>
    [hexDigit (byte.toNat / 16), hexDigit (byte.toNat % 16)])

def hexValue? (byte : UInt8) : Option Nat :=
  if 48 ≤ byte ∧ byte ≤ 57 then some (byte.toNat - 48)
  else if 97 ≤ byte ∧ byte ≤ 102 then some (byte.toNat - 87)
  else if 65 ≤ byte ∧ byte ≤ 70 then some (byte.toNat - 55)
  else none

def ofHexDigits? : Bytes → Option Bytes
  | [] => some []
  | [_] => none
  | high :: low :: rest => do
      let upper ← hexValue? high
      let lower ← hexValue? low
      let octets ← ofHexDigits? rest
      return UInt8.ofNat (upper * 16 + lower) :: octets

def ofHex? (digits : String) : Option Bytes := ofHexDigits? (ofText digits)

/-- The number whose big-endian octets these are; leading zero octets do not matter. -/
def toNat (bytes : Bytes) : Nat := bytes.foldl (fun value byte => value * 256 + byte.toNat) 0

/-- The low `width` octets of a number, most significant first. -/
def ofNatWide : (width : Nat) → (value : Nat) → Bytes
  | 0, _ => []
  | width + 1, value => UInt8.ofNat (value / Nat.pow 256 width) :: ofNatWide width value

def width (value : Nat) : Nat := if value = 0 then 0 else value.log2 / 8 + 1

def ofNat (value : Nat) : Bytes := ofNatWide (width value) value

/-- Pieces of one length; what is left over at the end is dropped. -/
def chunks (length : Nat) (bytes : Bytes) : List Bytes :=
  (List.range (bytes.length / length)).map fun index => (bytes.drop (index * length)).take length

/-- Octet by octet exclusive or; the shorter string decides the length. -/
def xor (left right : Bytes) : Bytes := List.zipWith (· ^^^ ·) left right

end Bytes

end Jose
