import Jose.Noise

/-!
Random identifiers: sixteen octets, two of which are marked with version and variant, written as
five groups of hexadecimal digits.
-/

namespace Jose.Uuid

/-- Marks the octets as a random identifier of version 4. -/
def stamp (octets : Bytes) : Bytes :=
  (octets.modify 6 fun octet => octet &&& 0x0f ||| 0x40).modify 8 fun octet =>
    octet &&& 0x3f ||| 0x80

def groups : List Nat → List α → List (List α)
  | [], _ => []
  | length :: lengths, items => items.take length :: groups lengths (items.drop length)

def text (octets : Bytes) : String :=
  "-".intercalate ((groups [4, 2, 2, 2, 6] octets).map Bytes.hex)

def random (noise : Noise) : String := text (stamp (noise.take 16))

def isDigit (char : Char) : Bool :=
  ('0' ≤ char && char ≤ '9') || ('a' ≤ char && char ≤ 'f')

def isRandom (text : String) : Bool :=
  let chars := text.toList
  let parts := groups [8, 1, 4, 1, 4, 1, 4, 1, 12] chars
  chars.length == 36 && chars.getD 14 ' ' == '4' &&
    (parts.zipIdx.all fun (part, index) =>
      if index % 2 = 0 then part.all isDigit else part == ['-'])

end Jose.Uuid
