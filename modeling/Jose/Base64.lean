import Jose.Bytes

/-!
Base64 without padding. Three octets are four symbols; one or two octets left over are two or three
symbols whose unused bits are zero. `decode` accepts exactly the written forms and says where any
other text departs from them.
-/

namespace Jose.Base64

/-- The last two symbols; the others are the same in every alphabet. -/
structure Alphabet where
  sixtyTwo : UInt8
  sixtyThree : UInt8

/-- Minus and underscore, safe in addresses and file names. -/
def urlSafe : Alphabet := ⟨45, 95⟩

/-- Plus and slash. -/
def classic : Alphabet := ⟨43, 47⟩

def padding : UInt8 := 61

def symbol (alphabet : Alphabet) (value : Nat) : UInt8 :=
  if value < 26 then UInt8.ofNat (65 + value)
  else if value < 52 then UInt8.ofNat (71 + value)
  else if value < 62 then UInt8.ofNat (value - 4)
  else if value = 62 then alphabet.sixtyTwo
  else alphabet.sixtyThree

def value? (alphabet : Alphabet) (byte : UInt8) : Option Nat :=
  if 65 ≤ byte ∧ byte ≤ 90 then some (byte.toNat - 65)
  else if 97 ≤ byte ∧ byte ≤ 122 then some (byte.toNat - 71)
  else if 48 ≤ byte ∧ byte ≤ 57 then some (byte.toNat + 4)
  else if byte = alphabet.sixtyTwo then some 62
  else if byte = alphabet.sixtyThree then some 63
  else none

def encode (alphabet : Alphabet) : Bytes → Bytes
  | first :: second :: third :: rest =>
      let bits := first.toNat * 65536 + second.toNat * 256 + third.toNat
      symbol alphabet (bits / 262144) :: symbol alphabet (bits / 4096 % 64) ::
        symbol alphabet (bits / 64 % 64) :: symbol alphabet (bits % 64) :: encode alphabet rest
  | [first, second] =>
      let bits := first.toNat * 256 + second.toNat
      [symbol alphabet (bits / 1024), symbol alphabet (bits / 16 % 64),
        symbol alphabet (bits % 16 * 4)]
  | [first] => [symbol alphabet (first.toNat / 4), symbol alphabet (first.toNat % 4 * 16)]
  | [] => []

inductive Fault where
  | symbol (byte : UInt8) (offset : Nat)
  | length (total : Nat)
  | lastSymbol (byte : UInt8) (offset : Nat)
  | padding
  deriving DecidableEq, Repr

def Fault.message : Fault → String
  | symbol byte offset =>
      "Invalid symbol " ++ toString byte.toNat ++ ", offset " ++ toString offset ++ "."
  | length total => "Invalid input length: " ++ toString total
  | lastSymbol byte offset =>
      "Invalid last symbol " ++ toString byte.toNat ++ ", offset " ++ toString offset ++ "."
  | padding => "Invalid padding"

def valueAt (alphabet : Alphabet) (byte : UInt8) (offset : Nat) : Except Fault Nat :=
  match value? alphabet byte with
  | some value => .ok value
  | none => .error (.symbol byte offset)

structure Group where
  values : List Nat
  last : UInt8
  padded : Option Nat

/-- Collects the last group. Padding may stand after two symbols, and only padding after it. -/
def collect (alphabet : Alphabet) (start index : Nat) (group : Group) :
    Bytes → Except Fault Group
  | [] => .ok group
  | byte :: rest =>
      if byte = padding then
        if index < 2 then .error (.symbol byte (start + index))
        else collect alphabet start (index + 1)
          { group with padded := group.padded.or (some (start + index)) } rest
      else match group.padded with
        | some offset => .error (.symbol padding offset)
        | none => do
            let value ← valueAt alphabet byte (start + index)
            collect alphabet start (index + 1) ⟨group.values ++ [value], byte, none⟩ rest

def octet (value : Nat) : UInt8 := UInt8.ofNat value

def finish (start : Nat) (group : Group) : Except Fault Bytes :=
  match group.values with
  | [] | [_] => .error (.length (start + group.values.length))
  | [first, second] =>
      if group.padded.isSome then .error .padding
      else if second % 16 ≠ 0 then .error (.lastSymbol group.last (start + 1))
      else .ok [octet (first * 4 + second / 16)]
  | [first, second, third] =>
      if group.padded.isSome then .error .padding
      else if third % 4 ≠ 0 then .error (.lastSymbol group.last (start + 2))
      else .ok [octet (first * 4 + second / 16), octet (second % 16 * 16 + third / 4)]
  | first :: second :: third :: fourth :: _ =>
      .ok [octet (first * 4 + second / 16), octet (second % 16 * 16 + third / 4),
        octet (third % 4 * 64 + fourth)]

def decodeFrom (alphabet : Alphabet) (start : Nat) : Bytes → Except Fault Bytes
  | first :: second :: third :: fourth :: next :: rest => do
      let one ← valueAt alphabet first start
      let two ← valueAt alphabet second (start + 1)
      let three ← valueAt alphabet third (start + 2)
      let four ← valueAt alphabet fourth (start + 3)
      let octets ← decodeFrom alphabet (start + 4) (next :: rest)
      return octet (one * 4 + two / 16) :: octet (two % 16 * 16 + three / 4) ::
        octet (three % 4 * 64 + four) :: octets
  | group => do
      let collected ← collect alphabet start 0 ⟨[], 0, none⟩ group
      finish start collected

/-- A stray last octet, such as a line end, is refused before anything else. -/
def stray? (alphabet : Alphabet) (bytes : Bytes) : Option Fault :=
  if bytes.length % 4 = 1 then
    match bytes.getLast? with
    | some last =>
        if last ≠ padding ∧ (value? alphabet last).isNone then
          some (.symbol last (bytes.length - 1))
        else none
    | none => none
  else none

def decode (alphabet : Alphabet) (bytes : Bytes) : Except Fault Bytes :=
  match stray? alphabet bytes with
  | some fault => .error fault
  | none => if bytes.isEmpty then .ok [] else decodeFrom alphabet 0 bytes

def encodeUrl (bytes : Bytes) : String := Bytes.ascii (encode urlSafe bytes)

def decodeUrl (text : String) : Except Fault Bytes := decode urlSafe (Bytes.ofText text)

/-- Reads whole groups: the missing symbols of the last one are padding. -/
def decodePadded? (alphabet : Alphabet) (bytes : Bytes) : Option Bytes :=
  let symbols := bytes.takeWhile (· ≠ padding)
  let tail := bytes.drop symbols.length
  if bytes.length % 4 = 0 ∧ tail.length ≤ 2 ∧ tail.all (· == padding) then
    (decode alphabet symbols).toOption
  else none

end Jose.Base64
