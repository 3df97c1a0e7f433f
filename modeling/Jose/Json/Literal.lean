import Jose.Json.Basic

/-!
Number literals. `Literal.advance` follows the grammar of a JSON number one octet at a time, and
`Literal.value?` gives the number: an integer where the literal has neither point nor exponent and
fits, otherwise a double. A double takes the digits that fit 64 bits, rounded once, and scales them
by a power of ten, rounding again.
-/

namespace Jose

structure Literal where
  negative : Bool
  /-- Digits before the point, last one first. -/
  whole : List Nat
  /-- Digits after the point, last one first. -/
  fraction : List Nat
  exponentNegative : Bool
  exponent : List Nat
  deriving DecidableEq, Repr

namespace Literal

inductive Stage where
  | minus
  | zero
  | whole
  | point
  | fraction
  | mark
  | sign
  | exponent
  deriving DecidableEq, Repr

def Stage.complete : Stage → Bool
  | .zero | .whole | .fraction | .exponent => true
  | .minus | .point | .mark | .sign => false

def digit? (byte : UInt8) : Option Nat :=
  if 48 ≤ byte ∧ byte ≤ 57 then some (byte.toNat - 48) else none

def isMark (byte : UInt8) : Bool := byte == 101 || byte == 69

inductive Advance where
  | more (stage : Stage) (literal : Literal)
  | ended
  | refused

def open? (byte : UInt8) : Option (Stage × Literal) :=
  if byte = 45 then some (.minus, ⟨true, [], [], false, []⟩)
  else (digit? byte).map fun digit =>
    (if digit = 0 then .zero else .whole, ⟨false, [digit], [], false, []⟩)

def leaveWhole (literal : Literal) (byte : UInt8) : Advance :=
  if byte = 46 then .more .point literal
  else if isMark byte then .more .mark literal
  else .ended

def addExponent (literal : Literal) (byte : UInt8) (otherwise : Advance) : Advance :=
  match digit? byte with
  | some digit => .more .exponent { literal with exponent := digit :: literal.exponent }
  | none => otherwise

def advance (stage : Stage) (literal : Literal) (byte : UInt8) : Advance :=
  match stage with
  | .minus =>
      match digit? byte with
      | some digit => .more (if digit = 0 then .zero else .whole) { literal with whole := [digit] }
      | none => .refused
  | .zero => if (digit? byte).isSome then .refused else literal.leaveWhole byte
  | .whole =>
      match digit? byte with
      | some digit => .more .whole { literal with whole := digit :: literal.whole }
      | none => literal.leaveWhole byte
  | .point =>
      match digit? byte with
      | some digit => .more .fraction { literal with fraction := [digit] }
      | none => .refused
  | .fraction =>
      match digit? byte with
      | some digit => .more .fraction { literal with fraction := digit :: literal.fraction }
      | none => if isMark byte then .more .mark literal else .ended
  | .mark =>
      if byte = 43 then .more .sign literal
      else if byte = 45 then .more .sign { literal with exponentNegative := true }
      else literal.addExponent byte .refused
  | .sign => literal.addExponent byte .refused
  | .exponent => literal.addExponent byte .ended

/-- Leading digits as a 64-bit number, with the power of ten of the last digit that fitted. -/
structure Digits where
  significand : Nat
  power : Int
  full : Bool

def greatest : Nat := 0xffffffffffffffff

def addWhole (digits : Digits) (digit : Nat) : Digits :=
  let grown := digits.significand * 10 + digit
  if digits.full ∨ greatest < grown then { digits with power := digits.power + 1, full := true }
  else { digits with significand := grown }

def addFraction (digits : Digits) (digit : Nat) : Digits :=
  let grown := digits.significand * 10 + digit
  if digits.full ∨ greatest < grown then { digits with full := true }
  else { digits with significand := grown, power := digits.power - 1 }

def wholeDigits (literal : Literal) : Digits := literal.whole.reverse.foldl addWhole ⟨0, 0, false⟩

def decimalDigits (literal : Literal) : Digits :=
  literal.fraction.reverse.foldl addFraction { literal.wholeDigits with full := false }

def exponentSize (literal : Literal) : Nat :=
  literal.exponent.reverse.foldl (fun value digit => value * 10 + digit) 0

def exponentLimit : Nat := 0x7fffffff

def powerOfTen (power : Nat) : Binary64 := (Binary64.ofNat? (Nat.pow 10 power)).getD Binary64.zero

/-- Division by a power of ten beyond the largest one, 308 places at a time. -/
def shrink : (rounds : Nat) → Binary64 → (places : Nat) → Option Binary64
  | 0, number, places => number.div? (powerOfTen places)
  | rounds + 1, number, places =>
      if number.significand = 0 then some number
      else do
        let smaller ← number.div? (powerOfTen 308)
        shrink rounds smaller (places - 308)

def scale? (significand : Nat) (power : Int) : Option Binary64 := do
  let number ← Binary64.ofNat? significand
  if power < 0 then shrink ((power.natAbs - 1) / 308) number power.natAbs
  else if power ≤ 308 then number.mul? (powerOfTen power.toNat)
  else if number.significand = 0 then some number
  else none

def magnitude? (literal : Literal) : Option Binary64 :=
  let digits := literal.decimalDigits
  let size := literal.exponentSize
  if exponentLimit < size then
    if digits.significand ≠ 0 ∧ !literal.exponentNegative then none else some Binary64.zero
  else scale? digits.significand
    (digits.power + if literal.exponentNegative then -(size : Int) else size)

def real? (literal : Literal) : Option Number :=
  literal.magnitude?.map fun size => .real { size with negative := literal.negative }

/-- The number a complete literal stands for; none beyond the largest double. -/
def value? (literal : Literal) : Option Number :=
  let digits := literal.wholeDigits
  if literal.fraction ≠ [] ∨ literal.exponent ≠ [] ∨ digits.full then literal.real?
  else if !literal.negative then some (.int digits.significand)
  else if digits.significand ≠ 0 ∧ digits.significand ≤ 0x8000000000000000 then
    some (.int (-(digits.significand : Int)))
  else literal.real?

end Literal

end Jose
