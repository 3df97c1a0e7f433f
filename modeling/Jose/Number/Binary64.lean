/-!
Finite binary floating-point numbers as exact values. A number is a sign, a significand and a power
of two, so every operation is integer arithmetic followed by one rounding to the nearest number, a
tie going to the even significand.
-/

namespace Jose

/-- A width of binary numbers: how many bits the significand has, and which powers of two occur. -/
structure BinaryWidth where
  precision : Nat
  lowest : Int
  highest : Int

namespace BinaryWidth

def double : BinaryWidth := ⟨53, -1074, 971⟩

def single : BinaryWidth := ⟨24, -149, 104⟩

def scaleDown (numerator denominator : Nat) (power : Int) : Nat × Nat :=
  if 0 ≤ power then (numerator, denominator * Nat.pow 2 power.toNat)
  else (numerator * Nat.pow 2 (-power).toNat, denominator)

def floorLog (numerator denominator : Nat) : Int :=
  let guess := (numerator.log2 : Int) - denominator.log2
  let scaled := scaleDown numerator denominator guess
  if scaled.2 ≤ scaled.1 then guess else guess - 1

/-- The nearest integer to a ratio; a tie goes to the even one. -/
def roundRatio (numerator denominator : Nat) : Nat :=
  let quotient := numerator / denominator
  let twice := 2 * (numerator % denominator)
  if denominator < twice ∨ (twice = denominator ∧ quotient % 2 = 1) then quotient + 1 else quotient

/-- The significand and the power of the number nearest to a ratio, unless that is beyond the
largest. -/
def round? (shape : BinaryWidth) (numerator denominator : Nat) : Option (Nat × Int) :=
  if numerator = 0 then some (0, shape.lowest)
  else
    let power := max (floorLog numerator denominator - (shape.precision - 1 : Nat)) shape.lowest
    let scaled := scaleDown numerator denominator power
    let significand := roundRatio scaled.1 scaled.2
    let carried := significand = Nat.pow 2 shape.precision
    let settled := if carried then (significand / 2, power + 1) else (significand, power)
    if shape.highest < settled.2 then none else some settled

end BinaryWidth

/-- `significand * 2 ^ exponent` with a sign. The significand has 53 bits, or fewer at the lowest
exponent; zero has the lowest exponent. -/
structure Binary64 where
  negative : Bool
  significand : Nat
  exponent : Int
  deriving DecidableEq, Repr

namespace Binary64

def zero : Binary64 := ⟨false, 0, BinaryWidth.double.lowest⟩

def negate (number : Binary64) : Binary64 := { number with negative := !number.negative }

def ratio (number : Binary64) : Nat × Nat :=
  if 0 ≤ number.exponent then (number.significand * Nat.pow 2 number.exponent.toNat, 1)
  else (number.significand, Nat.pow 2 (-number.exponent).toNat)

def ofRatio? (negative : Bool) (numerator denominator : Nat) : Option Binary64 :=
  (BinaryWidth.double.round? numerator denominator).map fun settled =>
    ⟨negative, settled.1, settled.2⟩

def ofNat? (value : Nat) : Option Binary64 := ofRatio? false value 1

def mul? (left right : Binary64) : Option Binary64 :=
  ofRatio? (left.negative != right.negative) (left.ratio.1 * right.ratio.1)
    (left.ratio.2 * right.ratio.2)

def div? (left right : Binary64) : Option Binary64 :=
  ofRatio? (left.negative != right.negative) (left.ratio.1 * right.ratio.2)
    (left.ratio.2 * right.ratio.1)

def decimalRatio (digits : Nat) (power : Int) : Nat × Nat :=
  if 0 ≤ power then (digits * Nat.pow 10 power.toNat, 1) else (digits, Nat.pow 10 (-power).toNat)

def ofDecimal? (negative : Bool) (digits : Nat) (power : Int) : Option Binary64 :=
  ofRatio? negative (decimalRatio digits power).1 (decimalRatio digits power).2

/-- The double that holds the single-width number nearest to a decimal. -/
def ofDecimalSingle? (negative : Bool) (digits : Nat) (power : Int) : Option Binary64 := do
  let ratio := decimalRatio digits power
  let narrow ← BinaryWidth.single.round? ratio.1 ratio.2
  let exact := ratioOf narrow
  ofRatio? negative exact.1 exact.2
where
  ratioOf (narrow : Nat × Int) : Nat × Nat :=
    Binary64.ratio ⟨false, narrow.1, narrow.2⟩

end Binary64

end Jose
