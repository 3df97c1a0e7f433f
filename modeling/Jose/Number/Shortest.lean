import Jose.Number.Binary64

/-!
The shortest decimal that reads back as a double. Of the decimals with the fewest digits inside the
interval of reals that round to the number, the nearest is taken; a tie goes to the even digit.
`Binary64.text` writes it: positional notation with a decimal point from `1e-5` up to below `1e16`,
and an exponent with its sign outside that range.
-/

namespace Jose.Binary64

/-- The interval of a positive double on a scale of its own: four units to the significand's last
place, bounds that belong to it when the significand is even. -/
structure Interval where
  low : Nat
  middle : Nat
  high : Nat
  closed : Bool

def interval (number : Binary64) : Interval :=
  let middle := 4 * number.significand
  let narrow := number.significand = 0x10000000000000 ∧ BinaryWidth.double.lowest < number.exponent
  ⟨middle - (if narrow then 1 else 2), middle, middle + 2, number.significand % 2 = 0⟩

structure Decimal where
  digits : Nat
  power : Int
  deriving DecidableEq, Repr

/-- Factors that bring a digit count at `10 ^ power` and a point of the interval to one scale. -/
def commonScale (exponent power : Int) : Nat × Nat :=
  let unit := exponent - 2
  (Nat.pow 10 power.toNat * Nat.pow 2 (-unit).toNat,
    Nat.pow 10 (-power).toNat * Nat.pow 2 unit.toNat)

/-- The decimal at a power of ten that lies in the interval and is nearest to its middle. -/
def nearestAt? (number : Binary64) (power : Int) : Option Decimal :=
  let around := number.interval
  let scale := commonScale number.exponent power
  let middle := around.middle * scale.2
  let floor := middle / scale.1
  let inside (digits : Nat) : Bool :=
    let point := digits * scale.1
    let low := around.low * scale.2
    let high := around.high * scale.2
    if around.closed then low ≤ point && point ≤ high else low < point && point < high
  let below := middle - floor * scale.1
  let above := (floor + 1) * scale.1 - middle
  let floorFirst := below < above || (below == above && floor % 2 == 0)
  let ordered := if floorFirst then [floor, floor + 1] else [floor + 1, floor]
  (ordered.find? fun digits => 0 < digits && inside digits).map fun digits => ⟨digits, power⟩

def floorTen (number : Binary64) : Int :=
  let ratio := number.ratio
  let guess := BinaryWidth.floorLog ratio.1 ratio.2 * 30103 / 100000
  let next := guess + 1
  if Nat.pow 10 next.toNat * ratio.2 ≤ ratio.1 * Nat.pow 10 (-next).toNat then next else guess

def dropZeros : Nat → Decimal → Decimal
  | 0, decimal => decimal
  | rounds + 1, decimal =>
      if decimal.digits % 10 = 0 then dropZeros rounds ⟨decimal.digits / 10, decimal.power + 1⟩
      else decimal

/-- The shortest decimal of a number other than zero; seventeen digits are always enough. -/
def shortest (number : Binary64) : Decimal :=
  let first := number.floorTen
  let found := (List.range 17).findSome? fun places : Nat =>
    number.nearestAt? (first - (places : Int))
  dropZeros 17 (found.getD ⟨number.significand, 0⟩)

def positional (digits : List Char) (point : Int) : List Char :=
  if point ≤ 0 then ['0', '.'] ++ List.replicate (-point).toNat '0' ++ digits
  else if digits.length ≤ point.toNat then
    digits ++ List.replicate (point.toNat - digits.length) '0' ++ ['.', '0']
  else digits.take point.toNat ++ ['.'] ++ digits.drop point.toNat

def scientific (digits : List Char) (exponent : Int) : List Char :=
  let fraction := if digits.length = 1 then [] else '.' :: digits.drop 1
  let sign := if exponent < 0 then '-' else '+'
  digits.take 1 ++ fraction ++ ['e', sign] ++ (toString exponent.natAbs).toList

def magnitude (number : Binary64) : List Char :=
  if number.significand = 0 then ['0', '.', '0']
  else
    let decimal := number.shortest
    let digits := (toString decimal.digits).toList
    let exponent := decimal.power + (digits.length : Int) - 1
    if -5 ≤ exponent ∧ exponent < 16 then positional digits (exponent + 1)
    else scientific digits exponent

def text (number : Binary64) : String :=
  String.ofList ((if number.negative then ['-'] else []) ++ number.magnitude)

end Jose.Binary64
