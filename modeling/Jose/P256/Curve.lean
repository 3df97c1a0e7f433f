import Jose.Bytes
import Jose.Number.Modular

/-!
The curve P-256, `y ^ 2 = x ^ 3 - 3 * x + b` modulo a prime. Points are computed with in projective
coordinates of Jacobi's kind: `x / z ^ 2` and `y / z ^ 3`, with `z = 0` at infinity.
-/

namespace Jose.P256

def prime : Nat := 0xffffffff00000001000000000000000000000000ffffffffffffffffffffffff

def constant : Nat := 0x5ac635d8aa3a93e7b3ebbd55769886bc651d06b0cc53b0f63bce3c3e27d2604b

def order : Nat := 0xffffffff00000000ffffffffffffffffbce6faada7179e84f3b9cac2fc632551

structure Point where
  x : Nat
  y : Nat
  deriving DecidableEq, Repr

def base : Point where
  x := 0x6b17d1f2e12c4247f8bce6e563a440f277037d812deb33a0f4a13945d898c296
  y := 0x4fe342e2fe1a7f9b8ee7eb4a7c0f9e162bce33576b315ececbb6406837bf51f5

def sub (left right : Nat) : Nat := (left + (prime - right)) % prime

def mul (left right : Nat) : Nat := left * right % prime

structure Projective where
  x : Nat
  y : Nat
  z : Nat
  deriving DecidableEq, Repr

namespace Projective

def infinity : Projective := ⟨1, 1, 0⟩

def ofPoint (point : Point) : Projective := ⟨point.x, point.y, 1⟩

def double (point : Projective) : Projective :=
  let delta := mul point.z point.z
  let gamma := mul point.y point.y
  let beta := mul point.x gamma
  let alpha := mul 3 (mul (sub point.x delta) (point.x + delta))
  let x := sub (mul alpha alpha) (mul 8 beta)
  let sum := (point.y + point.z) % prime
  let z := sub (sub (mul sum sum) gamma) delta
  let y := sub (mul alpha (sub (mul 4 beta) x)) (mul 8 (mul gamma gamma))
  ⟨x, y, z⟩

def add (left right : Projective) : Projective :=
  if left.z = 0 then right
  else if right.z = 0 then left
  else
    let leftSquare := mul left.z left.z
    let rightSquare := mul right.z right.z
    let leftX := mul left.x rightSquare
    let rightX := mul right.x leftSquare
    let leftY := mul left.y (mul right.z rightSquare)
    let rightY := mul right.y (mul left.z leftSquare)
    if leftX = rightX then
      if leftY = rightY then double left else infinity
    else
      let across := sub rightX leftX
      let up := sub rightY leftY
      let square := mul across across
      let cube := mul across square
      let shared := mul leftX square
      let x := sub (sub (mul up up) cube) (mul 2 shared)
      let y := sub (mul up (sub shared x)) (mul leftY cube)
      ⟨x, y, mul across (mul left.z right.z)⟩

def point? (projective : Projective) : Option Point := do
  let inverse ← inverseMod? projective.z prime
  let square := mul inverse inverse
  return ⟨mul projective.x square, mul projective.y (mul square inverse)⟩

end Projective

def times (scalar : Nat) (point : Point) : Projective :=
  (bitsOf scalar).foldl
    (fun total bit =>
      let twice := total.double
      if bit then twice.add (.ofPoint point) else twice)
    .infinity

def publicPoint (scalar : Nat) : Point := ((times scalar base).point?).getD ⟨0, 0⟩

def rightSide (x : Nat) : Nat := (sub (mul x (mul x x)) (mul 3 x) + constant) % prime

def onCurve (point : Point) : Bool :=
  point.x < prime && point.y < prime && mul point.y point.y == rightSide point.x

/-- A point from its first coordinate and whether the second is odd. -/
def decompress? (x : Nat) (odd : Bool) : Option Point :=
  if prime ≤ x then none
  else
    let square := rightSide x
    let root := powMod square ((prime + 1) / 4) prime
    if mul root root ≠ square then none
    else some ⟨x, if (root % 2 == 1) == odd then root else (prime - root) % prime⟩

def Point.encode (point : Point) : Bytes :=
  4 :: Bytes.ofNatWide 32 point.x ++ Bytes.ofNatWide 32 point.y

def Point.compress (point : Point) : Bytes :=
  (if point.y % 2 = 1 then 3 else 2) :: Bytes.ofNatWide 32 point.x

/-- Reads a point from its octets: both coordinates, or the first with a mark of the second. The
mark five stands for the first alone. -/
def Point.decode? : Bytes → Option Point
  | [] => none
  | mark :: rest =>
      if mark = 4 ∧ rest.length = 64 then
        let point := ⟨Bytes.toNat (rest.take 32), Bytes.toNat (rest.drop 32)⟩
        if onCurve point then some point else none
      else if (mark = 2 ∨ mark = 3) ∧ rest.length = 32 then
        decompress? (Bytes.toNat rest) (mark == 3)
      else if mark = 5 ∧ rest.length = 32 then decompress? (Bytes.toNat rest) false
      else none

/-- A private scalar from 24 to 32 octets. -/
def scalar? (bytes : Bytes) : Option Nat :=
  let scalar := Bytes.toNat bytes
  if 24 ≤ bytes.length ∧ bytes.length ≤ 32 ∧ 0 < scalar ∧ scalar < order then some scalar else none

end Jose.P256
