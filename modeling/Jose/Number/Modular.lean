/-!
Arithmetic modulo a number: powers by squaring and inverses by Euclid's algorithm.
-/

namespace Jose

/-- The bits of a number, most significant first. -/
def bitsOf (value : Nat) : List Bool :=
  if value = 0 then []
  else ((List.range (value.log2 + 1)).map value.testBit).reverse

def powMod (base exponent modulus : Nat) : Nat :=
  (bitsOf exponent).foldl
    (fun result bit =>
      let square := result * result % modulus
      if bit then square * base % modulus else square)
    (1 % modulus)

/-- Remainders of Euclid's algorithm with the factor of the second number in each. -/
def euclid (first second : Nat) (factor next : Int) : Nat × Int :=
  if _ended : second = 0 then (first, factor)
  else euclid second (first % second) next (factor - (first / second : Nat) * next)
termination_by second
decreasing_by exact Nat.mod_lt _ (Nat.pos_of_ne_zero ‹_›)

def inverseMod? (value modulus : Nat) : Option Nat :=
  let result := euclid modulus (value % modulus) 0 1
  if result.1 = 1 then some (result.2 % modulus).toNat else none

end Jose
