import Jose.Hash.Sha2
import Jose.P256.Curve

/-!
Signatures on the curve with a number drawn from the key and the digest, so that signing the same
message twice gives the same signature.
-/

namespace Jose.P256

structure Drawing where
  key : Bytes
  value : Bytes

namespace Drawing

def mac (key message : Bytes) : Bytes := Hash.sha256.hmac key message

def mix (drawing : Drawing) (mark : UInt8) (octets : Bytes) : Drawing :=
  let key := mac drawing.key (drawing.value ++ [mark] ++ octets)
  ⟨key, mac key drawing.value⟩

def start (scalar digest : Nat) : Drawing :=
  let seed := Bytes.ofNatWide 32 scalar ++ Bytes.ofNatWide 32 (digest % order)
  let blank : Drawing := ⟨List.replicate 32 0, List.replicate 32 1⟩
  (blank.mix 0 seed).mix 1 seed

def next (drawing : Drawing) : Drawing := { drawing with value := mac drawing.key drawing.value }

end Drawing

def signWith? (scalar digest drawn : Nat) : Option Bytes := do
  let point ← (times drawn base).point?
  let inverse ← inverseMod? drawn order
  let first := point.x % order
  let second := inverse * (digest + first * scalar) % order
  if first = 0 ∨ second = 0 then none
  else return Bytes.ofNatWide 32 first ++ Bytes.ofNatWide 32 second

def signDrawn? (scalar digest : Nat) : (rounds : Nat) → Drawing → Option Bytes
  | 0, _ => none
  | rounds + 1, drawing =>
      let drawn := drawing.next
      let number := Bytes.toNat drawn.value
      let signature :=
        if 0 < number ∧ number < order then signWith? scalar digest number else none
      match signature with
      | some octets => some octets
      | none => signDrawn? scalar digest rounds (drawn.mix 0 [])

/-- The two halves of the signature, 32 octets each. A draw fails about once in `2 ^ 32` times, so
a hundred rounds never run out. -/
def sign? (scalar : Nat) (message : Bytes) : Option Bytes :=
  let digest := Bytes.toNat (Sha2.sha256 message)
  signDrawn? scalar digest 100 (.start scalar digest)

end Jose.P256
