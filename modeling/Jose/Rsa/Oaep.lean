import Jose.Hash.Sha2
import Jose.Rsa.Key

/-!
Wrapping a secret under an RSA public key (OAEP with SHA-256 and an empty label), and unwrapping it.
-/

namespace Jose.Rsa

def hashLength : Nat := 32

/-- `count` blocks of the mask that a seed expands to. -/
def maskBlocks (seed : Bytes) (count : Nat) : Bytes :=
  (List.range count).flatMap fun index => Sha2.sha256 (seed ++ Bytes.ofNatWide 4 index)

def mask (seed : Bytes) (length : Nat) : Bytes :=
  (maskBlocks seed ((length + hashLength - 1) / hashLength)).take length

def emptyLabel : Bytes := Sha2.sha256 []

def wrapBlock (length : Nat) (seed secret : Bytes) : Bytes :=
  let filler := List.replicate (length - secret.length - 2 * hashLength - 2) 0
  let data := emptyLabel ++ filler ++ [1] ++ secret
  let maskedData := Bytes.xor data (mask seed data.length)
  let maskedSeed := Bytes.xor seed (mask maskedData hashLength)
  [0] ++ maskedSeed ++ maskedData

/-- Wraps a secret with a seed of 32 octets; none where the modulus is too short. -/
def PublicKey.wrap? (key : PublicKey) (seed secret : Bytes) : Option Bytes :=
  let length := octetLength key.modulus
  if length < secret.length + 2 * hashLength + 2 then none
  else some (Bytes.ofNatWide length (key.apply (Bytes.toNat (wrapBlock length seed secret))))

def unwrapBlock? (block : Bytes) : Option Bytes :=
  let maskedSeed := (block.drop 1).take hashLength
  let maskedData := block.drop (1 + hashLength)
  let seed := Bytes.xor maskedSeed (mask maskedData hashLength)
  let data := Bytes.xor maskedData (mask seed maskedData.length)
  let tail := (data.drop hashLength).dropWhile (· = 0)
  if block.head? = some 0 ∧ data.take hashLength = emptyLabel ∧ tail.head? = some 1 then
    some (tail.drop 1)
  else none

def PrivateKey.unwrap? (key : PrivateKey) (wrapped : Bytes) : Option Bytes :=
  let length := octetLength key.modulus
  if wrapped.length ≠ length ∨ length < 2 * hashLength + 2 ∨ key.modulus ≤ Bytes.toNat wrapped then
    none
  else unwrapBlock? (Bytes.ofNatWide length (key.invert (Bytes.toNat wrapped)))

end Jose.Rsa
