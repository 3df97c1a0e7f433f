import Jose.Cipher.Aes

/-!
Authenticated encryption with AES in Galois counter mode. The plaintext is combined with a key
stream; a tag over associated data and ciphertext lets the receiver notice any change.
-/

namespace Jose.Gcm

def tagLength : Nat := 16

def nonceLength : Nat := 12

def reduction : Nat := 0xe1000000000000000000000000000000

def multiply (left right : Nat) : Nat :=
  ((List.range 128).foldl
    (fun (product, shifted) index =>
      let product := if left.testBit (127 - index) then product ^^^ shifted else product
      let half := shifted / 2
      (product, if shifted % 2 = 1 then half ^^^ reduction else half))
    (0, right)).1

def fill (bytes : Bytes) : Bytes :=
  bytes ++ List.replicate ((16 - bytes.length % 16) % 16) 0

def lengths (associated ciphertext : Bytes) : Bytes :=
  Bytes.ofNatWide 8 (8 * associated.length) ++ Bytes.ofNatWide 8 (8 * ciphertext.length)

def hash (key : Nat) (associated ciphertext : Bytes) : Nat :=
  let blocks := Bytes.chunks 16
    (fill associated ++ fill ciphertext ++ lengths associated ciphertext)
  blocks.foldl (fun total block => multiply (total ^^^ Bytes.toNat block) key) 0

def counterBlock (nonce : Bytes) (counter : Nat) : Bytes :=
  nonce ++ Bytes.ofNatWide 4 counter

/-- At least `length` octets of key stream; the counter of the first block is two. -/
def keyStream (keys : List Bytes) (nonce : Bytes) (length : Nat) : Bytes :=
  (List.range (length / 16 + 1)).flatMap fun index =>
    Aes.encrypt keys (counterBlock nonce (index + 2))

def combine (keys : List Bytes) (nonce text : Bytes) : Bytes :=
  Bytes.xor text (keyStream keys nonce text.length)

def tag (keys : List Bytes) (nonce associated ciphertext : Bytes) : Bytes :=
  let key := Bytes.toNat (Aes.encrypt keys (List.replicate 16 0))
  Bytes.xor (Bytes.ofNatWide 16 (hash key associated ciphertext))
    (Aes.encrypt keys (counterBlock nonce 1))

/-- The ciphertext, which is as long as the plaintext, and its tag after it. -/
def close (key nonce associated plaintext : Bytes) : Bytes :=
  let keys := Aes.expand key
  let ciphertext := combine keys nonce plaintext
  ciphertext ++ tag keys nonce associated ciphertext

def open? (key nonce associated content : Bytes) : Option Bytes :=
  let keys := Aes.expand key
  let ciphertext := content.take (content.length - tagLength)
  if tagLength ≤ content.length ∧
      tag keys nonce associated ciphertext = content.drop (content.length - tagLength) then
    some (combine keys nonce ciphertext)
  else none

end Jose.Gcm
