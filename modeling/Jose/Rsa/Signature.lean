import Jose.Hash.Sha2
import Jose.Rsa.Key

/-!
RSA signatures of the first version of the standard: the digest, marked with its algorithm, is
filled up to the length of the modulus and inverted.
-/

namespace Jose.Rsa

structure DigestKind where
  hash : Hash
  mark : Bytes

namespace DigestKind

/-- The mark of a digest whose algorithm ends in `last` and that has `length` octets. -/
def markOf (last length : UInt8) : Bytes :=
  [0x30, length + 17, 0x30, 0x0d, 0x06, 0x09, 0x60, 0x86, 0x48, 0x01, 0x65, 0x03, 0x04, 0x02, last,
    0x05, 0x00, 0x04, length]

def sha256 : DigestKind := ⟨.sha256, markOf 1 32⟩

def sha384 : DigestKind := ⟨.sha384, markOf 2 48⟩

def sha512 : DigestKind := ⟨.sha512, markOf 3 64⟩

end DigestKind

inductive SignatureProblem where
  | messageTooLong
  | inconsistentKey
  deriving DecidableEq, Repr

def SignatureProblem.message : SignatureProblem → String
  | messageTooLong => "signature error: message too long"
  | inconsistentKey => "signature error: internal error"

/-- The block that is inverted; none where the modulus is too short for it. -/
def signatureBlock? (kind : DigestKind) (length : Nat) (message : Bytes) : Option Bytes :=
  let marked := kind.mark ++ kind.hash.digest message
  if length < marked.length + 11 then none
  else some ([0, 1] ++ List.replicate (length - marked.length - 3) 0xff ++ [0] ++ marked)

def PrivateKey.sign (key : PrivateKey) (kind : DigestKind) (message : Bytes) :
    Except SignatureProblem Bytes :=
  let length := octetLength key.modulus
  match signatureBlock? kind length message with
  | none => .error .messageTooLong
  | some block =>
      match key.invertChecked? (Bytes.toNat block) with
      | none => .error .inconsistentKey
      | some signature => .ok (Bytes.ofNatWide length signature)

end Jose.Rsa
