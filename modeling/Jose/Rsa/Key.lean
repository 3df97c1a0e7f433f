import Jose.Number.Modular

/-!
RSA keys. A key is accepted when its numbers fit together; whether the factors are prime is not
looked into.
-/

namespace Jose.Rsa

structure PublicKey where
  modulus : Nat
  exponent : Nat
  deriving DecidableEq, Repr

structure PrivateKey where
  modulus : Nat
  exponent : Nat
  privateExponent : Nat
  firstFactor : Nat
  secondFactor : Nat
  deriving DecidableEq, Repr

inductive KeyProblem where
  | modulusTooLarge
  | exponentTooLarge
  | exponentTooSmall
  | invalidModulus
  | invalidExponent
  | invalidFactor
  deriving DecidableEq, Repr

namespace KeyProblem

def message : KeyProblem → String
  | modulusTooLarge => "modulus too large"
  | exponentTooLarge => "public exponent too large"
  | exponentTooSmall => "public exponent too small"
  | invalidModulus => "invalid modulus"
  | invalidExponent => "invalid exponent"
  | invalidFactor => "invalid prime value"

end KeyProblem

/-- The longest modulus of a public key on its own, in bits. -/
def longestModulus : Nat := 4096

def greatestExponent : Nat := 0x1ffffffff

def checkPublic (modulus exponent : Nat) : Except KeyProblem Unit :=
  if 0xffffffffffffffff < exponent then .error .exponentTooLarge
  else if modulus ≤ exponent ∨ modulus % 2 = 0 then .error .invalidModulus
  else if exponent % 2 = 0 then .error .invalidExponent
  else if exponent < 2 then .error .exponentTooSmall
  else if greatestExponent < exponent then .error .exponentTooLarge
  else .ok ()

def PublicKey.make (modulus exponent : Nat) : Except KeyProblem PublicKey :=
  if Nat.pow 2 longestModulus ≤ modulus then .error .modulusTooLarge
  else do
    checkPublic modulus exponent
    return ⟨modulus, exponent⟩

/-- The two exponents undo each other modulo a factor less one. -/
def undoes (exponent privateExponent factor : Nat) : Bool :=
  exponent * privateExponent % (factor - 1) == 1

def PrivateKey.make (modulus exponent privateExponent firstFactor secondFactor : Nat) :
    Except KeyProblem PrivateKey := do
  checkPublic modulus exponent
  if firstFactor ≤ 1 ∨ secondFactor ≤ 1 then .error .invalidFactor
  else if firstFactor * secondFactor ≠ modulus then .error .invalidModulus
  else if undoes exponent privateExponent firstFactor ∧
      undoes exponent privateExponent secondFactor then
    .ok ⟨modulus, exponent, privateExponent, firstFactor, secondFactor⟩
  else .error .invalidExponent

def PrivateKey.publicKey (key : PrivateKey) : PublicKey := ⟨key.modulus, key.exponent⟩

def octetLength (modulus : Nat) : Nat := if modulus = 0 then 0 else modulus.log2 / 8 + 1

def PublicKey.apply (key : PublicKey) (message : Nat) : Nat :=
  powMod message key.exponent key.modulus

/-- The message whose image under the public key is `image`. It is computed modulo each factor and
put together, which needs an inverse of one factor modulo the other; without one the modulus itself
is used. -/
def PrivateKey.invert (key : PrivateKey) (image : Nat) : Nat :=
  match inverseMod? key.secondFactor key.firstFactor with
  | none => powMod image key.privateExponent key.modulus
  | some inverse =>
      let first := powMod image (key.privateExponent % (key.firstFactor - 1)) key.firstFactor
      let second := powMod image (key.privateExponent % (key.secondFactor - 1)) key.secondFactor
      let difference := (((first : Int) - second) % key.firstFactor).toNat
      difference * inverse % key.firstFactor * key.secondFactor + second

/-- Inverts and checks the outcome, which fails where a factor is not prime. -/
def PrivateKey.invertChecked? (key : PrivateKey) (image : Nat) : Option Nat :=
  let message := key.invert image
  if key.publicKey.apply message = image then some message else none

end Jose.Rsa
