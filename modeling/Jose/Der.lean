import Jose.Bytes

/-!
Distinguished encoding of structures: a tag, a length in its shortest form, and a content. Only the
forms that key files use are read, and nothing may be left over.
-/

namespace Jose.Der

structure Element where
  tag : UInt8
  content : Bytes
  deriving DecidableEq, Repr

def sequence : UInt8 := 0x30

def integer : UInt8 := 0x02

def bitString : UInt8 := 0x03

def octetString : UInt8 := 0x04

def null : UInt8 := 0x05

def objectId : UInt8 := 0x06

def universalTags : List UInt8 := [0x01, 0x02, 0x03, 0x04, 0x05, 0x06, 0x09, 0x0a, 0x0c, 0x12, 0x13,
  0x14, 0x15, 0x16, 0x17, 0x18, 0x1a, 0x1b, 0x1e, 0x30, 0x31]

def isTag (tag : UInt8) : Bool :=
  if tag < 0x40 then universalTags.contains tag else tag % 32 != 31

def isContext (tag : UInt8) : Bool := tag / 64 == 2

def isConstructed (tag : UInt8) : Bool := tag / 32 % 2 == 1

/-- A length of up to four octets in its shortest form. -/
def length? : Bytes → Option (Nat × Bytes)
  | [] => none
  | first :: rest =>
      if first < 0x80 then some (first.toNat, rest)
      else
        let count := first.toNat - 0x80
        let length := Bytes.toNat (rest.take count)
        let shortest := if count = 1 then 0x80 else Nat.pow 256 (count - 1)
        if 1 ≤ count ∧ count ≤ 4 ∧ count ≤ rest.length ∧ shortest ≤ length then
          some (length, rest.drop count)
        else none

def element? : Bytes → Option (Element × Bytes)
  | [] => none
  | tag :: rest => do
      guard (isTag tag)
      let (length, content) ← length? rest
      guard (length ≤ content.length)
      return (⟨tag, content.take length⟩, content.drop length)

def field? (tag : UInt8) (bytes : Bytes) : Option (Bytes × Bytes) := do
  let (element, rest) ← element? bytes
  guard (element.tag = tag)
  return (element.content, rest)

def whole? (tag : UInt8) (bytes : Bytes) : Option Bytes := do
  let (content, rest) ← field? tag bytes
  guard rest.isEmpty
  return content

/-- A number without a sign, in its shortest form. -/
def natural? : Bytes → Option Nat
  | [] => none
  | [0] => some 0
  | 0 :: next :: rest => if next < 0x80 then none else some (Bytes.toNat (next :: rest))
  | first :: rest => if 0x80 ≤ first then none else some (Bytes.toNat (first :: rest))

def naturalField? (bytes : Bytes) : Option (Nat × Bytes) := do
  let (content, rest) ← field? integer bytes
  let value ← natural? content
  return (value, rest)

def naturalFields? : (count : Nat) → Bytes → Option (List Nat × Bytes)
  | 0, bytes => some ([], bytes)
  | count + 1, bytes => do
      let (value, rest) ← naturalField? bytes
      let (values, rest) ← naturalFields? count rest
      return (value :: values, rest)

def naturals? (count : Nat) (bytes : Bytes) : Option (List Nat) := do
  let content ← whole? sequence bytes
  let (values, rest) ← naturalFields? count content
  guard rest.isEmpty
  return values

def wholeBits? : Bytes → Option Bytes
  | 0 :: octets => some octets
  | _ => none

/-- Passes over elements with lower context numbers; gives the element with the number, if it is
next. -/
def contextField? (number : UInt8) : (fuel : Nat) → Bytes → Option (Option Element × Bytes)
  | 0, bytes => some (none, bytes)
  | _, [] => some (none, [])
  | fuel + 1, tag :: rest => do
      guard (isTag tag)
      if !isContext tag || number < tag % 32 then return (none, tag :: rest)
      else
        let (element, rest) ← element? (tag :: rest)
        if tag % 32 = number then return (some element, rest)
        else contextField? number fuel rest

def explicit? (element : Element) : Option Element := do
  guard (isContext element.tag && isConstructed element.tag)
  let (inner, rest) ← element? element.content
  guard rest.isEmpty
  return inner

/-- Only elements with context tags, each with one element inside. -/
def extensions? : (fuel : Nat) → Bytes → Option Unit
  | _, [] => some ()
  | 0, _ => none
  | fuel + 1, bytes => do
      let (element, rest) ← element? bytes
      let _ ← explicit? element
      extensions? fuel rest

structure Algorithm where
  id : Bytes
  parameters : Option Element
  deriving DecidableEq, Repr

def algorithm? (content : Bytes) : Option Algorithm := do
  let (id, rest) ← field? objectId content
  if rest.isEmpty then return ⟨id, none⟩
  else
    let (parameters, rest) ← element? rest
    guard rest.isEmpty
    return ⟨id, some parameters⟩

def algorithmField? (bytes : Bytes) : Option (Algorithm × Bytes) := do
  let (content, rest) ← field? sequence bytes
  let algorithm ← algorithm? content
  return (algorithm, rest)

def rsaAlgorithm : Algorithm :=
  ⟨[0x2a, 0x86, 0x48, 0x86, 0xf7, 0x0d, 0x01, 0x01, 0x01], some ⟨null, []⟩⟩

def p256Id : Bytes := [0x2a, 0x86, 0x48, 0xce, 0x3d, 0x03, 0x01, 0x07]

def p256Algorithm : Algorithm :=
  ⟨[0x2a, 0x86, 0x48, 0xce, 0x3d, 0x02, 0x01], some ⟨objectId, p256Id⟩⟩

structure KeyInfo where
  algorithm : Algorithm
  key : Bytes
  deriving DecidableEq, Repr

/-- A private key with its algorithm. The second version of the form carries a public key too. -/
def privateKeyInfo? (bytes : Bytes) : Option KeyInfo := do
  let content ← whole? sequence bytes
  let (version, rest) ← naturalField? content
  guard (version ≤ 1)
  let (algorithm, rest) ← algorithmField? rest
  let (key, rest) ← field? octetString rest
  let (publicKey, rest) ← contextField? 1 rest.length rest
  match publicKey with
  | none => guard (version = 0)
  | some element =>
      guard (version = 1 ∧ !isConstructed element.tag)
      let _ ← wholeBits? element.content
  extensions? rest.length rest
  return ⟨algorithm, key⟩

def publicKeyInfo? (bytes : Bytes) : Option KeyInfo := do
  let content ← whole? sequence bytes
  let (algorithm, rest) ← algorithmField? content
  let (bits, rest) ← field? bitString rest
  guard rest.isEmpty
  let key ← wholeBits? bits
  return ⟨algorithm, key⟩

end Jose.Der
