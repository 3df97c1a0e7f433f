import Jose.Der
import Jose.Proofs.Guarded
import Mathlib.Data.Option.Basic

/-!
Encoded structures read with cuts that must lie within the octets. A length is compared with what is
left before anything is cut off, so that no form reads beyond its octets.
-/

namespace Jose.Der

def lengthGuarded : Bytes → Guarded Unit (Nat × Bytes)
  | [] => .fail ()
  | first :: rest =>
      if first < 0x80 then pure (first.toNat, rest)
      else do
        let count ← Guarded.sub first.toNat 0x80
        if count < 1 ∨ 4 < count ∨ rest.length < count then .fail ()
        else do
          let (digits, later) ← Guarded.cut rest count
          let shortest := if count = 1 then 0x80 else Nat.pow 256 (count - 1)
          if shortest ≤ Bytes.toNat digits then return (Bytes.toNat digits, later) else .fail ()

def elementGuarded : Bytes → Guarded Unit (Element × Bytes)
  | [] => .fail ()
  | tag :: rest => do
      .ofOption () (guard (isTag tag))
      let (length, content) ← lengthGuarded rest
      if content.length < length then .fail ()
      else do
        let (octets, later) ← Guarded.cut content length
        return (⟨tag, octets⟩, later)

theorem lengthGuarded_eq (bytes : Bytes) : lengthGuarded bytes = .ofOption () (length? bytes) := by
  cases bytes with
  | nil => rfl
  | cons first rest =>
      rw [lengthGuarded, length?]
      by_cases short : first < 0x80
      · rw [if_pos short, if_pos short]
        rfl
      · have long : 0x80 ≤ first.toNat := by
          simp only [UInt8.lt_iff_toNat_lt, UInt8.reduceToNat] at short
          omega
        simp only [if_neg short, Guarded.sub_of_le long, Guarded.ok_bind]
        generalize first.toNat - 0x80 = count
        generalize (if count = 1 then 0x80 else Nat.pow 256 (count - 1)) = shortest
        by_cases outside : count < 1 ∨ 4 < count ∨ rest.length < count
        · rw [if_pos outside, if_neg fun all => by omega]
          rfl
        · have within : count ≤ rest.length := by omega
          rw [if_neg outside, Guarded.cut_of_le within, Guarded.ok_bind]
          by_cases least : shortest ≤ Bytes.toNat (rest.take count)
          · rw [if_pos least, if_pos ⟨by omega, by omega, within, least⟩]
            rfl
          · rw [if_neg least, if_neg fun all => least all.2.2.2]
            rfl

theorem elementGuarded_eq (bytes : Bytes) :
    elementGuarded bytes = .ofOption () (element? bytes) := by
  cases bytes with
  | nil => rfl
  | cons tag rest =>
      refine Guarded.ofOption_bind fun _ => ?_
      rw [lengthGuarded_eq]
      refine Guarded.ofOption_bind_pair fun length content => ?_
      dsimp only
      by_cases short : content.length < length
      · have missing : (guard (length ≤ content.length) : Option Unit) = none :=
          if_neg (by omega)
        rw [missing]
        exact if_pos short
      · have within : length ≤ content.length := by omega
        have admitted : (guard (length ≤ content.length) : Option Unit) = some () := if_pos within
        rw [admitted, if_neg short, Guarded.cut_of_le within]
        rfl

section Fields

def fieldGuarded (tag : UInt8) (bytes : Bytes) : Guarded Unit (Bytes × Bytes) := do
  let (element, rest) ← elementGuarded bytes
  .ofOption () (guard (element.tag = tag))
  return (element.content, rest)

def wholeGuarded (tag : UInt8) (bytes : Bytes) : Guarded Unit Bytes := do
  let (content, rest) ← fieldGuarded tag bytes
  .ofOption () (guard rest.isEmpty)
  return content

def naturalFieldGuarded (bytes : Bytes) : Guarded Unit (Nat × Bytes) := do
  let (content, rest) ← fieldGuarded integer bytes
  let value ← .ofOption () (natural? content)
  return (value, rest)

def naturalFieldsGuarded : (count : Nat) → Bytes → Guarded Unit (List Nat × Bytes)
  | 0, bytes => pure ([], bytes)
  | count + 1, bytes => do
      let (value, rest) ← naturalFieldGuarded bytes
      let (values, rest) ← naturalFieldsGuarded count rest
      return (value :: values, rest)

def naturalsGuarded (count : Nat) (bytes : Bytes) : Guarded Unit (List Nat) := do
  let content ← wholeGuarded sequence bytes
  let (values, rest) ← naturalFieldsGuarded count content
  .ofOption () (guard rest.isEmpty)
  return values

theorem fieldGuarded_eq (tag : UInt8) (bytes : Bytes) :
    fieldGuarded tag bytes = .ofOption () (field? tag bytes) := by
  rw [fieldGuarded, elementGuarded_eq]
  refine Guarded.ofOption_bind_pair fun element rest => ?_
  exact Guarded.ofOption_bind fun _ => rfl

theorem wholeGuarded_eq (tag : UInt8) (bytes : Bytes) :
    wholeGuarded tag bytes = .ofOption () (whole? tag bytes) := by
  rw [wholeGuarded, fieldGuarded_eq]
  refine Guarded.ofOption_bind_pair fun content rest => ?_
  exact Guarded.ofOption_bind fun _ => rfl

theorem naturalFieldGuarded_eq (bytes : Bytes) :
    naturalFieldGuarded bytes = .ofOption () (naturalField? bytes) := by
  rw [naturalFieldGuarded, fieldGuarded_eq]
  refine Guarded.ofOption_bind_pair fun content rest => ?_
  exact Guarded.ofOption_bind fun _ => rfl

theorem naturalFieldsGuarded_eq (count : Nat) (bytes : Bytes) :
    naturalFieldsGuarded count bytes = .ofOption () (naturalFields? count bytes) := by
  induction count generalizing bytes with
  | zero => rfl
  | succ count ih =>
      rw [naturalFieldsGuarded, naturalFieldGuarded_eq]
      refine Guarded.ofOption_bind_pair fun value rest => ?_
      simp only [ih]
      exact Guarded.ofOption_bind_pair fun values rest => rfl

theorem naturalsGuarded_eq (count : Nat) (bytes : Bytes) :
    naturalsGuarded count bytes = .ofOption () (naturals? count bytes) := by
  rw [naturalsGuarded, wholeGuarded_eq]
  refine Guarded.ofOption_bind fun content => ?_
  rw [naturalFieldsGuarded_eq]
  refine Guarded.ofOption_bind_pair fun values rest => ?_
  exact Guarded.ofOption_bind fun _ => rfl

end Fields

section Context

def explicitGuarded (element : Element) : Guarded Unit Element := do
  .ofOption () (guard (isContext element.tag && isConstructed element.tag))
  let (inner, rest) ← elementGuarded element.content
  .ofOption () (guard rest.isEmpty)
  return inner

def contextFieldGuarded (number : UInt8) :
    (fuel : Nat) → Bytes → Guarded Unit (Option Element × Bytes)
  | 0, bytes => pure (none, bytes)
  | _, [] => pure (none, [])
  | fuel + 1, tag :: rest => do
      .ofOption () (guard (isTag tag))
      if !isContext tag || number < tag % 32 then return (none, tag :: rest)
      else
        let (element, rest) ← elementGuarded (tag :: rest)
        if tag % 32 = number then return (some element, rest)
        else contextFieldGuarded number fuel rest

def extensionsGuarded : (fuel : Nat) → Bytes → Guarded Unit Unit
  | _, [] => pure ()
  | 0, _ => .fail ()
  | fuel + 1, bytes => do
      let (element, rest) ← elementGuarded bytes
      let _ ← explicitGuarded element
      extensionsGuarded fuel rest

theorem explicitGuarded_eq (element : Element) :
    explicitGuarded element = .ofOption () (explicit? element) := by
  refine Guarded.ofOption_bind fun _ => ?_
  rw [elementGuarded_eq]
  refine Guarded.ofOption_bind_pair fun inner rest => ?_
  exact Guarded.ofOption_bind fun _ => rfl

theorem contextFieldGuarded_eq (number : UInt8) (fuel : Nat) (bytes : Bytes) :
    contextFieldGuarded number fuel bytes = .ofOption () (contextField? number fuel bytes) := by
  induction fuel generalizing bytes with
  | zero => rfl
  | succ fuel ih =>
      cases bytes with
      | nil => rfl
      | cons tag rest =>
          rw [contextFieldGuarded, elementGuarded_eq]
          refine Guarded.ofOption_bind fun _ => ?_
          split
          · rfl
          · refine Guarded.ofOption_bind_pair fun element rest => ?_
            simp only
            split
            · rfl
            · exact ih rest

theorem extensionsGuarded_eq (fuel : Nat) (bytes : Bytes) :
    extensionsGuarded fuel bytes = .ofOption () (extensions? fuel bytes) := by
  induction fuel generalizing bytes with
  | zero => cases bytes <;> rfl
  | succ fuel ih =>
      cases bytes with
      | nil => rfl
      | cons first others =>
          simp only [extensionsGuarded, elementGuarded_eq, explicitGuarded_eq]
          refine Guarded.ofOption_bind_pair fun element rest => ?_
          exact Guarded.ofOption_bind fun _ => ih rest

end Context

section KeyInfo

def algorithmGuarded (content : Bytes) : Guarded Unit Algorithm := do
  let (id, rest) ← fieldGuarded objectId content
  if rest.isEmpty then return ⟨id, none⟩
  else
    let (parameters, rest) ← elementGuarded rest
    .ofOption () (guard rest.isEmpty)
    return ⟨id, some parameters⟩

def algorithmFieldGuarded (bytes : Bytes) : Guarded Unit (Algorithm × Bytes) := do
  let (content, rest) ← fieldGuarded sequence bytes
  let algorithm ← algorithmGuarded content
  return (algorithm, rest)

def privateKeyInfoGuarded (bytes : Bytes) : Guarded Unit KeyInfo := do
  let content ← wholeGuarded sequence bytes
  let (version, rest) ← naturalFieldGuarded content
  .ofOption () (guard (version ≤ 1))
  let (algorithm, rest) ← algorithmFieldGuarded rest
  let (key, rest) ← fieldGuarded octetString rest
  let (publicKey, rest) ← contextFieldGuarded 1 rest.length rest
  match publicKey with
  | none => .ofOption () (guard (version = 0))
  | some element =>
      .ofOption () (guard (version = 1 ∧ !isConstructed element.tag))
      let _ ← .ofOption () (wholeBits? element.content)
  extensionsGuarded rest.length rest
  return ⟨algorithm, key⟩

def publicKeyInfoGuarded (bytes : Bytes) : Guarded Unit KeyInfo := do
  let content ← wholeGuarded sequence bytes
  let (algorithm, rest) ← algorithmFieldGuarded content
  let (bits, rest) ← fieldGuarded bitString rest
  .ofOption () (guard rest.isEmpty)
  let key ← .ofOption () (wholeBits? bits)
  return ⟨algorithm, key⟩

theorem algorithmGuarded_eq (content : Bytes) :
    algorithmGuarded content = .ofOption () (algorithm? content) := by
  rw [algorithmGuarded, fieldGuarded_eq]
  refine Guarded.ofOption_bind_pair fun id rest => ?_
  simp only [elementGuarded_eq]
  split
  · rfl
  · refine Guarded.ofOption_bind_pair fun parameters rest => ?_
    exact Guarded.ofOption_bind fun _ => rfl

theorem algorithmFieldGuarded_eq (bytes : Bytes) :
    algorithmFieldGuarded bytes = .ofOption () (algorithmField? bytes) := by
  rw [algorithmFieldGuarded, fieldGuarded_eq]
  refine Guarded.ofOption_bind_pair fun content rest => ?_
  simp only [algorithmGuarded_eq]
  exact Guarded.ofOption_bind fun _ => rfl

theorem privateKeyInfoGuarded_eq (bytes : Bytes) :
    privateKeyInfoGuarded bytes = .ofOption () (privateKeyInfo? bytes) := by
  rw [privateKeyInfoGuarded, wholeGuarded_eq]
  refine Guarded.ofOption_bind fun content => ?_
  rw [naturalFieldGuarded_eq]
  refine Guarded.ofOption_bind_pair fun version rest => Guarded.ofOption_bind fun _ => ?_
  simp only [algorithmFieldGuarded_eq]
  refine Guarded.ofOption_bind_pair fun algorithm rest => ?_
  simp only [fieldGuarded_eq]
  refine Guarded.ofOption_bind_pair fun key rest => ?_
  simp only [contextFieldGuarded_eq]
  refine Guarded.ofOption_bind_pair fun publicKey rest => ?_
  have last : extensionsGuarded rest.length rest >>= (fun _ => pure (KeyInfo.mk algorithm key)) =
      .ofOption () (extensions? rest.length rest >>= fun _ => pure ⟨algorithm, key⟩) := by
    rw [extensionsGuarded_eq]
    exact Guarded.ofOption_bind fun _ => rfl
  cases publicKey with
  | none => exact Guarded.ofOption_bind fun _ => last
  | some element =>
      refine Guarded.ofOption_bind fun _ => ?_
      exact Guarded.ofOption_bind fun _ => last

theorem publicKeyInfoGuarded_eq (bytes : Bytes) :
    publicKeyInfoGuarded bytes = .ofOption () (publicKeyInfo? bytes) := by
  rw [publicKeyInfoGuarded, wholeGuarded_eq]
  refine Guarded.ofOption_bind fun content => ?_
  simp only [algorithmFieldGuarded_eq]
  refine Guarded.ofOption_bind_pair fun algorithm rest => ?_
  simp only [fieldGuarded_eq]
  refine Guarded.ofOption_bind_pair fun bits rest => Guarded.ofOption_bind fun _ => ?_
  exact Guarded.ofOption_bind fun _ => rfl

end KeyInfo

end Jose.Der
