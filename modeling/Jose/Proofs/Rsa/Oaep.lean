import Jose.Proofs.BigEndian
import Jose.Proofs.Key.Signature
import Jose.Proofs.Rsa.Key
import Jose.Proofs.Xor
import Jose.Rsa.Oaep

/-!
Unwrapping undoes wrapping. The masks are computed from what stands beside them, so that they can be
taken off again, and the secret begins after the first one behind the zeros.
-/

namespace Jose.Rsa

theorem length_sha256 (message : Bytes) : (Sha2.sha256 message).length = hashLength :=
  Sha2.narrow.length_digest Sha2.initial256 message

theorem length_mask (seed : Bytes) (length : Nat) : (mask seed length).length = length := by
  have blocks : ∀ index ∈ List.range ((length + hashLength - 1) / hashLength),
      (Sha2.sha256 (seed ++ Bytes.ofNatWide 4 index)).length = hashLength :=
    fun index _ => length_sha256 _
  rw [mask, List.length_take, maskBlocks, List.length_flatMap, List.map_congr_left blocks,
    List.map_const', List.sum_replicate_nat, List.length_range]
  simp only [hashLength]
  omega

section Blocks

variable {length : Nat} {seed secret : Bytes}

def dataBlock (length : Nat) (secret : Bytes) : Bytes :=
  emptyLabel ++ List.replicate (length - secret.length - 2 * hashLength - 2) 0 ++ [1] ++ secret

theorem length_dataBlock (room : secret.length + 2 * hashLength + 2 ≤ length) :
    (dataBlock length secret).length = length - hashLength - 1 := by
  have label : emptyLabel.length = hashLength := length_sha256 []
  simp only [dataBlock, List.length_append, List.length_replicate, List.length_singleton, label]
  simp only [hashLength] at *
  omega

def maskedData (length : Nat) (seed secret : Bytes) : Bytes :=
  Bytes.xor (dataBlock length secret) (mask seed (dataBlock length secret).length)

def maskedSeed (length : Nat) (seed secret : Bytes) : Bytes :=
  Bytes.xor seed (mask (maskedData length seed secret) hashLength)

theorem wrapBlock_eq : wrapBlock length seed secret =
    0 :: (maskedSeed length seed secret ++ maskedData length seed secret) := rfl

theorem length_maskedData :
    (maskedData length seed secret).length = (dataBlock length secret).length := by
  rw [maskedData, Bytes.length_xor, length_mask, Nat.min_self]

theorem length_maskedSeed (whole : seed.length = hashLength) :
    (maskedSeed length seed secret).length = hashLength := by
  rw [maskedSeed, Bytes.length_xor, length_mask, whole, Nat.min_self]

theorem length_wrapBlock (whole : seed.length = hashLength)
    (room : secret.length + 2 * hashLength + 2 ≤ length) :
    (wrapBlock length seed secret).length = length := by
  rw [wrapBlock_eq, List.length_cons, List.length_append, length_maskedSeed whole,
    length_maskedData, length_dataBlock room]
  simp only [hashLength] at *
  omega

theorem unwrapBlock?_wrapBlock (whole : seed.length = hashLength) :
    unwrapBlock? (wrapBlock length seed secret) = some secret := by
  have seedBack : Bytes.xor (maskedSeed length seed secret)
      (mask (maskedData length seed secret) hashLength) = seed :=
    Bytes.xor_xor (by rw [length_mask, whole])
  have dataBack : Bytes.xor (maskedData length seed secret)
      (mask seed (maskedData length seed secret).length) = dataBlock length secret := by
    rw [length_maskedData]
    exact Bytes.xor_xor (by rw [length_mask])
  have seedPart : ((wrapBlock length seed secret).drop 1).take hashLength =
      maskedSeed length seed secret := by
    rw [wrapBlock_eq, List.drop_one, List.tail_cons, List.take_left' (length_maskedSeed whole)]
  have dataPart : (wrapBlock length seed secret).drop (1 + hashLength) =
      maskedData length seed secret := by
    rw [wrapBlock_eq, Nat.add_comm, List.drop_succ_cons,
      List.drop_left' (length_maskedSeed whole)]
  have label : emptyLabel.length = hashLength := length_sha256 []
  have labelled : (dataBlock length secret).take hashLength = emptyLabel := by
    simp only [dataBlock, List.append_assoc]
    exact List.take_left' label
  have rest : ((dataBlock length secret).drop hashLength).dropWhile (· = 0) = 1 :: secret := by
    simp only [dataBlock, List.append_assoc]
    rw [List.drop_left' label]
    simp
  have first : (wrapBlock length seed secret).head? = some 0 := rfl
  simp only [unwrapBlock?, seedPart, dataPart, seedBack, dataBack, labelled, rest, first]
  rfl

end Blocks

theorem lt_octetLength {modulus : Nat} (positive : 0 < modulus) :
    256 ^ (octetLength modulus - 1) ≤ modulus ∧ modulus < 256 ^ octetLength modulus := by
  have nonzero : modulus ≠ 0 := by omega
  constructor
  · have bits := Nat.log2_self_le nonzero
    have fewer : 2 ^ (8 * (modulus.log2 / 8)) ≤ 2 ^ modulus.log2 :=
      Nat.pow_le_pow_right (by decide) (by omega)
    rw [octetLength, if_neg nonzero, Nat.add_sub_cancel, show (256 : Nat) = 2 ^ 8 from rfl,
      ← Nat.pow_mul]
    omega
  · exact Bytes.lt_width modulus

def PrivateKey.Unwraps (key : PrivateKey) : Prop :=
  ∀ seed secret wrapped, seed.length = hashLength →
    key.publicKey.wrap? seed secret = some wrapped → key.unwrap? wrapped = some secret

theorem wrap?_eq_some_iff {key : PublicKey} {seed secret wrapped : Bytes} :
    key.wrap? seed secret = some wrapped ↔
      secret.length + 2 * hashLength + 2 ≤ octetLength key.modulus ∧
        wrapped = Bytes.ofNatWide (octetLength key.modulus)
          (key.apply (Bytes.toNat (wrapBlock (octetLength key.modulus) seed secret))) := by
  simp only [PublicKey.wrap?]
  split
  · next short => simp [short]
  · next enough => simp [Nat.not_lt.mp enough, eq_comm]

theorem toNat_wrapBlock_lt {modulus : Nat} {seed secret : Bytes}
    (whole : seed.length = hashLength)
    (room : secret.length + 2 * hashLength + 2 ≤ octetLength modulus) :
    Bytes.toNat (wrapBlock (octetLength modulus) seed secret) < modulus := by
  have positive : 0 < modulus := by
    rcases Nat.eq_zero_or_pos modulus with rfl | positive
    · simp [octetLength] at room
    · exact positive
  have length := length_wrapBlock whole room
  have low := Bytes.toNat_lt (maskedSeed (octetLength modulus) seed secret ++
    maskedData (octetLength modulus) seed secret)
  have least := (lt_octetLength positive).1
  rw [wrapBlock_eq, List.length_cons] at length
  rw [Nat.eq_sub_of_add_eq length] at low
  rw [wrapBlock_eq, Bytes.toNat_cons, UInt8.toNat_zero, Nat.zero_mul, Nat.zero_add]
  exact Nat.lt_of_lt_of_le low least

@[simp] theorem PrivateKey.publicKey_modulus (key : PrivateKey) :
    key.publicKey.modulus = key.modulus := rfl

/-- A genuine key unwraps what was wrapped for it. -/
theorem PrivateKey.IsGenuine.unwraps {key : PrivateKey} (genuine : key.IsGenuine) :
    key.Unwraps := by
  intro seed secret wrapped whole wrap
  obtain ⟨room, rfl⟩ := wrap?_eq_some_iff.mp wrap
  rw [PrivateKey.publicKey_modulus] at room ⊢
  have small := toNat_wrapBlock_lt whole room
  have positive : 0 < key.modulus := by omega
  have reduced : key.publicKey.apply
      (Bytes.toNat (wrapBlock (octetLength key.modulus) seed secret)) < key.modulus := by
    rw [PublicKey.apply, powMod_eq]
    exact Nat.mod_lt _ positive
  have number := Bytes.toNat_ofNatWide (Nat.lt_trans reduced (lt_octetLength positive).2)
  have block := Bytes.ofNatWide_toNat (wrapBlock (octetLength key.modulus) seed secret)
  rw [length_wrapBlock whole room] at block
  have long : ¬ octetLength key.modulus < 2 * hashLength + 2 := by omega
  simp only [PrivateKey.unwrap?, Bytes.length_ofNatWide, number, long,
    Nat.not_le.mpr reduced, ne_eq, not_true_eq_false, or_self, if_false,
    genuine.invert_apply small, block, unwrapBlock?_wrapBlock whole]

end Jose.Rsa
