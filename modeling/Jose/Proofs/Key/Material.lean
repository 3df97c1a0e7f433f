import Jose.Proofs.BigEndian
import Jose.Proofs.Key.Jwk
import Jose.Proofs.Spelling

/-!
What the members of a key stand for. Octets are spelled in one way only, and a number in one way for
every count of zero octets before it, so that a key is made of exactly the numbers or octets that
its members describe.
-/

namespace Jose

namespace Jwk

section Members

variable {key : Jwk} {member : String}

theorem octets_eq_ok_iff {text : Option String} {octets : Bytes} :
    key.octets member text = .ok octets ↔ text = some (Base64.encodeUrl octets) := by
  cases text with
  | none => simp [Jwk.octets]
  | some text =>
      rw [Option.some.injEq, @eq_comm _ text, ← Base64.decodeUrl_eq_ok_iff, Jwk.octets]
      cases Base64.decodeUrl text <;> simp

def Holds (text : Option String) (value : Nat) : Prop :=
  ∃ octets, text = some (Base64.encodeUrl octets) ∧ Bytes.toNat octets = value

theorem number_eq_ok_iff {text : Option String} {value : Nat} :
    key.number member text = .ok value ↔ Holds text value := by
  simp only [number, map_eq_ok_iff, octets_eq_ok_iff, Holds]

structure SpellsOctets (key : Jwk) (member : String) : Prop where
  letters : ∀ octets, ∀ char ∈ (Base64.encodeUrl octets).toList, char ∈ Base64.letters
  read : ∀ octets, key.octets member (some (Base64.encodeUrl octets)) = .ok octets
  written : ∀ text octets, key.octets member (some text) = .ok octets →
    Base64.encodeUrl octets = text
  accepted : ∀ text, Succeeds (key.octets member (some text)) ↔ Base64.IsSpelling text.toList
  foreign : ∀ text, (∃ char ∈ text.toList, char ∉ Base64.letters) →
    ¬ Succeeds (key.octets member (some text))
  alone : ∀ text : String, text.length % 4 = 1 → ¬ Succeeds (key.octets member (some text))

/-- Writing octets and reading them undo each other, in the member of a key as elsewhere. -/
theorem spellsOctets (key : Jwk) (member : String) : key.SpellsOctets member := by
  have spelled {text : String} (read : Succeeds (key.octets member (some text))) :
      Base64.IsSpelling text.toList := by
    obtain ⟨octets, found⟩ := read
    obtain rfl : text = Base64.encodeUrl octets := by simpa using octets_eq_ok_iff.mp found
    exact Base64.isSpelling_encodeUrl octets
  refine ⟨?_, ?_, ?_, ?_, ?_, ?_⟩
  · exact fun octets => (Base64.isSpelling_encodeUrl octets).mem_letters
  · exact fun octets => octets_eq_ok_iff.mpr rfl
  · intro text octets found
    exact (Option.some.inj (octets_eq_ok_iff.mp found)).symm
  · intro text
    refine ⟨spelled, fun spelling => ?_⟩
    obtain ⟨octets, written⟩ := spelling.exists_octets
    exact ⟨octets, octets_eq_ok_iff.mpr (congrArg some (String.toList_inj.mp written).symm)⟩
  · rintro text ⟨char, inside, foreign⟩ read
    exact foreign ((spelled read).mem_letters char inside)
  · intro text alone read
    exact (spelled read).length_mod alone

/-- Bits that are not used must be zero, and padding is not taken. -/
example : Base64.decodeUrl "AQ" = .ok [1] ∧ Base64.decodeUrl "AR" = .error (.lastSymbol 82 1) ∧
    Base64.decodeUrl "AQ==" = .error .padding := by decide

end Members

def Spells (text : Option String) (value : Nat) : Prop :=
  ∃ zeros, text = some (Base64.encodeUrl (List.replicate zeros 0 ++ Bytes.ofNat value))

theorem Spells.holds {text : Option String} {value : Nat} (spelled : Spells text value) :
    Holds text value := by
  obtain ⟨zeros, rfl⟩ := spelled
  exact ⟨_, rfl, by rw [Bytes.toNat_zeros_append, Bytes.toNat_ofNat]⟩

section Rsa

open Rsa

theorem make_private_eq_ok {modulus exponent privateExponent firstFactor secondFactor : Nat}
    {key : PrivateKey}
    (made : PrivateKey.make modulus exponent privateExponent firstFactor secondFactor = .ok key) :
    key = ⟨modulus, exponent, privateExponent, firstFactor, secondFactor⟩ := by
  simp only [PrivateKey.make, bind_eq_ok_iff] at made
  obtain ⟨_, _, made⟩ := made
  split at made
  · contradiction
  · split at made
    · contradiction
    · split at made
      · injection made with same
        exact same.symm
      · contradiction

theorem make_public_eq_ok {modulus exponent : Nat} {key : PublicKey}
    (made : PublicKey.make modulus exponent = .ok key) : key = ⟨modulus, exponent⟩ := by
  simp only [PublicKey.make] at made
  split at made
  · contradiction
  · obtain ⟨_, _, same⟩ := bind_eq_ok_iff.mp made
    injection same with same
    exact same.symm

variable {key : Jwk}

theorem toSigningKey_eq_ok_iff (kind : key.kty = "RSA") {signing : SigningKey} :
    key.toSigningKey = .ok signing ↔
      ∃ modulus, Holds key.n modulus ∧ ∃ exponent, Holds key.e exponent ∧
      ∃ privateExponent, Holds key.d privateExponent ∧
      ∃ firstFactor, Holds key.p firstFactor ∧ ∃ secondFactor, Holds key.q secondFactor ∧
      ∃ made, PrivateKey.make modulus exponent privateExponent firstFactor secondFactor =
        .ok made ∧ .rsa made = signing := by
  rw [toSigningKey, kind]
  simp only [bind_eq_ok_iff, number_eq_ok_iff, map_eq_ok_iff, rsaResult, mapError_eq_ok_iff]

theorem toEncryptionKey_eq_ok_iff {encryption : EncryptionKey} :
    key.toEncryptionKey = .ok encryption ↔ key.kty = "RSA" ∧
      ∃ modulus, Holds key.n modulus ∧ ∃ exponent, Holds key.e exponent ∧
      ∃ made, PublicKey.make modulus exponent = .ok made ∧ .rsa made = encryption := by
  rw [toEncryptionKey]
  split
  · next kind =>
      simp only [bind_eq_ok_iff, number_eq_ok_iff, map_eq_ok_iff, rsaResult, mapError_eq_ok_iff,
        kind, true_and]
  · next other => simp [show key.kty ≠ "RSA" from other]

theorem Holds.unique {text : Option String} {left right : Nat} (first : Holds text left)
    (second : Holds text right) : left = right := by
  obtain ⟨octets, rfl, rfl⟩ := first
  obtain ⟨others, same, rfl⟩ := second
  have read := (Option.some.inj same) ▸ Base64.decodeUrl_encodeUrl octets
  rw [Base64.decodeUrl_encodeUrl] at read
  injection read with same
  rw [same]

end Rsa

structure SpellsRsa (key : Jwk) (made : Rsa.PrivateKey) : Prop where
  kind : key.kty = "RSA"
  modulus : Spells key.n made.modulus
  exponent : Spells key.e made.exponent
  privateExponent : Spells key.d made.privateExponent
  firstFactor : Spells key.p made.firstFactor
  secondFactor : Spells key.q made.secondFactor

structure IsMadeExactly (key : Jwk) : Prop where
  numbers : ∀ made : Rsa.PrivateKey, key.SpellsRsa made →
    Succeeds (Rsa.PrivateKey.make made.modulus made.exponent made.privateExponent made.firstFactor
      made.secondFactor) →
    key.toSigningKey = .ok (.rsa made)
  halves : ∀ signing encryption, key.kty = "RSA" → key.toSigningKey = .ok signing →
    key.toEncryptionKey = .ok encryption →
    ∃ made : Rsa.PrivateKey, signing = .rsa made ∧ encryption = .rsa made.publicKey
  sealed : ∀ other : Jwk, other.kty = key.kty → other.n = key.n → other.e = key.e →
    ∀ encryption, other.toEncryptionKey = .ok encryption ↔ key.toEncryptionKey = .ok encryption
  secret : ∀ octets, key.kty = "oct" → key.k = some (Base64.encodeUrl octets) →
    key.toSigningKey = .ok (.hmac octets)

/-- A private key is made of exactly the numbers that its members spell, whatever zeros stand before
them, a public key of nothing but the modulus and the exponent, and a secret of its octets. -/
theorem isMadeExactly (key : Jwk) : key.IsMadeExactly where
  numbers made spelled := by
    rintro ⟨same, accepted⟩
    obtain rfl := make_private_eq_ok accepted
    rw [toSigningKey_eq_ok_iff spelled.kind]
    exact ⟨_, spelled.modulus.holds, _, spelled.exponent.holds, _, spelled.privateExponent.holds,
      _, spelled.firstFactor.holds, _, spelled.secondFactor.holds, _, accepted, rfl⟩
  halves signing encryption kind signs encrypts := by
    obtain ⟨modulus, held, exponent, raises, _, _, _, _, _, _, made, accepted, rfl⟩ :=
      (toSigningKey_eq_ok_iff kind).mp signs
    obtain ⟨_, _, heldToo, _, raisesToo, sealing, acceptedToo, rfl⟩ :=
      toEncryptionKey_eq_ok_iff.mp encrypts
    obtain rfl := heldToo.unique held
    obtain rfl := raisesToo.unique raises
    obtain rfl := make_private_eq_ok accepted
    obtain rfl := make_public_eq_ok acceptedToo
    exact ⟨_, rfl, rfl⟩
  sealed other kind modulus exponent encryption := by
    rw [toEncryptionKey_eq_ok_iff, toEncryptionKey_eq_ok_iff, kind, modulus, exponent]
  secret octets kind spelled := by
    have read : key.octets "k" key.k = .ok octets := octets_eq_ok_iff.mpr spelled
    rw [toSigningKey, kind]
    simp only [read]
    rfl

def smallKey : Rsa.PrivateKey := ⟨33, 3, 7, 3, 11⟩

def paddedKey : Jwk := { blank "RSA" with
  n := some "ACE"
  e := some "AAAAAw"
  d := some "Bw"
  p := some "Aw"
  q := some "Cw"
  k := some "AAE" }

theorem paddedKey_spells : paddedKey.SpellsRsa smallKey :=
  ⟨rfl, ⟨1, by decide⟩, ⟨3, by decide⟩, ⟨0, by decide⟩, ⟨0, by decide⟩, ⟨0, by decide⟩⟩

theorem isMadeExactly_padded :
    paddedKey.toSigningKey = .ok (.rsa smallKey) ∧
      (∃ made : Rsa.PrivateKey, SigningKey.rsa smallKey = .rsa made ∧
        EncryptionKey.rsa ⟨33, 3⟩ = .rsa made.publicKey) ∧
      ({ paddedKey with kty := "oct" } : Jwk).toSigningKey = .ok (.hmac [0, 1]) := by
  have signs : paddedKey.toSigningKey = .ok (.rsa smallKey) :=
    (isMadeExactly paddedKey).numbers smallKey paddedKey_spells ⟨smallKey, rfl⟩
  have encrypts : paddedKey.toEncryptionKey = .ok (.rsa ⟨33, 3⟩) := by
    rw [toEncryptionKey_eq_ok_iff]
    exact ⟨rfl, 33, paddedKey_spells.modulus.holds, 3, paddedKey_spells.exponent.holds, ⟨33, 3⟩,
      by decide +kernel, rfl⟩
  exact ⟨signs, (isMadeExactly paddedKey).halves _ _ rfl signs encrypts,
    (isMadeExactly { paddedKey with kty := "oct" }).secret [0, 1] rfl (by decide)⟩

end Jwk

end Jose
