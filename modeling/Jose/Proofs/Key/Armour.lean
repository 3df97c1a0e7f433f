import Jose.Proofs.Der
import Jose.Proofs.Key.Guarded

/-!
Keys in armoured text, read with every operation that can crash: from the label of the block to the
numbers of the key in it.
-/

namespace Jose

def armourLabelGuarded (text : List Char) : Guarded BuildError String :=
  (Pem.labelGuarded text).mapError fun problem => .invalidKey problem.message

theorem armourLabelGuarded_eq (text : List Char) :
    armourLabelGuarded text = .answer (armourLabel text) := by
  rw [armourLabelGuarded, Pem.labelGuarded_eq]
  rfl

namespace Rsa

def PrivateKey.ofDerGuarded (least : Nat) (bytes : Bytes) : Guarded Unit PrivateKey := do
  match ← Der.naturalsGuarded 9 bytes with
  | [0, n, e, d, p, q, _, _, _] => (makeGuarded least n e d p q).mapError fun _ => ()
  | _ => .fail ()

def PublicKey.ofDerGuarded (bytes : Bytes) : Guarded Unit PublicKey := do
  match ← Der.naturalsGuarded 2 bytes with
  | [n, e] => .ofOption () (make n e).toOption
  | _ => .fail ()

theorem PrivateKey.ofDerGuarded_eq (bytes : Bytes) :
    ofDerGuarded leastFactor bytes = .ofOption () (ofDer? bytes) := by
  rw [ofDerGuarded, Der.naturalsGuarded_eq]
  apply Guarded.ofOption_bind
  intro numbers
  split
  · next n e d p q _ _ _ =>
      simp only [makeGuarded_eq]
      cases make n e d p q <;> rfl
  · next other => simp only [Guarded.fail, Guarded.ofOption]

def HoldsFlat (bytes : Bytes) : Prop :=
  ∃ n e d p q first second third,
    Der.naturals? 9 bytes = some [0, n, e, d, p, q, first, second, third] ∧ IsFlat n e d p q

theorem PrivateKey.ofDerGuarded_eq_crash_iff {least : Nat} {bytes : Bytes} :
    ofDerGuarded least bytes = .crash ↔ least ≤ 1 ∧ HoldsFlat bytes := by
  rw [ofDerGuarded, Der.naturalsGuarded_eq, Guarded.ofOption_bind_eq_crash_iff]
  constructor
  · rintro ⟨numbers, read, crashed⟩
    split at crashed
    · next n e d p q _ _ _ =>
        obtain ⟨lax, flat⟩ := makeGuarded_eq_crash_iff.mp (Guarded.mapError_eq_crash_iff.mp crashed)
        exact ⟨lax, n, e, d, p, q, _, _, _, read, flat⟩
    · contradiction
  · rintro ⟨lax, n, e, d, p, q, first, second, third, read, flat⟩
    exact ⟨_, read, Guarded.mapError_eq_crash_iff.mpr (makeGuarded_eq_crash_iff.mpr ⟨lax, flat⟩)⟩

theorem PublicKey.ofDerGuarded_eq (bytes : Bytes) :
    ofDerGuarded bytes = .ofOption () (ofDer? bytes) := by
  rw [ofDerGuarded, Der.naturalsGuarded_eq]
  apply Guarded.ofOption_bind
  intro numbers
  split
  · rfl
  · next other => simp only [Guarded.fail, Guarded.ofOption]

end Rsa

namespace P256

def fitsGuarded (scalar : Nat) (curve publicKey : Option Der.Element) : Guarded Unit Unit := do
  match curve with
  | none => pure ()
  | some element => do
      let inner ← Der.explicitGuarded element
      .ofOption () (guard (inner = ⟨Der.objectId, Der.p256Id⟩))
  match publicKey with
  | none => pure ()
  | some element => do
      let inner ← Der.explicitGuarded element
      .ofOption () (guard (inner.tag = Der.bitString))
      let octets ← .ofOption () (Der.wholeBits? inner.content)
      let point := publicPoint scalar
      .ofOption () (guard (octets = point.encode ∨ octets = point.compress))

def scalarOfDerGuarded (bytes : Bytes) : Guarded Unit Nat := do
  let content ← Der.wholeGuarded Der.sequence bytes
  let (version, rest) ← Der.naturalFieldGuarded content
  .ofOption () (guard (version = 1))
  let (octets, rest) ← Der.fieldGuarded Der.octetString rest
  let (curve, rest) ← Der.contextFieldGuarded 0 rest.length rest
  let (publicKey, rest) ← Der.contextFieldGuarded 1 rest.length rest
  .ofOption () (guard rest.isEmpty)
  let scalar ← scalarGuarded octets
  fitsGuarded scalar curve publicKey
  return scalar

theorem fitsGuarded_eq (scalar : Nat) (curve publicKey : Option Der.Element) :
    fitsGuarded scalar curve publicKey = .ofOption () (fits scalar curve publicKey) := by
  have later : fitsGuarded scalar none publicKey = .ofOption () (fits scalar none publicKey) := by
    cases publicKey with
    | none => rfl
    | some element =>
        simp only [fitsGuarded, Der.explicitGuarded_eq]
        refine Guarded.ofOption_bind fun inner => Guarded.ofOption_bind fun _ => ?_
        exact Guarded.ofOption_bind fun octets => rfl
  cases curve with
  | none => exact later
  | some element =>
      simp only [fitsGuarded, Der.explicitGuarded_eq element]
      -- What is left is the public key, as where no curve is named.
      exact Guarded.ofOption_bind fun inner => Guarded.ofOption_bind fun _ => later

theorem scalarOfDerGuarded_eq (bytes : Bytes) :
    scalarOfDerGuarded bytes = .ofOption () (scalarOfDer? bytes) := by
  simp only [scalarOfDerGuarded, Der.wholeGuarded_eq, Der.naturalFieldGuarded_eq,
    Der.fieldGuarded_eq, Der.contextFieldGuarded_eq, scalarGuarded_eq, fitsGuarded_eq]
  refine Guarded.ofOption_bind fun content => Guarded.ofOption_bind_pair fun version rest => ?_
  refine Guarded.ofOption_bind fun _ => Guarded.ofOption_bind_pair fun octets rest => ?_
  refine Guarded.ofOption_bind_pair fun curve rest => ?_
  refine Guarded.ofOption_bind_pair fun publicKey rest => ?_
  refine Guarded.ofOption_bind fun _ => Guarded.ofOption_bind fun scalar => ?_
  exact Guarded.ofOption_bind fun _ => rfl

end P256

def SigningKey.ofKeyInfoGuarded (least : Nat) (info : Der.KeyInfo) : Guarded Unit SigningKey :=
  if info.algorithm = Der.rsaAlgorithm then
    (Rsa.PrivateKey.ofDerGuarded least info.key).map .rsa
  else if info.algorithm = Der.p256Algorithm then
    (P256.scalarOfDerGuarded info.key).map .p256
  else .fail ()

theorem SigningKey.ofKeyInfoGuarded_eq (info : Der.KeyInfo) :
    ofKeyInfoGuarded Rsa.leastFactor info = .ofOption () (ofKeyInfo? info) := by
  rw [ofKeyInfoGuarded, ofKeyInfo?, Rsa.PrivateKey.ofDerGuarded_eq, P256.scalarOfDerGuarded_eq]
  split
  · exact Guarded.ofOption_map _ _
  · split
    · exact Guarded.ofOption_map _ _
    · rfl

theorem SigningKey.ofKeyInfoGuarded_eq_crash_iff {least : Nat} {info : Der.KeyInfo} :
    ofKeyInfoGuarded least info = .crash ↔
      least ≤ 1 ∧ info.algorithm = Der.rsaAlgorithm ∧ Rsa.HoldsFlat info.key := by
  rw [ofKeyInfoGuarded]
  by_cases rsa : info.algorithm = Der.rsaAlgorithm
  · rw [if_pos rsa, Guarded.map_eq_crash_iff, Rsa.PrivateKey.ofDerGuarded_eq_crash_iff]
    simp only [rsa, true_and]
  · rw [if_neg rsa, P256.scalarOfDerGuarded_eq, Guarded.ofOption_map]
    refine iff_of_false ?_ fun flat => rsa flat.2.1
    split
    · exact Guarded.ofOption_ne_crash _ _
    · exact nofun

def SigningKey.ofBlockGuarded (least : Nat) (name : String) (text : List Char) :
    Guarded BuildError SigningKey :=
  match name with
  | "PRIVATE KEY" =>
      (Guarded.ofOption () (Pem.decode? name text) >>= Der.privateKeyInfoGuarded >>=
        ofKeyInfoGuarded least).mapError fun _ =>
          .invalidKey "PKCS#8 private key is neither RSA nor P-256"
  | "RSA PRIVATE KEY" =>
      ((Guarded.ofOption () (Pem.decode? name text) >>=
        Rsa.PrivateKey.ofDerGuarded least).mapError fun _ =>
          .invalidKey "Invalid PKCS#1 RSA private key").map .rsa
  | _ => .fail (.invalidKey ("PEM block '" ++ name ++ "' is not a supported signing key"))

theorem SigningKey.ofBlockGuarded_eq (name : String) (text : List Char) :
    ofBlockGuarded Rsa.leastFactor name text = .answer (ofBlock name text) := by
  simp only [ofBlockGuarded, ofBlock]
  by_cases general : name = "PRIVATE KEY"
  · subst general
    simp only [Guarded.ofOption_bind Der.privateKeyInfoGuarded_eq,
      Guarded.ofOption_bind ofKeyInfoGuarded_eq, Option.bind_eq_bind]
    cases ((Pem.decode? "PRIVATE KEY" text).bind Der.privateKeyInfo?).bind ofKeyInfo? <;> rfl
  · by_cases rsa : name = "RSA PRIVATE KEY"
    · subst rsa
      simp only [Guarded.ofOption_bind Rsa.PrivateKey.ofDerGuarded_eq, Option.bind_eq_bind]
      cases (Pem.decode? "RSA PRIVATE KEY" text).bind Rsa.PrivateKey.ofDer? <;> rfl
    · simp only
      rfl

def Pem.HoldsFlat (name : String) (text : List Char) : Prop :=
  (name = "PRIVATE KEY" ∧ ∃ bytes info, decode? "PRIVATE KEY" text = some bytes ∧
      Der.privateKeyInfo? bytes = some info ∧ info.algorithm = Der.rsaAlgorithm ∧
      Rsa.HoldsFlat info.key) ∨
    (name = "RSA PRIVATE KEY" ∧
      ∃ bytes, decode? "RSA PRIVATE KEY" text = some bytes ∧ Rsa.HoldsFlat bytes)

theorem SigningKey.ofBlockGuarded_eq_crash_iff {least : Nat} {name : String} {text : List Char} :
    ofBlockGuarded least name text = .crash ↔ least ≤ 1 ∧ Pem.HoldsFlat name text := by
  unfold ofBlockGuarded
  split
  · have other : "PRIVATE KEY" ≠ "RSA PRIVATE KEY" := by decide
    rw [Guarded.mapError_eq_crash_iff, Guarded.ofOption_bind Der.privateKeyInfoGuarded_eq,
      Guarded.ofOption_bind_eq_crash_iff]
    simp only [Option.bind_eq_bind, Option.bind_eq_some_iff, ofKeyInfoGuarded_eq_crash_iff,
      Pem.HoldsFlat, other, false_and, or_false, true_and]
    constructor
    · rintro ⟨info, ⟨bytes, block, read⟩, lax, rsa, flat⟩
      exact ⟨lax, bytes, info, block, read, rsa, flat⟩
    · rintro ⟨lax, bytes, info, block, read, rsa, flat⟩
      exact ⟨info, ⟨bytes, block, read⟩, lax, rsa, flat⟩
  · have other : "RSA PRIVATE KEY" ≠ "PRIVATE KEY" := by decide
    rw [Guarded.map_eq_crash_iff, Guarded.mapError_eq_crash_iff,
      Guarded.ofOption_bind_eq_crash_iff]
    simp only [Rsa.PrivateKey.ofDerGuarded_eq_crash_iff, Pem.HoldsFlat, other, false_and, false_or,
      true_and]
    constructor
    · rintro ⟨bytes, block, lax, flat⟩
      exact ⟨lax, bytes, block, flat⟩
    · rintro ⟨lax, bytes, block, flat⟩
      exact ⟨bytes, block, lax, flat⟩
  · next general rsa =>
      refine iff_of_false nofun ?_
      rintro ⟨_, ⟨same, _⟩ | ⟨same, _⟩⟩
      · exact general same
      · exact rsa same

def EncryptionKey.ofKeyInfoGuarded (info : Der.KeyInfo) : Guarded BuildError EncryptionKey :=
  let unknown := .invalidKey "Unrecognized SubjectPublicKeyInfo"
  if info.algorithm = Der.rsaAlgorithm then
    ((Rsa.PublicKey.ofDerGuarded info.key).mapError fun _ => unknown).map .rsa
  else if info.algorithm = Der.p256Algorithm ∧ (P256.Point.decode? info.key).isSome then
    .fail (.unsupportedAlgorithm noCurves)
  else .fail unknown

theorem EncryptionKey.ofKeyInfoGuarded_eq (info : Der.KeyInfo) :
    ofKeyInfoGuarded info = .answer (ofKeyInfo info) := by
  simp only [ofKeyInfoGuarded, ofKeyInfo, Rsa.PublicKey.ofDerGuarded_eq]
  by_cases rsa : info.algorithm = Der.rsaAlgorithm
  · rw [if_pos rsa, if_pos rsa]
    cases Rsa.PublicKey.ofDer? info.key <;> rfl
  · rw [if_neg rsa, if_neg rsa]
    split <;> rfl

def EncryptionKey.ofBlockGuarded (name : String) (text : List Char) :
    Guarded BuildError EncryptionKey :=
  match name with
  | "PUBLIC KEY" => do
      let info ← (Guarded.ofOption () (Pem.decode? name text) >>=
        Der.publicKeyInfoGuarded).mapError fun _ =>
          .invalidKey "Unrecognized SubjectPublicKeyInfo"
      ofKeyInfoGuarded info
  | "RSA PUBLIC KEY" =>
      ((Guarded.ofOption () (Pem.decode? name text) >>=
        Rsa.PublicKey.ofDerGuarded).mapError fun _ =>
          .invalidKey "Invalid PKCS#1 RSA public key").map .rsa
  | _ => .fail (.invalidKey ("PEM block '" ++ name ++ "' is not a supported key-encryption key"))

theorem EncryptionKey.ofBlockGuarded_eq (name : String) (text : List Char) :
    ofBlockGuarded name text = .answer (ofBlock name text) := by
  simp only [ofBlockGuarded, ofBlock]
  by_cases general : name = "PUBLIC KEY"
  · subst general
    simp only [Guarded.ofOption_bind Der.publicKeyInfoGuarded_eq, Option.bind_eq_bind,
      ofKeyInfoGuarded_eq]
    cases (Pem.decode? "PUBLIC KEY" text).bind Der.publicKeyInfo? <;> rfl
  · by_cases rsa : name = "RSA PUBLIC KEY"
    · subst rsa
      simp only [Guarded.ofOption_bind Rsa.PublicKey.ofDerGuarded_eq, Option.bind_eq_bind]
      cases (Pem.decode? "RSA PUBLIC KEY" text).bind Rsa.PublicKey.ofDer? <;> rfl
    · simp only
      rfl

section Material

variable {κ : Type} {guarded : String → List Char → Guarded BuildError κ}
  {ofBlock : String → List Char → Except BuildError κ}

def ofArmourGuarded (guarded : String → List Char → Guarded BuildError κ) (material : Bytes) :
    Guarded BuildError κ := do
  let text ← .answer (armouredText material)
  let name ← armourLabelGuarded text
  guarded name text

theorem ofArmourGuarded_eq (same : ∀ name text, guarded name text = .answer (ofBlock name text))
    (material : Bytes) :
    ofArmourGuarded guarded material = .answer (do
      let text ← armouredText material
      let name ← armourLabel text
      ofBlock name text) := by
  refine Guarded.answer_bind fun text _ => ?_
  rw [armourLabelGuarded_eq]
  exact Guarded.answer_bind fun name _ => same name text

theorem ofArmourGuarded_eq_crash_iff {material : Bytes} :
    ofArmourGuarded guarded material = .crash ↔ ∃ text name, armouredText material = .ok text ∧
      armourLabel text = .ok name ∧ guarded name text = .crash := by
  rw [ofArmourGuarded, Guarded.answer_bind_eq_crash_iff]
  simp only [armourLabelGuarded_eq, Guarded.answer_bind_eq_crash_iff]
  exact exists_congr fun text => exists_and_left.symm

end Material

end Jose
