import Jose.Proofs.BigEndian
import Jose.Proofs.Key.Dispatch

/-!
How long signatures are. A signature is never empty, whichever key and algorithm made it.
-/

namespace Jose

theorem Sha2.Family.length_digest {Word : Type} (family : Sha2.Family Word)
    (initial : Sha2.Registers Word) (message : Bytes) :
    (family.digest initial message).length = 8 * family.octets := by
  simp [digest]
  omega

namespace Rsa

theorem DigestKind.length_sha256 (message : Bytes) :
    (DigestKind.sha256.hash.digest message).length = 32 :=
  Sha2.narrow.length_digest Sha2.initial256 message

theorem DigestKind.length_sha384 (message : Bytes) :
    (DigestKind.sha384.hash.digest message).length = 48 := by
  simp [sha384, Hash.sha384, Sha2.sha384, Sha2.Family.length_digest, Sha2.wide]

theorem DigestKind.length_sha512 (message : Bytes) :
    (DigestKind.sha512.hash.digest message).length = 64 :=
  Sha2.wide.length_digest Sha2.initial512 message

theorem PrivateKey.sign_length {key : PrivateKey} {kind : DigestKind} {message signature : Bytes}
    (signed : key.sign kind message = .ok signature) :
    signature.length = octetLength key.modulus ∧ 11 ≤ octetLength key.modulus := by
  simp only [PrivateKey.sign, signatureBlock?] at signed
  split at signed
  · contradiction
  · next block filled =>
      split at signed
      · contradiction
      · have long : kind.mark.length + (kind.hash.digest message).length + 11 ≤
            octetLength key.modulus := by
          split at filled
          · contradiction
          · simp only [List.length_append] at *
            omega
        injection signed with same
        rw [← same, Bytes.length_ofNatWide]
        exact ⟨rfl, by omega⟩

end Rsa

namespace P256

theorem signWith?_length {scalar digest drawn : Nat} {signature : Bytes}
    (signed : signWith? scalar digest drawn = some signature) : signature.length = 64 := by
  simp only [signWith?, Option.bind_eq_bind, Option.bind_eq_some_iff] at signed
  obtain ⟨point, _, inverse, _, halves⟩ := signed
  split at halves
  · contradiction
  · injection halves with same
    rw [← same, List.length_append, Bytes.length_ofNatWide, Bytes.length_ofNatWide]

theorem signDrawn?_length {scalar digest rounds : Nat} {drawing : Drawing} {signature : Bytes}
    (signed : signDrawn? scalar digest rounds drawing = some signature) :
    signature.length = 64 := by
  induction rounds generalizing drawing with
  | zero => simp [signDrawn?] at signed
  | succ rounds ih =>
      simp only [signDrawn?] at signed
      split at signed
      · next octets drawn =>
          injection signed with same
          split at drawn
          · exact same ▸ signWith?_length drawn
          · contradiction
      · exact ih signed

theorem sign?_length {scalar : Nat} {message signature : Bytes}
    (signed : sign? scalar message = some signature) : signature.length = 64 :=
  signDrawn?_length signed

end P256

namespace SigningKey

theorem Primitive.rsa_length_pos {key : Rsa.PrivateKey} {kind : Rsa.DigestKind}
    {input signature : Bytes} (signed : (rsa key kind).run input = .ok signature) :
    0 < signature.length := by
  have length := Rsa.PrivateKey.sign_length (mapError_eq_ok_iff.mp signed)
  omega

theorem Primitive.p256_length {scalar : Nat} {input signature : Bytes}
    (signed : (p256 scalar).run input = .ok signature) : signature.length = 64 := by
  cases made : P256.sign? scalar input with
  | none =>
      rw [run, made, Option.elim_none] at signed
      contradiction
  | some octets =>
      rw [run, made, Option.elim_some] at signed
      injection signed with same
      exact P256.sign?_length (same ▸ made)

theorem Reaches.length_pos {key : SigningKey} {algorithm : SignatureAlgorithm}
    {primitive : Primitive} (reaches : Reaches key algorithm primitive) {input signature : Bytes}
    (signed : primitive.run input = .ok signature) : 0 < signature.length := by
  cases reaches with
  | rs256 key => exact Primitive.rsa_length_pos signed
  | rs384 key => exact Primitive.rsa_length_pos signed
  | rs512 key => exact Primitive.rsa_length_pos signed
  | es256 scalar =>
      have length := Primitive.p256_length signed
      omega
  | hs256 long =>
      injection signed with same
      simp [← same, Hash.hmac, Rsa.DigestKind.length_sha256]
  | hs384 long =>
      injection signed with same
      simp [← same, Hash.hmac, Rsa.DigestKind.length_sha384]
  | hs512 long =>
      injection signed with same
      simp [← same, Hash.hmac, Rsa.DigestKind.length_sha512]

/-- Signing gives octets or an error, never an empty signature. -/
theorem sign_ne_nil {key : SigningKey} {algorithm : SignatureAlgorithm} {input signature : Bytes}
    (signed : key.sign algorithm input = .ok signature) : signature ≠ [] := by
  obtain ⟨primitive, reaches⟩ := reaches_of_sign signed
  rw [reaches.sign_eq, mapError_eq_ok_iff] at signed
  exact List.ne_nil_of_length_pos (reaches.length_pos signed)

end SigningKey

end Jose
