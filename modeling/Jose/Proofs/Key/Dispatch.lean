import Jose.Key.Signature
import Jose.Proofs.Answer

/-!
Which primitive signs. A key and an algorithm of its family come to one primitive with one hash,
unless a shared secret is too short for it; any other algorithm is refused.
-/

namespace Jose

namespace SigningKey

inductive Primitive where
  | rsa (key : Rsa.PrivateKey) (kind : Rsa.DigestKind)
  | p256 (scalar : Nat)
  | hmac (secret : Bytes) (kind : Rsa.DigestKind)

def Primitive.run (input : Bytes) : Primitive → Except String Bytes
  | rsa key kind =>
      (key.sign kind input).mapError fun problem => "RSA signing failed: " ++ problem.message
  | p256 scalar =>
      (P256.sign? scalar input).elim (.error "ECDSA signing failed: signature error") .ok
  | hmac secret kind => .ok (kind.hash.hmac secret input)

inductive Reaches : SigningKey → SignatureAlgorithm → Primitive → Prop
  | rs256 (key : Rsa.PrivateKey) : Reaches (.rsa key) .rs256 (.rsa key .sha256)
  | rs384 (key : Rsa.PrivateKey) : Reaches (.rsa key) .rs384 (.rsa key .sha384)
  | rs512 (key : Rsa.PrivateKey) : Reaches (.rsa key) .rs512 (.rsa key .sha512)
  | es256 (scalar : Nat) : Reaches (.p256 scalar) .es256 (.p256 scalar)
  | hs256 {secret : Bytes} : 32 ≤ secret.length →
      Reaches (.hmac secret) .hs256 (.hmac secret .sha256)
  | hs384 {secret : Bytes} : 48 ≤ secret.length →
      Reaches (.hmac secret) .hs384 (.hmac secret .sha384)
  | hs512 {secret : Bytes} : 64 ≤ secret.length →
      Reaches (.hmac secret) .hs512 (.hmac secret .sha512)

inductive HasShortSecret : SigningKey → SignatureAlgorithm → Prop
  | hs256 {secret : Bytes} : secret.length < 32 → HasShortSecret (.hmac secret) .hs256
  | hs384 {secret : Bytes} : secret.length < 48 → HasShortSecret (.hmac secret) .hs384
  | hs512 {secret : Bytes} : secret.length < 64 → HasShortSecret (.hmac secret) .hs512

variable {key : SigningKey} {algorithm : SignatureAlgorithm} {primitive : Primitive}

theorem supports_naturalAlgorithm (key : SigningKey) :
    key.supports key.naturalAlgorithm = true := by
  cases key <;> rfl

theorem supports_of_leastSecret? {least : Nat} (bounded : algorithm.leastSecret? = some least)
    (secret : Bytes) : (SigningKey.hmac secret).supports algorithm = true := by
  cases algorithm <;> first | rfl | contradiction

theorem eq_hs256_of_supports {secret : Bytes}
    (fits : (SigningKey.hmac secret).supports algorithm = true) (notHs384 : algorithm ≠ .hs384)
    (notHs512 : algorithm ≠ .hs512) : algorithm = .hs256 := by
  -- The table of hashes names the other two; any other algorithm is not for secrets.
  cases algorithm with
  | hs256 => rfl
  | hs384 => contradiction
  | hs512 => contradiction
  | _ => contradiction

section Signing

theorem sign_misfit (unfit : key.supports algorithm = false) (input : Bytes) :
    key.sign algorithm input = .error (key.misfit algorithm) := by
  simp only [sign, unfit, Bool.false_eq_true, if_false]

theorem sign_short {secret : Bytes} {least : Nat}
    (bounded : algorithm.leastSecret? = some least) (short : secret.length < least)
    (input : Bytes) :
    (SigningKey.hmac secret).sign algorithm input =
      .error (shortSecret algorithm least secret.length) := by
  rw [sign, if_pos (supports_of_leastSecret? bounded secret)]
  simp only [dispatch, signHmac, bounded, Option.getD_some, if_pos short]

theorem sign_hmac {secret : Bytes}
    (fits : (SigningKey.hmac secret).supports algorithm = true)
    (long : algorithm.leastSecret?.getD 0 ≤ secret.length) (input : Bytes) :
    (SigningKey.hmac secret).sign algorithm input =
      .ok (algorithm.hmacKind.hash.hmac secret input) := by
  rw [sign, if_pos fits]
  simp only [dispatch, signHmac, if_neg (Nat.not_lt.mpr long)]

theorem HasShortSecret.sign_eq (short : HasShortSecret key algorithm) (input : Bytes) :
    ∃ text, key.sign algorithm input = .error (.invalidKey text) := by
  cases short with
  | hs256 short => exact ⟨_, sign_short rfl short input⟩
  | hs384 short => exact ⟨_, sign_short rfl short input⟩
  | hs512 short => exact ⟨_, sign_short rfl short input⟩

theorem signRsa_eq (key : Rsa.PrivateKey) (kind : Rsa.DigestKind) (input : Bytes) :
    signRsa key kind input = ((Primitive.rsa key kind).run input).mapError .signing := by
  rw [signRsa, Primitive.run]
  cases key.sign kind input <;> rfl

theorem signP256_eq (scalar : Nat) (input : Bytes) :
    signP256 scalar input = ((Primitive.p256 scalar).run input).mapError .signing := by
  cases made : P256.sign? scalar input with
  | none =>
      rw [signP256, Primitive.run, made, Option.elim_none, Option.elim_none]
      rfl
  | some octets =>
      rw [signP256, Primitive.run, made, Option.elim_some, Option.elim_some]
      rfl

/-- Of a primitive's own answer only the kind of error is changed. -/
theorem Reaches.sign_eq (reaches : Reaches key algorithm primitive) (input : Bytes) :
    key.sign algorithm input = (primitive.run input).mapError .signing := by
  cases reaches with
  | rs256 key => exact signRsa_eq key .sha256 input
  | rs384 key => exact signRsa_eq key .sha384 input
  | rs512 key => exact signRsa_eq key .sha512 input
  | es256 scalar => exact signP256_eq scalar input
  | @hs256 secret long =>
      have fits : (SigningKey.hmac secret).supports .hs256 = true := rfl
      exact sign_hmac fits long input
  | @hs384 secret long =>
      have fits : (SigningKey.hmac secret).supports .hs384 = true := rfl
      exact sign_hmac fits long input
  | @hs512 secret long =>
      have fits : (SigningKey.hmac secret).supports .hs512 = true := rfl
      exact sign_hmac fits long input

theorem Reaches.not_hasShortSecret (reaches : Reaches key algorithm primitive) :
    ¬ HasShortSecret key algorithm := by
  intro short
  cases reaches <;> cases short <;> omega

theorem exists_reaches (fits : key.supports algorithm = true)
    (long : ¬ HasShortSecret key algorithm) : ∃ primitive, Reaches key algorithm primitive := by
  cases key with
  | rsa key =>
      cases algorithm with
      | rs256 => exact ⟨_, .rs256 key⟩
      | rs384 => exact ⟨_, .rs384 key⟩
      | rs512 => exact ⟨_, .rs512 key⟩
      | _ => contradiction
  | p256 scalar =>
      cases algorithm with
      | es256 => exact ⟨_, .es256 scalar⟩
      | _ => contradiction
  | hmac secret =>
      cases algorithm with
      | hs256 => exact ⟨_, .hs256 (Nat.le_of_not_lt fun short => long (.hs256 short))⟩
      | hs384 => exact ⟨_, .hs384 (Nat.le_of_not_lt fun short => long (.hs384 short))⟩
      | hs512 => exact ⟨_, .hs512 (Nat.le_of_not_lt fun short => long (.hs512 short))⟩
      | _ => contradiction

theorem sign_cases (key : SigningKey) (algorithm : SignatureAlgorithm) (input : Bytes) :
    (key.supports algorithm = false ∧ key.sign algorithm input = .error (key.misfit algorithm)) ∨
      (HasShortSecret key algorithm ∧
        ∃ text, key.sign algorithm input = .error (.invalidKey text)) ∨
      ∃ primitive, Reaches key algorithm primitive ∧
        key.sign algorithm input = (primitive.run input).mapError .signing := by
  cases fits : key.supports algorithm with
  | false => exact .inl ⟨rfl, sign_misfit fits input⟩
  | true =>
      by_cases short : HasShortSecret key algorithm
      · exact .inr (.inl ⟨short, short.sign_eq input⟩)
      · obtain ⟨primitive, reaches⟩ := exists_reaches fits short
        exact .inr (.inr ⟨primitive, reaches, reaches.sign_eq input⟩)

theorem reaches_of_sign {input octets : Bytes} (signed : key.sign algorithm input = .ok octets) :
    ∃ primitive, Reaches key algorithm primitive := by
  rcases sign_cases key algorithm input with
    ⟨_, answer⟩ | ⟨_, _, answer⟩ | ⟨primitive, reaches, _⟩
  · rw [answer] at signed
    contradiction
  · rw [answer] at signed
    contradiction
  · exact ⟨primitive, reaches⟩

theorem sign_unsupported_iff {input : Bytes} :
    (∃ text, key.sign algorithm input = .error (.unsupportedAlgorithm text)) ↔
      key.supports algorithm = false := by
  constructor
  · rintro ⟨text, refused⟩
    rcases sign_cases key algorithm input with
      ⟨unfit, _⟩ | ⟨_, _, answer⟩ | ⟨primitive, _, answer⟩
    · exact unfit
    · simp [answer] at refused
    · obtain ⟨_, _, foreign⟩ := mapError_eq_error_iff.mp (answer.symm.trans refused)
      contradiction
  · intro unfit
    exact ⟨_, sign_misfit unfit input⟩

theorem sign_invalidKey_iff {input : Bytes} :
    (∃ text, key.sign algorithm input = .error (.invalidKey text)) ↔
      HasShortSecret key algorithm := by
  constructor
  · rintro ⟨text, refused⟩
    rcases sign_cases key algorithm input with
      ⟨_, answer⟩ | ⟨short, _⟩ | ⟨primitive, _, answer⟩
    · simp [answer, misfit] at refused
    · exact short
    · obtain ⟨_, _, foreign⟩ := mapError_eq_error_iff.mp (answer.symm.trans refused)
      contradiction
  · exact fun short => short.sign_eq input

end Signing

end SigningKey

end Jose
