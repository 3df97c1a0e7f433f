import Jose.Jws
import Jose.Proofs.Header
import Jose.Proofs.Key.Jwk
import Jose.Proofs.Key.Resolution
import Jose.Proofs.Key.Signature
import Jose.Proofs.Token

/-!
What signing gives. A signed token describes itself: its first segment says which algorithm made the
third, and the two segments before the third are what was signed.
-/

namespace Jose

def Token.header? (token : Token) : Option JwsHeader := do
  let first ← token.segments.head?
  let octets ← (Base64.decodeUrl first).toOption
  (JwsHeader.record.ofBytes octets).toOption

def Token.isUnsigned (token : Token) : Bool := token.header?.any JwsHeader.isUnsigned

theorem SignatureAlgorithm.name_ne_unsignedName (algorithm : SignatureAlgorithm) :
    algorithm.name ≠ unsignedName := by
  cases algorithm <;> decide

namespace Token

theorem header?_ofSegments (header : JwsHeader) (rest : List Bytes) :
    (Token.ofSegments ((header.toJson.encode :: rest).map Base64.encodeUrl)).header? =
      some header := by
  rw [header?, segments_ofSegments (by simp), List.map_cons]
  simp [Except.toOption, JwsHeader.ofBytes_toJson]

end Token

namespace Jws

variable {config : Config} {source : KeySource} {claims : Claims} {choices : JwsChoices}

section Signers

theorem signer?_eq_none_iff {resolution : Resolution SigningKey} :
    signer? config choices resolution = .ok none ↔
      (∃ absence, resolution = .unavailable absence) ∧ config.unsignedFallback = true ∧
        choices.algorithm = none := by
  cases resolution with
  | key key => simp [signer?]
  | unavailable absence =>
      cases fallback : config.unsignedFallback with
      | false => simp [signer?, fallback]
      | true => cases asked : choices.algorithm <;> simp [signer?, fallback, asked]

theorem signer?_eq_some_iff {resolution : Resolution SigningKey} {signer : Signer} :
    signer? config choices resolution = .ok (some signer) ↔
      ∃ key, resolution = .key key ∧ signer = ⟨key, algorithmFor config choices key⟩ := by
  cases resolution with
  | key key => simp [signer?, eq_comm]
  | unavailable absence =>
      cases fallback : config.unsignedFallback with
      | false => simp [signer?, fallback]
      | true => cases asked : choices.algorithm <;> simp [signer?, fallback, asked]

theorem signer?_eq_error (absence : Absence)
    (refused : ¬ (config.unsignedFallback = true ∧ choices.algorithm = none)) :
    ∃ reason, signer? config choices (.unavailable absence) =
      .error (.keyResolution .signing reason) := by
  cases fallback : config.unsignedFallback with
  | false => exact ⟨absence.reason, by simp [signer?, fallback]⟩
  | true =>
      cases asked : choices.algorithm with
      | none => exact absurd ⟨fallback, asked⟩ refused
      | some algorithm =>
          exact ⟨explicitReason absence algorithm, by simp [signer?, fallback, asked]⟩

theorem signature_none (input : Bytes) :
    signature none input = ⟨[.event .unsignedToken], .done []⟩ := rfl

theorem signature_eq_done_iff {signer : Option Signer} {input octets : Bytes} :
    (signature signer input).outcome = .done octets ↔
      (signer = none ∧ octets = []) ∨
        ∃ made, signer = some made ∧ made.key.sign made.algorithm input = .ok octets := by
  cases signer with
  | none => simp [signature_none, eq_comm]
  | some made => simp [signature]

end Signers

def contents (header : JwsHeader) (claims : Claims) (signature : Bytes) : List Bytes :=
  [header.toJson.encode, claims.payload, signature]

theorem sign_eq_done_iff {token : Token} :
    (sign config source claims choices).outcome = .done token ↔
      ∃ resolution signer octets,
        (config.resolveSigning source choices.keyId).outcome = .done resolution ∧
        signer? config choices resolution = .ok signer ∧
        (signature signer (signingInput (header choices signer) claims)).outcome = .done octets ∧
        token = .ofSegments ((contents (header choices signer) claims octets).map
          Base64.encodeUrl) := by
  simp only [sign, Build.bind_eq_done, Build.outcome_ofExcept_eq_done, Build.outcome_report,
    Build.outcome_pure]
  constructor
  · rintro ⟨resolution, resolved, signer, chosen, octets, made, _, _, same⟩
    injection same with same
    exact ⟨resolution, signer, octets, resolved, chosen, made, same.symm⟩
  · rintro ⟨resolution, signer, octets, resolved, chosen, made, same⟩
    exact ⟨resolution, resolved, signer, chosen, octets, made, (), trivial, same ▸ rfl⟩

theorem isUnsigned_contents (choices : JwsChoices) (signer : Option Signer) (claims : Claims)
    (octets : Bytes) :
    (Token.ofSegments ((contents (header choices signer) claims octets).map
      Base64.encodeUrl)).isUnsigned = signer.isNone := by
  rw [Token.isUnsigned, contents, Token.header?_ofSegments]
  cases signer with
  | none => rfl
  | some signer => simp [header, JwsHeader.isUnsigned, JwsHeader.withKeyId, JwsHeader.signed,
      SignatureAlgorithm.name_ne_unsignedName]

theorem signingInput_eq (header : JwsHeader) (claims : Claims) :
    signingInput header claims = Bytes.ofText (Base64.encodeUrl header.toJson.encode ++ "." ++
      Base64.encodeUrl claims.payload) := by
  rw [signingInput, signingSegments, Token.encode, Token.ofSegments_two]

theorem sign_of_key {key : SigningKey} {octets : Bytes}
    (resolved : (config.resolveSigning source choices.keyId).outcome = .done (.key key))
    (signed : key.sign (algorithmFor config choices key) (signingInput
      (header choices (some ⟨key, algorithmFor config choices key⟩)) claims) = .ok octets) :
    ∃ token, (sign config source claims choices).outcome = .done token :=
  ⟨_, sign_eq_done_iff.mpr ⟨.key key, some ⟨key, algorithmFor config choices key⟩, octets, resolved,
    rfl, signature_eq_done_iff.mpr (Or.inr ⟨_, rfl, signed⟩), rfl⟩⟩

theorem sign_of_secret {secret : Bytes}
    (resolved : (config.resolveSigning source choices.keyId).outcome =
      .done (.key (.hmac secret)))
    (fits : (SigningKey.hmac secret).supports (algorithmFor config choices (.hmac secret)) = true)
    (long : (algorithmFor config choices (.hmac secret)).leastSecret?.getD 0 ≤ secret.length) :
    ∃ token, (sign config source claims choices).outcome = .done token :=
  sign_of_key resolved (SigningKey.sign_hmac fits long _)

structure IsSelfDescribing (config : Config) (source : KeySource) (claims : Claims)
    (choices : JwsChoices) (token : Token) (header : JwsHeader) (first second third : String) :
    Prop where
  ascii : ∀ char ∈ token.text.toList, char.toNat < 128
  segments : token.segments = [first, second, third]
  text : token.text = first ++ "." ++ second ++ "." ++ third
  keyId : header.kid = choices.keyId
  protectedText : Base64.decodeUrl first = .ok (Json.encode (.object
    ([("alg", .text header.alg), ("typ", .text "JWT")] ++ optionalMember "kid" choices.keyId)))
  parsed : (Base64.decodeUrl first).toOption.bind
    (fun octets => (JwsHeader.record.ofBytes octets).toOption) = some header
  payload : Base64.decodeUrl second = .ok claims.toJson.encode
  signature : (header.alg = "none" ∧ third = "") ∨
    ∃ key algorithm octets,
      (config.resolveSigning source choices.keyId).outcome = .done (.key key) ∧
      header.alg = SignatureAlgorithm.name algorithm ∧
      key.sign algorithm (Bytes.ofText (first ++ "." ++ second)) = .ok octets ∧
      octets ≠ [] ∧ Base64.decodeUrl third = .ok octets

theorem signature_of_header {resolution : Resolution SigningKey} {signer : Option Signer}
    {octets : Bytes}
    (resolved : (config.resolveSigning source choices.keyId).outcome = .done resolution)
    (chosen : signer? config choices resolution = .ok signer)
    (made : (signature signer (signingInput (header choices signer) claims)).outcome =
      .done octets) :
    ((header choices signer).alg = "none" ∧ octets = []) ∨
      ∃ key algorithm, (config.resolveSigning source choices.keyId).outcome = .done (.key key) ∧
        (header choices signer).alg = SignatureAlgorithm.name algorithm ∧
        key.sign algorithm (signingInput (header choices signer) claims) = .ok octets := by
  rcases signature_eq_done_iff.mp made with ⟨rfl, rfl⟩ | ⟨maker, rfl, signed⟩
  · exact Or.inl ⟨rfl, rfl⟩
  · obtain ⟨key, rfl, rfl⟩ := signer?_eq_some_iff.mp chosen
    exact Or.inr ⟨key, algorithmFor config choices key, resolved, rfl, signed⟩

/-- Every token that signing gives describes itself. -/
theorem sign_isSelfDescribing {token : Token}
    (signed : (sign config source claims choices).outcome = .done token) :
    ∃ header first second third,
      IsSelfDescribing config source claims choices token header first second third := by
  obtain ⟨resolution, signer, octets, resolved, chosen, made, rfl⟩ := sign_eq_done_iff.mp signed
  have toJson : (header choices signer).toJson = .object
      ([("alg", .text (header choices signer).alg), ("typ", .text "JWT")] ++
        optionalMember "kid" choices.keyId) := by
    cases signer <;> rfl
  refine ⟨header choices signer, Base64.encodeUrl (header choices signer).toJson.encode,
    Base64.encodeUrl claims.payload, Base64.encodeUrl octets, ?_⟩
  exact {
    ascii := Token.ofSegments_isAscii _
    segments := Token.segments_ofSegments (by simp [contents])
    text := Token.ofSegments_three _ _ _
    keyId := by cases signer <;> rfl
    protectedText := by rw [Base64.decodeUrl_encodeUrl, toJson]
    parsed := by simp [Except.toOption, JwsHeader.ofBytes_toJson]
    payload := Base64.decodeUrl_encodeUrl _
    signature := by
      rw [← signingInput_eq]
      rcases signature_of_header resolved chosen made with
        ⟨unsigned, rfl⟩ | ⟨key, algorithm, found, named, signed⟩
      · exact Or.inl ⟨unsigned, rfl⟩
      · exact Or.inr ⟨key, algorithm, octets, found, named, signed,
          SigningKey.sign_ne_nil signed, Base64.decodeUrl_encodeUrl _⟩ }

def storedSecret : KeySource :=
  .ofMemory [("secret", (Jwk.ofSecret (some "k") (List.replicate 32 7)).toJson.encode)]

def secretConfig : Config := { Config.standard with signingKey := .jwk "secret" }

theorem storedSecret_resolved :
    (secretConfig.resolveSigning storedSecret (some "k")).outcome =
      .done (.key (.hmac (List.replicate 32 7))) :=
  Config.resolveSigning_usable rfl rfl rfl (Jwk.read_ofSecret (some "k") (List.replicate 32 7))

theorem sign_storedSecret (claims : Claims) :
    ∃ token, (sign secretConfig storedSecret claims ⟨some "k", none⟩).outcome = .done token :=
  sign_of_secret storedSecret_resolved rfl (by decide)

theorem sign_isSelfDescribing_storedSecret :
    ∃ token, (sign secretConfig storedSecret ⟨[("sub", .text "ada")]⟩ ⟨some "k", none⟩).outcome =
        .done token ∧
      ∃ header first second third, IsSelfDescribing secretConfig storedSecret
        ⟨[("sub", .text "ada")]⟩ ⟨some "k", none⟩ token header first second third := by
  obtain ⟨token, signed⟩ := sign_storedSecret ⟨[("sub", .text "ada")]⟩
  exact ⟨token, signed, sign_isSelfDescribing signed⟩

end Jws

end Jose
