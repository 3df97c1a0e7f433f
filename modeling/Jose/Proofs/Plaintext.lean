import Jose.Proofs.Alike
import Jose.Proofs.Chain
import Jose.Proofs.Selection

/-!
What an encrypted token says of its plaintext. The header names a content type exactly where the
plaintext is a signed token; its other members are what was chosen last for the encryption, and
nothing that was chosen for the signature.
-/

namespace Jose

def Token.IsSigned (token : Token) : Prop :=
  token.segments.length = 3 ∧
    (∀ segment ∈ token.segments, ∃ content, Base64.decodeUrl segment = .ok content) ∧
    token.header?.isSome = true

def Bytes.IsSignedToken (octets : Bytes) : Prop :=
  ∃ token : Token, octets = token.encode ∧ token.IsSigned

theorem Token.encode_injective {left right : Token} (same : left.encode = right.encode) :
    left = right := by
  have texts : some left.text = some right.text := by
    rw [← Bytes.text?_ofText left.text, ← Bytes.text?_ofText right.text]
    exact congrArg Bytes.text? same
  cases left
  cases right
  exact congrArg Token.mk (Option.some.inj texts)

theorem Text.pieces_first (mark char : Char) (different : char ≠ mark) (rest : List Char) :
    ∃ piece others, pieces mark (char :: rest) = (char :: piece) :: others := by
  cases cut : pieces mark rest with
  | nil => exact ⟨[], [], by simp [pieces, different, cut]⟩
  | cons first others => exact ⟨first, others, pieces_cons_ne different cut⟩

theorem Base64.decodeUrl_brace (rest : List Char) :
    ∃ fault, decodeUrl (String.ofList ('\x7b' :: rest)) = .error fault := by
  have octets : Bytes.ofText (String.ofList ('\x7b' :: rest)) = 123 :: Bytes.ofChars rest := by
    rw [Bytes.ofText_ofList, Bytes.ofChars_cons, Bytes.utf8EncodeChar_ascii (by decide)]
    rfl
  rw [decodeUrl, octets]
  exact decode_foreign (by decide) (by decide) _

/-- The claims start with a brace, which no segment does. -/
theorem Claims.payload_not_isSignedToken (claims : Claims) : ¬ claims.payload.IsSignedToken := by
  rintro ⟨token, same, _, decodes, _⟩
  obtain ⟨rest, chars⟩ : ∃ rest, claims.toJson.chars = '\x7b' :: rest := by
    rw [toJson]
    cases claims.entries with
    | nil => exact ⟨_, by rw [Json.chars]⟩
    | cons entry others => exact ⟨_, by rw [Json.chars]; rfl⟩
  have text : token = ⟨String.ofList ('\x7b' :: rest)⟩ := by
    rw [← chars]
    exact Token.encode_injective same.symm
  obtain ⟨piece, others, cut⟩ := Text.pieces_first '.' '\x7b' (by decide) rest
  have first : String.ofList ('\x7b' :: piece) ∈ token.segments := by
    rw [text, Token.segments, String.toList_ofList, cut]
    simp
  obtain ⟨content, decoded⟩ := decodes _ first
  obtain ⟨fault, refused⟩ := Base64.decodeUrl_brace piece
  rw [refused] at decoded
  contradiction

theorem Jws.isSigned_of_sign {config : Config} {source : KeySource} {claims : Claims}
    {choices : JwsChoices} {token : Token}
    (signed : (sign config source claims choices).outcome = .done token) : token.IsSigned := by
  obtain ⟨_, signer, octets, _, _, _, rfl⟩ := sign_eq_done_iff.mp signed
  refine ⟨?_, ?_, ?_⟩
  · rw [Token.segments_ofSegments (by simp [contents])]
    rfl
  · intro segment member
    rw [Token.segments_ofSegments (by simp [contents]), List.mem_map] at member
    obtain ⟨content, _, rfl⟩ := member
    exact ⟨content, Base64.decodeUrl_encodeUrl content⟩
  · rw [contents, Token.header?_ofSegments]
    rfl

namespace JwePayload

variable {issuer : Issuer} {entry : Chain} {payload : JwePayload}

def contentType : JwePayload → Option String
  | claims _ => none
  | nested _ => some tokenType

theorem IsFrom.isSignedToken_iff (entered : payload.IsFrom issuer entry) :
    payload.plaintext.IsSignedToken ↔ payload.isNested = true := by
  cases entered with
  | claims finished enters =>
      simp only [plaintext, isNested, Bool.false_eq_true, iff_false]
      exact Claims.payload_not_isSignedToken _
  | signedAtOnce finished signed =>
      simp only [isNested, iff_true]
      exact ⟨_, rfl, Jws.isSigned_of_sign signed⟩
  | signed finished onlySets signed =>
      simp only [isNested, iff_true]
      exact ⟨_, rfl, Jws.isSigned_of_sign signed⟩

theorem IsFrom.innerSign_iff (entered : payload.IsFrom issuer entry) :
    (∃ step ∈ entry, step.2 = .innerSign) ↔ payload.isNested = true := by
  cases entered with
  | @claims calls finishing move claims finished enters =>
      simp only [isNested, Bool.false_eq_true, iff_false]
      rintro ⟨step, member, signs⟩
      rcases List.mem_append.mp member with call | last
      · have called := finished.onlyCalls step call
        rw [signs] at called
        contradiction
      · rw [List.mem_singleton.mp last] at signs
        rcases enters with rfl | rfl <;> contradiction
  | signedAtOnce finished signed => simp [isNested]
  | @signed calls setters finishing signing claims token finished onlySets signed =>
      simp only [isNested, iff_true]
      exact ⟨(signing, .innerSign), by simp, rfl⟩

end JwePayload

/-- The header of what a chain encrypts; `own` are its moves once it is about to encrypt. -/
def Chain.header (config : Config) (own : Chain) (payload : JwePayload) : JweHeader where
  alg := .rsaOaep256
  enc := (Chain.lastSet Move.contentAlgorithm? own).getD config.contentAlgorithm
  cty := payload.contentType
  kid := Chain.lastSet Move.keyId? own

theorem Chain.header_eq (config : Config) (own : Chain) (payload : JwePayload)
    (key : EncryptionKey) :
    Jwe.header config ⟨Chain.lastSet Move.keyId? own, Chain.lastSet Move.contentAlgorithm? own⟩
      payload.isNested key = Chain.header config own payload := by
  cases key
  cases payload <;> rfl

def Move.belongsToEncryption (move : Move) : Bool := move.setsEncryption || move.encrypts

structure Token.IsTruthful (config : Config) (chain own : Chain) (payload : JwePayload)
    (around : Surroundings) (token : Token) : Prop where
  plaintext : ∃ key, (config.resolveEncryption around.source
      (Chain.lastSet Move.keyId? own)).outcome = .done (.key key) ∧
    Jwe.tokenFor key (Chain.header config own payload) payload.plaintext around.entropy = .ok token
  opened : ∀ key : Rsa.PrivateKey, key.Unwraps →
    (config.resolveEncryption around.source (Chain.lastSet Move.keyId? own)).outcome =
      .done (.key (.rsa key.publicKey)) →
    ∃ contentKey, Jwe.open? key token = some ⟨contentKey, payload.plaintext⟩
  octets : token.protectedOctets? = some (Json.encode (.object
    ([("alg", .text "RSA-OAEP-256"), ("enc", .text (Chain.header config own payload).enc.name)] ++
      optionalMember "cty" payload.contentType ++
      optionalMember "kid" (Chain.lastSet Move.keyId? own))))
  readsBack : token.jweHeader? = some (Chain.header config own payload)
  contentType : payload.contentType = some "JWT" ∨ payload.contentType = none
  nested : payload.contentType = some "JWT" ↔ payload.plaintext.IsSignedToken
  signed : payload.contentType = some "JWT" ↔ ∃ step ∈ chain, step.2 = .innerSign

namespace Issuer

variable {issuer : Issuer} {moves : Chain} {builder : Builder} {around : Surroundings}
  {move : Move} {token : Token}

/-- A chain that ends with an encrypted token is cut where the encrypting stage begins. -/
theorem exists_entry (reached : (Builder.claims issuer.claims).after? moves = some builder)
    (encrypts : move.encrypts = true) (made : builder.token? around move = some token) :
    ∃ entry own payload, moves ++ [(around, move)] = entry ++ own ∧
      JwePayload.IsFrom issuer entry payload ∧
      (∀ step ∈ own, step.2.belongsToEncryption = true) ∧
      (Jwe.encrypt issuer.config around.source around.entropy payload.plaintext payload.isNested
        ⟨Chain.lastSet Move.keyId? own, Chain.lastSet Move.contentAlgorithm? own⟩).outcome =
          .done token := by
  cases stands_of_after? moves reached with
  | collecting kept onlyCalls =>
      obtain ⟨claims, rfl, finished, encrypted⟩ := ClaimsBuilder.token?_encrypts encrypts made
      rw [kept] at encrypted
      exact ⟨moves ++ [(around, .encrypt)], [], .claims claims, (List.append_nil _).symm,
        .claims ⟨onlyCalls, _, reached, finished⟩ (.inr rfl), by simp, encrypted⟩
  | signing finished onlySets =>
      obtain ⟨_, moved, _⟩ := Builder.token?_eq_some_iff.mp made
      cases move <;> contradiction
  | @encrypting entry setters payload entered onlySets =>
      have encrypted := JweBuilder.token?_encrypts encrypts made
      have noId : move.keyId? = none := by cases move <;> first | rfl | contradiction
      have noAlgorithm : move.contentAlgorithm? = none := by
        cases move <;> first | rfl | contradiction
      have setting : ∀ step ∈ setters, step.2.belongsToEncryption = true := by
        intro step member
        simp [Move.belongsToEncryption, onlySets step member]
      have last : move.belongsToEncryption = true := by simp [Move.belongsToEncryption, encrypts]
      refine ⟨entry, setters ++ [(around, move)], payload, List.append_assoc _ _ _, entered,
        forall_snoc setting around move last, ?_⟩
      rw [Chain.lastSet_snoc, Chain.lastSet_snoc, noId, noAlgorithm]
      exact encrypted

def keyed : Issuer := ⟨ClaimsBuilder.keyed.config⟩

def nestingChain : Chain :=
  [(.still, .jws), (.still, .innerSign), (.still, .contentAlgorithm .a128gcm)]

theorem nestingChain_reached :
    ∃ signed, (Builder.claims keyed.claims).after? nestingChain = some (.jwe
      ⟨keyed.config, .nested signed, ⟨none, some .a128gcm⟩⟩) := by
  obtain ⟨claims, finished⟩ := ClaimsBuilder.finish_done .still keyed.claims
  obtain ⟨signed, sign⟩ := storedKeys_sign claims
  have collected : (Builder.claims keyed.claims).next? .still .jws =
      some (.jws ⟨keyed.config, claims, .blank⟩) := by
    refine Builder.next?_eq_some_iff.mpr ⟨_, rfl, ?_⟩
    simp only [Build.bind_eq_done, ClaimsBuilder.jws_eq_done_iff]
    exact ⟨_, ⟨claims, finished, rfl⟩, rfl⟩
  have nested : (Builder.jws ⟨keyed.config, claims, .blank⟩).next? .still .innerSign =
      some (.jwe ⟨keyed.config, .nested signed, .blank⟩) := by
    refine Builder.next?_eq_some_iff.mpr ⟨_, rfl, ?_⟩
    simp only [Build.bind_eq_done, JwsBuilder.innerSign]
    exact ⟨_, ⟨signed, sign, rfl⟩, rfl⟩
  refine ⟨signed, ?_⟩
  rw [nestingChain, Builder.after?, List.foldlM_cons, collected]
  rw [Option.bind_eq_bind, Option.bind_some, List.foldlM_cons, nested]
  rfl

end Issuer

end Jose
