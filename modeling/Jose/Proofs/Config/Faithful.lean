import Jose.Proofs.Config
import Jose.Proofs.Json.Edit
import Mathlib.Logic.Relation

/-!
Configurations are read back from their documents. Neither the order of the members matters nor what
stands beside them, and a default may be left out, at the outside as well as within the
configuration of a key.
-/

namespace Jose

theorem Document.toOption_written (text : Option String) :
    toOption toText (written (Json.ofOption .text text)) = .ok text := by
  cases text <;> rfl

namespace KeyConfig

def only (name : String) (key : KeyConfig) : KeyConfig :=
  match name with
  | "location" => { standard with location := key.location }
  | "format" => { standard with format := key.format }
  | "key_id" => { standard with keyId := key.keyId }
  | "available" => { standard with available := key.available }
  | _ => standard

def layout : record.Layout KeyConfig where
  view := only
  determined := by
    rintro ⟨⟩ ⟨⟩ same
    simpa [record, only, standard] using same
  slots := by
    intro name known
    simp only [record, List.mem_cons, List.not_mem_nil, or_false] at known
    rcases known with rfl | rfl | rfl | rfl <;>
    exact .mk _ _ (fun _ _ _ => rfl)
      (fun _ _ other apart => by unfold only; split <;> first | rfl | contradiction)
      fun _ _ _ => rfl

def members (key : KeyConfig) : Members Json := (key.toJson.object?).getD []

theorem names_members (key : KeyConfig) : key.members.names = record.fields := rfl

theorem toVariant_format (format : KeyFormat) :
    Document.toVariant .text KeyFormat.known (.text (.ok format.name)) = .ok format := by
  cases format <;> rfl

theorem members_shown (key : KeyConfig) :
    ∀ member ∈ key.members, layout.Shows .text key member.1 (.written member.2) := by
  simp only [members, toJson, Json.object?, Option.getD_some, List.forall_mem_cons,
    List.not_mem_nil, false_implies, implies_true, and_true]
  refine ⟨?_, ?_, ?_, ?_⟩ <;> intro value
  · exact ⟨_, map_eq_ok_iff.mpr ⟨_, Document.toOption_written key.location, rfl⟩, rfl⟩
  · exact ⟨_, map_eq_ok_iff.mpr ⟨_, toVariant_format key.format, rfl⟩, rfl⟩
  · exact ⟨_, map_eq_ok_iff.mpr ⟨_, Document.toOption_written key.keyId, rfl⟩, rfl⟩
  · exact ⟨_, rfl, rfl⟩

theorem ofWritten_toJson (key : KeyConfig) : record.ofWritten key.toJson = .ok key :=
  layout.ofWritten_fields rfl key.names_members (by decide) key.members_shown

theorem ofWritten_edit {left right : Members Json} (edit : record.Edit standard.members left right)
    {key : KeyConfig} (read : record.ofWritten (.object left) = .ok key) :
    record.ofWritten (.object right) = .ok key :=
  layout.ofWritten_edit rfl standard.members_shown edit read

end KeyConfig

def KeyRole.member : KeyRole → String
  | .signing => "signing_key"
  | .keyEncryption => "encryption_key"

namespace Config

def only (name : String) (config : Config) : Config :=
  match name with
  | "signing_key" => { standard with signingKey := config.signingKey }
  | "encryption_key" => { standard with encryptionKey := config.encryptionKey }
  | "token_lifespan_seconds" => { standard with lifespan := config.lifespan }
  | "issuer" => { standard with issuer := config.issuer }
  | "audience" => { standard with audience := config.audience }
  | "signature_algorithm" => { standard with signatureAlgorithm := config.signatureAlgorithm }
  | "content_encryption_algorithm" =>
      { standard with contentAlgorithm := config.contentAlgorithm }
  | "allow_unsigned_fallback" => { standard with unsignedFallback := config.unsignedFallback }
  | _ => standard

def layout : record.Layout Config where
  view := only
  determined := by
    rintro ⟨⟩ ⟨⟩ same
    simpa [record, only, standard] using same
  slots := by
    intro name known
    simp only [record, List.mem_cons, List.not_mem_nil, or_false] at known
    rcases known with rfl | rfl | rfl | rfl | rfl | rfl | rfl | rfl <;>
    exact .mk _ _ (fun _ _ _ => rfl)
      (fun _ _ other apart => by unfold only; split <;> first | rfl | contradiction)
      fun _ _ _ => rfl

def members (config : Config) : Members Json := (config.toJson.object?).getD []

theorem names_members (config : Config) : config.members.names = record.fields := rfl

theorem toUnsigned_written {lifespan : Nat} (fits : lifespan ≤ 0xffffffffffffffff) :
    Document.toUnsigned (.written (.int lifespan)) = .ok lifespan := by
  have read : (Number.int lifespan).reread = some (.int lifespan) := by
    refine Number.reread_int ?_ ?_
    · simp only [Number.leastInt]
      omega
    · simp only [Number.greatestInt]
      omega
  rw [Json.int, Document.written, read]
  simp [Document.toUnsigned]

theorem toOption_signatureAlgorithm (algorithm : Option SignatureAlgorithm) :
    Document.toOption (Document.toVariant .text SignatureAlgorithm.known)
        (.written (Json.ofOption (fun algorithm => .text algorithm.name) algorithm)) =
      .ok algorithm := by
  rcases algorithm with _ | algorithm
  · rfl
  · cases algorithm <;> rfl

theorem toVariant_contentAlgorithm (algorithm : ContentAlgorithm) :
    Document.toVariant .text ContentAlgorithm.known (.text (.ok algorithm.name)) =
      .ok algorithm := by
  cases algorithm <;> rfl

theorem members_shown {config : Config} (fits : config.lifespan ≤ 0xffffffffffffffff) :
    ∀ member ∈ config.members, layout.Shows .text config member.1 (.written member.2) := by
  simp only [members, toJson, Json.object?, Option.getD_some, List.forall_mem_cons,
    List.not_mem_nil, false_implies, implies_true, and_true]
  refine ⟨?_, ?_, ?_, ?_, ?_, ?_, ?_, ?_⟩ <;> intro value
  · exact ⟨_, map_eq_ok_iff.mpr ⟨_, config.signingKey.ofWritten_toJson, rfl⟩, rfl⟩
  · exact ⟨_, map_eq_ok_iff.mpr ⟨_, config.encryptionKey.ofWritten_toJson, rfl⟩, rfl⟩
  · exact ⟨_, map_eq_ok_iff.mpr ⟨_, toUnsigned_written fits, rfl⟩, rfl⟩
  · exact ⟨_, map_eq_ok_iff.mpr ⟨_, Document.toOption_written config.issuer, rfl⟩, rfl⟩
  · exact ⟨_, map_eq_ok_iff.mpr ⟨_, Document.toOption_written config.audience, rfl⟩, rfl⟩
  · exact ⟨_, map_eq_ok_iff.mpr ⟨_, toOption_signatureAlgorithm config.signatureAlgorithm, rfl⟩,
      rfl⟩
  · exact ⟨_, map_eq_ok_iff.mpr ⟨_, toVariant_contentAlgorithm config.contentAlgorithm, rfl⟩, rfl⟩
  · exact ⟨_, rfl, rfl⟩

theorem ofWritten_toJson {config : Config} (fits : config.lifespan ≤ 0xffffffffffffffff) :
    record.ofWritten config.toJson = .ok config :=
  layout.ofWritten_fields rfl config.names_members (by decide) (members_shown fits)

inductive Edit : Members Json → Members Json → Prop
  | outer {left right : Members Json} : record.Edit standard.members left right → Edit left right
  | inner (role : KeyRole) {before after left right : Members Json} :
      KeyConfig.record.Edit KeyConfig.standard.members left right →
      Edit (before ++ (role.member, .object left) :: after)
        (before ++ (role.member, .object right) :: after)

theorem set_member (role : KeyRole) {left right : Json}
    (reads : ∀ key, KeyConfig.record.ofWritten left = .ok key →
      KeyConfig.record.ofWritten right = .ok key) (value next : Config)
    (set : record.set .text role.member (.written left) value = .ok next) :
    record.set .text role.member (.written right) value = .ok next := by
  cases role <;>
  · obtain ⟨key, read, made⟩ := map_eq_ok_iff.mp set
    exact map_eq_ok_iff.mpr ⟨key, reads key read, made⟩

theorem ofWritten_edit {left right : Members Json} (edit : Edit left right) {config : Config}
    (read : record.ofWritten (.object left) = .ok config) :
    record.ofWritten (.object right) = .ok config := by
  cases edit with
  | outer edit => exact layout.ofWritten_edit rfl (members_shown (by decide)) edit read
  | inner role edit =>
      exact layout.ofWritten_restated rfl
        (set_member role fun key => KeyConfig.ofWritten_edit edit) read

theorem ofWritten_edits {config : Config} (fits : config.lifespan ≤ 0xffffffffffffffff)
    {members : Members Json} (edits : Relation.ReflTransGen Edit config.members members) :
    record.ofWritten (.object members) = .ok config := by
  induction edits with
  | refl => exact ofWritten_toJson fits
  | tail _ edit read => exact ofWritten_edit edit read

theorem ofText_eq {text : String} {config : Config}
    (read : record.ofBytes (Bytes.ofText text) = .ok config) :
    ofText text = config.validate.map fun _ => config := by
  rw [ofText, read]
  rfl

theorem validate_of_ofText {text : String} {config : Config}
    (accepted : ofText text = .ok config) : config.validate = .ok () := by
  cases read : record.ofBytes (Bytes.ofText text) with
  | error problem => simp [ofText, read] at accepted
  | ok found =>
      rw [ofText_eq read, map_eq_ok_iff] at accepted
      obtain ⟨_, valid, rfl⟩ := accepted
      exact valid

theorem ofText_eq_error {text : String} {error : BuildError}
    (refused : ofText text = .error error) : ∃ reason, error = .config reason := by
  cases read : record.ofBytes (Bytes.ofText text) with
  | error problem =>
      simp only [ofText, read, Except.error.injEq] at refused
      exact ⟨_, refused.symm⟩
  | ok found =>
      rw [ofText_eq read] at refused
      cases valid : found.validate with
      | ok _ => simp [valid, Except.map] at refused
      | error problem =>
          simp only [valid, Except.map, Except.error.injEq] at refused
          exact refused ▸ validate_eq_error valid

structure DecodesFaithfully : Prop where
  written : ∀ config : Config, config.lifespan ≤ 0xffffffffffffffff →
    ofText config.toJson.write = config.validate.map fun _ => config
  edited : ∀ config : Config, config.lifespan ≤ 0xffffffffffffffff → ∀ members : Members Json,
    Relation.ReflTransGen Edit config.members members →
    ofText (Json.object members).write = ofText config.toJson.write
  accepted : ∀ text config, ofText text = .ok config → config.validate = .ok ()
  refused : ∀ text error, ofText text = .error error → ∃ reason, error = .config reason

/-- A configuration is told by its documents: it is read back from its own, with members in another
order, unknown ones beside them or defaults left out, and whatever is read is valid. -/
theorem decodesFaithfully : DecodesFaithfully := by
  have decoded {config : Config} (fits : config.lifespan ≤ 0xffffffffffffffff)
      {members : Members Json} (edits : Relation.ReflTransGen Edit config.members members) :
      ofText (Json.object members).write = config.validate.map fun _ => config :=
    ofText_eq ((record.ofBytes_eq_ofWritten _).trans (ofWritten_edits fits edits))
  refine ⟨?_, ?_, ?_, ?_⟩
  · exact fun config fits => decoded fits .refl
  · exact fun config fits members edits => (decoded fits edits).trans (decoded fits .refl).symm
  · exact fun text config => validate_of_ofText
  · exact fun text error => ofText_eq_error

def signer : Config := { standard with signingKey := .jwk "keys.json", issuer := some "me" }

def terseKey : Members Json :=
  [("format", .text "jwk"), ("location", .text "keys.json"), ("available", .bool true)]

def terse : Members Json :=
  [("note", .number (.real .zero)), ("signing_key", .object terseKey)] ++ List.drop 2 signer.members

theorem signer_terse : Relation.ReflTransGen Edit signer.members terse := by
  have first {left right : Members Json}
      (edit : KeyConfig.record.Edit KeyConfig.standard.members left right) :
      Edit ([] ++ ("signing_key", .object left) :: List.drop 1 signer.members)
        ([] ++ ("signing_key", .object right) :: List.drop 1 signer.members) :=
    .inner .signing edit
  have anonymous : KeyConfig.record.Edit KeyConfig.standard.members
      ([("location", .text "keys.json"), ("format", .text "jwk")] ++
        ("key_id", .null) :: [("available", .bool true)])
      ([("location", .text "keys.json"), ("format", .text "jwk")] ++
        [("available", .bool true)]) :=
    .omitted (by simp [KeyConfig.members, KeyConfig.toJson, Json.object?, KeyConfig.standard,
      Json.ofOption])
  have swapped : KeyConfig.record.Edit KeyConfig.standard.members
      ([("location", .text "keys.json"), ("format", .text "jwk")] ++
        [("available", .bool true)]) terseKey :=
    .reordered (List.Perm.swap _ _ _)
  have omitted : Edit ([("signing_key", .object terseKey)] ++
      ("encryption_key", KeyConfig.standard.toJson) :: List.drop 2 signer.members)
      ([("signing_key", .object terseKey)] ++ List.drop 2 signer.members) :=
    .outer (.omitted (by simp [members, toJson, Json.object?, standard]))
  have added : Edit
      ([] ++ (("signing_key", .object terseKey) :: List.drop 2 signer.members)) terse :=
    .outer (.added _ (by decide))
  exact .head (first anonymous) (.head (first swapped) (.head omitted (.single added)))

theorem decodesFaithfully_terse :
    ofText (Json.object terse).write = .ok signer ∧
      ofText ({ signer with lifespan := 0 } : Config).toJson.write =
        .error (.config "token_lifespan_seconds must be greater than zero") := by
  refine ⟨?_, decodesFaithfully.written { signer with lifespan := 0 } (by decide)⟩
  exact (decodesFaithfully.edited signer (by decide) terse signer_terse).trans
    (decodesFaithfully.written signer (by decide))

end Config

end Jose
