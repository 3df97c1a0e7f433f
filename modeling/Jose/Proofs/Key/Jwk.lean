import Jose.Key.Resolution
import Jose.Proofs.Base64
import Jose.Proofs.BigEndian
import Jose.Proofs.Json.Layout

/-!
Keys that are written as JSON Web Keys are read back, since a key is told by what stands under the
names of its fields: shared secrets for signing, and RSA public keys for wrapping.
-/

namespace Jose

namespace Json

def AreTexts (members : Members Json) : Prop := ∀ member ∈ members, ∃ text, member.2 = .text text

theorem AreTexts.isWhole {members : Members Json} (texts : AreTexts members) :
    (Json.object members).IsWhole := by
  simp only [IsWhole]
  induction members with
  | nil => trivial
  | cons member rest ih =>
      obtain ⟨text, same⟩ := texts member (by simp)
      rw [HoldWhole, same]
      exact ⟨trivial, ih fun other inside => texts other (by simp [inside])⟩

theorem AreTexts.holdDistinct {members : Members Json} (texts : AreTexts members) :
    HoldDistinct members := by
  induction members with
  | nil => trivial
  | cons member rest ih =>
      obtain ⟨text, same⟩ := texts member (by simp)
      rw [HoldDistinct, same]
      exact ⟨trivial, ih fun other inside => texts other (by simp [inside])⟩

theorem AreTexts.depth_eq {members : Members Json} (texts : AreTexts members) :
    (Json.object members).depth = 1 := by
  simp only [depth]
  induction members with
  | nil => rfl
  | cons member rest ih =>
      obtain ⟨text, same⟩ := texts member (by simp)
      have others := ih fun other inside => texts other (by simp [inside])
      simp only [depthOfMembers, same, depth]
      omega

end Json

def optionalMembers : List (String × Option String) → Members Json
  | [] => []
  | (name, value) :: rest => optionalMember name value ++ optionalMembers rest

theorem mem_optionalMembers {options : List (String × Option String)} {name : String}
    {item : Json} :
    (name, item) ∈ optionalMembers options ↔
      ∃ text, item = .text text ∧ (name, some text) ∈ options := by
  induction options with
  | nil => simp [optionalMembers]
  | cons option rest ih =>
      obtain ⟨first, value⟩ := option
      cases value with
      | none => simp [optionalMembers, optionalMember, ih]
      | some held =>
          simp only [optionalMembers, optionalMember, List.singleton_append, List.mem_cons, ih,
            Prod.mk.injEq, Option.some.injEq]
          constructor
          · rintro (⟨rfl, rfl⟩ | ⟨text, rfl, inside⟩)
            · exact ⟨held, rfl, .inl ⟨rfl, rfl⟩⟩
            · exact ⟨text, rfl, .inr inside⟩
          · rintro ⟨text, rfl, ⟨rfl, rfl⟩ | inside⟩
            · exact .inl ⟨rfl, rfl⟩
            · exact .inr ⟨text, rfl, inside⟩

theorem optionalMembers_areTexts (options : List (String × Option String)) :
    Json.AreTexts (optionalMembers options) := by
  rintro ⟨name, item⟩ inside
  obtain ⟨text, rfl, _⟩ := mem_optionalMembers.mp inside
  exact ⟨text, rfl⟩

theorem names_optionalMembers (options : List (String × Option String)) :
    (optionalMembers options).names.Sublist (options.map Prod.fst) := by
  induction options with
  | nil => simp [optionalMembers, Members.names]
  | cons option rest ih =>
      obtain ⟨name, value⟩ := option
      cases value with
      | none => exact List.Sublist.cons name ih
      | some text => exact List.Sublist.cons_cons name ih

namespace Jwk

def options (key : Jwk) : List (String × Option String) :=
  [("kid", key.kid), ("alg", key.alg), ("use", key.keyUse), ("n", key.n), ("e", key.e),
    ("d", key.d), ("p", key.p), ("q", key.q), ("crv", key.crv), ("x", key.x), ("y", key.y),
    ("k", key.k)]

def members (key : Jwk) : Members Json := ("kty", .text key.kty) :: optionalMembers key.options

def entries (key : Jwk) : Members (Option String) := ("kty", some key.kty) :: key.options

theorem names_entries (key : Jwk) : key.entries.names = record.fields := rfl

def layout : record.Layout (Option (Option String)) where
  view name key := key.entries.get? name
  determined := by
    rintro ⟨⟩ ⟨⟩ same
    simp [record, entries, options, Members.get?_cons] at same
    simp [same]
  slots := by
    intro name known
    simp only [record, List.mem_cons, List.not_mem_nil, or_false] at known
    rcases known with
      rfl | rfl | rfl | rfl | rfl | rfl | rfl | rfl | rfl | rfl | rfl | rfl | rfl <;>
    exact .mk _ _ (fun _ _ _ => rfl)
      (fun _ _ other apart => by simp [entries, options, Members.get?_cons, apart])
      fun _ _ _ => rfl

theorem view_eq_iff {key : Jwk} {name : String} {value : Option String} :
    layout.view name key = some value ↔ (name, value) ∈ key.entries :=
  Members.get?_eq_some_iff (by rw [Members.IsDistinct, names_entries]; decide)

theorem layout_shows {key : Jwk} {origin : Origin} {name text : String}
    (held : (name, some text) ∈ key.entries) :
    layout.Shows origin key name (.text (.ok text)) := by
  have known : name ∈ record.fields := key.names_entries ▸ List.mem_map_of_mem held
  intro value
  rw [view_eq_iff.mpr held]
  simp only [record, List.mem_cons, List.not_mem_nil, or_false] at known
  rcases known with rfl | rfl | rfl | rfl | rfl | rfl | rfl | rfl | rfl | rfl | rfl | rfl | rfl <;>
    exact ⟨_, rfl, rfl⟩

theorem toJson_eq (key : Jwk) : key.toJson = .object key.members := by
  simp [toJson, members, options, optionalMembers]

theorem members_areTexts (key : Jwk) : Json.AreTexts key.members := by
  intro member inside
  rcases List.mem_cons.mp inside with rfl | later
  · exact ⟨key.kty, rfl⟩
  · exact optionalMembers_areTexts key.options member later

theorem names_members (key : Jwk) : key.members.names.Sublist record.fields :=
  List.Sublist.cons_cons "kty" (names_optionalMembers key.options)

theorem members_isDistinct (key : Jwk) : key.members.IsDistinct :=
  (names_members key).nodup (by decide)

/-- Present members are read back, and the absent ones are those of a blank key. -/
theorem ofJson_toJson (key : Jwk) : record.ofJson key.toJson = .ok key := by
  rw [toJson_eq, layout.ofJson_eq_ok_iff key.members_isDistinct (by simp [record])]
  refine ⟨⟨?_, ?_⟩, by simp [record, members]⟩
  · intro member inside _
    obtain ⟨⟨name, item⟩, written, rfl⟩ := List.mem_map.mp inside
    rcases List.mem_cons.mp written with first | later
    · injection first with label same
      subst label same
      exact layout_shows List.mem_cons_self
    · obtain ⟨text, rfl, held⟩ := mem_optionalMembers.mp later
      exact layout_shows (List.mem_cons_of_mem _ held)
  · intro name known absent
    rw [Document.names_ofValues] at absent
    rw [← key.names_entries] at known
    obtain ⟨⟨name, value⟩, held, rfl⟩ := List.mem_map.mp known
    rcases List.mem_cons.mp held with first | later
    · injection first with label
      exact absurd (label ▸ List.mem_cons_self) absent
    · cases value with
      | some text =>
          have written := mem_optionalMembers.mpr ⟨text, rfl, later⟩
          exact absurd (List.mem_map_of_mem (List.mem_cons_of_mem _ written)) absent
      | none =>
          -- What the key does not have, a blank key does not have either.
          have emptied : (blank "").options = key.options.map fun entry => (entry.1, none) := rfl
          have left : (name, none) ∈ (blank "").options :=
            emptied ▸ List.mem_map.mpr ⟨_, later, rfl⟩
          rw [view_eq_iff.mpr held]
          exact (view_eq_iff.mpr (List.mem_cons_of_mem _ left)).symm

theorem get?_keys (key : Jwk) : key.toJson.get? "keys" = none := by
  rw [toJson_eq]
  apply List.lookup_eq_none_iff.mpr
  intro member inside
  have field : member.1 ∈ record.fields :=
    (names_members key).subset (List.mem_map_of_mem inside)
  simp only [bne_iff_ne, ne_eq]
  intro same
  rw [← same] at field
  exact absurd field (by decide)

/-- The members are distinct texts, so that the text of the key is read back as its value. -/
theorem decode_toJson (key : Jwk) : Json.decode key.toJson.encode = .ok key.toJson := by
  rw [toJson_eq]
  apply Json.decode_encode
  · exact key.members_areTexts.isWhole
  · exact ⟨key.members_isDistinct, key.members_areTexts.holdDistinct⟩
  · rw [key.members_areTexts.depth_eq]
    decide

theorem ofBytes_toJson (key : Jwk) : JwkSet.ofBytes key.toJson.encode = .ok ⟨[key]⟩ := by
  simp [JwkSet.ofBytes, decode_toJson, JwkSet.ofJson, get?_keys, ofJson_toJson]

def ofSecret (keyId : Option String) (secret : Bytes) : Jwk :=
  { blank "oct" with kid := keyId, k := some (Base64.encodeUrl secret) }

def ofPublicKey (keyId : Option String) (key : Rsa.PublicKey) : Jwk :=
  { blank "RSA" with
    kid := keyId
    n := some (Base64.encodeUrl (Bytes.ofNat key.modulus))
    e := some (Base64.encodeUrl (Bytes.ofNat key.exponent)) }

theorem ofBytes_ofSecret (keyId : Option String) (secret : Bytes) :
    JwkSet.ofBytes (ofSecret keyId secret).toJson.encode = .ok ⟨[ofSecret keyId secret]⟩ :=
  ofBytes_toJson _

theorem ofBytes_ofPublicKey (keyId : Option String) (key : Rsa.PublicKey) :
    JwkSet.ofBytes (ofPublicKey keyId key).toJson.encode = .ok ⟨[ofPublicKey keyId key]⟩ :=
  ofBytes_toJson _

theorem select_single (key : Jwk) : JwkSet.select ⟨[key]⟩ key.kid = .ok key := by
  cases keyId : key.kid <;> simp [JwkSet.select, keyId]

/-- A secret is read back from its key, if the id of the key is asked for. -/
theorem read_ofSecret (keyId : Option String) (secret : Bytes) :
    KeyReader.signing.read .jwk keyId (ofSecret keyId secret).toJson.encode =
      .ok (.hmac secret) := by
  have selected : JwkSet.select ⟨[ofSecret keyId secret]⟩ keyId = .ok (ofSecret keyId secret) :=
    select_single (ofSecret keyId secret)
  simp only [KeyReader.read, ofBytes_ofSecret, bind, Except.bind, selected]
  simp [KeyReader.signing, toSigningKey, ofSecret, blank, octets, Except.map]

theorem read_ofPublicKey (keyId : Option String) {key : Rsa.PublicKey}
    (valid : Rsa.PublicKey.make key.modulus key.exponent = .ok key) :
    KeyReader.encryption.read .jwk keyId (ofPublicKey keyId key).toJson.encode =
      .ok (.rsa key) := by
  have selected : JwkSet.select ⟨[ofPublicKey keyId key]⟩ keyId = .ok (ofPublicKey keyId key) :=
    select_single (ofPublicKey keyId key)
  simp only [KeyReader.read, ofBytes_ofPublicKey, bind, Except.bind, selected]
  simp [KeyReader.encryption, toEncryptionKey, ofPublicKey, blank, number, octets, Except.map,
    rsaResult, valid, bind, Except.bind, Except.mapError]

end Jwk

end Jose
