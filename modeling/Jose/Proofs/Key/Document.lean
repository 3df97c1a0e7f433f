import Jose.Proofs.Json.Record
import Jose.Proofs.Key.Failure

/-!
Which documents are read as keys. Besides the two documented shapes, an object with a list of keys
and a key on its own, a key may also be written as a list of its members.
-/

namespace Jose

namespace Json

def IsTextOrNull (value : Json) : Prop := value = .null ∨ ∃ text, value = .text text

def keyMembers : List String :=
  ["kid", "alg", "use", "n", "e", "d", "p", "q", "crv", "x", "y", "k"]

inductive IsKey : Json → Prop
  | object {members : Members Json} : (∃ kty, members.get? "kty" = some (.text kty)) →
      (∀ name ∈ keyMembers, ∀ item, members.get? name = some item → item.IsTextOrNull) →
      IsKey (.object members)

inductive IsKeyRow : Json → Prop
  | list {kty : String} {items : List Json} : items.length ≤ 12 →
      (∀ item ∈ items, item.IsTextOrNull) → IsKeyRow (.list (.text kty :: items))

inductive ListsForKey : Json → Prop
  | single (items : List Json) : ListsForKey (.list items)
  | set {members : Members Json} {keys items : List Json} :
      members.get? "keys" = some (.list keys) → .list items ∈ keys → ListsForKey (.object members)

inductive IsKeyDocument (isKey : Json → Prop) : Json → Prop
  | set {members : Members Json} {keys : List Json} : members.get? "keys" = some (.list keys) →
      (∀ key ∈ keys, isKey key) → IsKeyDocument isKey (.object members)
  | single {value : Json} : value.get? "keys" = none → isKey value → IsKeyDocument isKey value

theorem IsKeyDocument.mono {isKey isOther : Json → Prop} {value : Json}
    (document : value.IsKeyDocument isKey) (widens : ∀ key, isKey key → isOther key) :
    value.IsKeyDocument isOther := by
  cases document with
  | set held keys => exact .set held fun key inside => widens key (keys key inside)
  | single absent key => exact .single absent (widens value key)

/-- Lists apart, a document of keys has the documented shape. -/
theorem IsKeyDocument.ofKeys {value : Json}
    (document : value.IsKeyDocument fun key => key.IsKey ∨ key.IsKeyRow)
    (plain : ¬ value.ListsForKey) : value.IsKeyDocument IsKey := by
  cases document with
  | set held keys =>
      refine .set held fun key inside => (keys key inside).resolve_right ?_
      rintro ⟨⟩
      exact plain (.set held inside)
  | single absent key =>
      refine .single absent (key.resolve_right ?_)
      rintro ⟨⟩
      exact plain (.single _)

end Json

namespace Document

theorem succeeds_toText (value : Json) :
    Succeeds (toText (ofJson value)) ↔ ∃ text, value = .text text := by
  cases value with
  | number number => cases number <;> simp [ofJson, toText, mismatch, found, bind, Except.bind]
  | _ => simp [ofJson, toText, mismatch, found, bind, Except.bind]

theorem toOption_ofJson {value : Json} (present : value ≠ .null) {α : Type} (reader : Reader α) :
    toOption reader (ofJson value) = (reader (ofJson value)).map some := by
  cases value with
  | null => contradiction
  | _ => rfl

theorem succeeds_toOption_toText (value : Json) :
    Succeeds (toOption toText (ofJson value)) ↔ value.IsTextOrNull := by
  by_cases null : value = .null
  · simp [null, ofJson, toOption, Json.IsTextOrNull]
  · rw [toOption_ofJson null, Succeeds.map_iff, succeeds_toText, Json.IsTextOrNull]
    simp [null]

theorem succeeds_toList {α : Type} {reader : Reader α} (value : Json) :
    Succeeds (toList reader (ofJson value)) ↔
      ∃ items, value = .list items ∧ ∀ item ∈ items, Succeeds (reader (ofJson item)) := by
  cases value with
  | list items =>
      have read : toList reader (ofJson (.list items)) =
          (readAll reader (ofItems items)).map id := by
        simp only [ofJson, toList, Option.map_none, refuse]
        cases readAll reader (ofItems items) <;> rfl
      rw [read, Succeeds.map_iff, succeeds_readAll]
      simp
  | number number => cases number <;> simp [ofJson, toList, mismatch, found, bind, Except.bind]
  | _ => simp [ofJson, toList, mismatch, found, bind, Except.bind]

end Document

namespace Jwk

def Takes (name : String) (item : Json) : Prop :=
  if name = "kty" then ∃ text, item = .text text else item.IsTextOrNull

theorem record_judges : record.Judges Takes := by
  intro name known item _ key
  have kty := Document.succeeds_toText item
  have others := Document.succeeds_toOption_toText item
  simp only [record, List.mem_cons, List.not_mem_nil, or_false] at known
  rcases known with rfl | rfl | rfl | rfl | rfl | rfl | rfl | rfl | rfl | rfl | rfl | rfl | rfl <;>
    simp [record, set, Takes, kty, others]

theorem takes_keyMember {name : String} (further : name ∈ Json.keyMembers) (item : Json) :
    Takes name item ↔ item.IsTextOrNull := by
  have apart : name ≠ "kty" := by
    rintro rfl
    exact absurd further (by decide)
  rw [Takes, if_neg apart]

theorem succeeds_ofJson_object {members : Members Json}
    (distinct : (Json.object members).IsDistinct) :
    Succeeds (record.ofJson (.object members)) ↔ (Json.object members).IsKey := by
  rw [record.succeeds_ofJson_object record_judges distinct (by simp [record])]
  have fields : record.fields = "kty" :: Json.keyMembers := rfl
  simp only [fields, List.forall_mem_cons]
  constructor
  · rintro ⟨required, kty, others⟩
    have present := Members.has_eq_true_iff.mpr (required "kty" List.mem_cons_self)
    obtain ⟨held, found⟩ := Option.isSome_iff_exists.mp present
    obtain ⟨text, rfl⟩ := kty held found
    exact .object ⟨text, found⟩ fun name further item inside =>
      (takes_keyMember further item).mp (others name further item inside)
  · rintro ⟨⟨kty, found⟩, others⟩
    refine ⟨?_, ?_, ?_⟩
    · intro name required
      obtain rfl := List.mem_singleton.mp required
      exact Members.has_eq_true_iff.mp (by rw [Members.has, found]; rfl)
    · intro item present
      obtain rfl : Json.text kty = item := by simpa [found] using present
      exact ⟨kty, rfl⟩
    · intro name further item inside
      exact (takes_keyMember further item).mpr (others name further item inside)

theorem takes_zip_keyMembers {items : List Json} (fits : items.length ≤ 12) :
    (∀ pair ∈ Json.keyMembers.zip items, Takes pair.1 pair.2) ↔
      ∀ item ∈ items, item.IsTextOrNull := by
  have seconds : (Json.keyMembers.zip items).map Prod.snd = items := List.map_snd_zip fits
  have further : ∀ pair ∈ Json.keyMembers.zip items, pair.1 ∈ Json.keyMembers :=
    fun pair inside => (List.of_mem_zip inside).1
  constructor
  · intro taken item inside
    obtain ⟨pair, paired, rfl⟩ := List.mem_map.mp (seconds ▸ inside)
    exact (takes_keyMember (further pair paired) pair.2).mp (taken pair paired)
  · intro plain pair paired
    exact (takes_keyMember (further pair paired) pair.2).mpr
      (plain pair.2 (List.of_mem_zip paired).2)

theorem succeeds_ofJson_list {items : List Json} (distinct : Json.AreDistinct items) :
    Succeeds (record.ofJson (.list items)) ↔ (Json.list items).IsKeyRow := by
  have read : record.ofJson (.list items) = record.readItems .value _ 0 record.blank none
    record.fields (Document.ofItems items) := rfl
  have fields : record.fields = "kty" :: Json.keyMembers := rfl
  rw [read, record.succeeds_readItems record_judges (fun _ => id) distinct, fields]
  cases items with
  | nil =>
      constructor
      · rintro ⟨_, _, unneeded⟩
        exact absurd (List.mem_cons_self : "kty" ∈ record.positional)
          (unneeded "kty" List.mem_cons_self)
      · rintro ⟨⟩
  | cons first rest =>
      have needless : ∀ name ∈ Json.keyMembers.drop rest.length, name ∉ record.positional := by
        intro name left needed
        obtain rfl := List.mem_singleton.mp needed
        exact absurd (List.mem_of_mem_drop left) (by decide)
      simp only [List.zip_cons_cons, List.forall_mem_cons, List.length_cons, List.drop_succ_cons]
      constructor
      · rintro ⟨fits, ⟨⟨kty, rfl⟩, others⟩, _⟩
        have fits : rest.length ≤ 12 := Nat.le_of_succ_le_succ fits
        exact .list fits ((takes_zip_keyMembers fits).mp others)
      · rintro ⟨fits, others⟩
        exact ⟨Nat.succ_le_succ fits, ⟨⟨_, rfl⟩, (takes_zip_keyMembers fits).mpr others⟩, needless⟩

theorem succeeds_ofJson {value : Json} (distinct : value.IsDistinct) :
    Succeeds (record.ofJson value) ↔ value.IsKey ∨ value.IsKeyRow := by
  cases value with
  | object members =>
      rw [succeeds_ofJson_object distinct]
      exact ⟨.inl, fun shape => shape.resolve_right (by rintro ⟨⟩)⟩
  | list items =>
      rw [succeeds_ofJson_list distinct]
      exact ⟨.inr, fun shape => shape.resolve_left (by rintro ⟨⟩)⟩
  | number number =>
      constructor
      · rintro ⟨key, read⟩
        cases number <;> contradiction
      · rintro (shape | shape) <;> cases shape
  | _ =>
      constructor
      · rintro ⟨key, read⟩
        contradiction
      · rintro (shape | shape) <;> cases shape

end Jwk

namespace JwkSet

theorem record_judges : record.Judges fun _ item =>
    ∃ keys, item = .list keys ∧ ∀ key ∈ keys, key.IsKey ∨ key.IsKeyRow := by
  intro name known item distinct set
  obtain rfl := List.mem_singleton.mp known
  have read : record.set .value "keys" (.ofJson item) set =
      ((Document.ofJson item).toList (Jwk.record.read .value)).map fun keys => ⟨keys⟩ := rfl
  rw [read, Succeeds.map_iff, Document.succeeds_toList]
  refine exists_congr fun keys => and_congr_right ?_
  rintro rfl
  exact forall₂_congr fun key inside =>
    Jwk.succeeds_ofJson (Json.areDistinct_iff.mp distinct key inside)

/-- The two shapes of a document of keys are told apart by the member `keys`. -/
theorem succeeds_ofJson {value : Json} (distinct : value.IsDistinct) :
    Succeeds (ofJson value) ↔ value.IsKeyDocument fun key => key.IsKey ∨ key.IsKeyRow := by
  cases held : value.get? "keys" with
  | none =>
      have alone : Succeeds (ofJson value) ↔ Succeeds (Jwk.record.ofJson value) := by
        rw [ofJson, held]
        cases Jwk.record.ofJson value <;> simp
      rw [alone, Jwk.succeeds_ofJson distinct]
      constructor
      · exact fun shape => .single held shape
      · rintro (⟨found, _⟩ | ⟨_, shape⟩)
        · rw [Json.get?, Json.object?, Option.bind_some, found] at held
          contradiction
        · exact shape
  | some item =>
      obtain ⟨members, rfl⟩ : ∃ members, value = .object members := by
        cases value with
        | object members => exact ⟨members, rfl⟩
        | _ => contradiction
      have whole : Succeeds (ofJson (.object members)) ↔
          Succeeds (record.ofJson (.object members)) := by
        rw [ofJson, held]
        simp
      rw [whole, record.succeeds_ofJson_object record_judges distinct (by simp [record])]
      constructor
      · rintro ⟨_, taken⟩
        obtain ⟨keys, rfl, shapes⟩ := taken "keys" List.mem_cons_self item held
        exact .set held shapes
      · rintro (⟨found, shapes⟩ | ⟨absent, _⟩)
        · have present := Members.has_eq_true_iff.mp (by rw [Members.has, found]; rfl)
          refine ⟨fun name required => ?_, fun name known item inside => ?_⟩
          · obtain rfl := List.mem_singleton.mp required
            exact present
          · obtain rfl := List.mem_singleton.mp known
            obtain rfl : Json.list _ = item := by simpa [found] using inside
            exact ⟨_, rfl, shapes⟩
        · rw [held] at absent
          contradiction

structure ReadsDocument (bytes : Bytes) : Prop where
  accepted : Succeeds (ofBytes bytes) ↔ ∃ value, Json.decode bytes = .ok value ∧
    value.IsKeyDocument fun key => key.IsKey ∨ key.IsKeyRow
  documented : ∀ value, Json.decode bytes = .ok value → ¬ value.ListsForKey →
    (Succeeds (ofBytes bytes) ↔ value.IsKeyDocument Json.IsKey)
  refused : ∀ error, ofBytes bytes = .error error → error.IsInvalidKey

/-- What is read as keys are the documented shapes, and lists in the place of keys; everything else
is refused as an invalid key. -/
theorem ofBytes_readsDocument (bytes : Bytes) : ReadsDocument bytes := by
  have decoded {value : Json} (read : Json.decode bytes = .ok value) :
      Succeeds (ofBytes bytes) ↔
        value.IsKeyDocument fun key => key.IsKey ∨ key.IsKeyRow := by
    rw [ofBytes, read]
    exact succeeds_ofJson (Json.decode_isDistinct read)
  refine ⟨⟨?_, ?_⟩, ?_, ofBytes_failsAs bytes⟩
  · rintro accepted
    cases read : Json.decode bytes with
    | error problem => simp [ofBytes, read] at accepted
    | ok value => exact ⟨value, rfl, (decoded read).mp accepted⟩
  · rintro ⟨value, read, document⟩
    exact (decoded read).mpr document
  · intro value read plain
    rw [decoded read]
    exact ⟨fun document => document.ofKeys plain, fun document => document.mono fun _ => .inl⟩

def keyInSet : Bytes := Bytes.ofText "\x7b\"keys\":[\x7b\"kty\":\"oct\",\"k\":null\x7d]\x7d"

theorem ofBytes_readsDocument_keyInSet :
    (∃ value, Json.decode keyInSet = .ok value ∧ value.IsKeyDocument Json.IsKey) ∧
      ∀ error, ofBytes (keyInSet.drop 1) = .error error → error.IsInvalidKey := by
  have read : Json.decode keyInSet = .ok (.object
      [("keys", .list [.object [("kty", .text "oct"), ("k", .null)]])]) := rfl
  have plain : ¬ (Json.object
      [("keys", .list [.object [("kty", .text "oct"), ("k", .null)]])]).ListsForKey := by
    rintro (_ | ⟨held, inside⟩)
    obtain rfl : [Json.object [("kty", .text "oct"), ("k", .null)]] = _ := by
      simpa [Members.get?] using held
    simp at inside
  have accepted : Succeeds (ofBytes keyInSet) := ⟨⟨[.blank "oct"]⟩, rfl⟩
  exact ⟨⟨_, read, ((ofBytes_readsDocument keyInSet).documented _ read plain).mp accepted⟩,
    (ofBytes_readsDocument (keyInSet.drop 1)).refused⟩

def looseRow : Bytes := Bytes.ofText "[\"oct\"]"

def rowInSet : Bytes := Bytes.ofText "\x7b\"keys\":[[\"oct\"]]\x7d"

/-- A list is accepted for a key, on its own as well as in a set. -/
theorem not_documentedAlone :
    Succeeds (ofBytes looseRow) ∧ Succeeds (ofBytes rowInSet) ∧
      ¬ (∃ value, Json.decode looseRow = .ok value ∧ value.IsKeyDocument Json.IsKey) ∧
      ¬ ∃ value, Json.decode rowInSet = .ok value ∧ value.IsKeyDocument Json.IsKey := by
  have loose : Json.decode looseRow = .ok (.list [.text "oct"]) := rfl
  have inside : Json.decode rowInSet =
      .ok (.object [("keys", .list [.list [.text "oct"]])]) := rfl
  refine ⟨⟨⟨[.blank "oct"]⟩, rfl⟩, ⟨⟨[.blank "oct"]⟩, rfl⟩, ?_, ?_⟩
  · rintro ⟨value, read, document⟩
    obtain rfl : Json.list [.text "oct"] = value := by simpa [loose] using read
    rcases document with _ | ⟨_, ⟨⟩⟩
  · rintro ⟨value, read, document⟩
    obtain rfl : Json.object [("keys", .list [.list [.text "oct"]])] = value := by
      simpa [inside] using read
    rcases document with ⟨held, keys⟩ | ⟨absent, _⟩
    · obtain rfl : [Json.list [.text "oct"]] = _ := by simpa [Members.get?] using held
      cases keys _ List.mem_cons_self
    · contradiction

end JwkSet

end Jose
