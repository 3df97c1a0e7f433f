import Jose.Proofs.Key.Document
import Mathlib.Data.List.Forall2

/-!
Documents of keys say no more than the keys in them. A set is read back as it was written; a key on
its own is read like the set that holds nothing else; and a key may be restated, in another order
and beside members that mean nothing to it.
-/

namespace Jose

def Agree {α : Type} (left right : Except BuildError α) : Prop :=
  left = right ∨ ∃ first second,
    left = .error (.invalidKey first) ∧ right = .error (.invalidKey second)

namespace Agree

variable {α β : Type} {left right : Except BuildError α}

theorem of_ok_iff (leftFails : FailsAs BuildError.IsInvalidKey left)
    (rightFails : FailsAs BuildError.IsInvalidKey right)
    (same : ∀ value, left = .ok value ↔ right = .ok value) : Agree left right := by
  cases left with
  | ok value => exact .inl ((same value).mp rfl).symm
  | error problem =>
      cases right with
      | ok value => exact absurd ((same value).mpr rfl) (by simp)
      | error other =>
          obtain ⟨first, rfl⟩ := leftFails problem rfl
          obtain ⟨second, rfl⟩ := rightFails other rfl
          exact .inr ⟨first, second, rfl, rfl⟩

theorem bind (agree : Agree left right) (next : α → Except BuildError β) :
    Agree (left >>= next) (right >>= next) := by
  rcases agree with rfl | ⟨first, second, rfl, rfl⟩
  · exact .inl rfl
  · exact .inr ⟨first, second, rfl, rfl⟩

end Agree

namespace Document

theorem readAll_eq_ok_iff {α : Type} {reader : Reader α} {items : List Json} {values : List α} :
    readAll reader (ofItems items) = .ok values ↔
      List.Forall₂ (fun item value => reader (ofJson item) = .ok value) items values := by
  induction items generalizing values with
  | nil => simp [ofItems, readAll, eq_comm]
  | cons item rest ih =>
      simp only [ofItems, readAll, bind_eq_ok_iff, ih, List.forall₂_cons_left_iff]
      constructor
      · rintro ⟨value, first, others, later, made⟩
        injection made with made
        exact ⟨value, others, first, later, made.symm⟩
      · rintro ⟨value, others, first, later, rfl⟩
        exact ⟨value, first, others, later, rfl⟩

end Document

structure Json.IsPlain (value : Json) : Prop where
  whole : value.IsWhole
  distinct : value.IsDistinct
  shallow : value.depth + 2 ≤ depthLimit

namespace Jwk

/-- The same key in other words: the members that are its fields stay the same. -/
inductive Restates : Json → Json → Prop
  | same (value : Json) : Restates value value
  | object {members others : Members Json} : record.SameFields members others →
      Restates (.object members) (.object others)

theorem Restates.symm {value other : Json} (restates : Restates value other) :
    Restates other value := by
  cases restates with
  | same => exact .same _
  | object same => exact .object same.symm

theorem Restates.read {value other : Json} (restates : Restates value other)
    (distinct : value.IsDistinct) (distinctToo : other.IsDistinct) {key : Jwk}
    (read : record.ofJson value = .ok key) : record.ofJson other = .ok key := by
  cases restates with
  | same => exact read
  | object same =>
      exact layout.ofJson_rearranged distinct.1 distinctToo.1 (by simp [record]) same read

theorem Restates.readAll {items others : List Json} (restate : List.Forall₂ Restates items others)
    (distinct : Json.AreDistinct items) (distinctToo : Json.AreDistinct others) {keys : List Jwk}
    (read : List.Forall₂ (fun item key => record.ofJson item = .ok key) items keys) :
    List.Forall₂ (fun item key => record.ofJson item = .ok key) others keys := by
  induction restate generalizing keys with
  | nil => exact read
  | cons first _ ih =>
      cases read with
      | cons made later =>
          exact .cons (first.read distinct.1 distinctToo.1 made)
            (ih distinct.2 distinctToo.2 later)

theorem toJson_isPlain (key : Jwk) : key.toJson.IsPlain := by
  rw [toJson_eq]
  refine ⟨key.members_areTexts.isWhole,
    ⟨key.members_isDistinct, key.members_areTexts.holdDistinct⟩, ?_⟩
  rw [key.members_areTexts.depth_eq]
  decide

end Jwk

namespace JwkSet

def document (items : List Json) : Json := .object [("keys", .list items)]

theorem decode_document {items : List Json} (plain : ∀ item ∈ items, item.IsPlain) :
    Json.decode (document items).encode = .ok (document items) := by
  apply Json.decode_encode
  · exact ⟨Json.areWhole_iff.mpr fun item inside => (plain item inside).whole, trivial⟩
  · refine ⟨by simp [Members.IsDistinct, Members.names], ?_, trivial⟩
    exact Json.areDistinct_iff.mpr fun item inside => (plain item inside).distinct
  · have shallow : Json.depthOfItems items ≤ Json.depthLimit - 2 :=
      Json.depthOfItems_le_iff.mpr fun item inside => by
        have shallow := (plain item inside).shallow
        omega
    simp only [document, Json.depth, Json.depthOfMembers, Json.depthLimit] at shallow ⊢
    omega

variable {material left right : Bytes} {found : JwkSet}

theorem ofBytes_document {items : List Json}
    (decoded : Json.decode material = .ok (document items)) :
    ofBytes material = .ok found ↔
      List.Forall₂ (fun item key => Jwk.record.ofJson item = .ok key) items found.keys := by
  have read : record.ofJson (document items) =
      (Document.readAll (Jwk.record.read .value) (Document.ofItems items)).map JwkSet.mk := by
    simp only [document, Record.ofJson, Document.ofJson, Document.ofMembers, Record.read,
      Record.readObject, Record.readMembers, Record.readMember, Document.name, record, set,
      Document.toList]
    cases Document.readAll (Jwk.record.read .value) (Document.ofItems items) <;> rfl
  have parsed : ofBytes material = (record.ofJson (document items)).mapError fun problem =>
      .invalidKey ("Invalid JWK set: " ++ problem.message) := by
    simp [ofBytes, decoded, ofJson, document, Json.get?, Json.object?, Members.get?]
  rw [parsed, mapError_eq_ok_iff, read, map_eq_ok_iff]
  simp only [Document.readAll_eq_ok_iff]
  constructor
  · rintro ⟨keys, all, rfl⟩
    exact all
  · exact fun all => ⟨found.keys, all, rfl⟩

theorem ofBytes_single {value : Json} (decoded : Json.decode material = .ok value)
    (single : value.get? "keys" = none) :
    ofBytes material = .ok found ↔ ∃ key, Jwk.record.ofJson value = .ok key ∧ found = ⟨[key]⟩ := by
  rw [ofBytes, decoded]
  simp only [ofJson, single]
  cases Jwk.record.ofJson value <;> simp [eq_comm]

def selectFrom (keyId : Option String) (material : Bytes) : Except BuildError Jwk :=
  ofBytes material >>= fun set => set.select keyId

structure UsedAlike (left right : Bytes) : Prop where
  read : Agree (ofBytes left) (ofBytes right)
  selected : ∀ keyId, Agree (selectFrom keyId left) (selectFrom keyId right)
  made : ∀ (κ : Type) (reader : KeyReader κ) (keyId : Option String),
    Agree (reader.read .jwk keyId left) (reader.read .jwk keyId right)

theorem UsedAlike.of_read (same : ∀ found, ofBytes left = .ok found ↔ ofBytes right = .ok found) :
    UsedAlike left right := by
  have agree := Agree.of_ok_iff (ofBytes_failsAs left) (ofBytes_failsAs right) same
  exact ⟨agree, fun keyId => agree.bind _, fun κ reader keyId => agree.bind _⟩

structure ReadsFaithfully : Prop where
  written : ∀ set : JwkSet, ofBytes set.toJson.encode = .ok set
  alone : ∀ members : Members Json, (Json.object members).IsPlain → members.get? "keys" = none →
    UsedAlike (Json.object members).encode (document [.object members]).encode ∧
      ∀ found, ofBytes (Json.object members).encode = .ok found → ∃ key, found.keys = [key]
  -- A member `keys` tells the two shapes apart; within a set it is unknown like any other.
  restated : ∀ left right value other, Json.decode left = .ok value →
    Json.decode right = .ok other → value.get? "keys" = none → other.get? "keys" = none →
    Jwk.Restates value other → UsedAlike left right
  restatedInSet : ∀ left right items others, Json.decode left = .ok (document items) →
    Json.decode right = .ok (document others) → List.Forall₂ Jwk.Restates items others →
    UsedAlike left right

theorem ofBytes_toJson (set : JwkSet) : ofBytes set.toJson.encode = .ok set := by
  have plain : ∀ item ∈ set.keys.map Jwk.toJson, item.IsPlain := by
    intro item inside
    obtain ⟨key, _, rfl⟩ := List.mem_map.mp inside
    exact key.toJson_isPlain
  refine (ofBytes_document (decode_document plain)).mpr ?_
  rw [List.forall₂_map_left_iff, List.forall₂_same]
  exact fun key _ => key.ofJson_toJson

theorem usedAlike_alone {value : Json} (read : Json.decode left = .ok value)
    (readInSet : Json.decode right = .ok (document [value])) (single : value.get? "keys" = none) :
    UsedAlike left right := by
  refine .of_read fun found => ?_
  rw [ofBytes_single read single, ofBytes_document readInSet]
  simp only [List.forall₂_cons_left_iff, List.forall₂_nil_left_iff]
  constructor
  · rintro ⟨key, made, rfl⟩
    exact ⟨key, [], made, rfl, rfl⟩
  · rintro ⟨key, _, made, rfl, only⟩
    exact ⟨key, made, congrArg JwkSet.mk only⟩

theorem usedAlike_restated {value other : Json} (read : Json.decode left = .ok value)
    (readToo : Json.decode right = .ok other) (single : value.get? "keys" = none)
    (singleToo : other.get? "keys" = none) (restates : Jwk.Restates value other) :
    UsedAlike left right := by
  have distinct := Json.decode_isDistinct read
  have distinctToo := Json.decode_isDistinct readToo
  refine .of_read fun found => ?_
  rw [ofBytes_single read single, ofBytes_single readToo singleToo]
  refine exists_congr fun key => and_congr_left fun _ => ?_
  exact ⟨restates.read distinct distinctToo, restates.symm.read distinctToo distinct⟩

theorem usedAlike_restatedInSet {items others : List Json}
    (read : Json.decode left = .ok (document items))
    (readToo : Json.decode right = .ok (document others))
    (restate : List.Forall₂ Jwk.Restates items others) : UsedAlike left right := by
  have distinct : Json.AreDistinct items := (Json.decode_isDistinct read).2.1
  have distinctToo : Json.AreDistinct others := (Json.decode_isDistinct readToo).2.1
  have restateBack : List.Forall₂ Jwk.Restates others items :=
    restate.flip.imp fun _ _ restates => restates.symm
  refine .of_read fun found => ?_
  rw [ofBytes_document read, ofBytes_document readToo]
  exact ⟨Jwk.Restates.readAll restate distinct distinctToo,
    Jwk.Restates.readAll restateBack distinctToo distinct⟩

/-- Every set is read back from its document, and a key on its own is read, selected and used as a
set of this key alone would be. The order of the members and what no field reads make no difference.
-/
theorem readsFaithfully : ReadsFaithfully where
  written := ofBytes_toJson
  alone members plain single := by
    have decoded : Json.decode (Json.object members).encode = .ok (.object members) :=
      Json.decode_encode plain.whole plain.distinct (by have := plain.shallow; omega)
    have decodedInSet := decode_document fun item inside => List.mem_singleton.mp inside ▸ plain
    refine ⟨usedAlike_alone decoded decodedInSet single, fun found read => ?_⟩
    obtain ⟨key, _, rfl⟩ := (ofBytes_single decoded single).mp read
    exact ⟨key, rfl⟩
  restated left right value other := usedAlike_restated
  restatedInSet left right items others := usedAlike_restatedInSet

def oneSecret : Jwk := { Jwk.blank "oct" with k := some "AQ" }

def restatedSecret : Members Json := [("k", .text "AQ"), ("keys", .null), ("kty", .text "oct")]

def restatedSet : Bytes :=
  Bytes.ofText "\x7b \"keys\": [\x7b\"k\": \"AQ\", \"keys\": null, \"kty\": \"oct\"\x7d] \x7d"

theorem readsFaithfully_oneSecret :
    oneSecret.toSigningKey = .ok (.hmac [1]) ∧
      ofBytes (JwkSet.mk [oneSecret, .blank "EC"]).toJson.encode = .ok ⟨[oneSecret, .blank "EC"]⟩ ∧
      UsedAlike oneSecret.toJson.encode (document [oneSecret.toJson]).encode ∧
      UsedAlike (document [oneSecret.toJson]).encode restatedSet := by
  have plain : oneSecret.toJson.IsPlain := oneSecret.toJson_isPlain
  have read :
      Json.decode (document [oneSecret.toJson]).encode = .ok (document [oneSecret.toJson]) :=
    decode_document fun item inside => List.mem_singleton.mp inside ▸ plain
  have readToo : Json.decode restatedSet = .ok (document [.object restatedSecret]) := rfl
  have restates : Jwk.Restates oneSecret.toJson (.object restatedSecret) :=
    .object (List.Perm.swap _ _ _)
  exact ⟨by decide, readsFaithfully.written _, (readsFaithfully.alone _ plain rfl).1,
    readsFaithfully.restatedInSet _ _ _ _ read readToo (.cons restates .nil)⟩

end JwkSet

end Jose
