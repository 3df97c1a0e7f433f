import Jose.Claims.Datum
import Jose.Proofs.Json.Decoded

/-!
Objects hold every name once, however they come about: members are put over those of the same name,
and so are the entries of a map that is handed in as a value.
-/

namespace Jose

namespace Json

theorem holdDistinct_iff {members : Members Json} :
    HoldDistinct members ↔ ∀ member ∈ members, member.2.IsDistinct := by
  induction members with
  | nil => simp [HoldDistinct]
  | cons member rest ih => simp [HoldDistinct, ih]

theorem IsDistinct.put {members : Members Json} (distinct : (Json.object members).IsDistinct)
    (name : String) {value : Json} (written : value.IsDistinct) :
    (Json.object (members.put name value)).IsDistinct := by
  refine ⟨distinct.1.put name value, holdDistinct_iff.mpr ?_⟩
  intro member inside
  rcases Members.mem_put inside with rfl | before
  · exact written
  · exact holdDistinct_iff.mp distinct.2 member before

theorem IsDistinct.putNew {members : Members Json} (distinct : (Json.object members).IsDistinct)
    (name : String) {value : Json} (written : value.IsDistinct) :
    (Json.object (members.putNew name value)).IsDistinct := by
  simp only [Members.putNew]
  split
  · exact distinct
  · exact distinct.put name written

theorem IsDistinct.putAll {members : Members Json} (distinct : (Json.object members).IsDistinct)
    {later : List (String × Json)} (written : HoldDistinct later) :
    (Json.object (members.putAll later)).IsDistinct := by
  induction later generalizing members with
  | nil => exact distinct
  | cons entry rest ih => exact ih (distinct.put entry.1 written.1) written.2

end Json

namespace Datum

mutual

def IsDistinct : Datum → Prop
  | .json value => value.IsDistinct
  | .list items => AreDistinct items
  | .map entries => HoldDistinct entries
  | _ => True

def AreDistinct : List Datum → Prop
  | [] => True
  | item :: rest => item.IsDistinct ∧ AreDistinct rest

def HoldDistinct : List (DatumKey × Datum) → Prop
  | [] => True
  | (_, item) :: rest => item.IsDistinct ∧ HoldDistinct rest

end

mutual

theorem toJson_isDistinct : (datum : Datum) → datum.IsDistinct → (value : Json) →
    datum.toJson = .ok value → value.IsDistinct
  | .json held, distinct, value, written => by
      injection written with same
      exact same ▸ distinct
  | .nothing, _, value, written => by
      injection written with same
      exact same ▸ trivial
  | .nonFinite, _, value, written => by
      injection written with same
      exact same ▸ trivial
  | .bool flag, _, value, written => by
      injection written with same
      exact same ▸ trivial
  | .int number, _, value, written => by
      simp only [toJson] at written
      split at written
      · injection written with same
        exact same ▸ trivial
      · contradiction
  | .real number, _, value, written => by
      injection written with same
      exact same ▸ trivial
  | .text held, _, value, written => by
      injection written with same
      exact same ▸ trivial
  | .list items, distinct, value, written => by
      cases values : itemsToJson items with
      | error problem => simp [toJson, values, Except.map] at written
      | ok values' =>
          have inside := itemsToJson_areDistinct items distinct values' values
          simp only [toJson, values, Except.map] at written
          injection written with same
          exact same ▸ inside
  | .map entries, distinct, value, written => by
      cases members : entriesToJson [] entries with
      | error problem => simp [toJson, members, Except.map] at written
      | ok members' =>
          have inside := entriesToJson_isDistinct entries distinct [] members'
            ⟨List.nodup_nil, trivial⟩ members
          simp only [toJson, members, Except.map] at written
          injection written with same
          exact same ▸ inside
  | .refused reason, _, value, written => by simp [toJson] at written

theorem itemsToJson_areDistinct : (items : List Datum) → AreDistinct items →
    (values : List Json) → itemsToJson items = .ok values → Json.AreDistinct values
  | [], _, values, written => by
      injection written with same
      exact same ▸ trivial
  | item :: rest, ⟨first, others⟩, values, written => by
      cases value : item.toJson with
      | error problem => simp [itemsToJson, value, bind, Except.bind] at written
      | ok value' =>
          cases later : itemsToJson rest with
          | error problem => simp [itemsToJson, value, later, bind, Except.bind] at written
          | ok later' =>
              simp only [itemsToJson, value, later, bind, Except.bind, pure, Except.pure] at written
              injection written with same
              exact same ▸ ⟨toJson_isDistinct item first value' value,
                itemsToJson_areDistinct rest others later' later⟩

theorem entriesToJson_isDistinct : (entries : List (DatumKey × Datum)) → HoldDistinct entries →
    (before members : Members Json) → (Json.object before).IsDistinct →
    entriesToJson before entries = .ok members → (Json.object members).IsDistinct
  | [], _, before, members, distinct, written => by
      simp only [entriesToJson] at written
      injection written with same
      exact same ▸ distinct
  | (key, item) :: rest, ⟨first, others⟩, before, members, distinct, written => by
      cases name : key.name with
      | error problem => simp [entriesToJson, name, bind, Except.bind] at written
      | ok name' =>
          cases value : item.toJson with
          | error problem => simp [entriesToJson, name, value, bind, Except.bind] at written
          | ok value' =>
              simp only [entriesToJson, name, value, bind, Except.bind] at written
              exact entriesToJson_isDistinct rest others _ members
                (distinct.put name' (toJson_isDistinct item first value' value)) written

end

end Datum

end Jose
