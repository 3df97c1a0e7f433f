import Jose.Proofs.Json.Written
import Jose.Proofs.Members

/-!
Values survive being written and read: every value of whole numbers whose objects hold each name
once comes back, as long as it is not nested too deeply.
-/

namespace Jose

namespace Json

mutual

def IsDistinct : Json → Prop
  | .null | .bool _ | .number _ | .text _ => True
  | .list items => AreDistinct items
  | .object members => Members.IsDistinct members ∧ HoldDistinct members

def AreDistinct : List Json → Prop
  | [] => True
  | item :: rest => item.IsDistinct ∧ AreDistinct rest

def HoldDistinct : List (String × Json) → Prop
  | [] => True
  | (_, value) :: rest => value.IsDistinct ∧ HoldDistinct rest

end

mutual

def depth : Json → Nat
  | .null | .bool _ | .number _ | .text _ => 0
  | .list items => depthOfItems items + 1
  | .object members => depthOfMembers members + 1

def depthOfItems : List Json → Nat
  | [] => 0
  | item :: rest => max item.depth (depthOfItems rest)

def depthOfMembers : List (String × Json) → Nat
  | [] => 0
  | (_, value) :: rest => max value.depth (depthOfMembers rest)

end

theorem areDistinct_iff {items : List Json} :
    AreDistinct items ↔ ∀ item ∈ items, item.IsDistinct := by
  induction items with
  | nil => simp [AreDistinct]
  | cons item rest ih => simp [AreDistinct, ih]

theorem depthOfItems_le_iff {items : List Json} {limit : Nat} :
    depthOfItems items ≤ limit ↔ ∀ item ∈ items, item.depth ≤ limit := by
  induction items with
  | nil => simp [depthOfItems]
  | cons item rest ih => rw [depthOfItems, Nat.max_le, ih, List.forall_mem_cons]

end Json

namespace Document

mutual

theorem toJson_ofJson : (limit : Nat) → (value : Json) → value.IsDistinct →
    value.depth ≤ limit → toJson limit (.ofJson value) = .ok value
  | _, .null, _, _ => rfl
  | _, .bool value, _, _ => rfl
  | _, .number value, _, _ => rfl
  | _, .text value, _, _ => rfl
  | 0, .list items, _, shallow => by simp [Json.depth] at shallow
  | inner + 1, .list items, distinct, shallow => by
      simp only [Json.depth] at shallow
      have values := toItems_ofItems inner items distinct (by omega)
      simp [ofJson, toJson, values, refuse, bind, Except.bind, pure, Except.pure]
  | 0, .object members, _, shallow => by simp [Json.depth] at shallow
  | inner + 1, .object members, ⟨once, distinct⟩, shallow => by
      simp only [Json.depth] at shallow
      have values := toMembers_ofMembers inner members [] once distinct (by omega)
      simp [ofJson, toJson, values, refuse, bind, Except.bind, pure, Except.pure]

theorem toItems_ofItems : (limit : Nat) → (items : List Json) → Json.AreDistinct items →
    Json.depthOfItems items ≤ limit → toItems limit (ofItems items) = .ok items
  | _, [], _, _ => rfl
  | limit, item :: rest, ⟨first, others⟩, shallow => by
      simp only [Json.depthOfItems] at shallow
      have value := toJson_ofJson limit item first (by omega)
      have values := toItems_ofItems limit rest others (by omega)
      simp [ofItems, toItems, value, values, bind, Except.bind, pure, Except.pure]

/-- The members are put behind those before them, since no name is there twice. -/
theorem toMembers_ofMembers : (limit : Nat) → (members before : Members Json) →
    Members.IsDistinct (before ++ members) → Json.HoldDistinct members →
    Json.depthOfMembers members ≤ limit →
    toMembers limit before (ofMembers members) = .ok (before ++ members)
  | _, [], before, _, _, _ => by simp [ofMembers, toMembers]
  | limit, (name, item) :: rest, before, once, ⟨first, others⟩, shallow => by
      simp only [Json.depthOfMembers] at shallow
      have value := toJson_ofJson limit item first (by omega)
      have fresh : name ∉ before.names := by
        simp only [Members.IsDistinct, Members.names_append, Members.names_cons] at once
        intro present
        exact (List.nodup_append.mp once).2.2 name present name (by simp) rfl
      have moved : before.put name item ++ rest = before ++ (name, item) :: rest := by
        rw [Members.put_fresh fresh, List.append_assoc, List.singleton_append]
      have values := toMembers_ofMembers limit rest (before.put name item) (by rwa [moved]) others
        (by omega)
      rw [moved] at values
      simp [ofMembers, toMembers, Document.name, value, values, bind, Except.bind]

end

end Document

theorem Json.decode_encode {value : Json} (whole : value.IsWhole) (distinct : value.IsDistinct)
    (shallow : value.depth ≤ depthLimit) : decode value.encode = .ok value := by
  have read := Document.toJson_ofJson depthLimit value distinct shallow
  simp [decode, decodeWithin, Scanned.ofBytes_encode whole, Scanned.readWith, read, bind,
    Except.bind]

end Jose
