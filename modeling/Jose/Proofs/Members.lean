import Jose.Json.Members
import Mathlib.Data.List.Induction

/-!
Ordered members hold every name once, in the place of its first writing, and what is found under a
name is what was written there last.
-/

namespace Jose.Members

variable {α : Type}

def IsDistinct (members : Members α) : Prop := members.names.Nodup

@[simp] theorem names_cons (entry : String × α) (rest : Members α) :
    names (entry :: rest) = entry.1 :: names rest := rfl

@[simp] theorem names_append (left right : Members α) :
    names (left ++ right) = names left ++ names right := by
  simp [names]

theorem put_fresh {name : String} {members : Members α} (fresh : name ∉ members.names)
    (value : α) : members.put name value = members ++ [(name, value)] := by
  induction members with
  | nil => rfl
  | cons entry rest ih =>
      obtain ⟨present, held⟩ := entry
      simp only [names_cons, List.mem_cons, not_or] at fresh
      simp [put, Ne.symm fresh.1, ih fresh.2]

theorem get?_cons (present other : String) (held : α) (rest : Members α) :
    get? other ((present, held) :: rest) =
      if other = present then some held else get? other rest := by
  by_cases same : other = present
  · simp [get?, same]
  · have unlike : (other == present) = false := by simpa using same
    simp [get?, List.lookup_cons, unlike, same]

theorem get?_put_eq (members : Members α) (name other : String) (value : α) :
    (members.put name value).get? other =
      if other = name then some value else members.get? other := by
  induction members with
  | nil => rw [put, get?_cons]
  | cons entry rest ih =>
      obtain ⟨present, held⟩ := entry
      by_cases same : present = name
      · simp only [put, same, if_true, get?_cons]
        split <;> rfl
      · simp only [put, same, if_false, get?_cons, ih]
        by_cases first : other = present
        · simp [first, same]
        · simp [first]

@[simp] theorem get?_put (members : Members α) (name : String) (value : α) :
    (members.put name value).get? name = some value := by
  rw [get?_put_eq, if_pos rfl]

theorem get?_put_other {name other : String} (different : other ≠ name) (members : Members α)
    (value : α) : (members.put name value).get? other = members.get? other := by
  rw [get?_put_eq, if_neg different]

theorem get?_put_cases {name other : String} {value found : α} {members : Members α}
    (present : (members.put name value).get? other = some found) :
    (other = name ∧ value = found) ∨ (other ≠ name ∧ members.get? other = some found) := by
  rw [get?_put_eq] at present
  by_cases same : other = name
  · rw [if_pos same] at present
    exact Or.inl ⟨same, Option.some.inj present⟩
  · rw [if_neg same] at present
    exact Or.inr ⟨same, present⟩

theorem get?_putNew (name other : String) (value : α) (members : Members α) :
    (members.putNew name value).get? other =
      if other = name then some ((members.get? name).getD value) else members.get? other := by
  cases found : members.get? name with
  | none =>
      have free : members.has name = false := by simp [has, found]
      rw [putNew, free, if_neg (by simp), get?_put_eq]
      rfl
  | some held =>
      have taken : members.has name = true := by simp [has, found]
      rw [putNew, if_pos taken]
      by_cases same : other = name
      · rw [if_pos same, same, found]
        rfl
      · rw [if_neg same]

theorem get?_drop (name other : String) (members : Members α) :
    (members.drop name).get? other = if other = name then none else members.get? other := by
  induction members with
  | nil => simp [drop, get?]
  | cons entry rest ih =>
      obtain ⟨present, held⟩ := entry
      by_cases dropped : present = name
      · have gone : drop name ((present, held) :: rest) = drop name rest := by
          simp [drop, dropped]
        rw [gone, ih, get?_cons, dropped]
        split <;> rfl
      · have stays : drop name ((present, held) :: rest) = (present, held) :: drop name rest := by
          simp [drop, dropped]
        rw [stays, get?_cons, get?_cons, ih]
        by_cases first : other = present
        · simp [first, dropped]
        · simp [first]

/-- What stands under a name after another has been dropped stood there before. -/
theorem get?_of_drop {name other : String} {members : Members α} {value : α}
    (found : (members.drop name).get? other = some value) : members.get? other = some value := by
  rw [get?_drop] at found
  split at found
  · contradiction
  · exact found

theorem names_put_present {name : String} {members : Members α} (present : name ∈ members.names)
    (value : α) : (members.put name value).names = members.names := by
  induction members with
  | nil => simp [names] at present
  | cons entry rest ih =>
      obtain ⟨first, held⟩ := entry
      by_cases same : first = name
      · simp [put, same]
      · simp only [names_cons, List.mem_cons, Ne.symm same, false_or] at present
        simp [put, same, ih present]

theorem names_put (name : String) (value : α) (members : Members α) :
    (members.put name value).names =
      if name ∈ members.names then members.names else members.names ++ [name] := by
  by_cases present : name ∈ members.names
  · rw [if_pos present, names_put_present present]
  · rw [if_neg present, put_fresh present, names_append]
    rfl

theorem putAll_append (first later : List (String × α)) (members : Members α) :
    members.putAll (first ++ later) = (members.putAll first).putAll later :=
  List.foldl_append

/-- Names stand in the order of their first writing. -/
theorem names_putAll_nil (later : List (String × α)) :
    names (putAll later []) = (later.map Prod.fst).eraseDups := by
  induction later using List.reverseRecOn with
  | nil => rfl
  | append_singleton before entry ih =>
      have last : putAll (before ++ [entry]) [] = (putAll before []).put entry.1 entry.2 :=
        putAll_append before [entry] []
      rw [last, names_put, ih, List.map_append, List.eraseDups_append]
      by_cases present : entry.1 ∈ before.map Prod.fst
      · simp [present, List.removeAll]
      · simp [present, List.removeAll, List.eraseDups_cons]

/-- What is found under a name is what was written there last. -/
theorem get?_putAll (later : List (String × α)) (members : Members α) (name : String) :
    (members.putAll later).get? name = (later.reverse.lookup name).or (members.get? name) := by
  induction later generalizing members with
  | nil => rfl
  | cons entry rest ih =>
      obtain ⟨present, value⟩ := entry
      have first : members.putAll ((present, value) :: rest) =
          (members.put present value).putAll rest := rfl
      rw [first, ih, List.reverse_cons, List.lookup_append, Option.or_assoc, get?_put_eq]
      congr 1
      by_cases same : name = present
      · simp [same]
      · have unlike : (name == present) = false := by simpa using same
        simp [List.lookup_cons, unlike, same]

theorem IsDistinct.put {members : Members α} (distinct : members.IsDistinct) (name : String)
    (value : α) : (members.put name value).IsDistinct := by
  by_cases present : name ∈ members.names
  · rw [IsDistinct, names_put_present present]
    exact distinct
  · rw [put_fresh present, IsDistinct, names_append]
    exact List.nodup_append.mpr ⟨distinct, by simp [names], by
      intro first member second last same
      simp only [names, List.map_cons, List.map_nil, List.mem_singleton] at last
      exact present (last ▸ same ▸ member)⟩

theorem IsDistinct.putNew {members : Members α} (distinct : members.IsDistinct) (name : String)
    (value : α) : (members.putNew name value).IsDistinct := by
  simp only [Members.putNew]
  split
  · exact distinct
  · exact distinct.put name value

theorem IsDistinct.putAll {members : Members α} (distinct : members.IsDistinct)
    (later : List (String × α)) : (members.putAll later).IsDistinct := by
  induction later generalizing members with
  | nil => exact distinct
  | cons entry rest ih => exact ih (distinct.put entry.1 entry.2)

theorem mem_put {name : String} {value : α} {members : Members α} {entry : String × α}
    (member : entry ∈ members.put name value) : entry = (name, value) ∨ entry ∈ members := by
  induction members with
  | nil =>
      simp only [Members.put, List.mem_singleton] at member
      exact Or.inl member
  | cons first rest ih =>
      obtain ⟨present, held⟩ := first
      by_cases same : present = name
      · simp only [Members.put, if_pos same, List.mem_cons] at member
        rcases member with rfl | later
        · exact Or.inl (same ▸ rfl)
        · exact Or.inr (List.mem_cons_of_mem _ later)
      · simp only [Members.put, if_neg same, List.mem_cons] at member
        rcases member with rfl | later
        · exact Or.inr List.mem_cons_self
        · exact (ih later).imp id (List.mem_cons_of_mem _)

theorem get?_eq_some_iff {members : Members α} (distinct : members.IsDistinct) {name : String}
    {value : α} : members.get? name = some value ↔ (name, value) ∈ members := by
  induction members with
  | nil => simp [get?]
  | cons entry rest ih =>
      obtain ⟨present, held⟩ := entry
      obtain ⟨single, distinct⟩ := List.nodup_cons.mp distinct
      rw [get?_cons]
      by_cases same : name = present
      · subst same
        have absent : (name, value) ∉ rest := fun inside =>
          single (List.mem_map.mpr ⟨(name, value), inside, rfl⟩)
        simp [absent, eq_comm]
      · simp [same, ih distinct]

theorem has_eq_true_iff {name : String} {members : Members α} :
    members.has name = true ↔ name ∈ members.names := by
  induction members with
  | nil => simp [has, get?, names]
  | cons entry rest ih =>
      obtain ⟨present, held⟩ := entry
      rw [has] at ih ⊢
      rw [get?_cons, names_cons, List.mem_cons, ← ih]
      by_cases same : name = present <;> simp [same]

end Jose.Members
