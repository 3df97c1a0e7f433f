import Jose.Proofs.Json.Record

/-!
Records that are told by their fields. Setting a field decides what is seen of it and leaves the
rest as it is, so that what an object is read as depends neither on the order of its members nor on
those that are no fields.
-/

namespace Jose.Record

variable {α β γ : Type} {record : Record α} {origin : Origin}

inductive Slot (record : Record α) (view : String → α → β) (name : String) : Prop
  | mk {γ : Type} (read : Origin → Document → Except Problem γ) (put : γ → α → α)
      (sets : ∀ origin item value, record.set origin name item value =
        (read origin item).map fun held => put held value)
      (apart : ∀ held value, ∀ other ≠ name, view other (put held value) = view other value)
      (seen : ∀ held value start, view name (put held value) = view name (put held start))

structure Layout (record : Record α) (β : Type) where
  view : String → α → β
  determined : ∀ {left right : α},
    (∀ name ∈ record.fields, view name left = view name right) → left = right
  slots : ∀ name ∈ record.fields, record.Slot view name

def SameFields (record : Record α) (left right : Members γ) : Prop :=
  (left.filter fun member => record.fields.contains member.1).Perm
    (right.filter fun member => record.fields.contains member.1)

namespace SameFields

variable {left right : Members γ}

theorem symm (same : record.SameFields left right) : record.SameFields right left :=
  List.Perm.symm same

theorem mem_iff (same : record.SameFields left right) {member : String × γ}
    (known : member.1 ∈ record.fields) : member ∈ left ↔ member ∈ right := by
  have both := List.Perm.mem_iff same (a := member)
  simpa [known] using both

theorem fieldNames_perm (same : record.SameFields left right) :
    (record.fieldNames left).Perm (record.fieldNames right) := by
  have unfolded (members : Members γ) : record.fieldNames members =
      (members.filter fun member => record.fields.contains member.1).map Prod.fst := by
    rw [fieldNames, Members.names, List.filter_map]
    rfl
  rw [unfolded, unfolded]
  exact List.Perm.map _ same

theorem mem_names_iff (same : record.SameFields left right) {name : String}
    (known : name ∈ record.fields) : name ∈ left.names ↔ name ∈ right.names := by
  have both := same.fieldNames_perm.mem_iff (a := name)
  simpa [mem_fieldNames, known] using both

theorem of_perm (moved : left.Perm right) : record.SameFields left right := moved.filter _

theorem added {name : String} (unknown : name ∉ record.fields) (before after : Members γ)
    (item : γ) : record.SameFields (before ++ after) (before ++ (name, item) :: after) := by
  simp [SameFields, unknown]

theorem ofValues {left right : Members Json} (same : record.SameFields left right)
    (document : Json → Document) :
    record.SameFields (Document.ofValues document left) (Document.ofValues document right) := by
  have known (members : Members Json) :
      (Document.ofValues document members).filter
          (fun member => record.fields.contains member.1) =
        Document.ofValues document
          (members.filter fun member => record.fields.contains member.1) :=
    List.filter_map
  rw [SameFields, known, known]
  exact List.Perm.map _ same

end SameFields

namespace Layout

variable (layout : record.Layout β)

def Shows (origin : Origin) (target : α) (name : String) (item : Document) : Prop :=
  ∀ value, ∃ next, record.set origin name item value = .ok next ∧
    layout.view name next = layout.view name target

structure Tells (origin : Origin) (blank : α) (members : Members Document) (target : α) :
    Prop where
  shown : ∀ member ∈ members, member.1 ∈ record.fields →
    layout.Shows origin target member.1 member.2
  spared : ∀ name ∈ record.fields, name ∉ members.names →
    layout.view name target = layout.view name blank

variable {layout} {members : Members Document} {blank target : α}

section Slots

variable {name : String} {item : Document} {value next : α}

theorem kept (known : name ∈ record.fields) (set : record.set origin name item value = .ok next) :
    ∀ other ≠ name, layout.view other next = layout.view other value := by
  obtain ⟨read, put, sets, apart, _⟩ := layout.slots name known
  rw [sets, map_eq_ok_iff] at set
  obtain ⟨held, _, rfl⟩ := set
  exact apart held value

theorem settled (known : name ∈ record.fields)
    (set : record.set origin name item value = .ok next) :
    layout.Shows origin next name item := by
  obtain ⟨read, put, sets, _, seen⟩ := layout.slots name known
  rw [sets, map_eq_ok_iff] at set
  obtain ⟨held, found, rfl⟩ := set
  intro start
  exact ⟨put held start, by rw [sets, found]; rfl, seen held start value⟩

theorem Shows.unique {other : α} (shown : layout.Shows origin target name item)
    (shownToo : layout.Shows origin other name item) :
    layout.view name target = layout.view name other := by
  obtain ⟨next, set, seen⟩ := shown target
  obtain ⟨_, setToo, seenToo⟩ := shownToo target
  rw [set] at setToo
  injection setToo with same
  rw [← seen, same, seenToo]

end Slots

/-- Once a field is set that stands nowhere else, the others are told from what was made. -/
theorem tells_field {name : String} (known : name ∈ record.fields) {item : Document}
    (single : name ∉ members.names) {next : α}
    (set : record.set origin name item blank = .ok next) :
    layout.Tells origin blank ((name, item) :: members) target ↔
      layout.Shows origin target name item ∧ layout.Tells origin next members target := by
  have kept := layout.kept known set
  constructor
  · rintro ⟨shown, spared⟩
    obtain ⟨first, shown⟩ := List.forall_mem_cons.mp shown
    refine ⟨first known, shown, ?_⟩
    intro other field absent
    by_cases same : other = name
    · subst same
      exact (first known).unique (layout.settled known set)
    · rw [kept other same, spared other field (by simp [same, absent])]
  · rintro ⟨first, shown, spared⟩
    refine ⟨List.forall_mem_cons.mpr ⟨fun _ => first, shown⟩, ?_⟩
    intro other field absent
    rw [Members.names_cons, List.mem_cons, not_or] at absent
    rw [spared other field absent.2, kept other absent.1]

theorem tells_other {name : String} (unknown : name ∉ record.fields) {item : Document} :
    layout.Tells origin blank ((name, item) :: members) target ↔
      layout.Tells origin blank members target := by
  constructor
  · rintro ⟨shown, spared⟩
    refine ⟨(List.forall_mem_cons.mp shown).2, fun other field absent => spared other field ?_⟩
    rw [Members.names_cons, List.mem_cons, not_or]
    refine ⟨?_, absent⟩
    rintro rfl
    exact unknown field
  · rintro ⟨shown, spared⟩
    refine ⟨List.forall_mem_cons.mpr ⟨fun known => absurd known unknown, shown⟩, ?_⟩
    intro other field absent
    rw [Members.names_cons, List.mem_cons, not_or] at absent
    exact spared other field absent.2

/-- Setting the fields one after the other makes the target exactly if the members tell it. -/
theorem setAll_eq_ok_iff (once : (record.fieldNames members).Nodup) :
    record.setAll origin members blank = .ok target ↔
      layout.Tells origin blank members target := by
  -- The record that is set so far takes the place of the blank one.
  induction members generalizing blank with
  | nil =>
      constructor
      · intro made
        injection made with same
        exact ⟨by simp, fun _ _ _ => same ▸ rfl⟩
      · intro tells
        have seen : ∀ name ∈ record.fields, layout.view name target = layout.view name blank :=
          fun name known => tells.spared name known (by simp [Members.names])
        rw [layout.determined seen]
        rfl
  | cons member rest ih =>
      obtain ⟨name, item⟩ := member
      by_cases known : name ∈ record.fields
      · rw [fieldNames_field known] at once
        obtain ⟨single, once⟩ := List.nodup_cons.mp once
        replace single : name ∉ Members.names rest := fun inside =>
          single (mem_fieldNames.mpr ⟨inside, known⟩)
        rw [setAll_field known, bind_eq_ok_iff]
        constructor
        · -- The field is not set again, so that the target shows it as it was set here.
          rintro ⟨next, set, made⟩
          have tells := (ih once).mp made
          refine (tells_field known single set).mpr ⟨fun value => ?_, tells⟩
          rw [tells.spared name known single]
          exact layout.settled known set value
        · intro tells
          obtain ⟨next, set, _⟩ := tells.shown (name, item) List.mem_cons_self known blank
          exact ⟨next, set, (ih once).mpr ((tells_field known single set).mp tells).2⟩
      · rw [fieldNames_other known] at once
        rw [setAll_other known, tells_other known, ih once]

theorem Tells.rearranged {others : Members Document} (same : record.SameFields members others)
    (tells : layout.Tells origin blank members target) :
    layout.Tells origin blank others target := by
  refine ⟨?_, ?_⟩
  · intro member inside known
    exact tells.shown member ((same.mem_iff known).mpr inside) known
  · intro name known absent
    exact tells.spared name known fun inside => absent ((same.mem_names_iff known).mp inside)

theorem read_eq_ok_iff (layout : record.Layout β)
    (fields : ∀ name ∈ record.required, name ∈ record.fields) :
    record.read origin (.object (Document.named members) none) = .ok target ↔
      record.IsReadable members ∧ layout.Tells origin record.blank members target ∧
        ∀ name ∈ record.required, name ∈ members.names := by
  constructor
  · intro read
    have readable := isReadable_of_read read
    rw [read_named readable fields, bind_eq_ok_iff] at read
    obtain ⟨_, made, demanded⟩ := read
    obtain ⟨rfl, present⟩ := demand_eq_ok_iff.mp demanded
    exact ⟨readable, (setAll_eq_ok_iff readable.once).mp made, present⟩
  · rintro ⟨readable, tells, present⟩
    rw [read_named readable fields, bind_eq_ok_iff]
    exact ⟨target, (setAll_eq_ok_iff readable.once).mpr tells,
      demand_eq_ok_iff.mpr ⟨rfl, present⟩⟩

theorem ofJson_eq_ok_iff (layout : record.Layout β) {values : Members Json}
    (distinct : values.IsDistinct) (fields : ∀ name ∈ record.required, name ∈ record.fields) :
    record.ofJson (.object values) = .ok target ↔
      layout.Tells .value record.blank (Document.ofValues .ofJson values) target ∧
        ∀ name ∈ record.required, name ∈ values.names := by
  have readable : record.IsReadable (Document.ofValues .ofJson values) :=
    (isReadable_ofValues Document.skip_ofJson).mpr (List.filter_sublist.nodup distinct)
  rw [ofJson, Document.ofJson, Document.ofMembers_eq, layout.read_eq_ok_iff fields,
    Document.names_ofValues, and_iff_right readable]

theorem ofJson_rearranged (layout : record.Layout β) {values others : Members Json}
    (distinct : values.IsDistinct) (distinctToo : others.IsDistinct)
    (fields : ∀ name ∈ record.required, name ∈ record.fields)
    (same : record.SameFields values others)
    (read : record.ofJson (.object values) = .ok target) :
    record.ofJson (.object others) = .ok target := by
  obtain ⟨tells, present⟩ := (layout.ofJson_eq_ok_iff distinct fields).mp read
  refine (layout.ofJson_eq_ok_iff distinctToo fields).mpr ⟨tells.rearranged (same.ofValues _), ?_⟩
  exact fun name required => (same.mem_names_iff (fields name required)).mp (present name required)

end Layout

end Jose.Record
