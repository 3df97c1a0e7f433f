import Jose.Proofs.Answer
import Jose.Proofs.Claims.Datum
import Mathlib.Data.List.Find

/-!
Which values a record is read from. A value that was decoded holds every name once, so that reading
an object comes down to setting the fields among its members one after the other: the order of the
other members, and what they hold, does not matter. A list gives the fields by position.
-/

namespace Jose

namespace Document

mutual

theorem toJson_isDistinct : (depth : Nat) → (document : Document) → (value : Json) →
    document.toJson depth = .ok value → value.IsDistinct
  | _, .null, value, read => by
      injection read with same
      exact same ▸ trivial
  | _, .bool flag, value, read => by
      injection read with same
      exact same ▸ trivial
  | _, .number (some held), value, read => by
      injection read with same
      exact same ▸ trivial
  | _, .number none, value, read => by contradiction
  | _, .text (.ok held), value, read => by
      injection read with same
      exact same ▸ trivial
  | _, .text (.error problem), value, read => by contradiction
  | 0, .list items ending, value, read => by contradiction
  | inner + 1, .list items ending, value, read => by
      cases values : toItems inner items with
      | error problem => simp [toJson, values, bind, Except.bind] at read
      | ok held =>
          cases ended : refuse (ending.map Fault.read) with
          | error problem => simp [toJson, values, ended, bind, Except.bind] at read
          | ok _ =>
              simp only [toJson, values, ended, bind, Except.bind, pure, Except.pure] at read
              injection read with same
              exact same ▸ toItems_areDistinct inner items held values
  | 0, .object members ending, value, read => by contradiction
  | inner + 1, .object members ending, value, read => by
      cases values : toMembers inner [] members with
      | error problem => simp [toJson, values, bind, Except.bind] at read
      | ok held =>
          cases ended : refuse (ending.map Fault.read) with
          | error problem => simp [toJson, values, ended, bind, Except.bind] at read
          | ok _ =>
              simp only [toJson, values, ended, bind, Except.bind, pure, Except.pure] at read
              injection read with same
              exact same ▸ toMembers_isDistinct inner members [] held ⟨List.nodup_nil, trivial⟩
                values
  | _, .broken opening fault, value, read => by contradiction

theorem toItems_areDistinct : (depth : Nat) → (items : List Document) → (values : List Json) →
    toItems depth items = .ok values → Json.AreDistinct values
  | _, [], values, read => by
      injection read with same
      exact same ▸ trivial
  | depth, item :: rest, values, read => by
      cases first : item.toJson depth with
      | error problem => simp [toItems, first, bind, Except.bind] at read
      | ok value =>
          cases later : toItems depth rest with
          | error problem => simp [toItems, first, later, bind, Except.bind] at read
          | ok others =>
              simp only [toItems, first, later, bind, Except.bind, pure, Except.pure] at read
              injection read with same
              exact same ▸ ⟨toJson_isDistinct depth item value first,
                toItems_areDistinct depth rest others later⟩

theorem toMembers_isDistinct : (depth : Nat) → (members : List (Document × Document)) →
    (before values : Members Json) → (Json.object before).IsDistinct →
    toMembers depth before members = .ok values → (Json.object values).IsDistinct
  | _, [], before, values, distinct, read => by
      injection read with same
      exact same ▸ distinct
  | depth, (key, item) :: rest, before, values, distinct, read => by
      cases label : key.name with
      | error problem => simp [toMembers, label, bind, Except.bind] at read
      | ok name =>
          cases first : item.toJson depth with
          | error problem => simp [toMembers, label, first, bind, Except.bind] at read
          | ok value =>
              simp only [toMembers, label, first, bind, Except.bind] at read
              exact toMembers_isDistinct depth rest (before.put name value) values
                (distinct.put name (toJson_isDistinct depth item value first)) read

end

end Document

theorem Json.decode_isDistinct {bytes : Bytes} {value : Json} (decoded : decode bytes = .ok value) :
    value.IsDistinct := by
  simp only [decode, decodeWithin, Scanned.readWith] at decoded
  cases read : (Scanned.ofBytes bytes).root.toJson depthLimit with
  | error problem => simp [read, bind, Except.bind] at decoded
  | ok held =>
      simp only [read, bind, Except.bind] at decoded
      split at decoded
      · contradiction
      · injection decoded with same
        exact same ▸ Document.toJson_isDistinct depthLimit _ held read

namespace Document

mutual

theorem skipped_ofJson : (value : Json) → (ofJson value).skipped = none
  | .null => rfl
  | .bool _ => rfl
  | .number _ => rfl
  | .text _ => rfl
  | .list items => by simp [ofJson, skipped, skippedItems_ofItems items]
  | .object members => by simp [ofJson, skipped, skippedMembers_ofMembers members]

theorem skippedItems_ofItems : (items : List Json) → skippedItems (ofItems items) = none
  | [] => rfl
  | item :: rest => by
      simp [ofItems, skippedItems, skipped_ofJson item, skippedItems_ofItems rest]

theorem skippedMembers_ofMembers : (members : List (String × Json)) →
    skippedMembers (ofMembers members) = none
  | [] => rfl
  | (name, value) :: rest => by
      simp [ofMembers, skippedMembers, skippedName, skipped_ofJson value,
        skippedMembers_ofMembers rest]

end

theorem skip_ofJson (value : Json) : (ofJson value).skip = .ok () := by
  rw [skip, skipped_ofJson, refuse]

theorem succeeds_readAll {α : Type} {reader : Reader α} (items : List Json) :
    Succeeds (readAll reader (ofItems items)) ↔
      ∀ item ∈ items, Succeeds (reader (ofJson item)) := by
  induction items with
  | nil => simp [ofItems, readAll]
  | cons item rest ih =>
      have later (value : α) : Succeeds (do
          let values ← readAll reader (ofItems rest)
          return value :: values) ↔ ∀ item ∈ rest, Succeeds (reader (ofJson item)) := by
        have added : Succeeds ((readAll reader (ofItems rest)).map (value :: ·)) ↔
            Succeeds (readAll reader (ofItems rest)) := Succeeds.map_iff _
        exact added.trans ih
      rw [ofItems, readAll, Succeeds.bind_iff_and later, List.forall_mem_cons]

end Document

namespace Document

def named (members : Members Document) : List (Document × Document) :=
  members.map fun member => (.text (.ok member.1), member.2)

def ofValues (document : Json → Document) (members : Members Json) : Members Document :=
  members.map fun member => (member.1, document member.2)

@[simp] theorem names_ofValues (document : Json → Document) (members : Members Json) :
    (ofValues document members).names = members.names := by
  simp [ofValues, Members.names]

theorem ofMembers_eq (members : Members Json) :
    ofMembers members = named (ofValues ofJson members) := by
  induction members with
  | nil => rfl
  | cons member rest ih =>
      rw [ofMembers, ih]
      rfl

end Document

namespace Record

variable {α : Type} {record : Record α} {origin : Origin}

def setAll (record : Record α) (origin : Origin) (members : Members Document) (value : α) :
    Except Problem α :=
  (members.filter fun member => record.fields.contains member.1).foldlM
    (fun value member => record.set origin member.1 member.2 value) value

theorem setAll_field {name : String} (known : name ∈ record.fields) (item : Document)
    (rest : Members Document) (value : α) :
    record.setAll origin ((name, item) :: rest) value =
      record.set origin name item value >>= record.setAll origin rest := by
  have kept : record.fields.contains name = true := by simpa using known
  simp only [setAll, List.filter_cons, kept, if_true, List.foldlM_cons]
  rfl

theorem setAll_other {name : String} (unknown : name ∉ record.fields) (item : Document)
    (rest : Members Document) (value : α) :
    record.setAll origin ((name, item) :: rest) value = record.setAll origin rest value := by
  simp [setAll, unknown]

theorem readMember_field {name : String} (known : name ∈ record.fields) {seen : List String}
    (fresh : name ∉ seen) (item : Document) (value : α) :
    record.readMember origin (seen, value) (.text (.ok name), item) =
      (record.set origin name item value).map fun next => (name :: seen, next) := by
  simp only [readMember, Document.name, bind, Except.bind, List.contains_iff_mem, known, fresh,
    if_true, if_false]
  cases record.set origin name item value <;> rfl

theorem readMember_other {name : String} (unknown : name ∉ record.fields)
    (state : List String × α) {item : Document} (skips : item.skip = .ok ()) :
    record.readMember origin state (.text (.ok name), item) = .ok state := by
  simp only [readMember, Document.name, bind, Except.bind, List.contains_iff_mem, unknown, if_false,
    skips, pure, Except.pure]

def fieldNames {β : Type} (record : Record α) (members : Members β) : List String :=
  members.names.filter record.fields.contains

structure IsReadable (record : Record α) (members : Members Document) : Prop where
  once : (record.fieldNames members).Nodup
  skips : ∀ member ∈ members, member.1 ∉ record.fields → member.2.skip = .ok ()

theorem fieldNames_field {β : Type} {name : String} (known : name ∈ record.fields) (item : β)
    (rest : Members β) :
    record.fieldNames ((name, item) :: rest) = name :: record.fieldNames rest := by
  simp [fieldNames, known]

theorem fieldNames_other {β : Type} {name : String} (unknown : name ∉ record.fields) (item : β)
    (rest : Members β) : record.fieldNames ((name, item) :: rest) = record.fieldNames rest := by
  simp [fieldNames, unknown]

theorem mem_fieldNames {β : Type} {name : String} {members : Members β} :
    name ∈ record.fieldNames members ↔ name ∈ members.names ∧ name ∈ record.fields := by
  simp [fieldNames]

theorem isReadable_field {name : String} (known : name ∈ record.fields) {item : Document}
    {rest : Members Document} : record.IsReadable ((name, item) :: rest) ↔
      name ∉ record.fieldNames rest ∧ record.IsReadable rest := by
  constructor
  · rintro ⟨once, skips⟩
    rw [fieldNames_field known] at once
    obtain ⟨single, once⟩ := List.nodup_cons.mp once
    exact ⟨single, once, (List.forall_mem_cons.mp skips).2⟩
  · rintro ⟨single, once, skips⟩
    refine ⟨?_, List.forall_mem_cons.mpr ⟨fun unknown => absurd known unknown, skips⟩⟩
    rw [fieldNames_field known]
    exact List.nodup_cons.mpr ⟨single, once⟩

theorem isReadable_other {name : String} (unknown : name ∉ record.fields) {item : Document}
    {rest : Members Document} : record.IsReadable ((name, item) :: rest) ↔
      item.skip = .ok () ∧ record.IsReadable rest := by
  constructor
  · rintro ⟨once, skips⟩
    rw [fieldNames_other unknown] at once
    obtain ⟨first, others⟩ := List.forall_mem_cons.mp skips
    exact ⟨first unknown, once, others⟩
  · rintro ⟨first, once, skips⟩
    refine ⟨?_, List.forall_mem_cons.mpr ⟨fun _ => first, skips⟩⟩
    rwa [fieldNames_other unknown]

theorem readMembers_named {members : Members Document} (readable : record.IsReadable members)
    {seen : List String} (fresh : ∀ name ∈ record.fieldNames members, name ∉ seen) (value : α) :
    record.readMembers origin (seen, value) (Document.named members) =
      (record.setAll origin members value).map fun result =>
        ((record.fieldNames members).reverse ++ seen, result) := by
  induction members generalizing seen value with
  | nil => rfl
  | cons member rest ih =>
      obtain ⟨name, item⟩ := member
      have unfolded : Document.named ((name, item) :: rest) =
          (.text (.ok name), item) :: Document.named rest := rfl
      rw [unfolded, readMembers]
      by_cases known : name ∈ record.fields
      · obtain ⟨single, readable⟩ := (isReadable_field known).mp readable
        rw [fieldNames_field known] at fresh ⊢
        obtain ⟨unseen, freshToo⟩ := List.forall_mem_cons.mp fresh
        have later : ∀ other ∈ record.fieldNames rest, other ∉ name :: seen := by
          intro other inside taken
          rcases List.mem_cons.mp taken with rfl | before
          · exact single inside
          · exact freshToo other inside before
        rw [readMember_field known unseen, setAll_field known]
        cases record.set origin name item value with
        | error problem => rfl
        | ok next =>
            rw [List.reverse_cons, List.append_assoc]
            exact ih readable later next
      · obtain ⟨skips, readable⟩ := (isReadable_other known).mp readable
        rw [fieldNames_other known] at fresh ⊢
        rw [readMember_other known _ skips, setAll_other known]
        exact ih readable fresh value

/-- What has been read as an object could be read: a second field of one name is refused. -/
theorem isReadable_of_readMembers {members : Members Document} {seen : List String} {value : α}
    {state : List String × α}
    (read : record.readMembers origin (seen, value) (Document.named members) = .ok state) :
    record.IsReadable members ∧ ∀ name ∈ record.fieldNames members, name ∉ seen := by
  induction members generalizing seen value with
  | nil => exact ⟨⟨List.nodup_nil, by simp⟩, by simp [fieldNames, Members.names]⟩
  | cons member rest ih =>
      obtain ⟨name, item⟩ := member
      have unfolded : Document.named ((name, item) :: rest) =
          (.text (.ok name), item) :: Document.named rest := rfl
      rw [unfolded, readMembers, bind_eq_ok_iff] at read
      obtain ⟨next, first, later⟩ := read
      by_cases known : name ∈ record.fields
      · have unseen : name ∉ seen := by
          intro taken
          simp [readMember, Document.name, bind, Except.bind, known, taken] at first
        rw [readMember_field known unseen, map_eq_ok_iff] at first
        obtain ⟨_, _, rfl⟩ := first
        obtain ⟨readable, fresh⟩ := ih later
        rw [isReadable_field known, fieldNames_field known, List.forall_mem_cons]
        refine ⟨⟨fun inside => fresh name inside List.mem_cons_self, readable⟩, unseen, ?_⟩
        exact fun other inside taken => fresh other inside (List.mem_cons_of_mem _ taken)
      · have skips : item.skip = .ok () := by
          cases skipped : item.skip with
          | ok _ => rfl
          | error problem =>
              simp [readMember, Document.name, bind, Except.bind, known, skipped] at first
        rw [readMember_other known _ skips] at first
        injection first with same
        subst same
        obtain ⟨readable, fresh⟩ := ih later
        rw [isReadable_other known, fieldNames_other known]
        exact ⟨⟨skips, readable⟩, fresh⟩

def demand (record : Record α) (names : List String) (value : α) : Except Problem α :=
  match record.required.find? fun name => !names.contains name with
  | some name => .error (.missingField name)
  | none => .ok value

theorem demand_eq_ok_iff {names : List String} {value result : α} :
    record.demand names value = .ok result ↔
      value = result ∧ ∀ name ∈ record.required, name ∈ names := by
  rw [demand]
  split
  · next name missing =>
      have absent := List.find?_some missing
      have required := List.mem_of_find?_eq_some missing
      simp only [reduceCtorEq, false_iff, not_and, not_forall]
      exact fun _ => ⟨name, required, by simpa using absent⟩
  · next missing =>
      have present : ∀ name ∈ record.required, name ∈ names := by simpa using missing
      simpa using fun _ => present

theorem succeeds_demand {names : List String} {value : α} :
    Succeeds (record.demand names value) ↔ ∀ name ∈ record.required, name ∈ names := by
  simp [Succeeds, demand_eq_ok_iff]

/-- An object is read by setting the fields among its members; then the required ones must be
there. -/
theorem read_named {members : Members Document} (readable : record.IsReadable members)
    (fields : ∀ name ∈ record.required, name ∈ record.fields) :
    record.read origin (.object (Document.named members) none) =
      record.setAll origin members record.blank >>= record.demand members.names := by
  have read : record.readMembers origin ([], record.blank) (Document.named members) = _ :=
    readMembers_named readable (by simp) record.blank
  simp only [Record.read, readObject, read, Option.map_none, Document.refuse, List.append_nil]
  cases record.setAll origin members record.blank with
  | error problem => rfl
  | ok value =>
      have same : (record.required.find? fun name =>
          !(record.fieldNames members).reverse.contains name) =
          record.required.find? fun name => !members.names.contains name := by
        refine List.find?_congr ?_
        intro name required
        simp [mem_fieldNames, fields name required]
      simp only [Except.map, bind, Except.bind, same, demand]
      rfl

theorem isReadable_of_read {members : Members Document} {value : α}
    (read : record.read origin (.object (Document.named members) none) = .ok value) :
    record.IsReadable members := by
  simp only [Record.read, readObject, bind_eq_ok_iff] at read
  obtain ⟨_, read, _⟩ := read
  exact (isReadable_of_readMembers read).1

variable {members : Members Json}

/-- The members of a value can be read, whatever else stands beside the fields. -/
theorem isReadable_ofValues {document : Json → Document}
    (skips : ∀ value, (document value).skip = .ok ()) :
    record.IsReadable (Document.ofValues document members) ↔
      (record.fieldNames members).Nodup := by
  have names : record.fieldNames (Document.ofValues document members) =
      record.fieldNames members := by
    rw [fieldNames, Document.names_ofValues, fieldNames]
  constructor
  · exact fun readable => names ▸ readable.once
  · refine fun once => ⟨names ▸ once, ?_⟩
    intro member inside _
    obtain ⟨⟨name, item⟩, _, rfl⟩ := List.mem_map.mp inside
    exact skips item

theorem ofJson_object (distinct : members.IsDistinct)
    (fields : ∀ name ∈ record.required, name ∈ record.fields) :
    record.ofJson (.object members) =
      record.setAll .value (Document.ofValues .ofJson members) record.blank >>=
        record.demand members.names := by
  have readable : record.IsReadable (Document.ofValues .ofJson members) :=
    (isReadable_ofValues Document.skip_ofJson).mpr (List.filter_sublist.nodup distinct)
  rw [ofJson, Document.ofJson, Document.ofMembers_eq, read_named readable fields,
    Document.names_ofValues]

def Judges (record : Record α) (takes : String → Json → Prop) : Prop :=
  ∀ name ∈ record.fields, ∀ item : Json, item.IsDistinct → ∀ value,
    Succeeds (record.set .value name (.ofJson item) value) ↔ takes name item

variable {takes : String → Json → Prop}

theorem succeeds_setAll (judges : record.Judges takes) (distinct : Json.HoldDistinct members)
    (value : α) :
    Succeeds (record.setAll .value (Document.ofValues .ofJson members) value) ↔
      ∀ member ∈ members, member.1 ∈ record.fields → takes member.1 member.2 := by
  induction members generalizing value with
  | nil => simp [setAll, Document.ofValues, pure, Except.pure]
  | cons member rest ih =>
      obtain ⟨name, item⟩ := member
      have unfolded : Document.ofValues .ofJson ((name, item) :: rest) =
          (name, .ofJson item) :: Document.ofValues .ofJson rest := rfl
      rw [List.forall_mem_cons, unfolded]
      by_cases known : name ∈ record.fields
      · rw [setAll_field known, Succeeds.bind_iff_and (ih distinct.2),
          judges name known item distinct.1]
        simp [known]
      · rw [setAll_other known, ih distinct.2]
        simp [known]

/-- An object is a record if its fields take what stands under their names, and none that is
required is missing. -/
theorem succeeds_ofJson_object (judges : record.Judges takes)
    (distinct : (Json.object members).IsDistinct)
    (fields : ∀ name ∈ record.required, name ∈ record.fields) :
    Succeeds (record.ofJson (.object members)) ↔
      (∀ name ∈ record.required, name ∈ members.names) ∧
        ∀ name ∈ record.fields, ∀ item, members.get? name = some item → takes name item := by
  rw [ofJson_object distinct.1 fields, Succeeds.bind_iff_and fun _ => succeeds_demand,
    succeeds_setAll judges distinct.2, and_comm]
  simp only [Members.get?_eq_some_iff distinct.1]
  refine and_congr_right fun _ => ⟨?_, ?_⟩
  · intro taken name known item inside
    exact taken (name, item) inside known
  · rintro taken ⟨name, item⟩ inside known
    exact taken name known item inside

theorem succeeds_readItems (judges : record.Judges takes) {names : List String}
    (known : ∀ name ∈ names, name ∈ record.fields) {items : List Json}
    (distinct : Json.AreDistinct items) (length index : Nat) (value : α) :
    Succeeds (record.readItems .value length index value none names (Document.ofItems items)) ↔
      items.length ≤ names.length ∧ (∀ pair ∈ names.zip items, takes pair.1 pair.2) ∧
        ∀ name ∈ names.drop items.length, name ∉ record.positional := by
  induction names generalizing items index value with
  | nil =>
      cases items with
      | nil => simp [Document.ofItems, readItems, endList, bind, Except.bind, pure, Except.pure]
      | cons item later => simp [Document.ofItems, readItems, endList, bind, Except.bind]
  | cons name rest ih =>
      obtain ⟨field, known⟩ := List.forall_mem_cons.mp known
      cases items with
      | nil =>
          by_cases needed : name ∈ record.positional
          · simp [Document.ofItems, readItems, Document.refuse, bind, Except.bind, needed]
          · have later : Succeeds (record.readItems .value length (index + 1) value none rest []) ↔
                _ := ih known distinct (index + 1) value
            simp [Document.ofItems, readItems, Document.refuse, bind, Except.bind, needed, later]
      | cons item others =>
          rw [Document.ofItems, readItems,
            Succeeds.bind_iff_and fun next => ih known distinct.2 (index + 1) next,
            judges name field item distinct.1]
          simp [and_left_comm, and_assoc]

end Record

end Jose
