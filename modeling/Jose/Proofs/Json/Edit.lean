import Jose.Proofs.Json.Layout

/-!
Texts that say the same to a reader of records. Members may stand in another order, any members may
be added that are no fields, fields may be left out where that makes no difference, and what is
written for a field may be restated.
-/

namespace Jose

namespace Document

mutual

theorem skipped_written : (value : Json) → (written value).skipped = none
  | .null => rfl
  | .bool _ => rfl
  | .number _ => rfl
  | .text _ => rfl
  | .list items => by simp [written, skipped, skippedItems_written items]
  | .object members => by simp [written, skipped, skippedMembers_written members]

theorem skippedItems_written : (items : List Json) → skippedItems (writtenItems items) = none
  | [] => rfl
  | item :: rest => by
      simp [writtenItems, skippedItems, skipped_written item, skippedItems_written rest]

theorem skippedMembers_written : (members : List (String × Json)) →
    skippedMembers (writtenMembers members) = none
  | [] => rfl
  | (name, value) :: rest => by
      simp [writtenMembers, skippedMembers, skippedName, skipped_written value,
        skippedMembers_written rest]

end

theorem skip_written (value : Json) : (written value).skip = .ok () := by
  rw [skip, skipped_written, refuse]

theorem writtenMembers_eq (members : Members Json) :
    writtenMembers members = named (ofValues written members) := by
  induction members with
  | nil => rfl
  | cons member rest ih =>
      rw [writtenMembers, ih]
      rfl

end Document

namespace Record

variable {α β : Type} {record : Record α} {members left right before after : Members Json}
  {target : α}

def ofWritten (record : Record α) (value : Json) : Except Problem α :=
  record.read .text (.written value)

theorem ofBytes_eq_ofWritten (record : Record α) (value : Json) :
    record.ofBytes value.encode = record.ofWritten value := by
  rw [ofBytes, Scanned.ofBytes_written, Scanned.readWith, ofWritten]
  cases record.read .text (.written value) <;> rfl

inductive Edit (record : Record α) (idle : Members Json) : Members Json → Members Json → Prop
  | reordered {left right : Members Json} : left.Perm right → Edit record idle left right
  | added {before after : Members Json} {name : String} (item : Json) : name ∉ record.fields →
      Edit record idle (before ++ after) (before ++ (name, item) :: after)
  | omitted {before after : Members Json} {member : String × Json} : member ∈ idle →
      Edit record idle (before ++ member :: after) (before ++ after)

namespace Layout

variable (layout : record.Layout β) (lenient : record.required = [])

include layout lenient

theorem ofWritten_eq_ok_iff :
    record.ofWritten (.object members) = .ok target ↔ (record.fieldNames members).Nodup ∧
      layout.Tells .text record.blank (Document.ofValues .written members) target := by
  rw [ofWritten, Document.written, Document.writtenMembers_eq,
    layout.read_eq_ok_iff (by simp [lenient]), isReadable_ofValues Document.skip_written]
  simp [lenient]

theorem ofWritten_rearranged (same : record.SameFields left right)
    (read : record.ofWritten (.object left) = .ok target) :
    record.ofWritten (.object right) = .ok target := by
  rw [layout.ofWritten_eq_ok_iff lenient] at read ⊢
  obtain ⟨once, tells⟩ := read
  exact ⟨same.fieldNames_perm.nodup_iff.mp once, tells.rearranged (same.ofValues _)⟩

theorem ofWritten_omitted {name : String} {item : Json}
    (idle : layout.Shows .text record.blank name (.written item))
    (read : record.ofWritten (.object (before ++ (name, item) :: after)) = .ok target) :
    record.ofWritten (.object (before ++ after)) = .ok target := by
  rw [layout.ofWritten_eq_ok_iff lenient] at read ⊢
  obtain ⟨once, shown, spared⟩ := read
  have shorter : (before ++ after).Sublist (before ++ (name, item) :: after) :=
    (List.sublist_cons_self (name, item) after).append_left before
  refine ⟨((shorter.map Prod.fst).filter _).nodup once, ?_, ?_⟩
  · exact fun member inside => shown member ((shorter.map _).subset inside)
  · intro other known absent
    rw [Document.names_ofValues] at absent spared
    by_cases same : other = name
    · -- The member showed the target what it also shows a blank record.
      subst same
      have inside : (other, item) ∈ before ++ (other, item) :: after := by simp
      exact (shown _ (List.mem_map_of_mem inside) known).unique idle
    · refine spared other known ?_
      simpa [same] using absent

/-- What is written for a field may be restated if the field takes it all the same. -/
theorem ofWritten_restated {name : String} {item other : Json}
    (takes : ∀ value next, record.set .text name (.written item) value = .ok next →
      record.set .text name (.written other) value = .ok next)
    (read : record.ofWritten (.object (before ++ (name, item) :: after)) = .ok target) :
    record.ofWritten (.object (before ++ (name, other) :: after)) = .ok target := by
  rw [layout.ofWritten_eq_ok_iff lenient] at read ⊢
  obtain ⟨once, shown, spared⟩ := read
  have names : (before ++ (name, other) :: after).names =
      (before ++ (name, item) :: after).names := by simp
  refine ⟨?_, ?_, ?_⟩
  · rwa [fieldNames, names]
  · intro member inside known value
    obtain ⟨⟨label, held⟩, written, rfl⟩ := List.mem_map.mp inside
    rcases List.mem_append.mp written with early | late
    · exact shown _ (List.mem_map_of_mem (List.mem_append_left _ early)) known value
    · rcases List.mem_cons.mp late with first | later
      · injection first with label same
        subst label same
        obtain ⟨next, set, seen⟩ :=
          shown _ (List.mem_map_of_mem (by simp : (_, item) ∈ _)) known value
        exact ⟨next, takes value next set, seen⟩
      · exact shown _ (List.mem_map_of_mem
          (List.mem_append_right _ (List.mem_cons_of_mem _ later))) known value
  · rw [Document.names_ofValues] at spared ⊢
    rwa [names]

theorem ofWritten_edit {idle : Members Json}
    (idles : ∀ member ∈ idle, layout.Shows .text record.blank member.1 (.written member.2))
    (edit : record.Edit idle left right) (read : record.ofWritten (.object left) = .ok target) :
    record.ofWritten (.object right) = .ok target := by
  cases edit with
  | reordered moved => exact layout.ofWritten_rearranged lenient (.of_perm moved) read
  | added item unknown => exact layout.ofWritten_rearranged lenient (.added unknown _ _ item) read
  | omitted inside => exact layout.ofWritten_omitted lenient (idles _ inside) read

theorem ofWritten_fields (names : members.names = record.fields) (once : record.fields.Nodup)
    (shown : ∀ member ∈ members, layout.Shows .text target member.1 (.written member.2)) :
    record.ofWritten (.object members) = .ok target := by
  refine (layout.ofWritten_eq_ok_iff lenient).mpr ⟨?_, ?_, ?_⟩
  · exact List.filter_sublist.nodup (names ▸ once)
  · intro member inside _
    obtain ⟨held, written, rfl⟩ := List.mem_map.mp inside
    exact shown held written
  · intro name known absent
    rw [Document.names_ofValues, names] at absent
    exact absurd known absent

end Layout

end Record

end Jose
