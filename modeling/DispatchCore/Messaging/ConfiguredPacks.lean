import DispatchCore.Messaging.IntakeAnswers

/-! The packs an admin can come to: an industry template or a blank definition, edit by edit. -/
namespace DispatchCore.Packs

open DispatchCore.Library DispatchCore.Domain

/-- The keys of a template's fields are checked to differ. -/
inductive Configured (unicode : Unicode) : PackDefinition → Prop
  | blank : Configured unicode blankDefinition
  | template (pack : PackDefinition) (distinct : pack.FieldsDistinct) : Configured unicode pack
  | edited {draft updated : PackDefinition} (configured : Configured unicode draft)
      (edit : ConfigEdit) (stored : edit.outcome unicode draft = .ok (some updated)) :
      Configured unicode updated

theorem perm_moveItem {α : Type} (keyOf : α → String) (items : List α) (key direction : String) :
    (moveItem keyOf items key direction).Perm items := by
  unfold moveItem
  cases items.findIdx? fun item => keyOf item = key with
  | none => exact List.Perm.refl _
  | some index =>
      dsimp only
      generalize (if direction = "up" then (index : Int) - 1 else index + 1) = target
      split
      · exact List.Perm.refl _
      · cases hitem : items[index]? with
        | none => exact List.Perm.refl _
        | some item =>
            cases hother : items[target.toNat]? with
            | none => exact List.Perm.refl _
            | some other =>
                obtain ⟨hbound, rfl⟩ := List.getElem?_eq_some_iff.mp hitem
                obtain ⟨hreach, rfl⟩ := List.getElem?_eq_some_iff.mp hother
                exact List.set_set_perm hbound hreach

theorem keys_renumbered (fields : List FieldDefinition) :
    (ConfigEdits.renumbered fields).map (fun field => field.key) =
      fields.map fun field => field.key := by
  unfold ConfigEdits.renumbered
  apply List.ext_getElem
  · simp
  · intro index _ _
    simp

theorem eq_of_stored {shown : Prop} [Decidable shown] {found updated : PackDefinition}
    (h : (if shown then .ok none else .ok (some found) : ConfigEdits.Outcome) = .ok (some updated)) :
    updated = found := by
  by_cases hshown : shown
  · rw [if_pos hshown] at h
    cases h
  · rw [if_neg hshown] at h
    cases h
    rfl

theorem FieldDefinition.make_key {key label : String} {fieldType : FieldType} {required : Bool}
    {choices : List String} {prompt : String} {order : Int} {field : FieldDefinition}
    (made : FieldDefinition.make key label fieldType required choices prompt order = .ok field) :
    field.key = key := by
  unfold FieldDefinition.make at made
  by_cases named : key ≠ "" ∧ label ≠ ""
  · by_cases choosable : fieldType = .enum ↔ choices ≠ []
    · rw [dif_pos named, dif_pos choosable] at made
      cases made
      rfl
    · rw [dif_pos named, dif_neg choosable] at made
      split at made <;> contradiction
  · rw [dif_neg named] at made
    contradiction

/-- Every edit keeps the keys of the fields apart. -/
theorem fieldsDistinct_edited {unicode : Unicode} {edit : ConfigEdit} {draft updated : PackDefinition}
    (distinct : draft.FieldsDistinct) (stored : edit.outcome unicode draft = .ok (some updated)) :
    updated.FieldsDistinct := by
  have hsame : ∀ {changed : PackDefinition}, changed.fields = draft.fields →
      changed.FieldsDistinct := fun hfields => by
    unfold PackDefinition.FieldsDistinct
    rw [hfields]
    exact distinct
  cases edit with
  | brandStep step text =>
      change ConfigEdits.brandStep step text draft = _ at stored
      unfold ConfigEdits.brandStep at stored
      simp only at stored
      by_cases hname : step = "name"
      · rw [if_pos hname] at stored
        rw [eq_of_stored stored]
        exact hsame rfl
      · rw [if_neg hname] at stored
        by_cases hgreeting : step = "greeting"
        · rw [if_pos hgreeting] at stored
          cases stored
          exact hsame rfl
        · rw [if_neg hgreeting] at stored
          cases stored
          exact hsame rfl
  | serviceSave itemKey itemLabel text =>
      change ConfigEdits.serviceSave unicode itemKey itemLabel text draft = _ at stored
      unfold ConfigEdits.serviceSave at stored
      simp only at stored
      by_cases hempty : ConfigEdits.limit text 120 = ""
      · rw [if_pos hempty] at stored
        cases stored
      · rw [if_neg hempty] at stored
        by_cases htaken : draft.serviceCatalog.categories.any fun category =>
            category.key = itemKey
        · rw [if_pos htaken] at stored
          cases stored
        · rw [if_neg htaken] at stored
          obtain ⟨category, -, h⟩ := except_bind_ok.mp stored
          obtain ⟨catalog, -, h⟩ := except_bind_ok.mp h
          cases h
          exact hsame rfl
  | serviceDelete key =>
      obtain ⟨catalog, -, h⟩ := except_bind_ok.mp stored
      cases h
      exact hsame rfl
  | serviceMultiSelect =>
      cases stored
      exact hsame rfl
  | serviceMove key direction =>
      obtain ⟨catalog, -, h⟩ := except_bind_ok.mp stored
      cases h
      exact hsame rfl
  | fieldRequired key label fieldType choices required =>
      unfold ConfigEdit.outcome ConfigEdits.fieldRequired at stored
      by_cases htaken : draft.fields.any fun field =>
          field.key = ConfigEdits.fieldKey unicode key label draft
      · simp only [if_pos htaken] at stored
        cases stored
      · simp only [if_neg htaken] at stored
        obtain ⟨field, hfield, h⟩ := except_bind_ok.mp stored
        cases h
        have hkey : field.key = ConfigEdits.fieldKey unicode key label draft :=
          FieldDefinition.make_key hfield
        unfold PackDefinition.FieldsDistinct
        rw [List.map_append, List.nodup_append]
        refine ⟨distinct, List.nodup_singleton _, ?_⟩
        intro taken htakes other hother hsame
        obtain ⟨found, hfound, rfl⟩ := List.mem_map.mp htakes
        rw [List.map_singleton, List.mem_singleton] at hother
        apply htaken
        rw [List.any_eq_true]
        exact ⟨found, hfound, by simpa [hkey] using hsame.trans hother⟩
  | fieldDelete key =>
      cases stored
      exact distinct.sublist (List.filter_sublist.map _)
  | fieldMove key direction =>
      cases stored
      unfold PackDefinition.FieldsDistinct
      rw [keys_renumbered]
      have hperm := (perm_moveItem FieldDefinition.key draft.orderedFields key direction).trans
        (List.perm_insertionSort _ draft.fields)
      exact (hperm.map _).nodup_iff.mpr distinct
  | fieldPromptSave key text =>
      rw [eq_of_stored stored]
      unfold PackDefinition.FieldsDistinct
      rw [List.map_map]
      have hkeys : ∀ field : FieldDefinition, ((fun field => field.key) ∘ fun field =>
          if field.key = key then
            { field with prompt := if Text.strip text = "-" then "" else
              ConfigEdits.limit text 500 }
          else field) field = field.key := by
        intro field
        simp only [Function.comp]
        split <;> rfl
      rw [List.map_congr_left fun field _ => hkeys field]
      exact distinct
  | evidenceToggle action =>
      cases stored
      exact hsame rfl
  | poolMode mode =>
      cases stored
      exact hsame rfl
  | roleLabelSave role text =>
      change ConfigEdits.roleLabelSave role text draft = _ at stored
      unfold ConfigEdits.roleLabelSave at stored
      cases hrole : defaultRoleLabels.get? role with
      | none => simp [hrole] at stored
      | some standard =>
          simp only [hrole] at stored
          rw [eq_of_stored stored]
          exact hsame rfl

theorem Configured.fieldsDistinct {unicode : Unicode} {pack : PackDefinition}
    (configured : Configured unicode pack) : pack.FieldsDistinct := by
  induction configured with
  | blank => exact List.nodup_nil
  | template pack distinct => exact distinct
  | edited configured edit stored ih => exact fieldsDistinct_edited ih stored

end DispatchCore.Packs
