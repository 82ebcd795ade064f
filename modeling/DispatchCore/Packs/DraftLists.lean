import DispatchCore.Library.Neighbours
import DispatchCore.Messaging.ConfiguredPacks
import DispatchCore.Packs.RepeatedEdits

/-! The services and the fields of a draft as two plain lists, and what the configurator's
edits are to them.  Where a field stands is stored as a number beside it. -/
namespace DispatchCore.Packs

open DispatchCore.Library DispatchCore.Domain

/-- The fields stand in their order, without the numbers that put them there. -/
structure DraftLists where
  services : List ServiceCategory
  fields : List FieldDefinition

def PackDefinition.lists (draft : PackDefinition) : DraftLists :=
  ⟨draft.serviceCatalog.categories, draft.orderedFields.map FieldDefinition.face⟩

/-- Everything that is in neither list. -/
def PackDefinition.unlisted (draft : PackDefinition) : PackDefinition :=
  { draft with
    serviceCatalog := ⟨[], draft.serviceCatalog.multiSelect, List.nodup_nil⟩
    fields := [] }

section moved

variable {α : Type} (keyOf : α → String)

/-- An item changes places with its neighbour above or below it. -/
def moved (key direction : String) (items : List α) : List α :=
  if direction = "up" then raised (fun item => keyOf item = key) items
  else if direction = "down" then lowered (fun item => keyOf item = key) items
  else items

end moved

/-- What an edit is to the lists. -/
inductive ListEdit
  | keep
  | addService (service : ServiceCategory)
  | removeService (key : String)
  | moveService (key direction : String)
  | addField (field : FieldDefinition)
  | removeField (key : String)
  | moveField (key direction : String)
  | promptField (key prompt : String)

def ListEdit.onLists (lists : DraftLists) : ListEdit → DraftLists
  | keep => lists
  | addService service => { lists with services := lists.services ++ [service] }
  | removeService key =>
      { lists with services := lists.services.filter fun service => service.key ≠ key }
  | moveService key direction =>
      { lists with services := moved ServiceCategory.key key direction lists.services }
  | addField field => { lists with fields := lists.fields ++ [field] }
  | removeField key => { lists with fields := lists.fields.filter fun field => field.key ≠ key }
  | moveField key direction =>
      { lists with fields := moved FieldDefinition.key key direction lists.fields }
  | promptField key prompt =>
      { lists with
        fields := lists.fields.map fun field =>
          if field.key = key then { field with prompt := prompt } else field }

/-! ### Keys that are made from labels -/

section keys

variable {base key : String} {taken : List String} {tries index : Nat}

/-- The keys that are tried after the first one. -/
def laterKeys (base : String) (tries index : Nat) : List String :=
  (List.range' index tries).map fun number => s!"{base}_{number}"

theorem freeKey_notMem_or (base : String) (taken : List String) (tries index : Nat) (key : String) :
    freeKey base taken tries index key ∉ taken ∨
      ∀ tried ∈ key :: laterKeys base tries index, tried ∈ taken := by
  induction tries generalizing index key with
  | zero =>
      by_cases hkey : key ∈ taken
      · refine .inr fun tried hmem => ?_
        rw [List.mem_singleton.mp hmem]
        exact hkey
      · exact .inl hkey
  | succ tries ih =>
      rw [freeKey]
      by_cases hkey : key ∈ taken
      · rw [if_pos hkey]
        rcases ih (index + 1) s!"{base}_{index}" with hfree | hall
        · exact .inl hfree
        · refine .inr fun tried hmem => ?_
          rcases List.mem_cons.mp hmem with rfl | hlater
          · exact hkey
          · apply hall
            rwa [laterKeys, List.range'_succ, List.map_cons] at hlater
      · rw [if_neg hkey]
        exact .inl hkey

theorem toList_numberedKey (base : String) (number : Nat) :
    (s!"{base}_{number}").toList = base.toList ++ '_' :: Nat.toDigits 10 number := by
  simp [toString, Nat.repr]

theorem numberedKey_injective {left right : Nat} (same : s!"{base}_{left}" = s!"{base}_{right}") :
    left = right := by
  have hlist := congrArg String.toList same
  rw [toList_numberedKey, toList_numberedKey, List.append_cancel_left_eq, List.cons.injEq] at hlist
  have hvalue := congrArg (fun digits => Nat.ofDigitChars 10 digits 0) hlist.2
  simpa using hvalue

theorem keys_nodup (base : String) (tries index : Nat) :
    (base :: laterKeys base tries index).Nodup := by
  rw [List.nodup_cons]
  constructor
  · intro hmem
    obtain ⟨number, -, hsame⟩ := List.mem_map.mp hmem
    have hlength := congrArg (fun text => text.toList.length) hsame
    simp only [toList_numberedKey, List.length_append, List.length_cons] at hlength
    omega
  · exact List.Nodup.map (fun left right => numberedKey_injective) List.nodup_range'

/-- There are more keys to try than taken ones. -/
theorem freeKey_notMem (base : String) (taken : List String) :
    freeKey base taken taken.length 2 base ∉ taken := by
  rcases freeKey_notMem_or base taken taken.length 2 base with hfree | hall
  · exact hfree
  · have hlength := (List.subperm_of_subset (keys_nodup base taken.length 2) hall).length_le
    simp [laterKeys] at hlength

theorem slug_notMem (unicode : Unicode) (label fallback : String) (taken : List String) :
    slug unicode label fallback taken ∉ taken :=
  freeKey_notMem _ taken

theorem freeKey_ne_empty (first : key ≠ "") : freeKey base taken tries index key ≠ "" := by
  induction tries generalizing index key with
  | zero => exact first
  | succ tries ih =>
      rw [freeKey]
      split
      · apply ih
        intro hempty
        have hlength := congrArg (fun text => text.toList.length) hempty
        simp only [toList_numberedKey, List.length_append, List.length_cons] at hlength
        contradiction
      · exact first

theorem slug_ne_empty (unicode : Unicode) (label : String) {fallback : String}
    (named : fallback ≠ "") (taken : List String) : slug unicode label fallback taken ≠ "" := by
  unfold slug
  dsimp only
  by_cases hempty : String.ofList (stripUnderscores (squeeze false
      (unicode.asciiFold label).toLower.toList)) = ""
  · rw [if_pos hempty]
    exact freeKey_ne_empty named
  · rw [if_neg hempty]
    exact freeKey_ne_empty hempty

end keys

/-! ### Moves -/

section moves

variable {α : Type} {keyOf : α → String} {items above below : List α} {item other : α} {key : String}

theorem FoundAt.of_append (unpicked : ∀ item ∈ above, keyOf item ≠ key) (keyed : keyOf item = key) :
    FoundAt keyOf (above ++ item :: below) key above.length item := by
  refine ⟨by simp, keyed, fun place earlier hbefore hearlier => ?_⟩
  rw [List.getElem?_append_left hbefore] at hearlier
  exact unpicked earlier (List.mem_of_getElem? hearlier)

theorem moveItem_up (keyOf : α → String) (items : List α) (key : String) :
    moveItem keyOf items key "up" = raised (fun item => keyOf item = key) items := by
  rcases picked_cases (fun item => keyOf item = key) items with
    hnone | ⟨above, item, below, rfl, hkeyed, habove⟩
  · rw [raised_unpicked hnone]
    apply moveItem_missing
    rw [List.findIdx?_eq_none_iff]
    intro item hmem
    exact decide_eq_false (hnone item hmem)
  · have hfound := @FoundAt.of_append _ _ above below item key habove hkeyed
    rcases List.eq_nil_or_concat above with rfl | ⟨before, other, rfl⟩
    · rw [moveItem_beyond hfound (.inl (show movedTo "up" 0 < 0 by decide))]
      exact (@raised_head _ (fun item => keyOf item = key) _ below item hkeyed).symm
    · rw [List.concat_eq_append] at *
      rw [List.append_assoc] at hfound ⊢
      have hbefore : ∀ item ∈ before, keyOf item ≠ key := fun item hmem => habove item (by simp [hmem])
      have hleads : movedTo "up" (before ++ [other]).length = before.length := by
        unfold movedTo
        rw [if_pos rfl, List.length_append]
        simp
      have hthere : (before ++ other :: item :: below)[before.length]? = some other := by simp
      change FoundAt keyOf (before ++ other :: item :: below) key _ item at hfound
      show moveItem keyOf (before ++ other :: item :: below) key "up" =
        raised (fun item => keyOf item = key) (before ++ other :: item :: below)
      rw [moveItem_within hfound (.inl rfl) hleads hthere,
        raised_append hbefore (habove other (by simp)) hkeyed]
      simp

theorem moveItem_down (keyOf : α → String) (items : List α) (key : String) :
    moveItem keyOf items key "down" = lowered (fun item => keyOf item = key) items := by
  rcases picked_cases (fun item => keyOf item = key) items with
    hnone | ⟨above, item, below, rfl, hkeyed, habove⟩
  · rw [lowered_unpicked hnone]
    apply moveItem_missing
    rw [List.findIdx?_eq_none_iff]
    intro item hmem
    exact decide_eq_false (hnone item hmem)
  · have hfound := @FoundAt.of_append _ _ above below item key habove hkeyed
    have hleads : movedTo "down" above.length = (above.length + 1 : Nat) := rfl
    cases below with
    | nil =>
        rw [moveItem_beyond hfound, lowered_last habove]
        right
        rw [hleads, List.length_append]
        simp
    | cons other rest =>
        have hthere : (above ++ item :: other :: rest)[above.length + 1]? = some other := by simp
        rw [moveItem_within hfound (.inr rfl) hleads hthere, lowered_append habove hkeyed]
        simp

theorem moveItem_eq_moved (keyOf : α → String) (items : List α) (key direction : String) :
    moveItem keyOf items key direction = moved keyOf key direction items := by
  unfold moved
  by_cases hup : direction = "up"
  · rw [if_pos hup, hup, moveItem_up]
  · rw [if_neg hup]
    by_cases hdown : direction = "down"
    · rw [if_pos hdown, hdown, moveItem_down]
    · rw [if_neg hdown]
      exact moveItem_still fun hway => hway.elim hup hdown

end moves

/-! ### Fields in their order -/

section ordered

variable {draft : PackDefinition} {items : List FieldDefinition}

/-- `(item.order, item.key)` -/
def FieldDefinition.Precedes (left right : FieldDefinition) : Prop :=
  left.order < right.order ∨ (left.order = right.order ∧ left.key ≤ right.key)

instance (left right : FieldDefinition) : Decidable (left.Precedes right) :=
  inferInstanceAs (Decidable (_ ∨ _))

instance : Std.Total FieldDefinition.Precedes where
  total left right := by
    unfold FieldDefinition.Precedes
    rcases lt_trichotomy left.order right.order with hless | hsame | hmore
    · exact .inl (.inl hless)
    · rcases String.le_total left.key right.key with hkeys | hkeys
      · exact .inl (.inr ⟨hsame, hkeys⟩)
      · exact .inr (.inr ⟨hsame.symm, hkeys⟩)
    · exact .inr (.inl hmore)

instance : IsTrans FieldDefinition FieldDefinition.Precedes where
  trans left middle right := by
    rintro (hfirst | ⟨hfirst, hkeys⟩) (hsecond | ⟨hsecond, hothers⟩)
    · exact .inl (hfirst.trans hsecond)
    · exact .inl (hsecond ▸ hfirst)
    · exact .inl (hfirst ▸ hsecond)
    · exact .inr ⟨hfirst.trans hsecond, String.le_trans hkeys hothers⟩

theorem orderedFields_pairwise (draft : PackDefinition) :
    draft.orderedFields.Pairwise FieldDefinition.Precedes :=
  List.pairwise_insertionSort FieldDefinition.Precedes draft.fields

theorem orderedFields_perm (draft : PackDefinition) : draft.orderedFields.Perm draft.fields :=
  List.perm_insertionSort _ draft.fields

/-- There is one order of fields with keys of their own. -/
theorem orderedFields_eq (distinct : draft.FieldsDistinct) (perm : items.Perm draft.fields)
    (sorted : items.Pairwise FieldDefinition.Precedes) : draft.orderedFields = items := by
  refine List.Perm.eq_of_pairwise ?_ (orderedFields_pairwise draft) sorted
    ((orderedFields_perm draft).trans perm.symm)
  intro left right hleft hright hbefore hafter
  have hkeys : left.key = right.key := by
    rcases hbefore with hless | ⟨hsame, hkeys⟩
    · rcases hafter with hmore | ⟨hother, _⟩ <;> omega
    · rcases hafter with hmore | ⟨_, hothers⟩
      · omega
      · exact String.le_antisymm hkeys hothers
  exact List.inj_on_of_nodup_map distinct ((orderedFields_perm draft).mem_iff.mp hleft)
    (perm.mem_iff.mp hright) hkeys

end ordered

/-! ### Edits of the lists -/

namespace ConfigEdits

variable {unicode : Unicode} {draft : PackDefinition}

theorem serviceKey_ne_empty (itemKey itemLabel text : String) :
    serviceKey unicode itemKey itemLabel text draft ≠ "" := by
  unfold serviceKey
  split
  · exact slug_ne_empty unicode text (by decide) _
  · rename_i hkept
    exact fun hempty => hkept (.inl hempty)

theorem fieldKey_ne_empty (key label : String) : fieldKey unicode key label draft ≠ "" := by
  unfold fieldKey
  split
  · exact slug_ne_empty unicode label (by decide) _
  · assumption

/-- A key that the catalog does not have yet. -/
theorem serviceKey_notMem {itemKey itemLabel text : String}
    (free : itemKey ∉ draft.serviceCatalog.categories.map fun category => category.key) :
    serviceKey unicode itemKey itemLabel text draft ∉
      draft.serviceCatalog.categories.map fun category => category.key := by
  unfold serviceKey
  split
  · exact slug_notMem unicode text _ _
  · exact free

/-- The prompt that a text stands for. -/
def promptOf (text : String) : String := if Text.strip text = "-" then "" else limit text 500

end ConfigEdits

namespace ConfigEdit

variable {unicode : Unicode} {draft : PackDefinition}

/-- The edits of the two lists. -/
def EditsLists : ConfigEdit → Prop
  | serviceSave _ _ _ => True
  | serviceDelete _ => True
  | serviceMove _ _ => True
  | fieldRequired _ _ _ _ _ => True
  | fieldDelete _ => True
  | fieldMove _ _ => True
  | fieldPromptSave _ _ => True
  | _ => False

instance (edit : ConfigEdit) : Decidable edit.EditsLists := by
  cases edit <;> unfold EditsLists <;> infer_instance

/-- What an edit is to the lists of a draft.  A service or a field whose key is there already
is taken for one that was saved before, and an unfit one is not saved. -/
def listed (unicode : Unicode) (draft : PackDefinition) : ConfigEdit → ListEdit
  | serviceSave itemKey itemLabel text =>
      if added : ConfigEdits.limit text 120 ≠ "" ∧
          itemKey ∉ draft.serviceCatalog.categories.map fun category => category.key then
        .addService ⟨ConfigEdits.serviceKey unicode itemKey itemLabel (ConfigEdits.limit text 120)
          draft, ConfigEdits.limit text 120,
          ConfigEdits.serviceKey_ne_empty itemKey itemLabel _, added.1⟩
      else .keep
  | serviceDelete key => .removeService key
  | serviceMove key direction => .moveService key direction
  | fieldRequired key label fieldType choices required =>
      if added : (label ≠ "" ∧ (fieldType = .enum ↔ choices ≠ [])) ∧
          ConfigEdits.fieldKey unicode key label draft ∉ draft.fields.map fun field => field.key then
        .addField ⟨ConfigEdits.fieldKey unicode key label draft, label, fieldType, required, choices,
          s!"Введите: {label}", 0, ⟨ConfigEdits.fieldKey_ne_empty key label, added.1.1⟩, added.1.2⟩
      else .keep
  | fieldDelete key => .removeField key
  | fieldMove key direction => .moveField key direction
  | fieldPromptSave key text => .promptField key (ConfigEdits.promptOf text)
  | _ => .keep

theorem any_key_eq {α : Type} {keyOf : α → String} {items : List α} {key : String} :
    (items.any fun item => keyOf item = key) = true ↔ key ∈ items.map keyOf := by
  simp [List.any_eq_true, List.mem_map]

theorem nodup_append_key {α : Type} {keyOf : α → String} {items : List α} {item : α}
    (distinct : (items.map keyOf).Nodup) (free : keyOf item ∉ items.map keyOf) :
    ((items ++ [item]).map keyOf).Nodup := by
  rw [List.map_append, List.nodup_append]
  refine ⟨distinct, List.nodup_singleton _, ?_⟩
  rintro taken htakes other hother rfl
  rw [List.map_singleton, List.mem_singleton] at hother
  rw [hother] at htakes
  exact free htakes

theorem unlisted_catalog {categories : List ServiceCategory} {catalog : ServiceCatalog}
    (made : ServiceCatalog.make categories draft.serviceCatalog.multiSelect = .ok catalog) :
    PackDefinition.unlisted { draft with serviceCatalog := catalog } = draft.unlisted := by
  unfold ServiceCatalog.make at made
  by_cases hdistinct : (categories.map fun category => category.key).Nodup
  · rw [dif_pos hdistinct] at made
    cases made
    rfl
  · rw [dif_neg hdistinct] at made
    cases made

/-- The lists of a draft with other fields. -/
theorem lists_fields {fields : List FieldDefinition} :
    PackDefinition.lists { draft with fields := fields } =
      { draft.lists with
        fields := (PackDefinition.orderedFields { draft with fields := fields }).map
          FieldDefinition.face } := rfl

theorem apply_serviceSave (itemKey itemLabel text : String) :
    ((serviceSave itemKey itemLabel text).apply unicode draft).lists =
      ((serviceSave itemKey itemLabel text).listed unicode draft).onLists draft.lists := by
  by_cases hempty : ConfigEdits.limit text 120 = ""
  · have hshown : (serviceSave itemKey itemLabel text).outcome unicode draft = .ok none := by
      show ConfigEdits.serviceSave unicode itemKey itemLabel text draft = _
      unfold ConfigEdits.serviceSave
      simp only [hempty, if_true]
      rfl
    rw [apply_of_shown hshown, listed, dif_neg (fun added => added.1 hempty)]
    rfl
  · by_cases htaken : itemKey ∈ draft.serviceCatalog.categories.map fun category => category.key
    · have hshown : (serviceSave itemKey itemLabel text).outcome unicode draft = .ok none := by
        show ConfigEdits.serviceSave unicode itemKey itemLabel text draft = _
        unfold ConfigEdits.serviceSave
        simp only [if_neg hempty, if_pos (any_key_eq.mpr htaken)]
        rfl
      rw [apply_of_shown hshown, listed, dif_neg (fun added => added.2 htaken)]
      rfl
    · let service : ServiceCategory :=
        ⟨ConfigEdits.serviceKey unicode itemKey itemLabel (ConfigEdits.limit text 120) draft,
          ConfigEdits.limit text 120, ConfigEdits.serviceKey_ne_empty itemKey itemLabel _, hempty⟩
      have hdistinct : ((draft.serviceCatalog.categories ++ [service]).map
          fun category => category.key).Nodup :=
        nodup_append_key draft.serviceCatalog.distinct (ConfigEdits.serviceKey_notMem htaken)
      have hstored : (serviceSave itemKey itemLabel text).outcome unicode draft =
          .ok (some { draft with serviceCatalog := ⟨draft.serviceCatalog.categories ++ [service],
            draft.serviceCatalog.multiSelect, hdistinct⟩ }) := by
        show ConfigEdits.serviceSave unicode itemKey itemLabel text draft = _
        unfold ConfigEdits.serviceSave
        have hmade : ServiceCategory.make (ConfigEdits.serviceKey unicode itemKey itemLabel
            (ConfigEdits.limit text 120) draft) (ConfigEdits.limit text 120) = .ok service :=
          dif_pos service.named
        simp only [if_neg hempty, if_neg (fun h => htaken (any_key_eq.mp h)), hmade]
        show (ServiceCatalog.make (draft.serviceCatalog.categories ++ [service]) _ >>= _) = _
        rw [ServiceCatalog.make_eq _ hdistinct]
        rfl
      rw [apply_of_stored hstored, listed, dif_pos ⟨hempty, htaken⟩]
      rfl

theorem lt_nextOrder {fields : List FieldDefinition} {field : FieldDefinition}
    (stored : field ∈ fields) : field.order < ConfigEdits.nextOrder fields := by
  have hmem : field.order ∈ fields.map fun field => field.order := List.mem_map_of_mem stored
  unfold ConfigEdits.nextOrder
  cases hmax : (fields.map fun field => field.order).max? with
  | none =>
      rw [List.max?_eq_none_iff.mp hmax] at hmem
      cases hmem
  | some greatest =>
      have hbound := (List.max?_eq_some_iff.mp hmax).2 field.order hmem
      show field.order < greatest + 1
      omega

/-- A field behind all others comes last in the order. -/
theorem orderedFields_append (distinct : draft.FieldsDistinct) {field : FieldDefinition}
    (free : field.key ∉ draft.fields.map fun field => field.key)
    (last : field.order = ConfigEdits.nextOrder draft.fields) :
    PackDefinition.orderedFields { draft with fields := draft.fields ++ [field] } =
      draft.orderedFields ++ [field] := by
  have hdistinct : PackDefinition.FieldsDistinct { draft with fields := draft.fields ++ [field] } :=
    nodup_append_key distinct free
  apply orderedFields_eq hdistinct
  · exact (orderedFields_perm draft).append_right _
  · rw [List.pairwise_append]
    refine ⟨orderedFields_pairwise draft, List.pairwise_singleton .., ?_⟩
    intro other hother added hadded
    rw [List.mem_singleton.mp hadded]
    left
    rw [last]
    exact lt_nextOrder ((orderedFields_perm draft).mem_iff.mp hother)

theorem apply_fieldRequired (distinct : draft.FieldsDistinct) (key label : String)
    (fieldType : FieldType) (choices : List String) (required : Bool) :
    let edit : ConfigEdit := .fieldRequired key label fieldType choices required
    (edit.apply unicode draft).lists = (edit.listed unicode draft).onLists draft.lists := by
  intro edit
  have hnamed := @ConfigEdits.fieldKey_ne_empty unicode draft key label
  have houtcome : edit.outcome unicode draft =
      ConfigEdits.fieldRequired unicode key label fieldType choices required draft := rfl
  by_cases htaken : ConfigEdits.fieldKey unicode key label draft ∈
      draft.fields.map fun field => field.key
  · have hshown : edit.outcome unicode draft = .ok none := by
      rw [houtcome]
      unfold ConfigEdits.fieldRequired
      simp only [if_pos (any_key_eq.mpr htaken)]
      rfl
    rw [apply_of_shown hshown, listed, dif_neg (fun added => added.2 htaken)]
    rfl
  · have hmakes : edit.outcome unicode draft =
        (FieldDefinition.make (ConfigEdits.fieldKey unicode key label draft) label fieldType required
          choices s!"Введите: {label}" (ConfigEdits.nextOrder draft.fields) >>= fun field =>
            .ok (some { draft with fields := draft.fields ++ [field] })) := by
      rw [houtcome]
      unfold ConfigEdits.fieldRequired
      simp only [if_neg (fun h => htaken (any_key_eq.mp h))]
      rfl
    by_cases hfits : label ≠ "" ∧ (fieldType = .enum ↔ choices ≠ [])
    · let field : FieldDefinition := ⟨ConfigEdits.fieldKey unicode key label draft, label, fieldType,
        required, choices, s!"Введите: {label}", ConfigEdits.nextOrder draft.fields,
        ⟨hnamed, hfits.1⟩, hfits.2⟩
      have hmade : FieldDefinition.make (ConfigEdits.fieldKey unicode key label draft) label
          fieldType required choices s!"Введите: {label}" (ConfigEdits.nextOrder draft.fields) =
            .ok field := by
        unfold FieldDefinition.make
        rw [dif_pos ⟨hnamed, hfits.1⟩, dif_pos hfits.2]
      have hstored : edit.outcome unicode draft =
          .ok (some { draft with fields := draft.fields ++ [field] }) := by
        rw [hmakes, hmade]
        rfl
      rw [apply_of_stored hstored, listed, dif_pos ⟨hfits, htaken⟩, lists_fields,
        orderedFields_append distinct htaken rfl, List.map_append]
      rfl
    · have hrefused : ∃ failure, edit.outcome unicode draft = .error failure := by
        rw [hmakes]
        unfold FieldDefinition.make
        by_cases hlabel : label ≠ ""
        · rw [dif_pos ⟨hnamed, hlabel⟩, dif_neg fun hchoices => hfits ⟨hlabel, hchoices⟩]
          by_cases henum : fieldType = .enum
          · rw [if_pos henum]
            exact ⟨_, rfl⟩
          · rw [if_neg henum]
            exact ⟨_, rfl⟩
        · rw [dif_neg fun hboth => hlabel hboth.2]
          exact ⟨_, rfl⟩
      obtain ⟨failure, hfailure⟩ := hrefused
      have hkept : edit.apply unicode draft = draft := by
        unfold apply
        rw [hfailure]
      rw [hkept, listed, dif_neg (fun added => hfits added.1)]
      rfl

theorem apply_fieldDelete (distinct : draft.FieldsDistinct) (key : String) :
    ((fieldDelete key).apply unicode draft).lists =
      ((fieldDelete key).listed unicode draft).onLists draft.lists := by
  have hdistinct : PackDefinition.FieldsDistinct { draft with
      fields := draft.fields.filter fun field => field.key ≠ key } :=
    List.Nodup.sublist (List.filter_sublist.map _) distinct
  have hordered := orderedFields_eq hdistinct
    ((orderedFields_perm draft).filter fun field => decide (field.key ≠ key))
    ((orderedFields_pairwise draft).filter _)
  show PackDefinition.lists { draft with fields := draft.fields.filter fun field => field.key ≠ key } = _
  rw [lists_fields, hordered]
  unfold listed ListEdit.onLists PackDefinition.lists
  dsimp only
  rw [List.filter_map]
  rfl

theorem apply_fieldMove (key direction : String) :
    ((fieldMove key direction).apply unicode draft).lists =
      ((fieldMove key direction).listed unicode draft).onLists draft.lists := by
  let fields := moveItem FieldDefinition.key draft.orderedFields key direction
  show PackDefinition.lists { draft with fields := ConfigEdits.renumbered fields } = _
  rw [lists_fields, orderedFields_renumbered, renumbered_face, ← moveItem_face, moveItem_eq_moved]
  rfl

theorem apply_fieldPromptSave (distinct : draft.FieldsDistinct) (key text : String) :
    ((fieldPromptSave key text).apply unicode draft).lists =
      ((fieldPromptSave key text).listed unicode draft).onLists draft.lists := by
  let prompted (field : FieldDefinition) : FieldDefinition :=
    if field.key = key then { field with prompt := ConfigEdits.promptOf text } else field
  have hkey : ∀ field, (prompted field).key = field.key := fun field => by
    simp only [prompted]
    split <;> rfl
  have horder : ∀ field, (prompted field).order = field.order := fun field => by
    simp only [prompted]
    split <;> rfl
  have hdistinct : PackDefinition.FieldsDistinct { draft with fields := draft.fields.map prompted } := by
    have hkeys : (draft.fields.map prompted).map (fun field => field.key) =
        draft.fields.map fun field => field.key := by
      rw [List.map_map]
      exact List.map_congr_left fun field _ => hkey field
    unfold PackDefinition.FieldsDistinct
    rw [hkeys]
    exact distinct
  have happly : (fieldPromptSave key text).apply unicode draft =
      { draft with fields := draft.fields.map prompted } := by
    have houtcome : (fieldPromptSave key text).outcome unicode draft =
        if draft.fields.map prompted = draft.fields then .ok none
        else .ok (some { draft with fields := draft.fields.map prompted }) := rfl
    by_cases hsame : draft.fields.map prompted = draft.fields
    · rw [if_pos hsame] at houtcome
      rw [apply_of_shown houtcome, hsame]
    · rw [if_neg hsame] at houtcome
      exact apply_of_stored houtcome
  have hordered := orderedFields_eq hdistinct ((orderedFields_perm draft).map prompted) (by
    rw [List.pairwise_map]
    refine (orderedFields_pairwise draft).imp fun hbefore => ?_
    unfold FieldDefinition.Precedes
    rw [hkey, hkey, horder, horder]
    exact hbefore)
  rw [happly, lists_fields, hordered]
  unfold listed ListEdit.onLists PackDefinition.lists
  dsimp only
  rw [List.map_map, List.map_map]
  refine congrArg (DraftLists.mk _) (List.map_congr_left fun field _ => ?_)
  simp only [Function.comp_apply, prompted]
  by_cases hfield : field.key = key
  · rw [if_pos hfield, if_pos (show field.face.key = key from hfield)]
    rfl
  · rw [if_neg hfield, if_neg (show ¬field.face.key = key from hfield)]

/-- An edit of the lists is what it says, whatever the fields' numbers are. -/
theorem apply_lists (edit : ConfigEdit) (distinct : draft.FieldsDistinct) (lists : edit.EditsLists) :
    (edit.apply unicode draft).lists = (edit.listed unicode draft).onLists draft.lists := by
  cases edit with
  | serviceSave itemKey itemLabel text => exact apply_serviceSave itemKey itemLabel text
  | serviceDelete key =>
      rw [apply_serviceDelete]
      rfl
  | serviceMove key direction =>
      rw [apply_serviceMove]
      exact congrArg (fun services => DraftLists.mk services draft.lists.fields)
        (moveItem_eq_moved ServiceCategory.key _ key direction)
  | fieldRequired key label fieldType choices required =>
      exact apply_fieldRequired distinct key label fieldType choices required
  | fieldDelete key => exact apply_fieldDelete distinct key
  | fieldMove key direction => exact apply_fieldMove key direction
  | fieldPromptSave key text => exact apply_fieldPromptSave distinct key text
  | _ => exact lists.elim

theorem apply_cases (unicode : Unicode) (edit : ConfigEdit) (draft : PackDefinition) :
    edit.apply unicode draft = draft ∨
      edit.outcome unicode draft = .ok (some (edit.apply unicode draft)) := by
  unfold apply
  cases edit.outcome unicode draft with
  | error failure => exact .inl rfl
  | ok stored =>
      cases stored with
      | none => exact .inl rfl
      | some updated => exact .inr rfl

theorem distinct_apply (distinct : draft.FieldsDistinct) (edit : ConfigEdit) :
    (edit.apply unicode draft).FieldsDistinct := by
  rcases apply_cases unicode edit draft with hkept | hstored
  · rw [hkept]
    exact distinct
  · exact fieldsDistinct_edited distinct hstored

/-- An edit of the lists edits nothing else. -/
theorem apply_unlisted (edit : ConfigEdit) (lists : edit.EditsLists) :
    (edit.apply unicode draft).unlisted = draft.unlisted := by
  rcases apply_cases unicode edit draft with hkept | hstored
  · rw [hkept]
  · generalize edit.apply unicode draft = updated at hstored
    cases edit with
    | serviceSave itemKey itemLabel text =>
        change ConfigEdits.serviceSave unicode itemKey itemLabel text draft = _ at hstored
        unfold ConfigEdits.serviceSave at hstored
        dsimp only at hstored
        by_cases hempty : ConfigEdits.limit text 120 = ""
        · rw [if_pos hempty] at hstored
          cases hstored
        · rw [if_neg hempty] at hstored
          by_cases htaken : draft.serviceCatalog.categories.any fun category =>
              category.key = itemKey
          · rw [if_pos htaken] at hstored
            cases hstored
          · rw [if_neg htaken] at hstored
            obtain ⟨category, -, h⟩ := except_bind_ok.mp hstored
            obtain ⟨catalog, hcatalog, h⟩ := except_bind_ok.mp h
            cases h
            exact unlisted_catalog hcatalog
    | serviceDelete key =>
        obtain ⟨catalog, hcatalog, h⟩ := except_bind_ok.mp hstored
        cases h
        exact unlisted_catalog hcatalog
    | serviceMove key direction =>
        obtain ⟨catalog, hcatalog, h⟩ := except_bind_ok.mp hstored
        cases h
        exact unlisted_catalog hcatalog
    | fieldRequired key label fieldType choices required =>
        unfold ConfigEdit.outcome ConfigEdits.fieldRequired at hstored
        by_cases htaken : draft.fields.any fun field =>
            field.key = ConfigEdits.fieldKey unicode key label draft
        · simp only [if_pos htaken] at hstored
          cases hstored
        · simp only [if_neg htaken] at hstored
          obtain ⟨field, -, h⟩ := except_bind_ok.mp hstored
          cases h
          rfl
    | fieldDelete key =>
        cases hstored
        rfl
    | fieldMove key direction =>
        cases hstored
        rfl
    | fieldPromptSave key text =>
        rw [eq_of_stored hstored]
        rfl
    | _ => exact lists.elim

end ConfigEdit

/-- Wherever an item can go up, going down after that brings it back. -/
theorem moved_down_up {α : Type} {keyOf : α → String} {items : List α} {key : String}
    (movable : ∀ item ∈ items.head?, keyOf item ≠ key) :
    moved keyOf key "down" (moved keyOf key "up" items) = items := by
  have hdown : moved keyOf key "down" (moved keyOf key "up" items) =
      lowered (fun item => keyOf item = key) (raised (fun item => keyOf item = key) items) := rfl
  rw [hdown, lowered_raised movable]

end DispatchCore.Packs
