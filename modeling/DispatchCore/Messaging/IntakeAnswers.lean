import DispatchCore.Messaging.IntakeWorld

/-! What the guided flow has been told: a session is sound for the pack it is pinned to, and
every handler keeps it so. -/
namespace DispatchCore.Packs

open DispatchCore.Library DispatchCore.Domain

/-- An answer of the type of a field: a canonical integer, or one of the choices. -/
def FieldDefinition.Accepts (field : FieldDefinition) (answer : String) : Prop :=
  match field.fieldType with
  | .integer => ∃ number : Int, answer = toString number
  | .enum => answer ∈ field.choices
  | _ => True

def PackDefinition.Offers (pack : PackDefinition) (key : String) : Prop :=
  ∃ category ∈ pack.serviceCatalog.categories, category.key = key

def PackDefinition.FieldsDistinct (pack : PackDefinition) : Prop :=
  (pack.fields.map fun field => field.key).Nodup

theorem PackDefinition.mem_orderedFields {pack : PackDefinition} {field : FieldDefinition} :
    field ∈ pack.orderedFields ↔ field ∈ pack.fields :=
  (List.perm_insertionSort _ _).mem_iff

end DispatchCore.Packs

namespace DispatchCore.Messaging

open DispatchCore.Library DispatchCore.Domain DispatchCore.Packs DispatchCore.Infrastructure
  DispatchCore.Application

def IntakeState.Answered (state : IntakeState) (key : String) : Prop :=
  ∃ answer, state.fieldValues.get? key = some answer ∧ answer ≠ ""

/-- The required ones of these fields have a value. -/
def IntakeState.Filled (state : IntakeState) (fields : List FieldDefinition) : Prop :=
  ∀ field ∈ fields, field.required → state.fieldValues.contains field.key

/-- What a session of a pack knows at each step. -/
structure IntakeState.Sound (pack : PackDefinition) (state : IntakeState) : Prop where
  offered : ∀ key ∈ state.selected, pack.Offers key
  phone : state.step ≠ .phone → state.Answered "phone"
  address : state.step ≠ .phone → state.step ≠ .address → state.Answered "address"
  valid : pack.FieldsDistinct → ∀ field ∈ pack.fields, field.key ≠ "phone" →
    field.key ≠ "address" → ∀ answer, state.fieldValues.get? field.key = some answer →
      answer ≠ "" ∧ field.Accepts answer
  counted : 0 ≤ state.fieldIndex
  reached : state.step = .fields → state.Filled (pack.orderedFields.take state.fieldIndex.toNat)
  confirmed : state.step = .confirm → state.Filled pack.orderedFields

/-- A session of a revision that was published. -/
structure IntakeState.PinnedTo (revision : PackRevision) (state : IntakeState) : Prop where
  numbered : 0 < revision.version
  version : state.packVersion = some (revision.version : Int)
  sound : state.Sound revision.definition

namespace IntakeState

variable {pack : PackDefinition} {before state : IntakeState} {key value : String}

theorem Answered.set (answered : before.Answered key) {other : String} (worded : value ≠ "")
    (values : state.fieldValues = before.fieldValues.set other value) : state.Answered key := by
  obtain ⟨answer, hanswer, hworded⟩ := answered
  unfold Answered
  rw [values, Dict.get?_set]
  split
  · exact ⟨value, rfl, worded⟩
  · exact ⟨answer, hanswer, hworded⟩

theorem Answered.of_set (worded : value ≠ "")
    (values : state.fieldValues = before.fieldValues.set key value) : state.Answered key := by
  unfold Answered
  rw [values, Dict.get?_set_self]
  exact ⟨value, rfl, worded⟩

theorem contains_set {other : String}
    (present : before.fieldValues.contains other ∨ other = key) :
    (before.fieldValues.set key value).contains other := by
  unfold Dict.contains
  rw [Dict.get?_set]
  split
  · rfl
  · rename_i hother
    exact present.resolve_right hother

theorem Filled.set {fields : List FieldDefinition} (filled : before.Filled fields)
    (values : state.fieldValues = before.fieldValues.set key value) : state.Filled fields := by
  intro field hfield hrequired
  rw [values]
  exact contains_set (.inl (filled field hfield hrequired))

/-- Values stay valid when one more of the right type comes in. -/
theorem Sound.valid_set (sound : before.Sound pack) (worded : value ≠ "")
    (accepted : pack.FieldsDistinct → ∀ field ∈ pack.fields, field.key = key →
      key ≠ "phone" → key ≠ "address" → field.Accepts value)
    (distinct : pack.FieldsDistinct) (field : FieldDefinition) (listed : field ∈ pack.fields)
    (phone : field.key ≠ "phone") (address : field.key ≠ "address") (answer : String)
    (found : (before.fieldValues.set key value).get? field.key = some answer) :
    answer ≠ "" ∧ field.Accepts answer := by
  rw [Dict.get?_set] at found
  split at found
  · rename_i hkey
    cases found
    exact ⟨worded, accepted distinct field listed hkey (hkey ▸ phone) (hkey ▸ address)⟩
  · exact sound.valid distinct field listed phone address answer found

/-- A session past the address goes on with the values it has. -/
theorem Sound.goOn (sound : before.Sound pack) (settled : before.step ≠ .phone ∧ before.step ≠ .address)
    (values : state.fieldValues = before.fieldValues)
    (offered : ∀ key ∈ state.selected, pack.Offers key) (counted : 0 ≤ state.fieldIndex)
    (reached : state.step = .fields → state.Filled (pack.orderedFields.take state.fieldIndex.toNat))
    (confirmed : state.step = .confirm → state.Filled pack.orderedFields) : state.Sound pack where
  offered := offered
  phone _ := by
    unfold Answered
    rw [values]
    exact sound.phone settled.1
  address _ _ := by
    unfold Answered
    rw [values]
    exact sound.address settled.1 settled.2
  valid := by
    rw [values]
    exact sound.valid
  counted := counted
  reached := reached
  confirmed := confirmed

/-- A session whose answers, selection and place are as they were. -/
theorem Sound.same (sound : before.Sound pack) (values : state.fieldValues = before.fieldValues)
    (selected : state.selected = before.selected) (step : state.step = before.step)
    (index : state.fieldIndex = before.fieldIndex) : state.Sound pack := by
  obtain ⟨_, _, _, _, _, _, _, _, _, _⟩ := state
  cases values
  cases selected
  cases step
  cases index
  exact ⟨sound.offered, sound.phone, sound.address, sound.valid, sound.counted, sound.reached,
    sound.confirmed⟩

theorem sound_start (submissionId : Option String) (version : Option Int) :
    (⟨.phone, .empty, submissionId, version, [], 0, none, none, none, none⟩ : IntakeState).Sound
      pack where
  offered _ h := by cases h
  phone h := absurd rfl h
  address h := absurd rfl h
  valid _ _ _ _ _ _ h := by cases h
  counted := le_refl 0
  reached h := by cases h
  confirmed h := by cases h

theorem Sound.toAddress (sound : before.Sound pack) (worded : value ≠ "")
    (values : state.fieldValues = before.fieldValues.set "phone" value)
    (selected : state.selected = before.selected) (index : state.fieldIndex = before.fieldIndex)
    (step : state.step = .address) :
    state.Sound pack where
  offered := by
    rw [selected]
    exact sound.offered
  phone _ := .of_set worded values
  address _ h := absurd step h
  valid := by
    rw [values]
    exact sound.valid_set worded fun _ _ _ _ h => absurd rfl h
  counted := index ▸ sound.counted
  reached h := by
    rw [step] at h
    cases h
  confirmed h := by
    rw [step] at h
    cases h

theorem Sound.toServices (sound : before.Sound pack) (asked : before.step = .address)
    (worded : value ≠ "") (values : state.fieldValues = before.fieldValues.set "address" value)
    (selected : state.selected = before.selected) (index : state.fieldIndex = before.fieldIndex)
    (step : state.step = .services) :
    state.Sound pack where
  offered := by
    rw [selected]
    exact sound.offered
  phone _ := (sound.phone (by simp [asked])).set worded values
  address _ _ := .of_set worded values
  valid := by
    rw [values]
    exact sound.valid_set worded fun _ _ _ _ _ h => absurd rfl h
  counted := index ▸ sound.counted
  reached h := by
    rw [step] at h
    cases h
  confirmed h := by
    rw [step] at h
    cases h

/-- The field that is asked gets its answer. -/
theorem Sound.answer (sound : before.Sound pack) (settled : before.step ≠ .phone ∧ before.step ≠ .address)
    (worded : value ≠ "")
    (accepted : pack.FieldsDistinct → ∀ field ∈ pack.fields, field.key = key →
      key ≠ "phone" → key ≠ "address" → field.Accepts value) :
    ({ before with fieldValues := before.fieldValues.set key value } : IntakeState).Sound pack where
  offered := sound.offered
  phone _ := (sound.phone settled.1).set worded rfl
  address _ _ := (sound.address settled.1 settled.2).set worded rfl
  valid := sound.valid_set worded accepted
  counted := sound.counted
  reached h := (sound.reached h).set rfl
  confirmed h := (sound.confirmed h).set rfl

/-- Past the required fields up to `index`, and over the ones that have an answer. -/
theorem Filled.skipAnswered {fields : List FieldDefinition} {index : Nat}
    (filled : state.Filled (fields.take index)) :
    state.Filled (fields.take (IntakeCoordinator.skipAnswered fields state.fieldValues index)) := by
  intro field hfield hrequired
  unfold IntakeCoordinator.skipAnswered at hfield
  rw [List.take_add, List.mem_append] at hfield
  rcases hfield with hold | hskipped
  · exact filled field hold hrequired
  · rw [← List.prefix_iff_eq_take.mp (List.takeWhile_prefix _)] at hskipped
    have hpresent := List.mem_takeWhile_imp
      (p := fun field : FieldDefinition => state.fieldValues.contains field.key) hskipped
    exact hpresent

theorem Filled.of_findIdx_none {fields : List FieldDefinition}
    (found : (fields.findIdx? fun field => ¬state.fieldValues.contains field.key) = none) :
    state.Filled fields := by
  intro field hfield _
  have hpresent := List.findIdx?_eq_none_iff.mp found field hfield
  simpa using hpresent

theorem Filled.of_findIdx_some {fields : List FieldDefinition} {index : Nat}
    (found : (fields.findIdx? fun field => ¬state.fieldValues.contains field.key) = some index) :
    state.Filled (fields.take index) := by
  intro field hfield _
  obtain ⟨_, _, hbefore⟩ := List.findIdx?_eq_some_iff_getElem.mp found
  obtain ⟨place, hplace, rfl⟩ := List.mem_take_iff_getElem.mp hfield
  have hpresent := hbefore place (by omega)
  simpa using hpresent

end IntakeState

/-- `None` is answered for a text of another type only. -/
theorem IntakeCoordinator.normalize_accepts {unicode : Unicode}
    (folds : ∀ text, unicode.casefold text = unicode.casefold "" → text = "")
    {field : FieldDefinition} {value normalized : String} (worded : value ≠ "")
    (taken : normalizeFieldValue unicode field value = some normalized) :
    normalized ≠ "" ∧ field.Accepts normalized := by
  unfold normalizeFieldValue at taken
  unfold FieldDefinition.Accepts
  cases htype : field.fieldType with
  | integer =>
      rw [htype] at taken
      obtain ⟨number, _, rfl⟩ := Option.map_eq_some_iff.mp taken
      refine ⟨fun hempty => ?_, number, rfl⟩
      have hread := Text.int?_toString number
      have hnone : Text.int? "" = none := by decide
      rw [hempty, hnone] at hread
      cases hread
  | enum =>
      rw [htype] at taken
      have hlisted := List.mem_of_find?_eq_some taken
      have hsame := List.find?_some taken
      refine ⟨?_, hlisted⟩
      rintro rfl
      exact worded (folds value (of_decide_eq_true hsame).symm)
  | _ =>
      rw [htype] at taken
      cases taken
      exact ⟨worded, trivial⟩

end DispatchCore.Messaging
