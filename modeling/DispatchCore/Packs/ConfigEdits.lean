import DispatchCore.Packs.Catalog
import Mathlib.Data.List.Sort

/-! The changes the configurator makes to a draft.  An edit reads a whole definition and
answers with a whole definition to store, or with none if it only shows the draft. -/
namespace DispatchCore.Packs

open DispatchCore.Library DispatchCore.Domain

/-- The tables of `unicodedata` that texts are folded with: `asciiFold` is the NFKD form of
a text without its letters outside ASCII. -/
structure Unicode where
  asciiFold : String → String
  casefold : String → String

/-- `re.sub(r"[^a-z0-9]+", "_", …)` -/
def squeeze : Bool → List Char → List Char
  | _, [] => []
  | inGap, letter :: rest =>
      if letter.isLower ∨ letter.isDigit then letter :: squeeze false rest
      else if inGap then squeeze true rest
      else '_' :: squeeze true rest

/-- `text.strip("_")` -/
def stripUnderscores (letters : List Char) : List Char :=
  ((letters.dropWhile (· = '_')).reverse.dropWhile (· = '_')).reverse

/-- The first key not taken, of at most `tries` more. -/
def freeKey (base : String) (taken : List String) : Nat → Nat → String → String
  | 0, _, key => key
  | tries + 1, index, key =>
      if key ∈ taken then freeKey base taken tries (index + 1) s!"{base}_{index}" else key

def slug (unicode : Unicode) (label fallback : String) (taken : List String) : String :=
  let squeezed := String.ofList
    (stripUnderscores (squeeze false (unicode.asciiFold label).toLower.toList))
  let base := if squeezed = "" then fallback else squeezed
  freeKey base taken taken.length 2 base

def moveItem {α : Type} (keyOf : α → String) (items : List α) (key direction : String) : List α :=
  match items.findIdx? fun item => keyOf item = key with
  | none => items
  | some index =>
      let target : Int := if direction = "up" then (index : Int) - 1 else index + 1
      if ¬(direction = "up" ∨ direction = "down") ∨ target < 0 ∨ target ≥ items.length then items
      else
        match items[index]?, items[target.toNat]? with
        | some item, some other => (items.set index other).set target.toNat item
        | _, _ => items

/-- `sorted(…, key=lambda item: (item.order, item.key))` -/
def PackDefinition.orderedFields (definition : PackDefinition) : List FieldDefinition :=
  definition.fields.insertionSort fun left right =>
    left.order < right.order ∨ (left.order = right.order ∧ left.key ≤ right.key)

def ServiceCategory.make (key label : String) : Except Failure ServiceCategory :=
  if named : key ≠ "" ∧ label ≠ "" then
    .ok ⟨key, label, named⟩
  else
    .error (.valueError "service category key and label are required")

def ServiceCatalog.make (categories : List ServiceCategory) (multiSelect : Bool) :
    Except Failure ServiceCatalog :=
  if distinct : (categories.map fun category => category.key).Nodup then
    .ok ⟨categories, multiSelect, distinct⟩
  else
    .error (.valueError "duplicate service category key")

namespace ConfigEdits

/-- What an edit stores: a definition, or nothing. -/
abbrev Outcome := Except Failure (Option PackDefinition)

@[irreducible] def limit (text : String) (count : Nat) : String := Text.take (Text.strip text) count

def brandStep (step text : String) (draft : PackDefinition) : Outcome :=
  let value := if text = "-" then "" else limit text (if step = "name" then 120 else 500)
  if step = "name" then
    if value = "" then .ok none
    else .ok (some { draft with branding := { draft.branding with name := value } })
  else if step = "greeting" then
    .ok (some { draft with branding := { draft.branding with greeting := value } })
  else
    .ok (some { draft with branding := { draft.branding with support := value } })

/-- The key a new service gets: the one its session holds, if that was made for this label. -/
def serviceKey (unicode : Unicode) (itemKey itemLabel text : String) (draft : PackDefinition) :
    String :=
  if itemKey = "" ∨ itemLabel ≠ text then
    slug unicode text "service" (draft.serviceCatalog.categories.map fun category => category.key)
  else itemKey

def serviceSave (unicode : Unicode) (itemKey itemLabel text : String) (draft : PackDefinition) :
    Outcome := do
  let text := limit text 120
  if text = "" then return none
  let catalog := draft.serviceCatalog
  if catalog.categories.any fun category => category.key = itemKey then return none
  let category ← ServiceCategory.make (serviceKey unicode itemKey itemLabel text draft) text
  let replaced ← ServiceCatalog.make (catalog.categories ++ [category]) catalog.multiSelect
  return some { draft with serviceCatalog := replaced }

def serviceDelete (key : String) (draft : PackDefinition) : Outcome := do
  let catalog := draft.serviceCatalog
  let replaced ← ServiceCatalog.make
    (catalog.categories.filter fun category => category.key ≠ key) catalog.multiSelect
  return some { draft with serviceCatalog := replaced }

def serviceMultiSelect (draft : PackDefinition) : Outcome :=
  .ok (some { draft with
    serviceCatalog := { draft.serviceCatalog with
      multiSelect := !draft.serviceCatalog.multiSelect } })

def serviceMove (key direction : String) (draft : PackDefinition) : Outcome := do
  let catalog := draft.serviceCatalog
  let replaced ← ServiceCatalog.make
    (moveItem ServiceCategory.key catalog.categories key direction) catalog.multiSelect
  return some { draft with serviceCatalog := replaced }

/-- The key a new field gets. -/
def fieldKey (unicode : Unicode) (key label : String) (draft : PackDefinition) : String :=
  if key = "" then slug unicode label "field" (draft.fields.map fun field => field.key) else key

/-- `max((item.order for item in fields), default=0) + 1` -/
def nextOrder (fields : List FieldDefinition) : Int :=
  (fields.map fun field => field.order).max?.getD 0 + 1

def fieldRequired (unicode : Unicode) (key label : String) (fieldType : FieldType)
    (choices : List String) (required : Bool) (draft : PackDefinition) : Outcome := do
  let key := fieldKey unicode key label draft
  if draft.fields.any fun field => field.key = key then return none
  let field ← FieldDefinition.make key label fieldType required choices s!"Введите: {label}"
    (nextOrder draft.fields)
  return some { draft with fields := draft.fields ++ [field] }

def fieldDelete (key : String) (draft : PackDefinition) : Outcome :=
  .ok (some { draft with fields := draft.fields.filter fun field => field.key ≠ key })

/-- Fields numbered by their places, from one. -/
def renumbered (fields : List FieldDefinition) : List FieldDefinition :=
  fields.mapIdx fun index field => { field with order := index + 1 }

def fieldMove (key direction : String) (draft : PackDefinition) : Outcome :=
  .ok (some { draft with
    fields := renumbered (moveItem FieldDefinition.key draft.orderedFields key direction) })

def fieldPromptSave (key text : String) (draft : PackDefinition) : Outcome :=
  let prompt := if Text.strip text = "-" then "" else limit text 500
  let fields := draft.fields.map fun field =>
    if field.key = key then { field with prompt := prompt } else field
  if fields = draft.fields then .ok none else .ok (some { draft with fields := fields })

inductive EvidenceAction
  | photoInc
  | photoDec
  | comment
  | signature
  | code
deriving DecidableEq, Repr

def toggled (action : EvidenceAction) (evidence : EvidenceRequirements) : EvidenceRequirements :=
  match action with
  | .photoInc =>
      { evidence with
        minimumPhotos := min (evidence.minimumPhotos + 1) 10
        nonNegative := by
          have h := evidence.nonNegative
          omega }
  | .photoDec =>
      { evidence with
        minimumPhotos := max (evidence.minimumPhotos - 1) 0
        nonNegative := by omega }
  | .comment => { evidence with commentRequired := !evidence.commentRequired }
  | .signature => { evidence with signatureRequired := !evidence.signatureRequired }
  | .code => { evidence with customerCodeRequired := !evidence.customerCodeRequired }

def evidenceToggle (action : EvidenceAction) (draft : PackDefinition) : Outcome :=
  .ok (some { draft with evidence := toggled action draft.evidence })

def poolMode (mode : PoolMode) (draft : PackDefinition) : Outcome :=
  .ok (some { draft with defaultPoolMode := mode })

/-- A role without a default label, or an empty label, is not stored. -/
def roleLabelSave (role text : String) (draft : PackDefinition) : Outcome :=
  match defaultRoleLabels.get? role with
  | none => .ok none
  | some standard =>
      let label := if limit text 80 = "-" then standard else limit text 80
      if label = "" then .ok none
      else .ok (some { draft with roleLabels := draft.roleLabels.set role label })

end ConfigEdits

/-- An edit of the configurator, with what its session and its payload say. -/
inductive ConfigEdit
  | brandStep (step text : String)
  | serviceSave (itemKey itemLabel text : String)
  | serviceDelete (key : String)
  | serviceMultiSelect
  | serviceMove (key direction : String)
  | fieldRequired (key label : String) (fieldType : FieldType) (choices : List String)
      (required : Bool)
  | fieldDelete (key : String)
  | fieldMove (key direction : String)
  | fieldPromptSave (key text : String)
  | evidenceToggle (action : ConfigEdits.EvidenceAction)
  | poolMode (mode : PoolMode)
  | roleLabelSave (role text : String)
deriving DecidableEq

def ConfigEdit.outcome (unicode : Unicode) : ConfigEdit → PackDefinition → ConfigEdits.Outcome
  | brandStep step text => ConfigEdits.brandStep step text
  | serviceSave itemKey itemLabel text => ConfigEdits.serviceSave unicode itemKey itemLabel text
  | serviceDelete key => ConfigEdits.serviceDelete key
  | serviceMultiSelect => ConfigEdits.serviceMultiSelect
  | serviceMove key direction => ConfigEdits.serviceMove key direction
  | fieldRequired key label fieldType choices required =>
      ConfigEdits.fieldRequired unicode key label fieldType choices required
  | fieldDelete key => ConfigEdits.fieldDelete key
  | fieldMove key direction => ConfigEdits.fieldMove key direction
  | fieldPromptSave key text => ConfigEdits.fieldPromptSave key text
  | evidenceToggle action => ConfigEdits.evidenceToggle action
  | poolMode mode => ConfigEdits.poolMode mode
  | roleLabelSave role text => ConfigEdits.roleLabelSave role text

/-- What an edit makes of a draft. -/
def ConfigEdit.apply (unicode : Unicode) (edit : ConfigEdit) (draft : PackDefinition) :
    PackDefinition :=
  match edit.outcome unicode draft with
  | .ok (some updated) => updated
  | _ => draft

theorem ConfigEdit.apply_of_stored {unicode : Unicode} {edit : ConfigEdit}
    {draft updated : PackDefinition} (stored : edit.outcome unicode draft = .ok (some updated)) :
    edit.apply unicode draft = updated := by
  unfold apply
  rw [stored]

theorem ConfigEdit.apply_of_shown {unicode : Unicode} {edit : ConfigEdit}
    {draft : PackDefinition} (shown : edit.outcome unicode draft = .ok none) :
    edit.apply unicode draft = draft := by
  unfold apply
  rw [shown]

end DispatchCore.Packs
