import DispatchCore.Packs.Catalog

/-! The JSON form of a pack.  `from_json` checks as little as Python checks, so what was read
may hold any value where the program expects a text; writing such a definition and reading it
again changes nothing any more. -/
namespace DispatchCore.Packs

open DispatchCore.Library DispatchCore.Domain

/-- What `from_json` raises: what the language raises by itself, and the program's own
`ValueError`s with their messages. -/
inductive ReadFault
  | keyError (name : String)
  | attributeError
  | typeError
  | badValue
  | valueError (message : String)
deriving DecidableEq, Repr

abbrev Reading := Except ReadFault

/-! ### Values as Python holds them -/

/-- The values a Python dictionary takes as keys, of those a JSON document has. -/
inductive DictKey
  | null
  | bool (value : Bool)
  | int (value : Int)
  | num (value : Rat)
  | str (value : String)

namespace DictKey

def json : DictKey → Json
  | null => .null
  | bool value => .bool value
  | int value => .int value
  | num value => .num value
  | str value => .str value

/-- `hash(value)`, which lists and dictionaries have none of -/
def of? : Json → Option DictKey
  | .null => some null
  | .bool value => some (bool value)
  | .int value => some (int value)
  | .num value => some (num value)
  | .str value => some (str value)
  | .arr _ => none
  | .obj _ => none

/-- Two keys are one when they compare as equal: `1`, `1.0` and `True` are. -/
def same (left right : DictKey) : Bool := left.json.same right.json

/-- The member name `json.dumps` writes for a key, whatever `spelling` it has for a float. -/
def text (spelling : Rat → String) : DictKey → String
  | null => "null"
  | bool value => if value then "true" else "false"
  | int value => toString value
  | num value => spelling value
  | str value => value

end DictKey

/-- `data.get(name, default)` -/
def getOr (data : Json) (name : String) (default : Json) : Reading Json :=
  match data.dict? with
  | some mapping => .ok ((mapping.get? name).getD default)
  | none => .error .attributeError

/-- `data[name]` -/
def item (data : Json) (name : String) : Reading Json :=
  match data.dict? with
  | none => .error .typeError
  | some mapping =>
      match mapping.get? name with
      | some value => .ok value
      | none => .error (.keyError name)

/-- What a loop over a value goes through. -/
def iterated : Json → Reading (List Json)
  | .arr items => .ok items
  | .obj fields => .ok ((Dict.ofList fields).keys.map .str)
  | .str text => .ok (text.toList.map fun letter => .str (String.singleton letter))
  | _ => .error .typeError

/-- `value or default` -/
def orElse (value default : Json) : Json := if truthValue value then value else default

/-- `int(value)` -/
def wholeNumber (value : Json) : Reading Int :=
  match wholeNumber? value with
  | some number => .ok number
  | none => .error (match value with
      | .str _ => .badValue
      | _ => .typeError)

/-- `FieldType(value)` -/
def fieldTypeOf (value : Json) : Reading FieldType :=
  match value.text?.bind fieldTypeOf? with
  | some fieldType => .ok fieldType
  | none => .error .badValue

/-- `PoolMode(value)` -/
def poolModeOf (value : Json) : Reading PoolMode :=
  match value.text?.bind poolModeOf? with
  | some mode => .ok mode
  | none => .error .badValue

/-! ### Definitions that were read -/

structure ReadField where
  key : Json
  label : Json
  fieldType : FieldType
  required : Bool
  choices : List Json
  prompt : Json
  order : Int
  named : truthValue key ∧ truthValue label
  choosable : fieldType = .enum ↔ choices ≠ []

namespace ReadField

def make (key label : Json) (fieldType : FieldType) (required : Bool) (choices : List Json)
    (prompt : Json) (order : Int) : Reading ReadField :=
  if named : truthValue key ∧ truthValue label then
    if choosable : fieldType = .enum ↔ choices ≠ [] then
      .ok ⟨key, label, fieldType, required, choices, prompt, order, named, choosable⟩
    else if fieldType = .enum then
      .error (.valueError "enum field requires choices")
    else
      .error (.valueError "choices are valid only for enum fields")
  else
    .error (.valueError "field key and label are required")

def toJson (field : ReadField) : Json :=
  .obj [("key", field.key), ("label", field.label),
    ("type", .str (fieldTypeValue field.fieldType)), ("required", .bool field.required),
    ("choices", .arr field.choices), ("prompt", field.prompt), ("order", .int field.order)]

def fromJson (data : Json) : Reading ReadField := do
  let key ← item data "key"
  let label ← item data "label"
  let fieldType ← fieldTypeOf (← item data "type")
  let required ← getOr data "required" (.bool false)
  let choices ← iterated (orElse (← getOr data "choices" (.arr [])) (.arr []))
  let prompt ← getOr data "prompt" (.str "")
  let order ← wholeNumber (← getOr data "order" (.int 0))
  make key label fieldType (truthValue required) choices prompt order

end ReadField

structure ReadBranding where
  name : Json
  greeting : Json
  support : Json

namespace ReadBranding

def toJson (branding : ReadBranding) : Json :=
  .obj [("name", branding.name), ("greeting", branding.greeting), ("support", branding.support)]

def fromJson (data : Json) : Reading ReadBranding := do
  let name ← getOr data "name" (.str "")
  let greeting ← getOr data "greeting" (.str "")
  let support ← getOr data "support" (.str "")
  .ok ⟨name, greeting, support⟩

end ReadBranding

structure ReadCategory where
  key : Json
  label : Json
  named : truthValue key ∧ truthValue label

namespace ReadCategory

def toJson (category : ReadCategory) : Json :=
  .obj [("key", category.key), ("label", category.label)]

def fromJson (data : Json) : Reading ReadCategory := do
  let key ← item data "key"
  let label ← item data "label"
  if named : truthValue key ∧ truthValue label then
    .ok ⟨key, label, named⟩
  else
    .error (.valueError "service category key and label are required")

end ReadCategory

/-- `set(keys)`, where every key has a hash -/
def keysOf (categories : List ReadCategory) : Option (List DictKey) :=
  categories.mapM fun category => DictKey.of? category.key

structure ReadCatalog where
  categories : List ReadCategory
  multiSelect : Bool
  distinct : ∃ keys, keysOf categories = some keys ∧
    keys.Pairwise fun left right => left.same right = false

namespace ReadCatalog

def make (categories : List ReadCategory) (multiSelect : Bool) : Reading ReadCatalog :=
  match hkeys : keysOf categories with
  | none => .error .typeError
  | some keys =>
      if distinct : keys.Pairwise fun left right => left.same right = false then
        .ok ⟨categories, multiSelect, keys, hkeys, distinct⟩
      else
        .error (.valueError "duplicate service category key")

def toJson (catalog : ReadCatalog) : Json :=
  .obj [("multi_select", .bool catalog.multiSelect),
    ("categories", .arr (catalog.categories.map ReadCategory.toJson))]

def fromJson (data : Json) : Reading ReadCatalog := do
  let items ← iterated (← getOr data "categories" (.arr []))
  let categories ← items.mapM ReadCategory.fromJson
  let multiSelect ← getOr data "multi_select" (.bool true)
  make categories (truthValue multiSelect)

end ReadCatalog

def evidenceToJson (evidence : EvidenceRequirements) : Json :=
  .obj [("minimum_photos", .int evidence.minimumPhotos),
    ("comment_required", .bool evidence.commentRequired),
    ("signature_required", .bool evidence.signatureRequired),
    ("customer_code_required", .bool evidence.customerCodeRequired)]

def evidenceFromJson (data : Json) : Reading EvidenceRequirements := do
  let minimumPhotos ← wholeNumber (← getOr data "minimum_photos" (.int 0))
  let commentRequired ← getOr data "comment_required" (.bool false)
  let signatureRequired ← getOr data "signature_required" (.bool false)
  let customerCodeRequired ← getOr data "customer_code_required" (.bool false)
  if negative : minimumPhotos < 0 then
    .error (.valueError "minimum_photos cannot be negative")
  else
    .ok ⟨minimumPhotos, truthValue commentRequired, truthValue signatureRequired,
      truthValue customerCodeRequired,
      EvidenceRequirements.nonNegative_of_not_negative negative⟩

/-! ### Role labels -/

/-- A key that equals one already there keeps it and takes its place. -/
def assignRole (roles : List (DictKey × Json)) (role : DictKey × Json) : List (DictKey × Json) :=
  match roles with
  | [] => [role]
  | (other, previous) :: rest =>
      if other.same role.1 then (other, role.2) :: rest
      else (other, previous) :: assignRole rest role

/-- A key and its value out of one element of a sequence, which has to hold just these two. -/
def rolePair (element : Json) : Reading (DictKey × Json) := do
  match ← iterated element with
  | [key, value] =>
      match DictKey.of? key with
      | some key => .ok (key, value)
      | none => .error .typeError
  | _ => .error .badValue

/-- What `dict.update(value)` assigns: a mapping's own pairs, or those a sequence lists. -/
def rolePairs (value : Json) : Reading (List (DictKey × Json)) :=
  match value.dict? with
  | some mapping => .ok (mapping.entries.map fun entry => (.str entry.1, entry.2))
  | none => do (← iterated value).mapM rolePair

def textRoles (labels : Dict String Json) : List (DictKey × Json) :=
  labels.entries.map fun entry => (.str entry.1, entry.2)

def defaultRoles : Dict String Json := defaultRoleLabels.mapValues fun _ label => .str label

def readRoles (value : Json) : Reading (List (DictKey × Json)) := do
  let pairs ← rolePairs (orElse value (.obj []))
  .ok (pairs.foldl assignRole (textRoles defaultRoles))

/-- The labels as JSON has them: of two keys written alike `json.loads` keeps the last. -/
def rolesJson (spelling : Rat → String) (roles : List (DictKey × Json)) : Dict String Json :=
  .ofList (roles.map fun role => (role.1.text spelling, role.2))

/-! ### Packs -/

structure ReadPack where
  branding : ReadBranding
  serviceCatalog : ReadCatalog
  fields : List ReadField
  evidence : EvidenceRequirements
  roleLabels : List (DictKey × Json)
  defaultPoolMode : PoolMode

namespace ReadPack

/-- `json.loads(json.dumps(definition.to_json()))` -/
def toJson (spelling : Rat → String) (pack : ReadPack) : Json :=
  .obj [("branding", pack.branding.toJson), ("service_catalog", pack.serviceCatalog.toJson),
    ("fields", .arr (pack.fields.map ReadField.toJson)),
    ("evidence", evidenceToJson pack.evidence),
    ("role_labels", .obj (rolesJson spelling pack.roleLabels).entries),
    ("lifecycle", .obj [("default_pool_mode", .str pack.defaultPoolMode.value)])]

def fromJson (data : Json) : Reading ReadPack := do
  let lifecycle ← getOr data "lifecycle" (.obj [])
  let roleLabels ← readRoles (← getOr data "role_labels" (.obj []))
  let branding ← ReadBranding.fromJson (← getOr data "branding" (.obj []))
  let serviceCatalog ← ReadCatalog.fromJson (← getOr data "service_catalog" (.obj []))
  let fields ← (← iterated (← getOr data "fields" (.arr []))).mapM ReadField.fromJson
  let evidence ← evidenceFromJson (← getOr data "evidence" (.obj []))
  let defaultPoolMode ←
    poolModeOf (← getOr lifecycle "default_pool_mode" (.str PoolMode.curated.value))
  .ok ⟨branding, serviceCatalog, fields, evidence, roleLabels, defaultPoolMode⟩

end ReadPack

/-! ### The program's own definitions, as ones that could have been read -/

def FieldDefinition.read (field : FieldDefinition) : ReadField where
  key := .str field.key
  label := .str field.label
  fieldType := field.fieldType
  required := field.required
  choices := field.choices.map .str
  prompt := .str field.prompt
  order := field.order
  named := by simpa [truthValue] using field.named
  choosable := by simpa using field.choosable

def Branding.read (branding : Branding) : ReadBranding :=
  ⟨.str branding.name, .str branding.greeting, .str branding.support⟩

def ServiceCategory.read (category : ServiceCategory) : ReadCategory :=
  ⟨.str category.key, .str category.label, by simpa [truthValue] using category.named⟩

theorem keysOf_read (categories : List ServiceCategory) :
    keysOf (categories.map ServiceCategory.read) =
      some (categories.map fun category => .str category.key) := by
  induction categories with
  | nil => rfl
  | cons category rest ih =>
      unfold keysOf at ih ⊢
      rw [List.map_cons, List.mapM_cons, ih]
      rfl

theorem same_str (left right : String) :
    (DictKey.str left).same (.str right) = decide (left = right) := rfl

def ServiceCatalog.read (catalog : ServiceCatalog) : ReadCatalog where
  categories := catalog.categories.map ServiceCategory.read
  multiSelect := catalog.multiSelect
  distinct := by
    refine ⟨_, keysOf_read catalog.categories, ?_⟩
    have hdistinct := catalog.distinct
    rw [List.Nodup, List.pairwise_map] at hdistinct
    rw [List.pairwise_map]
    exact hdistinct.imp fun hne => by simpa [same_str] using hne

def PackDefinition.read (definition : PackDefinition) : ReadPack where
  branding := definition.branding.read
  serviceCatalog := definition.serviceCatalog.read
  fields := definition.fields.map FieldDefinition.read
  evidence := definition.evidence
  roleLabels := definition.roleLabels.entries.map fun entry => (.str entry.1, .str entry.2)
  defaultPoolMode := definition.defaultPoolMode

/-! ### Reading back what was written -/

theorem dict?_obj {fields : List (String × Json)} (distinct : (fields.map Prod.fst).Nodup) :
    (Json.obj fields).dict? = some ⟨fields, distinct⟩ :=
  congrArg some (Dict.ofList_entries ⟨fields, distinct⟩)

theorem getOr_obj {fields : List (String × Json)} (distinct : (fields.map Prod.fst).Nodup)
    (name : String) (default : Json) :
    getOr (.obj fields) name default = .ok ((Dict.lookup name fields).getD default) := by
  rw [getOr, dict?_obj distinct]
  rfl

theorem item_obj {fields : List (String × Json)} (distinct : (fields.map Prod.fst).Nodup)
    {name : String} {value : Json} (found : Dict.lookup name fields = some value) :
    item (.obj fields) name = .ok value := by
  have hget : (Dict.mk fields distinct).get? name = some value := found
  rw [item, dict?_obj distinct]
  simp only [hget]

theorem mapM_map {α β : Type} {write : α → β} {read : β → Reading α}
    (back : ∀ value, read (write value) = .ok value) (values : List α) :
    (values.map write).mapM read = .ok values := by
  induction values with
  | nil => rfl
  | cons value rest ih =>
      rw [List.map_cons, List.mapM_cons, back, ih]
      rfl

theorem fieldTypeOf_value (fieldType : FieldType) :
    fieldTypeOf (.str (fieldTypeValue fieldType)) = .ok fieldType := by
  cases fieldType <;> rfl

theorem poolModeOf_value (mode : PoolMode) : poolModeOf (.str mode.value) = .ok mode := by
  cases mode <;> rfl

theorem iterated_arr_orElse (items : List Json) :
    iterated (orElse (.arr items) (.arr [])) = .ok items := by
  cases items <;> rfl

theorem ReadField.fromJson_toJson (field : ReadField) : fromJson field.toJson = .ok field := by
  have hkey : item field.toJson "key" = .ok field.key := item_obj (by simp) rfl
  have hlabel : item field.toJson "label" = .ok field.label := item_obj (by simp) rfl
  have htype : item field.toJson "type" = .ok (.str (fieldTypeValue field.fieldType)) :=
    item_obj (by simp) rfl
  have hrequired : getOr field.toJson "required" (.bool false) = .ok (.bool field.required) :=
    getOr_obj (by simp) _ _
  have hchoices : getOr field.toJson "choices" (.arr []) = .ok (.arr field.choices) :=
    getOr_obj (by simp) _ _
  have hprompt : getOr field.toJson "prompt" (.str "") = .ok field.prompt :=
    getOr_obj (by simp) _ _
  have horder : getOr field.toJson "order" (.int 0) = .ok (.int field.order) :=
    getOr_obj (by simp) _ _
  unfold fromJson
  rw [hkey, hlabel, htype, hrequired, hchoices, hprompt, horder]
  simp only [bind, Except.bind, fieldTypeOf_value, iterated_arr_orElse]
  exact (dif_pos field.named).trans (dif_pos field.choosable)

theorem ReadBranding.fromJson_toJson (branding : ReadBranding) :
    fromJson branding.toJson = .ok branding := by
  have hname : getOr branding.toJson "name" (.str "") = .ok branding.name :=
    getOr_obj (by simp) _ _
  have hgreeting : getOr branding.toJson "greeting" (.str "") = .ok branding.greeting :=
    getOr_obj (by simp) _ _
  have hsupport : getOr branding.toJson "support" (.str "") = .ok branding.support :=
    getOr_obj (by simp) _ _
  unfold fromJson
  rw [hname, hgreeting, hsupport]
  rfl

theorem ReadCategory.fromJson_toJson (category : ReadCategory) :
    fromJson category.toJson = .ok category := by
  have hkey : item category.toJson "key" = .ok category.key := item_obj (by simp) rfl
  have hlabel : item category.toJson "label" = .ok category.label := item_obj (by simp) rfl
  unfold fromJson
  rw [hkey, hlabel]
  exact dif_pos category.named

theorem ReadCatalog.make_ok (catalog : ReadCatalog) :
    make catalog.categories catalog.multiSelect = .ok catalog := by
  obtain ⟨categories, multiSelect, keys, hkeys, distinct⟩ := catalog
  unfold make
  split
  · rename_i hnone
    rw [hkeys] at hnone
    contradiction
  · rename_i found hfound
    rw [hkeys] at hfound
    cases hfound
    exact dif_pos distinct

theorem ReadCatalog.fromJson_toJson (catalog : ReadCatalog) :
    fromJson catalog.toJson = .ok catalog := by
  have hcategories : getOr catalog.toJson "categories" (.arr []) =
      .ok (.arr (catalog.categories.map ReadCategory.toJson)) := getOr_obj (by simp) _ _
  have hmulti : getOr catalog.toJson "multi_select" (.bool true) =
      .ok (.bool catalog.multiSelect) := getOr_obj (by simp) _ _
  unfold fromJson
  rw [hcategories, hmulti]
  simp only [bind, Except.bind, iterated, mapM_map ReadCategory.fromJson_toJson]
  exact catalog.make_ok

theorem evidenceFromJson_toJson (evidence : EvidenceRequirements) :
    evidenceFromJson (evidenceToJson evidence) = .ok evidence := by
  have hphotos : getOr (evidenceToJson evidence) "minimum_photos" (.int 0) =
      .ok (.int evidence.minimumPhotos) := getOr_obj (by simp) _ _
  have hcomment : getOr (evidenceToJson evidence) "comment_required" (.bool false) =
      .ok (.bool evidence.commentRequired) := getOr_obj (by simp) _ _
  have hsignature : getOr (evidenceToJson evidence) "signature_required" (.bool false) =
      .ok (.bool evidence.signatureRequired) := getOr_obj (by simp) _ _
  have hcode : getOr (evidenceToJson evidence) "customer_code_required" (.bool false) =
      .ok (.bool evidence.customerCodeRequired) := getOr_obj (by simp) _ _
  unfold evidenceFromJson
  rw [hphotos, hcomment, hsignature, hcode]
  exact dif_neg (Int.not_lt.mpr evidence.nonNegative)

/-! ### Role labels under their names -/

theorem assignRole_textRoles (labels : Dict String Json) (name : String) (value : Json) :
    assignRole (textRoles labels) (.str name, value) = textRoles (labels.set name value) := by
  change assignRole (labels.entries.map _) _ = (Dict.assign name value labels.entries).map _
  generalize labels.entries = entries
  induction entries with
  | nil => rfl
  | cons entry rest ih =>
      obtain ⟨head, previous⟩ := entry
      rw [List.map_cons, assignRole, Dict.assign, same_str, ih]
      by_cases h : head = name
      · simp [h]
      · simp [h]

theorem foldl_textRoles (labels : Dict String Json) (entries : List (String × Json)) :
    (entries.map fun entry => (DictKey.str entry.1, entry.2)).foldl assignRole
      (textRoles labels) = textRoles (labels.update entries) := by
  induction entries generalizing labels with
  | nil => rfl
  | cons entry rest ih => rw [List.map_cons, List.foldl_cons, assignRole_textRoles, ih]; rfl

theorem rolesJson_textRoles (spelling : Rat → String) (labels : Dict String Json) :
    rolesJson spelling (textRoles labels) = labels := by
  unfold rolesJson textRoles
  rw [List.map_map]
  exact (congrArg Dict.ofList (List.map_id _)).trans (Dict.ofList_entries labels)

/-- Labels that are written as an object come after the default ones. -/
theorem readRoles_obj (labels : Dict String Json) :
    readRoles (.obj labels.entries) = .ok (textRoles (defaultRoles.update labels.entries)) := by
  have horElse : orElse (.obj labels.entries) (.obj []) = .obj labels.entries := by
    unfold orElse truthValue
    cases labels.entries <;> rfl
  unfold readRoles rolePairs
  rw [horElse, dict?_obj labels.distinct]
  exact congrArg Except.ok (foldl_textRoles defaultRoles labels.entries)

/-- The default roles come first. -/
def Defaulted (roles : List (DictKey × Json)) : Prop :=
  (textRoles defaultRoles).map Prod.fst <+: roles.map Prod.fst

theorem keys_prefix_assignRole (roles : List (DictKey × Json)) (role : DictKey × Json) :
    roles.map Prod.fst <+: (assignRole roles role).map Prod.fst := by
  induction roles with
  | nil => exact List.nil_prefix
  | cons entry rest ih =>
      obtain ⟨head, previous⟩ := entry
      by_cases h : head.same role.1
      · simp [assignRole, h]
      · simpa [assignRole, h] using ih

theorem Defaulted.foldl {roles : List (DictKey × Json)} (h : Defaulted roles)
    (pairs : List (DictKey × Json)) : Defaulted (pairs.foldl assignRole roles) := by
  induction pairs generalizing roles with
  | nil => exact h
  | cons pair pairs ih => exact ih (List.IsPrefix.trans h (keys_prefix_assignRole roles pair))

theorem Defaulted.of_readRoles {value : Json} {roles : List (DictKey × Json)}
    (h : readRoles value = .ok roles) : Defaulted roles := by
  unfold readRoles at h
  cases hpairs : rolePairs (orElse value (.obj [])) with
  | error fault =>
      rw [hpairs] at h
      cases h
  | ok pairs =>
      rw [hpairs] at h
      cases h
      exact Defaulted.foldl (List.prefix_refl _) pairs

/-- Written out, the default roles still come first. -/
theorem Defaulted.prefix_keys {roles : List (DictKey × Json)} (h : Defaulted roles)
    (spelling : Rat → String) : defaultRoles.keys <+: (rolesJson spelling roles).keys := by
  obtain ⟨rest, hrest⟩ := h
  obtain ⟨front, back, rfl, hfront, -⟩ := List.map_eq_append_iff.mp hrest.symm
  have hkeys : (front.map fun role => (role.1.text spelling, role.2)).map Prod.fst =
      defaultRoles.keys := by
    have htext := congrArg (List.map (DictKey.text spelling)) hfront
    rw [textRoles, List.map_map, List.map_map, List.map_map] at htext
    rw [List.map_map]
    exact htext
  have hdistinct : ((front.map fun role => (role.1.text spelling, role.2)).map Prod.fst).Nodup :=
    hkeys ▸ defaultRoles.distinct
  unfold rolesJson Dict.ofList
  rw [List.map_append, Dict.update_append]
  rw [← hkeys]
  have hentries := Dict.entries_update Dict.empty _ hdistinct
  have hstart := (Dict.empty.update
    (front.map fun role => (role.1.text spelling, role.2))).keys_prefix_update
      (back.map fun role => (role.1.text spelling, role.2))
  unfold Dict.keys at hstart ⊢
  rw [hentries] at hstart
  exact hstart

/-! ### The round trip -/

theorem ReadPack.fromJson_toJson (spelling : Rat → String) (pack : ReadPack) :
    fromJson (pack.toJson spelling) =
      .ok { pack with
        roleLabels := textRoles
          (defaultRoles.update (rolesJson spelling pack.roleLabels).entries) } := by
  have hlifecycle : getOr (pack.toJson spelling) "lifecycle" (.obj []) =
      .ok (.obj [("default_pool_mode", .str pack.defaultPoolMode.value)]) :=
    getOr_obj (by simp) _ _
  have hroles : getOr (pack.toJson spelling) "role_labels" (.obj []) =
      .ok (.obj (rolesJson spelling pack.roleLabels).entries) := getOr_obj (by simp) _ _
  have hbranding : getOr (pack.toJson spelling) "branding" (.obj []) =
      .ok pack.branding.toJson := getOr_obj (by simp) _ _
  have hcatalog : getOr (pack.toJson spelling) "service_catalog" (.obj []) =
      .ok pack.serviceCatalog.toJson := getOr_obj (by simp) _ _
  have hfields : getOr (pack.toJson spelling) "fields" (.arr []) =
      .ok (.arr (pack.fields.map ReadField.toJson)) := getOr_obj (by simp) _ _
  have hevidence : getOr (pack.toJson spelling) "evidence" (.obj []) =
      .ok (evidenceToJson pack.evidence) := getOr_obj (by simp) _ _
  have hmode : getOr (.obj [("default_pool_mode", .str pack.defaultPoolMode.value)])
      "default_pool_mode" (.str PoolMode.curated.value) =
        .ok (.str pack.defaultPoolMode.value) := getOr_obj (by simp) _ _
  unfold fromJson
  rw [hlifecycle, hroles, hbranding, hcatalog, hfields, hevidence]
  simp only [bind, Except.bind, readRoles_obj, ReadBranding.fromJson_toJson,
    ReadCatalog.fromJson_toJson, iterated, mapM_map ReadField.fromJson_toJson,
    evidenceFromJson_toJson, hmode, poolModeOf_value]

theorem ReadPack.defaulted {document : Json} {pack : ReadPack} (h : fromJson document = .ok pack) :
    Defaulted pack.roleLabels := by
  obtain ⟨lifecycle, -, h⟩ := except_bind_ok.mp h
  obtain ⟨labels, -, h⟩ := except_bind_ok.mp h
  obtain ⟨roles, hroles, h⟩ := except_bind_ok.mp h
  obtain ⟨brand, -, h⟩ := except_bind_ok.mp h
  obtain ⟨branding, -, h⟩ := except_bind_ok.mp h
  obtain ⟨services, -, h⟩ := except_bind_ok.mp h
  obtain ⟨catalog, -, h⟩ := except_bind_ok.mp h
  obtain ⟨listed, -, h⟩ := except_bind_ok.mp h
  obtain ⟨items, -, h⟩ := except_bind_ok.mp h
  obtain ⟨fields, -, h⟩ := except_bind_ok.mp h
  obtain ⟨required, -, h⟩ := except_bind_ok.mp h
  obtain ⟨evidence, -, h⟩ := except_bind_ok.mp h
  obtain ⟨named, -, h⟩ := except_bind_ok.mp h
  obtain ⟨mode, -, h⟩ := except_bind_ok.mp h
  cases h
  exact .of_readRoles hroles

/-- What was read and written is read as it is: every default is in it already. -/
theorem ReadPack.rewritten {document : Json} {pack : ReadPack} (spelling : Rat → String)
    (h : fromJson document = .ok pack) :
    ∃ again, fromJson (pack.toJson spelling) = .ok again ∧
      again.toJson spelling = pack.toJson spelling := by
  refine ⟨_, pack.fromJson_toJson spelling, ?_⟩
  have hroles := Dict.update_own ((ReadPack.defaulted h).prefix_keys spelling)
  unfold toJson
  simp only [hroles, rolesJson_textRoles]

theorem textRoles_mapValues (labels : Dict String String) :
    textRoles (labels.mapValues fun _ label => .str label) =
      labels.entries.map fun entry => (.str entry.1, .str entry.2) := by
  unfold textRoles Dict.mapValues
  rw [List.map_map]
  rfl

/-- A definition comes back with the labels it had, the default roles before the others. -/
theorem PackDefinition.fromJson_toJson (spelling : Rat → String) (definition : PackDefinition) :
    ReadPack.fromJson (definition.read.toJson spelling) =
      .ok { definition with
        roleLabels := defaultRoleLabels.update definition.roleLabels.entries }.read := by
  have hwritten : rolesJson spelling definition.read.roleLabels =
      definition.roleLabels.mapValues fun _ label => .str label := by
    change rolesJson spelling (definition.roleLabels.entries.map _) = _
    rw [← textRoles_mapValues, rolesJson_textRoles]
  have hroles : textRoles (defaultRoles.update
      (definition.roleLabels.mapValues fun _ label => Json.str label).entries) =
        (defaultRoleLabels.update definition.roleLabels.entries).entries.map
          fun entry => (.str entry.1, .str entry.2) := by
    rw [← textRoles_mapValues, Dict.mapValues_update]
    rfl
  rw [ReadPack.fromJson_toJson, hwritten, hroles]
  rfl

theorem get?_roleLabels {labels : Dict String String}
    (named : ∀ role ∈ defaultRoleLabels.keys, role ∈ labels.keys) (role : String) :
    (defaultRoleLabels.update labels.entries).get? role = labels.get? role := by
  cases hrole : labels.get? role with
  | none =>
      have habsent := (labels.get?_eq_none role).mp hrole
      rw [Dict.get?_update_of_notMem _ _ _ habsent]
      exact (Dict.get?_eq_none _ _).mpr fun hmem => habsent (named role hmem)
  | some label =>
      exact Dict.get?_update_of_mem _ _ _ _ labels.distinct ((labels.get?_eq_some _ _).mp hrole)

/-- A definition that names the default roles survives its JSON form, and a document that was
read once is afterwards written as it is read. -/
theorem definitions_survive (spelling : Rat → String) :
    (∀ definition : PackDefinition,
      (∀ role ∈ defaultRoleLabels.keys, role ∈ definition.roleLabels.keys) →
      ∃ labels, ReadPack.fromJson (definition.read.toJson spelling) =
          .ok { definition with roleLabels := labels }.read ∧
        ∀ role, labels.get? role = definition.roleLabels.get? role) ∧
    ∀ document pack, ReadPack.fromJson document = .ok pack →
      ∃ again, ReadPack.fromJson (pack.toJson spelling) = .ok again ∧
        again.toJson spelling = pack.toJson spelling :=
  ⟨fun definition named =>
      ⟨_, definition.fromJson_toJson spelling, get?_roleLabels named⟩,
    fun _ _ accepted => ReadPack.rewritten spelling accepted⟩

/-- An early document, with its role labels as pairs and no fields yet. -/
def partialDocument : Json :=
  .obj [("role_labels", .arr [.arr [.int 1, .str "Гость"], .arr [.str "1", .null]]),
    ("branding", .obj [("name", .str "Сервис")]), ("evidence", .obj [("minimum_photos", .str "2")])]

theorem partial_document_survives :
    (∃ labels, ReadPack.fromJson (blankDefinition.read.toJson fun _ => "0.5") =
        .ok { blankDefinition with roleLabels := labels }.read ∧
      ∀ role, labels.get? role = defaultRoleLabels.get? role) ∧
    ∃ pack again, ReadPack.fromJson partialDocument = .ok pack ∧
      ReadPack.fromJson (pack.toJson fun _ => "0.5") = .ok again ∧
      again.toJson (fun _ => "0.5") = pack.toJson fun _ => "0.5" := by
  constructor
  · exact (definitions_survive fun _ => "0.5").1 blankDefinition fun _ named => named
  · have hread : ∃ pack, ReadPack.fromJson partialDocument = .ok pack := ⟨_, rfl⟩
    obtain ⟨pack, hpack⟩ := hread
    obtain ⟨again, hagain, hsame⟩ :=
      (definitions_survive fun _ => "0.5").2 partialDocument pack hpack
    exact ⟨pack, again, hpack, hagain, hsame⟩

end DispatchCore.Packs
