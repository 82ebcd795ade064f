import DispatchCore.Domain.WorkOrder

/-! What an organization configures: its brand, its services and the fields of its form. -/
namespace DispatchCore.Packs

open DispatchCore.Library DispatchCore.Domain

inductive FieldType
  | text
  | integer
  | address
  | assetReference
  | route
  | enum
deriving DecidableEq, Repr

def fieldTypeValue : FieldType → String
  | .text => "text"
  | .integer => "integer"
  | .address => "address"
  | .assetReference => "asset_reference"
  | .route => "route"
  | .enum => "enum"

def fieldTypes : List FieldType := [.text, .address, .integer, .assetReference, .route, .enum]

/-- `FieldType(value)`, where it does not raise -/
def fieldTypeOf? (value : String) : Option FieldType :=
  fieldTypes.find? fun fieldType => fieldTypeValue fieldType = value

/-- `PoolMode(value)`, where it does not raise -/
def poolModeOf? (value : String) : Option PoolMode :=
  [PoolMode.curated, .firstClaim].find? fun mode => mode.value = value

/-- Choices are valid only for enum fields, which require them. -/
structure FieldDefinition where
  key : String
  label : String
  fieldType : FieldType
  required : Bool
  choices : List String
  prompt : String
  order : Int
  named : key ≠ "" ∧ label ≠ ""
  choosable : fieldType = .enum ↔ choices ≠ []
deriving DecidableEq

theorem FieldType.text_unlisted : FieldType.text = .enum ↔ ([] : List String) ≠ [] := by decide

theorem FieldType.integer_unlisted : FieldType.integer = .enum ↔ ([] : List String) ≠ [] := by
  decide

theorem FieldType.address_unlisted : FieldType.address = .enum ↔ ([] : List String) ≠ [] := by
  decide

def FieldDefinition.make (key label : String) (fieldType : FieldType) (required : Bool)
    (choices : List String) (prompt : String) (order : Int) : Except Failure FieldDefinition :=
  if named : key ≠ "" ∧ label ≠ "" then
    if choosable : fieldType = .enum ↔ choices ≠ [] then
      .ok ⟨key, label, fieldType, required, choices, prompt, order, named, choosable⟩
    else if fieldType = .enum then
      .error (.valueError "enum field requires choices")
    else
      .error (.valueError "choices are valid only for enum fields")
  else
    .error (.valueError "field key and label are required")

def FieldDefinition.ask (field : FieldDefinition) : String :=
  if field.prompt = "" then s!"Введите: {field.label}" else field.prompt

structure Branding where
  name : String
  greeting : String
  support : String
deriving DecidableEq

structure ServiceCategory where
  key : String
  label : String
  named : key ≠ "" ∧ label ≠ ""
deriving DecidableEq

structure ServiceCatalog where
  categories : List ServiceCategory
  multiSelect : Bool
  distinct : (categories.map fun category => category.key).Nodup
deriving DecidableEq

def ServiceCatalog.labelFor (catalog : ServiceCatalog) (key : String) : String :=
  ((catalog.categories.find? fun category => category.key = key).map fun category =>
    category.label).getD key

def defaultRoleLabels : Dict String String :=
  .ofList [("master", "Мастер"), ("operator", "Оператор"), ("client", "Клиент")]

structure PackDefinition where
  branding : Branding
  serviceCatalog : ServiceCatalog
  fields : List FieldDefinition
  evidence : EvidenceRequirements
  roleLabels : Dict String String
  defaultPoolMode : PoolMode
deriving DecidableEq

def blankDefinition : PackDefinition where
  branding := ⟨"", "", ""⟩
  serviceCatalog := ⟨[], true, List.nodup_nil⟩
  fields := []
  evidence := .default
  roleLabels := defaultRoleLabels
  defaultPoolMode := .curated

end DispatchCore.Packs
