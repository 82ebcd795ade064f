import DispatchCore.Library.Numeral
import DispatchCore.Library.Program
import DispatchCore.Messaging.ConfigReplies

/-! The configurator: what each of its buttons does to the draft of a pack, to the session of
its owner and to the operators.  Every await is an operation. -/
namespace DispatchCore.Messaging

open DispatchCore.Library DispatchCore.Domain DispatchCore.Packs DispatchCore.Infrastructure

inductive BrandStep
  | name
  | greeting
  | support
deriving DecidableEq, Repr

inductive FieldAddStep
  | label
  | type
  | choices
  | required
deriving DecidableEq, Repr

/-- What is known of a field that is being added. -/
structure FieldScratch where
  label : String
  key : String
  fieldType : Option FieldType
  choices : List String
deriving DecidableEq

inductive ConfigFlow
  | brand (step : BrandStep)
  | serviceAdd (itemKey itemLabel : String)
  | fieldAdd (step : FieldAddStep) (scratch : FieldScratch)
  | fieldPrompt (key : String)
  | roleLabel (role : String)
  | addOperator (step : AddMasterStep) (requestKey name : String)
  | editOperatorPhone (actorId : String)
deriving DecidableEq

structure ConfigState where
  flow : ConfigFlow
  lastEvent : Option String
deriving DecidableEq

/-- What the configurator awaits, and what it draws.  Sessions and roles are those of the one
who asks. -/
inductive ConfigOp
  | draft
  | active
  | revision (version : Int)
  | revisions
  | ensureDraft (seed : PackDefinition)
  | updateDraft (definition : PackDefinition)
  | discardDraft
  | restoreAsDraft (version : Int)
  | publishDraft
  | getSession
  | putSession (state : ConfigState)
  | clearSession
  | grantRole (role : Role)
  | revokeRole (actorId : String) (role : Role)
  | getActor (actorId : String)
  | listActors (role : Role)
  | uuid4

abbrev ConfigOp.Answer : ConfigOp → Type
  | draft => Option PackDefinition
  | active => Option PackDefinition
  | revision _ => Option PackRevision
  | revisions => List PackRevision
  | ensureDraft _ => Except PackFailure PackReply
  | updateDraft _ => Except PackFailure PackReply
  | discardDraft => Except PackFailure PackReply
  | restoreAsDraft _ => Except PackFailure PackReply
  | publishDraft => Except PackFailure PackReply
  | getSession => Option ConfigState
  | putSession _ => Unit
  | clearSession => Unit
  | grantRole _ => Except IdentityFailure Bool
  | revokeRole _ _ => Bool
  | getActor _ => Option Identities.ActorCard
  | listActors _ => List Identities.ListedActor
  | uuid4 => String

abbrev ConfigProgram := Program ConfigOp ConfigOp.Answer PackFailure

/-- A refusal of the people's tables, among those of the packs. -/
def identityRefusal : IdentityFailure → PackFailure
  | .failure failure => .failure failure
  | .uniqueViolation => .uniqueViolation

namespace ConfigCoordinator

open ConfigReplies

/-- `managed` tells whether the configurator was given the identity store. -/
structure Setup where
  unicode : Unicode
  managed : Bool

section programs

def draft : ConfigProgram (Option PackDefinition) := .call .draft .done

def active : ConfigProgram (Option PackDefinition) := .call .active .done

def revision (version : Int) : ConfigProgram (Option PackRevision) :=
  .call (.revision version) .done

def revisions : ConfigProgram (List PackRevision) := .call .revisions .done

def getSession : ConfigProgram (Option ConfigState) := .call .getSession .done

def setSession (flow : ConfigFlow) : ConfigProgram Unit := .call (.putSession ⟨flow, none⟩) .done

def save (state : ConfigState) : ConfigProgram Unit := .call (.putSession state) .done

def clearSession : ConfigProgram Unit := .call .clearSession .done

def getActor (actorId : String) : ConfigProgram (Option Identities.ActorCard) :=
  .call (.getActor actorId) .done

def listActors (role : Role) : ConfigProgram (List Identities.ListedActor) :=
  .call (.listActors role) .done

def revokeRole (actorId : String) (role : Role) : ConfigProgram Bool :=
  .call (.revokeRole actorId role) .done

def grantRole (role : Role) : ConfigProgram Bool :=
  .call (.grantRole role) fun answer => .attempt (answer.mapError identityRefusal)

def uuid4 : ConfigProgram String := .call .uuid4 .done

end programs

variable (setup : Setup) (identity : MessengerIdentity)

def menu (note : Option String) : ConfigProgram Reply := do
  let found ← draft
  let published ← active
  return menuReply identity.provider found published note

/-- `_ensure_draft` -/
def ensureDraft : ConfigProgram PackDefinition := do
  match ← draft with
  | some found => return found
  | none =>
      let seed := (← active).getD blankDefinition
      .call (.ensureDraft seed) fun
        | .ok (.definition definition) => .done definition
        | .ok _ => .raise (.failure (.runtimeError "draft was not returned"))
        | .error failure => .raise failure

def updateDraft (definition : PackDefinition) : ConfigProgram Unit :=
  .call (.updateDraft definition) fun
    | .ok _ => .done ()
    | .error failure => .raise failure

/-- The draft as an edit leaves it. -/
def edited (edit : ConfigEdit) : ConfigProgram PackDefinition := do
  let found ← ensureDraft
  match edit.outcome setup.unicode found with
  | .error failure => .raise (.failure failure)
  | .ok none => return found
  | .ok (some updated) =>
      updateDraft updated
      return updated

def showing (reply : PackDefinition → Reply) : ConfigProgram Reply := do
  return reply (← ensureDraft)

def services : ConfigProgram Reply := showing servicesReply

def fields : ConfigProgram Reply := showing fieldsReply

def evidence : ConfigProgram Reply := showing fun draft => evidenceReply draft.evidence

def allocation : ConfigProgram Reply := showing allocationReply

def roleLabels : ConfigProgram Reply := showing roleLabelsReply

def brand : ConfigProgram Reply := do
  let _ ← ensureDraft
  setSession (.brand .name)
  return asking "Введите название бренда:"

def serviceAdd : ConfigProgram Reply := do
  let _ ← ensureDraft
  setSession (.serviceAdd "" "")
  return asking "Введите название услуги:"

def serviceDelete (payload : Dict String Json) : ConfigProgram Reply := do
  let _ ← edited setup (.serviceDelete (payload.textAt "key"))
  services

def serviceMultiSelect : ConfigProgram Reply := do
  let _ ← edited setup .serviceMultiSelect
  services

def serviceMove (payload : Dict String Json) : ConfigProgram Reply := do
  let _ ← edited setup (.serviceMove (payload.textAt "key") (payload.textAt "direction"))
  services

def fieldAdd : ConfigProgram Reply := do
  let _ ← ensureDraft
  setSession (.fieldAdd .label ⟨"", "", none, []⟩)
  return asking "Введите название поля:"

def fieldDelete (payload : Dict String Json) : ConfigProgram Reply := do
  let _ ← edited setup (.fieldDelete (payload.textAt "key"))
  fields

def fieldMove (payload : Dict String Json) : ConfigProgram Reply := do
  let _ ← edited setup (.fieldMove (payload.textAt "key") (payload.textAt "direction"))
  fields

def fieldPrompt (payload : Dict String Json) : ConfigProgram Reply := do
  let key := payload.textAt "key"
  let found ← ensureDraft
  match found.fields.find? fun item => item.key = key with
  | none => fields
  | some definition =>
      setSession (.fieldPrompt key)
      return asking (s!"Текущий вопрос: {definition.ask}\n\n" ++
        "Введите новый текст вопроса или «-» для стандартного:")

/-- An address goes under its own key, where no field has it yet. -/
def typedScratch (scratch : FieldScratch) (fieldType : FieldType) (taken : Bool) : FieldScratch :=
  { scratch with
    fieldType := some fieldType
    key := if fieldType = .address ∧ ¬taken then "address" else scratch.key }

def fieldType (payload : Dict String Json) : ConfigProgram Reply := do
  match ← getSession with
  | some ⟨.fieldAdd _ scratch, lastEvent⟩ =>
      match fieldTypeOf? (payload.textAt "type") with
      | none => return asking "Неизвестный тип поля."
      | some fieldType =>
          let taken ← if fieldType = .address then do
              let found ← ensureDraft
              pure (found.fields.any fun item => item.key = "address")
            else pure true
          let scratch := typedScratch scratch fieldType taken
          if fieldType = .enum then
            save ⟨.fieldAdd .choices scratch, lastEvent⟩
            return asking "Введите варианты через запятую (минимум два):"
          else
            save ⟨.fieldAdd .required scratch, lastEvent⟩
            return requiredFieldReply
  | _ => fields

def fieldRequired (payload : Dict String Json) : ConfigProgram Reply := do
  match ← getSession with
  | some ⟨.fieldAdd step scratch, lastEvent⟩ =>
      let required := ((payload.get? "required").map truthValue).getD false
      let found ← ensureDraft
      let key := ConfigEdits.fieldKey setup.unicode scratch.key scratch.label found
      if scratch.key = "" then
        save ⟨.fieldAdd step { scratch with key }, lastEvent⟩
      match ConfigEdits.fieldRequired setup.unicode key scratch.label
          (scratch.fieldType.getD .text) scratch.choices required found with
      | .error failure => .raise (.failure failure)
      | .ok none =>
          clearSession
          fields
      | .ok (some updated) =>
          updateDraft updated
          clearSession
          fields
  | _ => fields

def evidenceToggle (action : ConfigEdits.EvidenceAction) : ConfigProgram Reply := do
  let updated ← edited setup (.evidenceToggle action)
  return evidenceReply updated.evidence

def poolMode (payload : Dict String Json) : ConfigProgram Reply := do
  match poolModeOf? (payload.textAt "mode") with
  | none => allocation
  | some mode =>
      let _ ← edited setup (.poolMode mode)
      allocation

def roleLabelEdit (payload : Dict String Json) : ConfigProgram Reply := do
  let role := payload.textAt "role"
  match defaultRoleLabels.get? role with
  | none => roleLabels
  | some standard =>
      setSession (.roleLabel role)
      return asking (s!"Введите название роли «{standard}» " ++ "или «-» для стандартного:")

def versions : ConfigProgram Reply := do
  match ← revisions with
  | [] => menu identity (some "Версий пока нет.")
  | found => return versionsReply found

def discardDraft : ConfigProgram Reply := do
  match ← draft with
  | none => versions identity
  | some _ =>
      return ⟨"Отменить все неопубликованные изменения черновика?",
        [button "Да, отменить черновик" .discardDraftConfirm [] 0 (by decide),
          button "Нет" .versions [] 1 no_worded]⟩

def discardDraftConfirm : ConfigProgram Reply :=
  .call .discardDraft fun
    | .ok (.discarded true) => menu identity (some "Черновик отменён.")
    | .ok _ => menu identity (some "Черновика уже нет.")
    | .error failure => .raise failure

def restoreVersion (payload : Dict String Json) : ConfigProgram Reply := do
  match (payload.get? "version").bind wholeNumber? with
  | none => versions identity
  | some version =>
      match ← revision version with
      | none => versions identity
      | some _ =>
          return ⟨s!"Создать черновик на основе версии {version}? " ++
              "Текущий черновик будет заменён, активная версия не изменится.",
            [button "Да, создать черновик" .restoreVersionConfirm [("version", .int version)] 0
                (by decide),
              button "Нет" .versions [] 1 no_worded]⟩

def restoreVersionConfirm (payload : Dict String Json) : ConfigProgram Reply := do
  match (payload.get? "version").bind wholeNumber? with
  | none => versions identity
  | some version =>
      .call (.restoreAsDraft version) fun
        | .ok (.version drafted) => menu identity
            (some (s!"Версия {version} скопирована в черновик {drafted}. " ++
              "Проверьте предпросмотр и опубликуйте вручную."))
        | .ok _ => .raise (.failure (.runtimeError "draft version was not returned"))
        | .error (.failure (.notFound _)) => versions identity
        | .error failure => .raise failure

def preview : ConfigProgram Reply := do
  match ← draft with
  | some found => return previewReply found
  | none =>
      match ← active with
      | some found => return previewReply found
      | none => menu identity (some "Черновик пуст.")

def publish : ConfigProgram Reply :=
  .call .publishDraft fun
    | .ok (.version version) => .done (.words
        s!"Готово. Версия {version} активна — клиенты уже видят новый флоу.")
    | .ok _ => .raise (.failure (.runtimeError "active version was not returned"))
    | .error (.failure (.packValidation message)) =>
        .done ⟨s!"Не удалось опубликовать: {message}", [menuButton 0]⟩
    | .error (.failure (.notFound _)) => menu identity (some "Нет черновика для публикации.")
    | .error failure => .raise failure

/-- What needs the identity store is refused without it. -/
def managing (refusal : String) (program : ConfigProgram Reply) : ConfigProgram Reply :=
  if setup.managed then program else return .words refusal

def operatorsRefused : String := "Управление операторами недоступно."

def rolesRefused : String := "Управление ролями недоступно."

def addOperator : ConfigProgram Reply :=
  managing setup operatorsRefused do
    let drawn ← uuid4
    setSession (.addOperator .name s!"{identity.actorId}:add-operator:{drawn}" "")
    return asking "Введите имя оператора:"

def listOperators : ConfigProgram Reply :=
  managing setup operatorsRefused do
    let actors ← listActors .operator
    return operatorsReply actors

/-- What is shown of an operator, whoever of the staff that is. -/
def withOperator (payload : Dict String Json)
    (program : String → Identities.ActorCard → ConfigProgram Reply) : ConfigProgram Reply :=
  managing setup operatorsRefused do
    let actorId := payload.textAt "actor_id"
    match ← getActor actorId with
    | some actor => if .operator ∈ actor.roles then program actorId actor else listOperators setup
    | none => listOperators setup

def operatorInfo (payload : Dict String Json) : ConfigProgram Reply :=
  withOperator setup payload fun actorId actor => return operatorReply actorId actor

def callOperator (payload : Dict String Json) : ConfigProgram Reply :=
  withOperator setup payload fun actorId actor => return callReply actorId actor

def editOperatorPhone (payload : Dict String Json) : ConfigProgram Reply :=
  withOperator setup payload fun actorId actor => do
    setSession (.editOperatorPhone actorId)
    return asking (s!"✏️ Новый телефон оператора {actor.displayName}\n\n" ++
      "Введите номер полностью:")

def delOperator (payload : Dict String Json) : ConfigProgram Reply :=
  managing setup operatorsRefused do
    let actorId := payload.textAt "actor_id"
    if actorId = "" then listOperators setup
    else
      match ← getActor actorId with
      | none => listOperators setup
      | some actor =>
          return ⟨s!"Убрать роль оператора у «{actor.displayName}»?",
            [button "Да, убрать роль" .delOperatorConfirm [("actor_id", .str actorId)] 0
                revoke_worded,
              button "Отмена" .cancel [] 1 cancel_worded]⟩

def delOperatorConfirm (payload : Dict String Json) : ConfigProgram Reply :=
  managing setup operatorsRefused do
    let actorId := payload.textAt "actor_id"
    if actorId ≠ "" then
      let _ ← revokeRole actorId .operator
    listOperators setup

def ownerRoles (note : Option String) : ConfigProgram Reply :=
  managing setup rolesRefused do
    match ← getActor identity.actorId with
    | none => return .words "Профиль администратора не найден."
    | some actor => return ownerRolesReply actor note

def grantOwnerRole (role : Role) : ConfigProgram Reply :=
  managing setup rolesRefused do
    let granted ← grantRole role
    ownerRoles setup identity (some (if granted then "Роль добавлена."
      else "Не удалось добавить роль: профиль администратора не найден."))

def ownerNano : ConfigProgram Reply :=
  managing setup rolesRefused do
    let _ ← grantRole .operator
    let _ ← grantRole .master
    ownerRoles setup identity (some ("Нано-режим включён: вам доступны роли администратора, " ++
      "оператора и мастера."))

def handleCallback (action : ConfigAction) (payload : Dict String Json) : ConfigProgram Reply :=
  match action with
  | .cancel => do
      clearSession
      menu identity (some "Действие отменено.")
  | .menu => menu identity none
  | .brand => brand
  | .services => services
  | .serviceAdd => serviceAdd
  | .serviceDelete => serviceDelete setup payload
  | .serviceMove => serviceMove setup payload
  | .serviceMultiSelect => serviceMultiSelect setup
  | .fields => fields
  | .fieldAdd => fieldAdd
  | .fieldDelete => fieldDelete setup payload
  | .fieldMove => fieldMove setup payload
  | .fieldPrompt => fieldPrompt payload
  | .fieldType => fieldType payload
  | .fieldRequired => fieldRequired setup payload
  | .evidence => evidence
  | .evidenceToggle toggle => evidenceToggle setup toggle
  | .allocation => allocation
  | .poolMode => poolMode setup payload
  | .roleLabels => roleLabels
  | .roleLabelEdit => roleLabelEdit payload
  | .versions => versions identity
  | .discardDraft => discardDraft identity
  | .discardDraftConfirm => discardDraftConfirm identity
  | .restoreVersion => restoreVersion identity payload
  | .restoreVersionConfirm => restoreVersionConfirm identity payload
  | .preview => preview identity
  | .publish => publish identity
  | .addOperator => addOperator setup identity
  | .listOperators => listOperators setup
  | .operatorInfo => operatorInfo setup payload
  | .callOperator => callOperator setup payload
  | .editOperatorPhone => editOperatorPhone setup payload
  | .delOperator => delOperator setup payload
  | .delOperatorConfirm => delOperatorConfirm setup payload
  | .ownerRoles => ownerRoles setup identity none
  | .ownerAddOperator => grantOwnerRole setup identity .operator
  | .ownerAddMaster => grantOwnerRole setup identity .master
  | .ownerNano => ownerNano setup identity

end ConfigCoordinator
end DispatchCore.Messaging
