import DispatchCore.Infrastructure.PackStore
import DispatchCore.Messaging.Workspaces
import DispatchCore.Packs.ConfigEdits

/-! What the configurator shows its owner: the sections of a pack, its revisions, and the
operators. -/
namespace DispatchCore.Messaging

open DispatchCore.Library DispatchCore.Domain DispatchCore.Packs DispatchCore.Infrastructure

inductive ConfigAction
  | cancel
  | menu
  | brand
  | services
  | serviceAdd
  | serviceDelete
  | serviceMove
  | serviceMultiSelect
  | fields
  | fieldAdd
  | fieldDelete
  | fieldMove
  | fieldPrompt
  | fieldType
  | fieldRequired
  | evidence
  | evidenceToggle (action : ConfigEdits.EvidenceAction)
  | allocation
  | poolMode
  | roleLabels
  | roleLabelEdit
  | versions
  | discardDraft
  | discardDraftConfirm
  | restoreVersion
  | restoreVersionConfirm
  | preview
  | publish
  | addOperator
  | listOperators
  | operatorInfo
  | callOperator
  | editOperatorPhone
  | delOperator
  | delOperatorConfirm
  | ownerRoles
  | ownerAddOperator
  | ownerAddMaster
  | ownerNano
deriving DecidableEq, Repr

def ConfigAction.value : ConfigAction → String
  | cancel => "config_cancel"
  | menu => "config_menu"
  | brand => "config_brand"
  | services => "config_services"
  | serviceAdd => "config_service_add"
  | serviceDelete => "config_service_delete"
  | serviceMove => "config_service_move"
  | serviceMultiSelect => "config_service_multi_select"
  | fields => "config_fields"
  | fieldAdd => "config_field_add"
  | fieldDelete => "config_field_delete"
  | fieldMove => "config_field_move"
  | fieldPrompt => "config_field_prompt"
  | fieldType => "config_field_type"
  | fieldRequired => "config_field_required"
  | evidence => "config_evidence"
  | evidenceToggle .photoInc => "config_evidence_photo_inc"
  | evidenceToggle .photoDec => "config_evidence_photo_dec"
  | evidenceToggle .comment => "config_evidence_comment"
  | evidenceToggle .signature => "config_evidence_signature"
  | evidenceToggle .code => "config_evidence_code"
  | allocation => "config_allocation"
  | poolMode => "config_pool_mode"
  | roleLabels => "config_role_labels"
  | roleLabelEdit => "config_role_label_edit"
  | versions => "config_versions"
  | discardDraft => "config_discard_draft"
  | discardDraftConfirm => "config_discard_draft_confirm"
  | restoreVersion => "config_restore_version"
  | restoreVersionConfirm => "config_restore_version_confirm"
  | preview => "config_preview"
  | publish => "config_publish"
  | addOperator => "config_add_operator"
  | listOperators => "config_list_operators"
  | operatorInfo => "config_operator_info"
  | callOperator => "config_call_operator"
  | editOperatorPhone => "config_edit_operator_phone"
  | delOperator => "config_del_operator"
  | delOperatorConfirm => "config_del_operator_confirm"
  | ownerRoles => "config_owner_roles"
  | ownerAddOperator => "config_owner_add_operator"
  | ownerAddMaster => "config_owner_add_master"
  | ownerNano => "config_owner_nano"

theorem ConfigAction.value_ne (action : ConfigAction) : action.value ≠ "" := by
  cases action with
  | evidenceToggle action => cases action <;> decide
  | _ => decide

namespace ConfigReplies

def button (text : String) (action : ConfigAction) (payload : List (String × Json)) (row : Nat)
    (worded : text ≠ "") : ReplyButton :=
  ⟨text, action.value, Dict.ofList payload, some .admin, row, none, false, worded,
    .inl action.value_ne, ReplyButton.unlinked⟩

/-- A button whose text begins with fixed words. -/
def titled (lead text : String) (action : ConfigAction) (payload : List (String × Json))
    (row : Nat) (worded : lead ≠ "") : ReplyButton :=
  button (lead ++ text) action payload row (OperatorCoordinator.prefixed_ne lead text worded)

def cancelButton : ReplyButton := button "Отмена" .cancel [] 0 cancel_worded

def menuButton (row : Nat) : ReplyButton := button "В меню" .menu [] row (by decide)

def asking (text : String) : Reply := ⟨text, [cancelButton]⟩

def yesNo (value : Bool) : String := if value then "да" else "нет"

/-- The buttons that move an item up and down among `count`. -/
def moveButtons (up down : Nat → ReplyButton) (index count : Nat) : List ReplyButton :=
  (if 0 < index then [up (index + 1)] else []) ++
    (if index + 1 < count then [down (index + 1)] else [])

def servicesReply (draft : PackDefinition) : Reply :=
  let catalog := draft.serviceCatalog
  let categories := catalog.categories
  let move (direction : String) (item : ServiceCategory) : List (String × Json) :=
    [("key", .str item.key), ("direction", .str direction)]
  ⟨Text.join "\n" (["Услуги каталога:",
      "Выбор клиента: " ++ (if catalog.multiSelect then "несколько услуг" else "одна услуга")] ++
      (if categories = [] then ["(пока пусто)"]
      else categories.map fun item => "• " ++ item.label)),
    [button "Добавить услугу" .serviceAdd [] 0 (by decide),
      if catalog.multiSelect then button "Только одна услуга" .serviceMultiSelect [] 0 (by decide)
      else button "Разрешить несколько" .serviceMultiSelect [] 0 (by decide)] ++
    (categories.mapIdx fun index item =>
      moveButtons
        (fun row => titled "↑ " item.label .serviceMove (move "up" item) row (by decide))
        (fun row => titled "↓ " item.label .serviceMove (move "down" item) row (by decide))
        index categories.length ++
      [titled "Удалить: " item.label .serviceDelete [("key", .str item.key)] (index + 1)
        (by decide)]).flatten ++
    [menuButton (categories.length + 1)]⟩

def fieldLine (item : FieldDefinition) : String :=
  let mark := if item.required then "*" else ""
  let choices := if item.fieldType = .enum then " [" ++ Text.join ", " item.choices ++ "]" else ""
  s!"• {item.label} ({fieldTypeValue item.fieldType}){mark}{choices}"

def fieldsReply (draft : PackDefinition) : Reply :=
  let fields := draft.orderedFields
  let move (direction : String) (item : FieldDefinition) : List (String × Json) :=
    [("key", .str item.key), ("direction", .str direction)]
  ⟨Text.join "\n" ("Поля заявки:" ::
      (if fields = [] then ["(пока пусто)"] else fields.map fieldLine)),
    [button "Добавить поле" .fieldAdd [] 0 (by decide)] ++
    (fields.mapIdx fun index item =>
      moveButtons
        (fun row => button "↑" .fieldMove (move "up" item) row (by decide))
        (fun row => button "↓" .fieldMove (move "down" item) row (by decide))
        index fields.length ++
      [titled "Текст: " item.label .fieldPrompt [("key", .str item.key)] (index + 1) (by decide),
        button "Удалить" .fieldDelete [("key", .str item.key)] (index + 1) (by decide)]).flatten ++
    [menuButton (fields.length + 1)]⟩

def requiredFieldReply : Reply :=
  ⟨"Поле обязательно к заполнению?",
    [button "Да" .fieldRequired [("required", .bool true)] 0 (by decide),
      button "Нет" .fieldRequired [("required", .bool false)] 1 no_worded]⟩

def evidenceReply (evidence : EvidenceRequirements) : Reply :=
  ⟨Text.join "\n" ["Требования к закрытию заявки:", s!"Фото: минимум {evidence.minimumPhotos}",
      s!"Комментарий: {yesNo evidence.commentRequired}",
      s!"Подпись: {yesNo evidence.signatureRequired}",
      s!"Код клиента: {yesNo evidence.customerCodeRequired}"],
    [button "Фото +1" (.evidenceToggle .photoInc) [] 0 (by decide),
      button "Фото −1" (.evidenceToggle .photoDec) [] 0 (by decide),
      button "Комментарий" (.evidenceToggle .comment) [] 1 (by decide),
      button "Подпись" (.evidenceToggle .signature) [] 1 (by decide),
      button "Код клиента" (.evidenceToggle .code) [] 2 (by decide), menuButton 3]⟩

def allocationReply (draft : PackDefinition) : Reply :=
  let label := match draft.defaultPoolMode with
    | .curated => "оператор выбирает мастера"
    | .firstClaim => "заявку забирает первый мастер"
  ⟨s!"Распределение заявок:\nСейчас: {label}",
    [button "Оператор выбирает" .poolMode [("mode", .str PoolMode.curated.value)] 0 (by decide),
      button "Первый отклик" .poolMode [("mode", .str PoolMode.firstClaim.value)] 1 (by decide),
      menuButton 2]⟩

/-- A definition that is read has the default labels where it names none. -/
def roleLabel (draft : PackDefinition) (role : String) : String :=
  (draft.roleLabels.get? role).getD ((defaultRoleLabels.get? role).getD "")

def roleLabelsReply (draft : PackDefinition) : Reply :=
  let label := roleLabel draft
  let edit (role : String) (row : Nat) : ReplyButton :=
    titled "Изменить: " (label role) .roleLabelEdit [("role", .str role)] row (by decide)
  ⟨Text.join "\n" ["Названия ролей в карточках заявок:", "• Мастер: " ++ label "master",
      "• Оператор: " ++ label "operator", "• Клиент: " ++ label "client"],
    [edit "master" 0, edit "operator" 1, edit "client" 2, menuButton 3]⟩

def stateLabel : PackState → String
  | .draft => "черновик"
  | .active => "активная"
  | .archived => "архив"

def revisionLine (revision : PackRevision) : String :=
  let name := if revision.definition.branding.name = "" then "без названия"
    else revision.definition.branding.name
  s!"• v{revision.version} — {stateLabel revision.state} — {name}"

def versionsReply (revisions : List PackRevision) : Reply :=
  let published := revisions.filter fun revision => revision.state ≠ .draft
  let drafted := revisions.any fun revision => revision.state = .draft
  let row := published.length
  ⟨Text.join "\n" ("Версии конфигурации:" :: revisions.map revisionLine),
    (published.mapIdx fun index revision =>
      titled "В черновик v" (toString revision.version) .restoreVersion
        [("version", .int revision.version)] index (by decide)) ++
    (if drafted then [button "Отменить текущий черновик" .discardDraft [] row (by decide),
      menuButton (row + 1)] else [menuButton row])⟩

/-- The menu; one messenger has a menu of its own for the commands. -/
def menuReply (provider : Provider) (draft active : Option PackDefinition) (note : Option String) :
    Reply :=
  let shown := match draft.or active with
    | some source =>
        let name := if source.branding.name = "" then "(без названия)" else source.branding.name
        let state := if draft.isSome then "черновик" else "активный"
        let services := source.serviceCatalog.categories.length
        s!"Текущий ({state}): {name} — услуг {services}, полей {source.fields.length}"
    | none => "Пак ещё не создан — начните с раздела «Бренд»."
  let lines := (match truthy note with
    | some note => [note, ""]
    | none => []) ++ ["🛡 Панель администратора", shown]
  if provider = .telegram then
    .words (Text.join "\n" (lines ++ ["", "Команды доступны в меню слева от поля ввода 👈"]))
  else ⟨Text.join "\n" lines,
    [button "Бренд" .brand [] 0 (by decide), button "Услуги" .services [] 0 (by decide),
      button "Поля" .fields [] 1 (by decide), button "Закрытие" .evidence [] 1 (by decide),
      button "Распределение" .allocation [] 2 (by decide),
      button "Названия ролей" .roleLabels [] 2 (by decide),
      button "Предпросмотр" .preview [] 3 (by decide),
      button "Опубликовать" .publish [] 3 (by decide), button "Версии" .versions [] 4 (by decide),
      button "Операторы" .listOperators [] 4 (by decide),
      button "Мои роли" .ownerRoles [] 5 (by decide)]⟩

/-- What a detail of a card holds: a text, or the labels of services. -/
abbrev Detail := String ⊕ List String

/-- `str(value)` -/
def detailText : Detail → String
  | .inl text => text
  | .inr labels => "[" ++ Text.join ", " (labels.map Text.repr) ++ "]"

/-- `CardRenderer.confirmation_card` of an answer for every field. -/
def confirmationCard (pack : PackDefinition) (labels : List String)
    (answers : Dict String String) : String :=
  let values : Dict String Detail := answers.mapValues fun _ text => .inl text
  let details := if labels = [] then values else values.set "services" (.inr labels)
  let services := match details.get? "services" with
    | some (.inr labels) => labels
    | some (.inl text) => text.toList.map fun letter => String.ofList [letter]
    | none => []
  let rendered := pack.orderedFields.filterMap fun field =>
    match details.get? field.key with
    | none => none
    | some (.inl "") => none
    | some value => some s!"{field.label}: {detailText value}"
  let lines := "Проверьте заявку" ::
    ((if services = [] then [] else ["Услуги: " ++ Text.join ", " services]) ++ rendered ++
      (if services = [] ∧ rendered = [] then [pack.branding.name] else []))
  Text.join "\n" lines ++ "\n\nПодтвердить отправку?"

/-- `CardRenderer.greeting` -/
def greeting (pack : PackDefinition) : String :=
  if pack.branding.greeting = "" then
    s!"Здравствуйте! Это {pack.branding.name}. Выберите услугу."
  else pack.branding.greeting

def previewReply (pack : PackDefinition) : Reply :=
  let labels := pack.serviceCatalog.categories.map ServiceCategory.label
  let sample := Dict.ofList (pack.orderedFields.map fun field => (field.key, s!"<{field.label}>"))
  ⟨Text.join "\n" (["Предпросмотр (глазами клиента):", "", greeting pack] ++
      (if labels = [] then [] else ["", "Услуги: " ++ Text.join ", " labels]) ++
      ["", confirmationCard pack labels sample]),
    [menuButton 0]⟩

def operatorLine (actor : Identities.ListedActor) : String :=
  let status := if actor.active then "✅" else "❌"
  let bindNote := if actor.hasBindCode then " (ожидает привязки)" else ""
  let channels := Text.join ", " (actor.channels.map OperatorCoordinator.IdentityProvider.value)
  s!"• {actor.displayName} | {status}{bindNote}" ++
    (if channels = "" then "" else s!" | {channels}")

def operatorsReply (actors : List Identities.ListedActor) : Reply :=
  if actors = [] then
    ⟨"Операторов пока нет.",
      [button "Добавить оператора" .addOperator [] 0 (by decide), menuButton 1]⟩
  else
    ⟨Text.join "\n" ("Операторы:" :: actors.map operatorLine),
      (actors.mapIdx fun index actor => titled "ℹ️ " actor.displayName .operatorInfo
        [("actor_id", .str actor.id)] (index + 1) (by decide)) ++
      [button "Добавить оператора" .addOperator [] (actors.length + 1) (by decide),
        menuButton (actors.length + 3)]⟩

def operatorReply (actorId : String) (actor : Identities.ActorCard) : Reply :=
  ⟨Text.join "\n" ["🧭 Карточка оператора", "", s!"👤 Имя: {actor.displayName}", "📞 Телефон:",
      phoneDisplay actor.phone, s!"🆔 ID: {actor.id}"],
    [button "📞 Позвонить оператору" .callOperator [("actor_id", .str actorId)] 0 (by decide),
      button "✏️ Изменить телефон" .editOperatorPhone [("actor_id", .str actorId)] 1 (by decide),
      button "🗑 Убрать роль оператора" .delOperator [("actor_id", .str actorId)] 2 (by decide),
      button "⬅ К операторам" .listOperators [] 3 (by decide)]⟩

def callReply (actorId : String) (actor : Identities.ActorCard) : Reply :=
  ⟨s!"📞 Оператор {actor.displayName}\n\n{phoneDisplay actor.phone}",
    [button "⬅ К оператору" .operatorInfo [("actor_id", .str actorId)] 0 (by decide)]⟩

def ownerLabel : Role → String
  | .admin => "администратор"
  | .operator => "оператор"
  | .master => "мастер"
  | .client => "клиент"

def ownerRolesReply (actor : Identities.ActorCard) (note : Option String) : Reply :=
  let roles := if actor.roles = [] then [actor.role] else actor.roles
  let held := [Role.admin, .operator, .master, .client].filter fun role => role ∈ roles
  let operators := if Role.operator ∈ roles then []
    else [button "Добавить роль оператора" .ownerAddOperator [] 0 (by decide)]
  let masters := if Role.master ∈ roles then operators
    else operators ++ [button "Добавить роль мастера" .ownerAddMaster [] operators.length (by decide)]
  let buttons := if Role.operator ∈ roles ∧ Role.master ∈ roles then masters
    else masters ++ [button "Включить нано-режим" .ownerNano [] masters.length (by decide)]
  ⟨Text.join "\n" ((match truthy note with
      | some note => [note, ""]
      | none => []) ++ ["Ваши роли: " ++ Text.join ", " (held.map ownerLabel), "",
      "Роль определяет ролевой бот. Открытие бота само по себе права не выдаёт."]),
    buttons ++ [menuButton buttons.length]⟩

end ConfigReplies
end DispatchCore.Messaging
