import DispatchCore.Infrastructure.PackStore
import DispatchCore.Library.Numeral
import DispatchCore.Library.Program
import DispatchCore.Messaging.Plans
import DispatchCore.Messaging.Processor
import DispatchCore.Messaging.Replies
import DispatchCore.Packs.ConfigEdits

/-! The guided flow of a client: phone, address, services, the fields of the pack, and a
confirmation that asks the service for the order.  Every await is an operation. -/
namespace DispatchCore.Messaging

open DispatchCore.Library DispatchCore.Domain DispatchCore.Packs DispatchCore.Infrastructure
  DispatchCore.Application

structure MessengerIdentity extends ActorIdentity where
  displayName : String
  provider : Provider
  externalUserId : String
  roles : List Role

inductive IntakeStep
  | phone
  | address
  | services
  | fields
  | confirm
deriving DecidableEq, Repr

structure ServiceLocation where
  latitude : Rat
  longitude : Rat
  method : String
deriving DecidableEq

/-- The stored state.  A key that is missing reads as the default every reader gives it. -/
structure IntakeState where
  step : IntakeStep
  fieldValues : Dict String String
  submissionId : Option String
  packVersion : Option Int
  selected : List String
  fieldIndex : Int
  addressToken : Option String
  addressMode : Option String
  serviceLocation : Option ServiceLocation
  lastEvent : Option String
deriving DecidableEq

inductive IntakeAction
  | pickService
  | servicesDone
  | confirm
  | cancel
  | requestLocation
  | typeAddress
  | continueAfterMap
  | fieldChoice
deriving DecidableEq, Repr

def IntakeAction.value : IntakeAction → String
  | pickService => "intake_pick_service"
  | servicesDone => "intake_services_done"
  | confirm => "intake_confirm"
  | cancel => "intake_cancel"
  | requestLocation => "intake_request_location"
  | typeAddress => "intake_type_address"
  | continueAfterMap => "intake_continue_after_map"
  | fieldChoice => "intake_field_choice"

theorem IntakeAction.value_ne (action : IntakeAction) : action.value ≠ "" := by
  cases action <;> decide

/-- What the coordinator awaits, and what it draws. -/
inductive IntakeOp
  | getSession
  | putSession (state : IntakeState)
  | clearSession
  | activeRevision
  | revision (version : Int)
  | createOrderOnce (orderId : String) (creation : Creation)
  | uuid4
  | tokenUrlsafe

/-- An order is answered with its public number. -/
abbrev IntakeOp.Answer : IntakeOp → Type
  | getSession => Option IntakeState
  | putSession _ => Unit
  | clearSession => Unit
  | activeRevision => Option PackRevision
  | revision _ => Option PackRevision
  | createOrderOnce _ _ => Except Failure String
  | uuid4 => String
  | tokenUrlsafe => String

abbrev IntakeProgram := Program IntakeOp IntakeOp.Answer Failure

namespace IntakeProgram

def getSession : IntakeProgram (Option IntakeState) := .call .getSession .done

def save (state : IntakeState) : IntakeProgram Unit := .call (.putSession state) .done

def clearSession : IntakeProgram Unit := .call .clearSession .done

def activeRevision : IntakeProgram (Option PackRevision) := .call .activeRevision .done

def revision (version : Int) : IntakeProgram (Option PackRevision) :=
  .call (.revision version) .done

def createOrderOnce (orderId : String) (creation : Creation) : IntakeProgram String :=
  .call (.createOrderOnce orderId creation) .attempt

def uuid4 : IntakeProgram String := .call .uuid4 .done

def tokenUrlsafe : IntakeProgram String := .call .tokenUrlsafe .done

end IntakeProgram

/-- `f"{value:.5f}"` of a number that is not a negative zero -/
def fixedFive (value : Rat) : String :=
  let scaled := |value| * 100000
  let low := scaled.floor.toNat
  let rest := scaled - low
  let rounded := if rest < 1 / 2 ∨ (rest = 1 / 2 ∧ low % 2 = 0) then low else low + 1
  let sign := if value < 0 then "-" else ""
  s!"{sign}{rounded / 100000}." ++ Text.padLeft 5 '0' (toString (rounded % 100000))

/-- The text of a point: the address that came with it, or its coordinates. -/
def pointLabel (latitude longitude : Rat) (address : Option String) : String :=
  let label := ConfigEdits.limit (address.getD "") 500
  if label = "" then s!"Точка на карте: {fixedFive latitude}, {fixedFive longitude}" else label

def intakeAddressUrl (baseUrl token : String) : String :=
  s!"{stripSlashes baseUrl}/address#{quote token}"

namespace IntakeCoordinator

open IntakeProgram

def notConfigured : String := "Приём заявок ещё не настроен. Обратитесь к администратору."

def button (text : String) (action : IntakeAction) (row : Nat) (worded : text ≠ "") : ReplyButton :=
  .plain text action.value .client row worded action.value_ne

def cancelButton : ReplyButton := button "Отмена" .cancel 0 cancel_worded

def confirmButtons : List ReplyButton :=
  [button "Отправить" .confirm 0 (by decide), button "Отмена" .cancel 1 cancel_worded]

theorem marked_ne {mark label : String} (h : label ≠ "") : mark ++ label ≠ "" := by
  intro hempty
  exact h (String.append_eq_empty_iff.mp hempty).2

def serviceButtons (pack : PackDefinition) (selected : List String) : List ReplyButton :=
  let services := pack.serviceCatalog.categories.mapIdx fun row category =>
    { text := (if category.key ∈ selected then "✅ " else "") ++ category.label
      action := IntakeAction.pickService.value
      payload := .ofList [("service", .str category.key)]
      allowedRole := some Role.client
      row := row
      url := none
      requestLocation := false
      worded := marked_ne category.named.2
      aimed := .inl (IntakeAction.value_ne _)
      single := ReplyButton.unlinked : ReplyButton }
  if pack.serviceCatalog.multiSelect then
    services ++ [button "Готово" .servicesDone services.length (by decide)]
  else services

def greeting (pack : PackDefinition) : String :=
  if pack.branding.greeting = "" then
    s!"Здравствуйте! Это {pack.branding.name}. Выберите услугу."
  else pack.branding.greeting

def servicesReply (pack : PackDefinition) : Reply := ⟨greeting pack, serviceButtons pack []⟩

/-- A choice without letters is no text of a button. -/
def choiceButtons : List String → Nat → Except Failure (List ReplyButton)
  | [], row => .ok [button "Отмена" .cancel row cancel_worded]
  | choice :: rest, row => do
      let first ← ReplyButton.make choice IntakeAction.fieldChoice.value
        (.ofList [("value", .str choice)]) .client row (IntakeAction.value_ne _)
      let others ← choiceButtons rest (row + 1)
      return first :: others

def askField (field : FieldDefinition) : Except Failure Reply := do
  let hint := if field.required then "" else " (или «-», чтобы пропустить)"
  if field.fieldType = .enum then
    return ⟨field.ask ++ hint, ← choiceButtons field.choices 0⟩
  else
    return ⟨field.ask ++ hint, [cancelButton]⟩

/-- `None` is an answer that the field does not take. -/
def normalizeFieldValue (unicode : Unicode) (field : FieldDefinition) (value : String) :
    Option String :=
  match field.fieldType with
  | .integer => (Text.int? value).map toString
  | .enum => field.choices.find? fun choice => unicode.casefold choice = unicode.casefold value
  | _ => some value

def addressButtons (publicBaseUrl : Option String) (state : IntakeState) : List ReplyButton :=
  let token := state.addressToken.getD ""
  let map := match truthy publicBaseUrl with
    | some baseUrl =>
        if 43 ≤ Text.size token then
          [.link "🗺 Выбрать точку на карте" (intakeAddressUrl baseUrl token) 1 (by decide),
            button "✅ Продолжить после карты" .continueAfterMap 2 (by decide)]
        else []
    | none => []
  [button "📍 Отправить геопозицию" .requestLocation 0 (by decide)] ++ map ++
    [button "⌨️ Ввести адрес" .typeAddress 3 (by decide), button "Отмена" .cancel 4 cancel_worded]

def addressPrompt (publicBaseUrl : Option String) (state : IntakeState) : Reply :=
  { text := "📍 Укажите место выполнения работы.\n\n" ++
      "VPN обычно меняет IP, а не GPS, но геопозиция иногда " ++
      "определяется неверно. Перед отправкой проверьте точку. Если вы " ++
      "используете VPN, находитесь не на объекте или точка показана " ++
      "неправильно — выберите место на карте либо введите адрес вручную."
    buttons := addressButtons publicBaseUrl state }

def start : IntakeProgram Reply := do
  match ← activeRevision with
  | none => return .words notConfigured
  | some revision =>
      let submissionId ← uuid4
      save
        { step := .phone
          fieldValues := .empty
          submissionId := some submissionId
          packVersion := some revision.version
          selected := []
          fieldIndex := 0
          addressToken := none
          addressMode := none
          serviceLocation := none
          lastEvent := none }
      return ⟨"Введите ваш телефон:", [cancelButton]⟩

/-- The revision a session is pinned to, and the session, which is pinned now. -/
def packForState (state : IntakeState) : IntakeProgram (Option PackRevision × IntakeState) := do
  let version := state.packVersion.getD 0
  if version > 0 then
    return (← revision version, state)
  match ← activeRevision with
  | none => return (none, state)
  | some revision =>
      let pinned := { state with packVersion := some (revision.version : Int) }
      save pinned
      return (some revision, pinned)

/-- The phone without blanks and hyphens. -/
def phoneLetters (value : String) : List Char :=
  value.toList.filter fun letter => letter ≠ ' ' ∧ letter ≠ '-'

def fillPhone (publicBaseUrl : Option String) (state : IntakeState) (text : String) :
    IntakeProgram Reply := do
  let value := ConfigEdits.limit text 500
  if value = "" ∨ (phoneLetters value).length < 7 then
    return ⟨"Введите корректный номер телефона (минимум 7 цифр):", [cancelButton]⟩
  let token ← tokenUrlsafe
  let next := { state with
    fieldValues := state.fieldValues.set "phone" value
    step := .address
    addressToken := some token
    addressMode := none
    serviceLocation := none }
  save next
  return addressPrompt publicBaseUrl next

def fillAddress (pack : PackDefinition) (state : IntakeState) (text : String) :
    IntakeProgram Reply := do
  let value := ConfigEdits.limit text 500
  if value = "" ∨ Text.size value < 5 then
    return ⟨"Введите адрес подробнее (минимум 5 символов):", [cancelButton]⟩
  save { state with
    fieldValues := state.fieldValues.set "address" value
    serviceLocation := none
    addressToken := none
    addressMode := none
    step := .services }
  return servicesReply pack

/-- A session whose address is a point. -/
def located (state : IntakeState) (label : String) (location : ServiceLocation) : IntakeState :=
  { state with
    fieldValues := state.fieldValues.set "address" label
    serviceLocation := some location
    step := .services
    addressToken := none
    addressMode := none }

def inBounds (latitude longitude : Reading) : Option (Rat × Rat) :=
  match latitude, longitude with
  | .finite north, .finite east =>
      if -90 ≤ north ∧ north ≤ 90 ∧ -180 ≤ east ∧ east ≤ 180 then some (north, east) else none
  | _, _ => none

def handleLocation (latitude longitude : Reading) (method : String) (address : Option String) :
    IntakeProgram Reply := do
  match inBounds latitude longitude with
  | none => return .words "Не удалось распознать геопозицию. Выберите адрес заново."
  | some (north, east) =>
      match ← getSession with
      | none => start
      | some state =>
          let (revision, state) ← packForState state
          match revision with
          | none => return .words notConfigured
          | some revision =>
              if state.step ≠ .address then
                return .words "Геопозиция сейчас не запрашивается."
              save (located state (pointLabel north east address) ⟨north, east, method⟩)
              return servicesReply revision.definition

def renderConfirmation (pack : PackDefinition) (state : IntakeState) : Reply :=
  let labels := state.selected.map pack.serviceCatalog.labelFor
  let line (key name : String) : List String :=
    match truthy (state.fieldValues.get? key) with
    | some value => [s!"{name}: {value}"]
    | none => []
  let services := if labels = [] then [] else ["Услуги: " ++ Text.join ", " labels]
  let others := (state.fieldValues.entries.filter fun entry =>
    ¬(entry.1 = "phone" ∨ entry.1 = "address")).map fun entry => s!"{entry.1}: {entry.2}"
  ⟨Text.join "\n" (["Заявка:", ""] ++ line "phone" "Телефон" ++ line "address" "Адрес" ++
    services ++ others ++ ["", "Подтвердить отправку?"]), confirmButtons⟩

def toConfirmation (pack : PackDefinition) (state : IntakeState) : IntakeProgram Reply := do
  let next := { state with step := .confirm }
  save next
  return renderConfirmation pack next

def finishServices (pack : PackDefinition) (state : IntakeState) : IntakeProgram Reply := do
  if state.selected = [] then
    return ⟨"Выберите хотя бы одну услугу.", serviceButtons pack state.selected⟩
  let fields := pack.orderedFields
  let next := { state with step := .fields }
  match fields.findIdx? fun field => ¬state.fieldValues.contains field.key with
  | none => toConfirmation pack next
  | some index =>
      let asked := { next with fieldIndex := (index : Int) }
      save asked
      match fields[index]? with
      | none => toConfirmation pack asked
      | some field => askField field

def pickService (pack : PackDefinition) (state : IntakeState) (key : String) :
    IntakeProgram Reply := do
  if ¬(pack.serviceCatalog.categories.any fun category => category.key = key) then
    return .words "Услуга недоступна."
  if ¬pack.serviceCatalog.multiSelect then
    finishServices pack { state with selected := [key] }
  else
    let selected :=
      if key ∈ state.selected then state.selected.erase key else state.selected ++ [key]
    save { state with selected := selected }
    return ⟨"Отметьте услуги и нажмите «Готово».", serviceButtons pack selected⟩

/-- The first field from `index` on that has no answer. -/
def skipAnswered (fields : List FieldDefinition) (answered : Dict String String) (index : Nat) :
    Nat :=
  index + ((fields.drop index).takeWhile fun field => answered.contains field.key).length

/-- The next question, or the confirmation. -/
def nextField (pack : PackDefinition) (state : IntakeState) (index : Nat) : IntakeProgram Reply := do
  let fields := pack.orderedFields
  let index := skipAnswered fields state.fieldValues index
  let next := { state with fieldIndex := (index : Int) }
  match fields[index]? with
  | none => toConfirmation pack next
  | some field =>
      save next
      askField field

/-- An answer to the field that is asked. -/
def answerField (unicode : Unicode) (pack : PackDefinition) (state : IntakeState)
    (field : FieldDefinition) (value : String) : IntakeProgram Reply := do
  let index := state.fieldIndex.toNat + 1
  if value = "" ∨ value = "-" then
    if field.required then
      return ⟨s!"Это поле обязательно. {field.ask}", [cancelButton]⟩
    nextField pack state index
  else
    match normalizeFieldValue unicode field value with
    | none =>
        if field.fieldType = .integer then
          return ⟨"Введите целое число:", [cancelButton]⟩
        let asked ← askField field
        return ⟨"Выберите один из предложенных вариантов:", asked.buttons⟩
    | some normalized =>
        nextField pack { state with fieldValues := state.fieldValues.set field.key normalized } index

def fillField (unicode : Unicode) (pack : PackDefinition) (state : IntakeState) (text : String) :
    IntakeProgram Reply :=
  if state.fieldIndex < 0 then toConfirmation pack state
  else
    match pack.orderedFields[state.fieldIndex.toNat]? with
    | none => toConfirmation pack state
    | some field => answerField unicode pack state field (ConfigEdits.limit text 500)

/-- What the order is made of: the answers of the fields may write over the first three. -/
def orderDetails (pack : PackDefinition) (state : IntakeState) : Dict String Json :=
  let core : Dict String Json := .ofList
    [("services", .arr ((state.selected.map pack.serviceCatalog.labelFor).map Json.str)),
      ("service_keys", .arr (state.selected.map Json.str)),
      ("pack_version", match state.packVersion with
        | some version => .int version
        | none => .null)]
  let details := core.update (state.fieldValues.entries.map fun entry => (entry.1, .str entry.2))
  match state.serviceLocation with
  | none => details
  | some location => details.set "service_location"
      (.obj [("latitude", .num location.latitude), ("longitude", .num location.longitude),
        ("method", .str location.method)])

def orderCreation (identity : MessengerIdentity) (pack : PackDefinition) (state : IntakeState) :
    Creation :=
  { organizationId := identity.organizationId
    workType := Text.join "," state.selected
    source := s!"{identity.provider.value}:{identity.externalUserId}"
    details := orderDetails pack state
    requesterId := some identity.actorId
    evidenceRequirements := some pack.evidence }

def operatorLabel (pack : PackDefinition) : String :=
  (truthy (pack.roleLabels.get? "operator")).getD "Оператор"

def submit (identity : MessengerIdentity) (pack : PackDefinition) (state : IntakeState)
    (submissionId : String) : IntakeProgram Reply := do
  let publicNumber ← createOrderOnce submissionId (orderCreation identity pack state)
  clearSession
  let numberText := if publicNumber = "" then "" else s!" {publicNumber}"
  return .words (s!"✅ Заявка{numberText} отправлена. " ++
    s!"{operatorLabel pack} свяжется с вами в ближайшее время.")

def confirm (identity : MessengerIdentity) (pack : PackDefinition) (state : IntakeState) :
    IntakeProgram Reply := do
  if state.selected = [] then start
  else
    match truthy state.submissionId with
    | some submissionId => submit identity pack state submissionId
    | none =>
        let submissionId ← uuid4
        save { state with submissionId := some submissionId }
        submit identity pack state submissionId

structure Setup where
  unicode : Unicode
  publicBaseUrl : Option String

def handleText (setup : Setup) (text : String) : IntakeProgram Reply := do
  match ← getSession with
  | none => start
  | some state =>
      let (revision, state) ← packForState state
      match revision with
      | none => return .words notConfigured
      | some revision =>
          let pack := revision.definition
          match state.step with
          | .phone => fillPhone setup.publicBaseUrl state text
          | .address => fillAddress pack state text
          | .fields => fillField setup.unicode pack state text
          | .confirm => return ⟨"Нажмите «Отправить» или «Отмена».", confirmButtons⟩
          | .services =>
              return ⟨"Выберите услугу кнопкой ниже.", serviceButtons pack state.selected⟩

/-- What a button does to a session of a pack. -/
def press (setup : Setup) (identity : MessengerIdentity) (pack : PackDefinition)
    (state : IntakeState) (action : IntakeAction) (payload : Dict String Json) :
    IntakeProgram Reply := do
  match action with
  | .cancel =>
      clearSession
      return .words "Заявка отменена."
  | .requestLocation =>
      if state.step ≠ .address then
        return .words "Геопозиция сейчас не запрашивается."
      save { state with addressMode := some "native" }
      return ⟨"Нажмите кнопку ниже и отправьте геопозицию устройства. " ++
          "Если точка неверная или вы находитесь не на объекте — " ++
          "вернитесь и выберите место на карте.",
        [.location "📍 Отправить геопозицию" (by decide)]⟩
  | .typeAddress =>
      if state.step ≠ .address then
        return .words "Адрес уже указан."
      save { state with addressMode := some "text" }
      return ⟨"Введите город, улицу и номер дома:", [cancelButton]⟩
  | .continueAfterMap =>
      if state.step = .services then
        return servicesReply pack
      if state.step ≠ .address then
        return .words "Точка на карте сейчас не запрашивается."
      return ⟨"Сначала откройте карту и сохраните точку. Затем вернитесь " ++
        "сюда и снова нажмите «Продолжить после карты».", addressButtons setup.publicBaseUrl state⟩
  | .pickService =>
      if ¬(state.step = .services ∨ state.step = .fields ∨ state.step = .confirm) then
        return ⟨"Сначала начните новую заявку.", serviceButtons pack state.selected⟩
      pickService pack state (payload.textAt "service")
  | .fieldChoice =>
      if state.step ≠ .fields then
        return .words "Сначала заполните предыдущие шаги."
      fillField setup.unicode pack state (payload.textAt "value")
  | .servicesDone =>
      if state.step ≠ .services then
        return ⟨"Сначала выберите услуги.", serviceButtons pack state.selected⟩
      finishServices pack state
  | .confirm =>
      if state.step ≠ .confirm then
        return .words "Сначала заполните все поля."
      confirm identity pack state

/-- A cancellation looks at no session. -/
def handleCallback (setup : Setup) (identity : MessengerIdentity) (action : IntakeAction)
    (payload : Dict String Json) : IntakeProgram Reply := do
  if action = .cancel then
    clearSession
    return .words "Заявка отменена."
  match ← getSession with
  | none => start
  | some state =>
      let (revision, state) ← packForState state
      match revision with
      | none => return .words notConfigured
      | some revision => press setup identity revision.definition state action payload

end IntakeCoordinator
end DispatchCore.Messaging
