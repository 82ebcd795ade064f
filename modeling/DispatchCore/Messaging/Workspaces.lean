import DispatchCore.Infrastructure.Workers
import DispatchCore.Library.Numeral
import DispatchCore.Library.Program
import DispatchCore.Messaging.Intake
import DispatchCore.Messaging.Processor

/-! The workplace of the operators: the masters, how one is added in two answers and how
one is let go.  What it awaits is one transaction each, on the orders or on the people. -/
namespace DispatchCore.Messaging

open DispatchCore.Library DispatchCore.Domain DispatchCore.Infrastructure
  DispatchCore.Application

inductive OperatorAction
  | menu
  | listOrders
  | openOrder
  | listMasters
  | addMaster
  | masterInfo
  | callMaster
  | callClient
  | deleteMaster
  | deleteMasterConfirm
  | stats
  | cancel
deriving DecidableEq, Repr

def OperatorAction.value : OperatorAction → String
  | menu => "operator_menu"
  | listOrders => "operator_list_orders"
  | openOrder => "operator_open_order"
  | listMasters => "operator_list_masters"
  | addMaster => "operator_add_master"
  | masterInfo => "operator_master_info"
  | callMaster => "operator_call_master"
  | callClient => "operator_call_client"
  | deleteMaster => "operator_delete_master"
  | deleteMasterConfirm => "operator_delete_master_confirm"
  | stats => "operator_stats"
  | cancel => "operator_cancel"

theorem OperatorAction.value_ne (action : OperatorAction) : action.value ≠ "" := by
  cases action <;> decide

inductive AddMasterStep
  | name
  | phone
deriving DecidableEq, Repr

/-- What the flow that adds a master keeps. -/
structure OperatorState where
  step : AddMasterStep
  name : String
  requestKey : String
  lastEvent : Option String
deriving DecidableEq

/-- The key of a session: who, and where. -/
abbrev DeskKey := Key × Provider

/-- What the desks await, and what they draw. -/
inductive StaffOp
  | command (command : Command) (answers : Answers)
  | getOrder (organizationId orderId : String)
  | masterHasActiveOrders (organizationId masterId : String)
  | upsertActor (organizationId actorId : String) (role : Role) (displayName : String)
      (account : Option (Provider × String))
  | createStaffActor (draw : StaffDraw) (organizationId : String) (role : Role) (name : String)
      (phone requestKey : Option String)
  | listActors (organizationId : String) (role : Role)
  | getActor (actor : Key)
  | updateActorPhone (actor : Key) (phone : String)
  | deleteActor (actor : Key)
  | grantRole (actor : Key) (role : Role)
  | revokeRole (actor : Key) (role : Role)
  | bindActorByCode (now : Instant) (organizationId code : String) (provider : Provider)
      (externalUserId consumerKey : String)
  | issueBindCode (draw : StaffDraw) (actor : Key)
  | getSession (key : DeskKey)
  | putSession (key : DeskKey) (state : OperatorState)
  | clearSession (key : DeskKey)

abbrev StaffOp.Answer : StaffOp → Type
  | command _ _ => Except Failure Unit
  | getOrder _ _ => Except Failure WorkOrder
  | masterHasActiveOrders _ _ => Bool
  | upsertActor _ _ _ _ _ => Except IdentityFailure Unit
  | createStaffActor _ _ _ _ _ _ => Except IdentityFailure StaffCard
  | listActors _ _ => List Identities.ListedActor
  | getActor _ => Option Identities.ActorCard
  | updateActorPhone _ _ => Bool
  | deleteActor _ => Bool
  | grantRole _ _ => Except IdentityFailure Bool
  | revokeRole _ _ => Bool
  | bindActorByCode _ _ _ _ _ _ => Except IdentityFailure (Option Resolved)
  | issueBindCode _ _ => Except IdentityFailure (Option String)
  | getSession _ => Option OperatorState
  | putSession _ _ => Unit
  | clearSession _ => Unit

abbrev StaffProgram := Program StaffOp StaffOp.Answer IdentityFailure

/-- What the desks work on. -/
structure Premises where
  records : Records
  identities : Identities
  sessions : Dict DeskKey OperatorState

namespace Premises

def empty : Premises := ⟨.empty, .empty, .empty⟩

/-- The statuses that a view of the staff counts as active. -/
def activeStatuses : List WorkOrderStatus :=
  [.submitted, .poolOpen, .assigned, .accepted, .enRoute, .inProgress]

def masterHasActiveOrders (records : Records) (organizationId masterId : String) : Bool :=
  records.orders.values.any fun order =>
    order.organizationId = organizationId && order.assigneeId = some masterId &&
      order.status ∈ activeStatuses

/-- A transaction on the people: what it answers, and the people after it. -/
def identified {α : Type} (premises : Premises)
    (outcome : Except IdentityFailure (α × Identities)) : Except IdentityFailure α × Premises :=
  match outcome with
  | .ok (answer, identities) => (.ok answer, { premises with identities })
  | .error failure => (.error failure, premises)

def perform (op : StaffOp) (premises : Premises) : op.Answer × Premises :=
  match op with
  | .command command answers =>
      match command.apply answers premises.records with
      | .ok records => (.ok (), { premises with records })
      | .error failure => (.error failure, premises)
  | .getOrder organizationId orderId =>
      (premises.records.getOrder organizationId orderId, premises)
  | .masterHasActiveOrders organizationId masterId =>
      (masterHasActiveOrders premises.records organizationId masterId, premises)
  | .upsertActor organizationId actorId role displayName account =>
      premises.identified ((premises.identities.upsertActor organizationId actorId role displayName
        account).map fun identities => ((), identities))
  | .createStaffActor draw organizationId role name phone requestKey =>
      premises.identified (premises.identities.createStaffActor draw organizationId role name phone
        requestKey)
  | .listActors organizationId role =>
      (premises.identities.listActors organizationId role, premises)
  | .getActor actor => (premises.identities.getActor actor, premises)
  | .updateActorPhone actor phone =>
      let (updated, identities) := premises.identities.updateActorPhone actor phone
      (updated, { premises with identities })
  | .deleteActor actor =>
      let (deleted, identities) := premises.identities.deleteActor actor
      (deleted, { premises with identities })
  | .grantRole actor role => premises.identified (premises.identities.grantRole actor role)
  | .revokeRole actor role =>
      let (revoked, identities) := premises.identities.revokeRole actor role
      (revoked, { premises with identities })
  | .bindActorByCode now organizationId code provider externalUserId consumerKey =>
      premises.identified (premises.identities.bindActorByCode now organizationId code provider
        externalUserId consumerKey)
  | .issueBindCode draw actor => premises.identified (premises.identities.issueBindCode draw actor)
  | .getSession key => (premises.sessions.get? key, premises)
  | .putSession key state => ((), { premises with sessions := premises.sessions.set key state })
  | .clearSession key => ((), { premises with sessions := premises.sessions.erase key })

end Premises

namespace StaffProgram

def masterHasActiveOrders (organizationId masterId : String) : StaffProgram Bool :=
  .call (.masterHasActiveOrders organizationId masterId) .done

def createStaffActor (draw : StaffDraw) (organizationId : String) (role : Role) (name : String)
    (phone requestKey : Option String) : StaffProgram StaffCard :=
  .call (.createStaffActor draw organizationId role name phone requestKey) .attempt

def listActors (organizationId : String) (role : Role) : StaffProgram (List Identities.ListedActor) :=
  .call (.listActors organizationId role) .done

def getActor (actor : Key) : StaffProgram (Option Identities.ActorCard) := .call (.getActor actor) .done

def revokeRole (actor : Key) (role : Role) : StaffProgram Bool :=
  .call (.revokeRole actor role) .done

def save (key : DeskKey) (state : OperatorState) : StaffProgram Unit :=
  .call (.putSession key state) .done

def clearSession (key : DeskKey) : StaffProgram Unit := .call (.clearSession key) .done

end StaffProgram

/-- The one command of a handler, and what it answers. -/
def Handler.program (handler : Handler) (organizationId orderId : String) : StaffProgram String :=
  .call (.command handler.command ⟨"", false⟩) fun
    | .ok () => .done handler.reply
    | .error failure =>
        match failure.isInvalidTransition, handler.already with
        | true, some already =>
            .call (.getOrder organizationId orderId) fun
              | .error missing => .raise (.failure missing)
              | .ok order =>
                  match already order with
                  | none => .raise (.failure failure)
                  | some reply => .done reply
        | _, _ => .raise (.failure failure)

/-- `normalize_phone` -/
def normalizePhone (value : String) : Option String :=
  let stripped := (Text.strip value).toList
  let digits := stripped.filter Text.isDigit
  if stripped.head? = some '+' then
    if 10 ≤ digits.length ∧ digits.length ≤ 15 then some (String.ofList ('+' :: digits)) else none
  else
    let digits := match digits with
      | '8' :: rest => if rest.length = 10 then '7' :: rest else '8' :: rest
      | other => other
    let digits := if digits.length = 10 then '7' :: digits else digits
    if ¬(11 ≤ digits.length ∧ digits.length ≤ 15) then none
    else if digits.length = 11 ∧ digits.head? = some '7' then
      let part (first last : Nat) : String :=
        String.ofList ((digits.take last).drop first)
      some s!"+7 ({part 1 4}) {part 4 7}-{part 7 9}-{part 9 11}"
    else some (String.ofList ('+' :: digits))

/-- `phone_display` -/
def phoneDisplay (phone : Option String) : String :=
  let digits := (phone.getD "").toList.filter Text.isDigit
  let digits := match digits with
    | '8' :: rest => if rest.length = 10 then '7' :: rest else '8' :: rest
    | other => other
  let digits := if digits.length = 10 then '7' :: digits else digits
  if digits = [] then "—" else String.ofList ('+' :: digits)

namespace OperatorCoordinator

def button (text : String) (action : OperatorAction) (payload : List (String × Json)) (row : Nat)
    (worded : text ≠ "") : ReplyButton :=
  ⟨text, action.value, Dict.ofList payload, some .operator, row, none, false, worded,
    .inl action.value_ne, ReplyButton.unlinked⟩

def noted (note : Option String) (lines : List String) : String :=
  Text.join "\n" (match note with
    | some note => if note = "" then lines else note :: "" :: lines
    | none => lines)

variable (identity : MessengerIdentity)

def deskKey : DeskKey := ((identity.organizationId, identity.actorId), identity.provider)

/-- One messenger has a menu of its own for the commands. -/
def menu (note : Option String) : Reply :=
  let text := noted note ["👋 Добро пожаловать в диспетчерскую!", "",
    "Ты зарегистрирован как оператор.", "",
    if identity.provider = .telegram then "Команды доступны в меню слева от поля ввода 👈"
    else "Команды доступны по кнопкам ниже 👇"]
  if identity.provider = .telegram then .words text
  else ⟨text, [button "📋 Активные заявки" .listOrders [] 0 (by decide),
    button "👨‍🔧 Мастера" .listMasters [] 1 (by decide),
    button "📊 Статистика" .stats [] 2 (by decide)]⟩

def start : StaffProgram Reply := do
  .clearSession (deskKey identity)
  return menu identity none

def IdentityProvider.value : IdentityProvider → String
  | .messenger provider => provider.value
  | .web => "web"
  | .api => "api"

def bindingState (actor : Identities.ListedActor) : String :=
  if actor.hasBindCode then "⚫ ожидает привязки"
  else if actor.channels = [] then "⚫ не привязан"
  else "✅ " ++ Text.join ", " (actor.channels.map IdentityProvider.value)

theorem prefixed_ne (lead text : String) (worded : lead ≠ "") : lead ++ text ≠ "" := by
  intro h
  exact worded (String.append_eq_empty_iff.mp h).1

def mastersReply (actors : List Identities.ListedActor) (note : Option String) : Reply :=
  ⟨noted note ("👨‍🔧 Мастера:" ::
      (if actors = [] then ["Мастеров пока нет."]
      else actors.map fun actor => s!"• {actor.displayName} — {bindingState actor}")),
    (actors.mapIdx fun index actor => button ("ℹ️ " ++ actor.displayName) .masterInfo
      [("actor_id", .str actor.id)] index (prefixed_ne _ _ (by decide))) ++
      [button "➕ Добавить мастера" .addMaster [] actors.length (by decide),
        button "⬅ Главное меню" .menu [] (actors.length + 1) (by decide)]⟩

def listMasters (note : Option String) : StaffProgram Reply := do
  let actors ← StaffProgram.listActors identity.organizationId .master
  return mastersReply actors note

def addMaster (tokenUrlsafe : String) : StaffProgram Reply := do
  .save (deskKey identity) ⟨.name, "", tokenUrlsafe, none⟩
  return ⟨"➕ Добавление мастера\n\nВведите имя мастера:",
    [button "Отмена" .cancel [] 0 cancel_worded]⟩

/-- The card of a master, whoever of the staff that is. -/
def withMaster (actorId : String) (card : Identities.ActorCard → Reply) : StaffProgram Reply := do
  match ← StaffProgram.getActor (identity.organizationId, actorId) with
  | some actor =>
      if .master ∈ actor.roles then return card actor
      else listMasters identity (some "Мастер не найден.")
  | none => listMasters identity (some "Мастер не найден.")

def masterInfo (actorId : String) : StaffProgram Reply :=
  withMaster identity actorId fun actor =>
    ⟨Text.join "\n" ["🧑‍🔧 Карточка мастера", "", s!"Имя: {actor.displayName}", "📞 Телефон:",
        phoneDisplay actor.phone, s!"ID: {actor.id}"],
      [button "📞 Позвонить мастеру" .callMaster [("actor_id", .str actorId)] 0 (by decide),
        button "🗑 Убрать роль мастера" .deleteMaster [("actor_id", .str actorId)] 1 (by decide),
        button "⬅ К мастерам" .listMasters [] 2 (by decide)]⟩

def callMaster (actorId orderId : String) : StaffProgram Reply :=
  withMaster identity actorId fun actor =>
    let heading := if orderId = "" then s!"📞 Мастер {actor.displayName}"
      else s!"📞 Мастер по заявке {orderId}"
    ⟨s!"{heading}\n\n{phoneDisplay actor.phone}",
      [button "⬅ К мастеру" .masterInfo [("actor_id", .str actorId)] 0 (by decide)]⟩

def deleteMaster (actorId : String) : StaffProgram Reply :=
  withMaster identity actorId fun actor =>
    ⟨s!"Убрать роль мастера у «{actor.displayName}»?",
      [button "Да, убрать роль" .deleteMasterConfirm [("actor_id", .str actorId)] 0 revoke_worded,
        button "Отмена" .listMasters [] 1 cancel_worded]⟩

/-- The role is taken in a transaction of its own, after the one that looked. -/
def deleteMasterConfirm (actorId : String) : StaffProgram Reply := do
  if ← StaffProgram.masterHasActiveOrders identity.organizationId actorId then
    listMasters identity (some ("Роль не снята: у мастера есть активная заявка. " ++
      "Сначала завершите или переназначьте её."))
  else
    let removed ← StaffProgram.revokeRole (identity.organizationId, actorId) .master
    listMasters identity
      (some (if removed then "Роль мастера снята." else "Мастер уже недоступен."))

def masterName (session : OperatorState) (value : String) : StaffProgram Reply := do
  let name := Text.take (Text.join " " (Text.words value)) 200
  if name = "" then
    return .words "Имя не может быть пустым. Введите имя мастера:"
  .save (deskKey identity) { session with step := .phone, name, lastEvent := none }
  return .words (s!"Имя: {name}\n\nВведите телефон мастера полностью, " ++
    "например 89991112233 или +358401234567:")

/-- `str(None)` -/
def noneText : String := "None"

def createdReply (created : StaffCard) : Reply :=
  ⟨Text.join "\n" ["✅ Мастер создан!", "", s!"Имя: {created.name}",
      s!"Телефон: {created.phone.getD noneText}",
      s!"Одноразовый код привязки: {created.bindCode.getD noneText}", "",
      "Передайте код мастеру. Он нажимает /start в мастерском " ++
        "Telegram-боте или общем staff-боте MAX и вводит код."],
    [button "👨‍🔧 К мастерам" .listMasters [] 0 (by decide),
      button "⬅ Главное меню" .menu [] 1 (by decide)]⟩

end OperatorCoordinator

end DispatchCore.Messaging
