import DispatchCore.Application.Histories
import DispatchCore.Infrastructure.Callbacks
import DispatchCore.Infrastructure.Queues

/-! A press of a button, as the inbound processor handles it: the token is claimed
for the event, the action asks the service for one command, and a command that the
order refuses counts as done where the order shows that it was done before. -/
namespace DispatchCore.Messaging

open DispatchCore.Library DispatchCore.Domain DispatchCore.Infrastructure
  DispatchCore.Application

structure ActorIdentity where
  organizationId : String
  actorId : String
  role : Role

/-- A callback event of a provider. -/
structure Press where
  provider : Provider
  externalEventId : String
  callbackToken : Option String

/-- `_callback_claim_key` -/
def Press.claimKey (press : Press) : String :=
  press.provider.value ++ ":" ++ press.externalEventId

/-- What a press reads and writes.  A draft is keyed by organization, order and
executor. -/
structure Backend where
  callbacks : CallbackRows
  records : Records
  drafts : Dict (String × String × String) CompletionReport

def Backend.empty : Backend := ⟨.empty, .empty, .empty⟩

/-- What one press reads from outside: the clocks, ids and tokens drawn, the pool
mode of the active pack, if there is one, and the name-based ids. -/
structure Surroundings where
  resolvedAt : Instant
  completedAt : Instant
  ambient : Ambient
  sessionAmbient : SessionAmbient
  freshId : String
  activePoolMode : Option PoolMode
  uuid5 : String → String

/-- The callback actions that change an order; the menus of the coordinators have
names of their own. -/
inductive LifecycleAction
  | poolPublish
  | poolInterest
  | poolClaim
  | assign
  | accept
  | reject
  | startTravel
  | startWork
  | submitReport
deriving DecidableEq, Repr

def LifecycleAction.ofName? : String → Option LifecycleAction
  | "pool_publish" => some poolPublish
  | "pool_interest" => some poolInterest
  | "pool_claim" => some poolClaim
  | "assign" => some assign
  | "accept" => some accept
  | "reject" => some reject
  | "start_travel" => some startTravel
  | "start_work" => some startWork
  | "submit_report" => some submitReport
  | _ => none

/-- The roles `_require_role` lets through. -/
def LifecycleAction.roles : LifecycleAction → List Role
  | poolPublish => [.operator, .admin]
  | assign => [.operator, .admin]
  | _ => [.master]

/-- What an action asks the service for and how it answers. -/
structure Handler where
  command : Command
  reply : String
  /-- The answer to an `InvalidTransition`, by the order as it is then. -/
  already : Option (WorkOrder → Option String)
  clearsDraft : Bool

def requireRole (identity : ActorIdentity) (roles : List Role) : Except Failure Unit :=
  if identity.role ∈ roles then .ok ()
  else .error (.invalidTransition "действие недоступно для вашей роли")

def requireOrder (orderId : String) : Except Failure Unit :=
  if orderId = "" then .error (.invalidTransition "callback does not reference a work order")
  else .ok ()

/-- `active_for_executor`: the order an executor is on. -/
def activeForExecutor (records : Records) (organizationId executorId : String) :
    Option WorkOrder :=
  records.orders.values.find? fun order =>
    order.organizationId = organizationId ∧ order.assigneeId = some executorId ∧
      order.status ∈ UnitOfWork.activeStatuses

def reportDraft (backend : Backend) (organizationId orderId executorId : String) :
    CompletionReport :=
  (backend.drafts.get? (organizationId, orderId, executorId)).getD ⟨[], none, none, none⟩

section handler

variable (surroundings : Surroundings) (identity : ActorIdentity) (orderId : String)

def changing (call : Call) (plain : Plain call) : Command :=
  .change surroundings.ambient identity.organizationId orderId call plain

def publishPool : Handler :=
  { command := changing surroundings identity orderId
      (.publishPool (surroundings.activePoolMode.getD .curated) (some identity.actorId)) trivial
    reply := "Заявка опубликована в пул."
    already := some fun order =>
      if order.status = .submitted then none else some "Заявка опубликована в пул."
    clearsDraft := false }

def poolInterest : Handler :=
  { command := changing surroundings identity orderId (.expressInterest identity.actorId) trivial
    reply := "Отклик отправлен оператору."
    already := some fun order =>
      if order.responseStatus identity.actorId = some .interested ∨
          order.responseStatus identity.actorId = some .selected then
        some "Отклик отправлен оператору."
      else none
    clearsDraft := false }

def poolClaim : Handler :=
  { command := changing surroundings identity orderId (.claimFirst identity.actorId) trivial
    reply := "Заявка закреплена за вами."
    already := some fun order =>
      if order.assigneeId = some identity.actorId then some "Заявка закреплена за вами."
      else none
    clearsDraft := false }

def assign (executorId : String) : Handler :=
  { command := changing surroundings identity orderId
      (.assign executorId (some identity.actorId)) trivial
    reply := s!"Мастер {executorId} выбран."
    already := some fun order =>
      if order.assigneeId = some executorId then some s!"Мастер {executorId} выбран." else none
    clearsDraft := false }

def accept : Handler :=
  { command := changing surroundings identity orderId (.accept identity.actorId) trivial
    reply := "Заявка принята."
    already := some fun order =>
      if order.assigneeId = some identity.actorId ∧
          order.status ∈ [WorkOrderStatus.accepted, .enRoute, .inProgress, .completed] then
        if order.status = .completed then some "Заявка уже завершена." else some "Заявка принята."
      else none
    clearsDraft := false }

def reject : Handler :=
  { command := changing surroundings identity orderId (.rejectAssignment identity.actorId)
      trivial
    reply := "Заявка возвращена оператору."
    already := some fun order =>
      if order.assigneeId = none then some "Заявка возвращена оператору." else none
    clearsDraft := false }

def startTravel : Handler :=
  { command := .startTravel surroundings.ambient surroundings.sessionAmbient
      identity.organizationId orderId surroundings.freshId identity.actorId
      (some (surroundings.uuid5
        ("dispatch:tracking:" ++ identity.organizationId ++ ":" ++ orderId)))
    reply := "Выезд начат. Отправляйте геопозицию в пути."
    already := none
    clearsDraft := false }

def startWork : Handler :=
  { command := changing surroundings identity orderId (.startWork identity.actorId) trivial
    reply := "Работа начата. Пришлите фото и комментарий отчёта."
    already := some fun order =>
      if order.assigneeId = some identity.actorId ∧
          order.status ∈ [WorkOrderStatus.inProgress, .completed] then
        if order.status = .completed then some "Заявка уже завершена."
        else some "Работа начата. Пришлите фото и комментарий отчёта."
      else none
    clearsDraft := false }

def submitReport (report : CompletionReport) : Handler :=
  { command := .completeOrder surroundings.ambient surroundings.sessionAmbient.toAmbient
      identity.organizationId orderId identity.actorId report
    reply := "Отчёт принят, заявка завершена."
    already := some fun order =>
      if order.status = .completed then some "Отчёт принят, заявка завершена." else none
    clearsDraft := true }

end handler

section execute

variable (surroundings : Surroundings) (identity : ActorIdentity)

def handler (payload : Dict String Json) (backend : Backend) (action : LifecycleAction) :
    Handler :=
  let orderId := payload.textAt "order_id"
  match action with
  | .poolPublish => publishPool surroundings identity orderId
  | .poolInterest => poolInterest surroundings identity orderId
  | .poolClaim => poolClaim surroundings identity orderId
  | .assign => assign surroundings identity orderId (payload.textAt "executor_id")
  | .accept => accept surroundings identity orderId
  | .reject => reject surroundings identity orderId
  | .startTravel => startTravel surroundings identity orderId
  | .startWork => startWork surroundings identity orderId
  | .submitReport => submitReport surroundings identity orderId
      (reportDraft backend identity.organizationId orderId identity.actorId)

/-- The executor is on the way or at work, on whichever order. -/
def underway (backend : Backend) : Bool :=
  (activeForExecutor backend.records identity.organizationId identity.actorId).any fun order =>
    order.status ∈ [WorkOrderStatus.enRoute, .inProgress]

/-- The handler of a callback after its checks, or the answer where nothing is to be
done. -/
def prepared (callback : CallbackAction) (backend : Backend) :
    Except Failure (String ⊕ Handler) := do
  let orderId := callback.payload.textAt "order_id"
  match LifecycleAction.ofName? callback.action with
  | none =>
      requireOrder orderId
      throw (.invalidTransition s!"unknown callback action {Text.repr callback.action}")
  | some .poolPublish =>
      requireRole identity LifecycleAction.poolPublish.roles
      requireOrder orderId
      return .inr (handler surroundings identity callback.payload backend .poolPublish)
  | some action =>
      requireOrder orderId
      requireRole identity action.roles
      if action = .startTravel ∧ underway identity backend then
        return .inl "Выезд уже начат."
      else return .inr (handler surroundings identity callback.payload backend action)

def Backend.cleared (backend : Backend) (callback : CallbackAction) (clears : Bool) : Backend :=
  if clears then
    { backend with
      drafts := backend.drafts.erase
        (identity.organizationId, callback.payload.textAt "order_id", identity.actorId) }
  else backend

/-- `_execute_callback` for the actions on orders. -/
def executeCallback (callback : CallbackAction) (backend : Backend) :
    Except Failure String × Backend :=
  match prepared surroundings identity callback backend with
  | .error failure => (.error failure, backend)
  | .ok (.inl reply) => (.ok reply, backend)
  | .ok (.inr handler) =>
      match handler.command.apply ⟨"", false⟩ backend.records with
      | .ok records =>
          (.ok handler.reply,
            Backend.cleared identity { backend with records } callback handler.clearsDraft)
      | .error failure =>
          match failure.isInvalidTransition, handler.already with
          | true, some already =>
              match backend.records.getOrder identity.organizationId
                  (callback.payload.textAt "order_id") with
              | .error missing => (.error missing, backend)
              | .ok order =>
                  match already order with
                  | none => (.error failure, backend)
                  | some reply =>
                      (.ok reply, Backend.cleared identity backend callback handler.clearsDraft)
          | _, _ => (.error failure, backend)

/-- `_complete_callback_claim` -/
def completeCallbackClaim (press : Press) (callback : CallbackAction) (backend : Backend) :
    Except Failure Unit × Backend :=
  let (completed, callbacks) := PostgresCallbackStore.complete callback.token
    callback.organizationId press.claimKey surroundings.completedAt backend.callbacks
  if completed then (.ok (), { backend with callbacks })
  else (.error (.runtimeError "callback claim ownership was lost"), { backend with callbacks })

def resolveCallback (press : Press) (token : String) (backend : Backend) :
    Option CallbackAction × CallbackRows :=
  PostgresCallbackStore.resolve token identity.organizationId identity.role
    (some press.claimKey) "" surroundings.resolvedAt backend.callbacks

/-- `_callback`: a domain error closes the claim as a reply does, any other failure
leaves it open for the next delivery. -/
def callback (press : Press) (backend : Backend) : Except Failure String × Backend :=
  match press.callbackToken with
  | none => (.error (.invalidTransition "callback token is missing"), backend)
  | some token =>
      match resolveCallback surroundings identity press token backend with
      | (none, callbacks) =>
          (.error (.invalidTransition "кнопка устарела или недоступна для этой роли"),
            { backend with callbacks })
      | (some callback, callbacks) =>
          match executeCallback surroundings identity callback { backend with callbacks } with
          | (.ok reply, after) =>
              let (completed, after) := completeCallbackClaim surroundings press callback after
              (completed.map fun _ => reply, after)
          | (.error failure, after) =>
              if failure.isDomainError then
                let (completed, after) := completeCallbackClaim surroundings press callback after
                (completed.bind fun _ => .error failure, after)
              else (.error failure, after)

/-- What a processing leaves that dies between the commit of its command and the
completion of its claim, before it clears a draft, with the callback it was for. -/
def crashedAfterCommit (press : Press) (backend : Backend) : Option (CallbackAction × Backend) :=
  match press.callbackToken with
  | none => none
  | some token =>
      match resolveCallback surroundings identity press token backend with
      | (none, _) => none
      | (some callback, callbacks) =>
          match prepared surroundings identity callback { backend with callbacks } with
          | .ok (.inr handler) =>
              match handler.command.apply ⟨"", false⟩ backend.records with
              | .ok records => some (callback, { backend with callbacks, records })
              | .error _ => none
          | _ => none

end execute

/-- What may happen to the backend besides. -/
inductive Occurrence
  | command (command : Command) (answers : Answers)
  | mint (action : CallbackAction)
  | resolve (token organizationId : String) (role : Role) (claimKey : Option String)
      (fresh : String) (now : Instant)
  | complete (token organizationId claimKey : String) (now : Instant)
  | draft (drafts : Dict (String × String × String) CompletionReport)

namespace Backend

def step (backend : Backend) : Occurrence → Backend
  | .command command answers =>
      { backend with records := Command.settled (command, answers) backend.records }
  | .mint action =>
      { backend with callbacks := PostgresCallbackStore.create action backend.callbacks }
  | .resolve token organizationId role claimKey fresh now =>
      { backend with
        callbacks := (PostgresCallbackStore.resolve token organizationId role claimKey fresh now
          backend.callbacks).2 }
  | .complete token organizationId claimKey now =>
      { backend with
        callbacks := (PostgresCallbackStore.complete token organizationId claimKey now
          backend.callbacks).2 }
  | .draft drafts => { backend with drafts }

def run (backend : Backend) (occurrences : List Occurrence) : Backend :=
  occurrences.foldl step backend

end Backend
end DispatchCore.Messaging
