import DispatchCore.Domain.OrderNumbers
import DispatchCore.Domain.Tracking
import DispatchCore.Domain.WorkOrder
import DispatchCore.Library.Coroutine
import DispatchCore.Library.Occupancy

/-! The in-memory store and its unit of work.  A unit of work stages copies and
checks versions and executor capacity only when it commits; every repository
call is an await, so other commands may run before it. -/
namespace DispatchCore.Infrastructure

open DispatchCore.Library DispatchCore.Domain

/-- An organization and an identifier within it. -/
abbrev Key := String × String

/-- What commands read and commit. -/
structure Records where
  orders : Dict Key WorkOrder
  trackingSessions : Dict Key TrackingSession
  outboxEvents : List DomainEvent

structure AsyncMemoryStore extends Records where
  orderNumberCounters : Dict String Nat

def Records.empty : Records := ⟨.empty, .empty, []⟩

def AsyncMemoryStore.empty : AsyncMemoryStore := ⟨.empty, .empty⟩

/-- The staged copies, each with the version its reader saw. -/
structure UnitOfWork where
  stagedOrders : Dict Key (WorkOrder × Option Nat)
  stagedTracking : Dict Key (TrackingSession × Option Nat)
  stagedEvents : List DomainEvent

namespace UnitOfWork

def empty : UnitOfWork := ⟨.empty, .empty, []⟩

def showKey (key : Key) : String := s!"({Text.repr key.1}, {Text.repr key.2})"

def checkVersion {α : Type} (version : α → Nat) (stored : Dict Key α) (key : Key)
    (expectedVersion : Option Nat) : Except Failure Unit :=
  match expectedVersion, stored.get? key with
  | none, none => .ok ()
  | none, some _ =>
      .error (.concurrencyConflict s!"aggregate {showKey key} already exists")
  | some expected, none => .error (.concurrencyConflict
      s!"aggregate {showKey key} expected version {expected}, found None")
  | some expected, some current =>
      if version current = expected then .ok ()
      else .error (.concurrencyConflict
        s!"aggregate {showKey key} expected version {expected}, found {version current}")

def checkCollectionVersions {α : Type} (version : α → Nat) (stored : Dict Key α) :
    List (Key × α × Option Nat) → Except Failure Unit
  | [] => .ok ()
  | (key, _, expectedVersion) :: rest => do
      checkVersion version stored key expectedVersion
      checkCollectionVersions version stored rest

def checkVersions (work : UnitOfWork) (records : Records) : Except Failure Unit := do
  checkCollectionVersions WorkOrder.version records.orders work.stagedOrders.entries
  checkCollectionVersions TrackingSession.version records.trackingSessions
    work.stagedTracking.entries

def activeStatuses : List WorkOrderStatus := [.assigned, .accepted, .enRoute, .inProgress]

/-- The executor an order occupies, within its organization. -/
def occupies (order : WorkOrder) : Option Key :=
  match order.assigneeId with
  | none => none
  | some assigneeId =>
      if order.status ∈ activeStatuses then some (order.organizationId, assigneeId) else none

def checkOccupied (occupied : List Key) : List WorkOrder → Except Failure Unit
  | [] => .ok ()
  | order :: rest =>
      match occupies order with
      | none => checkOccupied occupied rest
      | some key =>
          if key ∈ occupied then
            .error (.concurrencyConflict "executor already has another active work order")
          else checkOccupied (key :: occupied) rest

theorem checkOccupied_eq (occupied : List Key) (orders : List WorkOrder) :
    checkOccupied occupied orders = holdAll occupies
      (.concurrencyConflict "executor already has another active work order") occupied orders := by
  induction orders generalizing occupied with
  | nil => rfl
  | cons order rest ih =>
      unfold checkOccupied holdAll
      cases occupies order with
      | none => exact ih occupied
      | some key => by_cases hmem : key ∈ occupied <;> simp [hmem, ih]

def orderWrites (work : UnitOfWork) : List (Key × WorkOrder) :=
  work.stagedOrders.entries.map fun entry => (entry.1, entry.2.1)

def trackingWrites (work : UnitOfWork) : List (Key × TrackingSession) :=
  work.stagedTracking.entries.map fun entry => (entry.1, entry.2.1)

def checkExecutorCapacity (work : UnitOfWork) (records : Records) : Except Failure Unit :=
  checkOccupied [] (records.orders.update work.orderWrites).values

def commit (work : UnitOfWork) (records : Records) : Except Failure Records := do
  work.checkVersions records
  work.checkExecutorCapacity records
  return {
    orders := records.orders.update work.orderWrites
    trackingSessions := records.trackingSessions.update work.trackingWrites
    outboxEvents := records.outboxEvents ++ work.stagedEvents }

/-- `orders.save`: the copy is staged without its recorded events. -/
def stageOrder (order : WorkOrder) (expectedVersion : Option Nat) (work : UnitOfWork) :
    UnitOfWork :=
  { work with
    stagedOrders := work.stagedOrders.set (order.organizationId, order.id)
      (order.pullEvents.2, expectedVersion) }

def stageTracking (session : TrackingSession) (expectedVersion : Option Nat)
    (work : UnitOfWork) : UnitOfWork :=
  { work with
    stagedTracking := work.stagedTracking.set (session.organizationId, session.id)
      (session.pullEvents.2, expectedVersion) }

def stageEvents (events : List DomainEvent) (work : UnitOfWork) : UnitOfWork :=
  { work with stagedEvents := work.stagedEvents ++ events }

end UnitOfWork

namespace Records

def getOrder (records : Records) (organizationId orderId : String) : Except Failure WorkOrder :=
  match records.orders.get? (organizationId, orderId) with
  | none => .error (.notFound s!"work order {Text.repr orderId} was not found")
  | some order => .ok order

def getTracking (records : Records) (organizationId sessionId : String) :
    Except Failure TrackingSession :=
  match records.trackingSessions.get? (organizationId, sessionId) with
  | none => .error (.notFound s!"tracking session {Text.repr sessionId} was not found")
  | some session => .ok session

/-- The entry is an active session of the order. -/
def ActiveFor (organizationId orderId : String) (entry : Key × TrackingSession) : Prop :=
  entry.1.1 = organizationId ∧ entry.2.workOrderId = orderId ∧ entry.2.status = .active

instance (organizationId orderId : String) (entry : Key × TrackingSession) :
    Decidable (ActiveFor organizationId orderId entry) :=
  inferInstanceAs (Decidable (_ ∧ _ ∧ _))

def activeEntries (records : Records) (organizationId orderId : String) :
    List (Key × TrackingSession) :=
  records.trackingSessions.entries.filter fun entry => ActiveFor organizationId orderId entry

def findActiveForOrder (records : Records) (organizationId orderId : String) :
    Except Failure (Option TrackingSession) :=
  match records.activeEntries organizationId orderId with
  | [] => .ok none
  | [entry] => .ok (some entry.2)
  | _ => .error (.runtimeError "more than one active tracking session for work order")

def hasSourceEvent (records : Records) (organizationId : String) (source : LocationSource)
    (sourceEventId : String) : Bool :=
  records.trackingSessions.values.any fun session =>
    session.organizationId = organizationId &&
      session.points.any fun point =>
        point.source = source && point.sourceEventId = some sourceEventId

end Records

abbrev StoreTask := Coroutine AsyncMemoryStore Failure

/-! The repository calls that await on the store. -/

def allocatePublicNumber (organizationId : String) : StoreTask String := do
  let sequence ← Coroutine.segment fun (store : AsyncMemoryStore) =>
    let sequence := (store.orderNumberCounters.get? organizationId).getD 0 + 1
    .ok (sequence, { store with
      orderNumberCounters := store.orderNumberCounters.set organizationId sequence })
  formatOrderNumber sequence

def getOrder (organizationId orderId : String) : StoreTask WorkOrder :=
  .read fun store => store.getOrder organizationId orderId

def getTracking (organizationId sessionId : String) : StoreTask TrackingSession :=
  .read fun store => store.getTracking organizationId sessionId

def findActiveForOrder (organizationId orderId : String) : StoreTask (Option TrackingSession) :=
  .read fun store => store.findActiveForOrder organizationId orderId

def hasSourceEvent (organizationId : String) (source : LocationSource)
    (sourceEventId : String) : StoreTask Bool :=
  .read fun store => .ok (store.hasSourceEvent organizationId source sourceEventId)

def commitSegment (work : UnitOfWork) : StoreTask Unit :=
  .segment fun store =>
    (work.commit store.toRecords).map fun records => ((), { store with toRecords := records })

/-- The body of an `async with` over a unit of work. -/
abbrev Work := StateT UnitOfWork StoreTask

namespace Work

/-- Everything staged and not committed is dropped on leaving. -/
def transaction {α : Type} (body : Work α) : StoreTask α := do
  let result ← body.run .empty
  return result.1

/-- Call a method of a local object, and go on with the object. -/
def call {σ : Type} (method : Method Failure σ Unit) (object : σ) : Work σ :=
  match method.run object with
  | .ok _ after => pure after
  | .error failure _ => throw failure

def saveOrder (order : WorkOrder) (expectedVersion : Option Nat) : Work Unit := do
  (Coroutine.pause : StoreTask Unit)
  modify (UnitOfWork.stageOrder order expectedVersion)

def saveTracking (session : TrackingSession) (expectedVersion : Option Nat) : Work Unit := do
  (Coroutine.pause : StoreTask Unit)
  modify (UnitOfWork.stageTracking session expectedVersion)

def addEvents (events : List DomainEvent) : Work Unit := do
  (Coroutine.pause : StoreTask Unit)
  modify (UnitOfWork.stageEvents events)

def commit : Work Unit := do
  commitSegment (← get)
  set UnitOfWork.empty

end Work
end DispatchCore.Infrastructure
