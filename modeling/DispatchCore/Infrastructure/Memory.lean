import DispatchCore.Infrastructure.AsyncMemory
import DispatchCore.Library.Method

/-! The store of the synchronous service and its unit of work.  Orders are kept
under their identifier alone, and the commit tells executors apart by one
string; the store of the asynchronous service has pairs in both places. -/
namespace DispatchCore.Infrastructure

open DispatchCore.Library DispatchCore.Domain

structure MemoryStore where
  orders : Dict String WorkOrder
  trackingSessions : Dict Key TrackingSession
  outboxEvents : List DomainEvent
  orderNumberCounters : Dict String Nat

def MemoryStore.empty : MemoryStore := ⟨.empty, .empty, [], .empty⟩

/-- The staged copies, each under the identifiers it carries itself. -/
structure InMemoryUnitOfWork where
  stagedOrders : Dict String (WorkOrder × Option Nat)
  stagedTracking : Dict Key (TrackingSession × Option Nat)
  stagedEvents : List DomainEvent
  keyed : ∀ entry ∈ stagedOrders.entries, entry.2.1.id = entry.1

/-- What the commits raise when the executor of an order is busy with another. -/
def executorOccupied : Failure :=
  .concurrencyConflict "executor already has another active work order"

namespace InMemoryUnitOfWork

def empty : InMemoryUnitOfWork := ⟨.empty, .empty, [], fun _ h => by cases h⟩

def checkVersion {κ α : Type} [DecidableEq κ] (shown : κ → String) (version : α → Nat)
    (stored : Dict κ α) (aggregateId : κ) (expectedVersion : Option Nat) :
    Except Failure Unit :=
  match expectedVersion, stored.get? aggregateId with
  | none, none => .ok ()
  | none, some _ =>
      .error (.concurrencyConflict s!"aggregate {shown aggregateId} already exists")
  | some expected, none => .error (.concurrencyConflict
      s!"aggregate {shown aggregateId} expected version {expected}, found None")
  | some expected, some current =>
      if version current = expected then .ok ()
      else .error (.concurrencyConflict
        s!"aggregate {shown aggregateId} expected version {expected}, found {version current}")

def checkCollectionVersions {κ α : Type} [DecidableEq κ] (shown : κ → String)
    (version : α → Nat) (stored : Dict κ α) :
    List (κ × α × Option Nat) → Except Failure Unit
  | [] => .ok ()
  | (aggregateId, _, expectedVersion) :: rest => do
      checkVersion shown version stored aggregateId expectedVersion
      checkCollectionVersions shown version stored rest

def checkVersions (work : InMemoryUnitOfWork) (store : MemoryStore) : Except Failure Unit := do
  checkCollectionVersions Text.repr WorkOrder.version store.orders work.stagedOrders.entries
  checkCollectionVersions UnitOfWork.showKey TrackingSession.version store.trackingSessions
    work.stagedTracking.entries

/-- The one string an executor of an organization is known by. -/
def joined (executor : Key) : String := s!"{executor.1}:{executor.2}"

/-- The stored orders under the staged ones. -/
def merged (work : InMemoryUnitOfWork) (store : MemoryStore) : Dict String WorkOrder :=
  store.orders.update (work.stagedOrders.values.map fun staged => (staged.1.id, staged.1))

def checkExecutorCapacity (work : InMemoryUnitOfWork) (store : MemoryStore) :
    Except Failure Unit :=
  holdAll (fun order => (UnitOfWork.occupies order).map joined) executorOccupied []
    (work.merged store).values

def orderWrites (work : InMemoryUnitOfWork) : List (String × WorkOrder) :=
  work.stagedOrders.entries.map fun entry => (entry.1, entry.2.1)

def trackingWrites (work : InMemoryUnitOfWork) : List (Key × TrackingSession) :=
  work.stagedTracking.entries.map fun entry => (entry.1, entry.2.1)

/-- `orders.save`: the copy is staged without its recorded events. -/
def stageOrder (order : WorkOrder) (expectedVersion : Option Nat) (work : InMemoryUnitOfWork) :
    InMemoryUnitOfWork :=
  { work with
    stagedOrders := work.stagedOrders.set order.id (order.pullEvents.2, expectedVersion)
    keyed := by
      intro entry hmem
      rcases Dict.mem_entries_set hmem with rfl | hkept
      · rfl
      · exact work.keyed entry hkept }

def stageTracking (session : TrackingSession) (expectedVersion : Option Nat)
    (work : InMemoryUnitOfWork) : InMemoryUnitOfWork :=
  { work with
    stagedTracking := work.stagedTracking.set (session.organizationId, session.id)
      (session.pullEvents.2, expectedVersion) }

def stageEvents (events : List DomainEvent) (work : InMemoryUnitOfWork) : InMemoryUnitOfWork :=
  { work with stagedEvents := work.stagedEvents ++ events }

end InMemoryUnitOfWork

namespace MemoryStore

def getOrder (store : MemoryStore) (organizationId orderId : String) :
    Except Failure WorkOrder :=
  match store.orders.get? orderId with
  | none => .error (.notFound s!"work order {Text.repr orderId} was not found")
  | some stored =>
      if stored.organizationId ≠ organizationId then
        .error (.notFound s!"work order {Text.repr orderId} was not found")
      else .ok stored

def getTracking (store : MemoryStore) (organizationId sessionId : String) :
    Except Failure TrackingSession :=
  match store.trackingSessions.get? (organizationId, sessionId) with
  | none => .error (.notFound s!"tracking session {Text.repr sessionId} was not found")
  | some stored => .ok stored

def findActiveForOrder (store : MemoryStore) (organizationId orderId : String) :
    Except Failure (Option TrackingSession) :=
  match store.trackingSessions.entries.filter fun entry =>
    Records.ActiveFor organizationId orderId entry with
  | [] => .ok none
  | [entry] => .ok (some entry.2)
  | _ => .error (.runtimeError "more than one active tracking session for work order")

end MemoryStore

/-- The body of a `with` over a unit of work of the store. -/
abbrev MemoryWork := StateT InMemoryUnitOfWork (Method Failure MemoryStore)

namespace MemoryWork

/-- Everything staged and not committed is dropped on leaving. -/
def transaction {α : Type} (body : MemoryWork α) : Method Failure MemoryStore α := do
  let result ← body.run .empty
  return result.1

/-- Go on with a result, or raise its failure. -/
def attempt {α : Type} (result : Except Failure α) : MemoryWork α :=
  (Method.attempt result : Method Failure MemoryStore α)

/-- Call a method of a local object, and go on with the object. -/
def call {σ : Type} (method : Method Failure σ Unit) (object : σ) : MemoryWork σ :=
  match method.run object with
  | .ok _ after => pure after
  | .error failure _ => throw failure

def read {α : Type} (look : MemoryStore → Except Failure α) : MemoryWork α := do
  let store ← (get : Method Failure MemoryStore MemoryStore)
  attempt (look store)

def allocatePublicNumber (organizationId : String) : MemoryWork String := do
  let store ← (get : Method Failure MemoryStore MemoryStore)
  let sequence := (store.orderNumberCounters.get? organizationId).getD 0 + 1
  (modify fun store =>
      { store with
        orderNumberCounters := store.orderNumberCounters.set organizationId sequence } :
    Method Failure MemoryStore Unit)
  attempt (formatOrderNumber sequence)

def getOrder (organizationId orderId : String) : MemoryWork WorkOrder :=
  read fun store => store.getOrder organizationId orderId

def getTracking (organizationId sessionId : String) : MemoryWork TrackingSession :=
  read fun store => store.getTracking organizationId sessionId

def findActiveForOrder (organizationId orderId : String) :
    MemoryWork (Option TrackingSession) :=
  read fun store => store.findActiveForOrder organizationId orderId

def saveOrder (order : WorkOrder) (expectedVersion : Option Nat) : MemoryWork Unit :=
  modify (InMemoryUnitOfWork.stageOrder order expectedVersion)

def saveTracking (session : TrackingSession) (expectedVersion : Option Nat) : MemoryWork Unit :=
  modify (InMemoryUnitOfWork.stageTracking session expectedVersion)

def addEvents (events : List DomainEvent) : MemoryWork Unit :=
  modify (InMemoryUnitOfWork.stageEvents events)

/-- The checks come first; then every staged copy is written, and the events go out. -/
def commit : MemoryWork Unit := do
  let work ← get
  let store ← (get : Method Failure MemoryStore MemoryStore)
  (Method.attempt (work.checkVersions store) : Method Failure MemoryStore Unit)
  (Method.attempt (work.checkExecutorCapacity store) : Method Failure MemoryStore Unit)
  (modify fun store => { store with orders := store.orders.update work.orderWrites } :
    Method Failure MemoryStore Unit)
  (modify fun store =>
      { store with trackingSessions := store.trackingSessions.update work.trackingWrites } :
    Method Failure MemoryStore Unit)
  (modify fun store => { store with outboxEvents := store.outboxEvents ++ work.stagedEvents } :
    Method Failure MemoryStore Unit)
  set InMemoryUnitOfWork.empty

end MemoryWork
end DispatchCore.Infrastructure
