import DispatchCore.Domain.OrderNumbers
import DispatchCore.Infrastructure.PostgresOrders
import DispatchCore.Infrastructure.PostgresTracking
import DispatchCore.Library.Transactions

/-! The unit of work of the database: its tables, the statements of its repositories with the rows
and index entries they lock, and the repositories as programs of statements.  The locks of foreign
keys are left out: they only let fewer statements run. -/
namespace DispatchCore.Infrastructure

open DispatchCore.Library DispatchCore.Domain

/-- A row of `work_orders` holds of an order what is not in the rows of its responses. -/
def orderRow (order : WorkOrder) : WorkOrder := { order with poolResponses := .empty, events := [] }

/-- The responses of an order stand under its key. -/
structure StoreTables where
  orders : Dict Key WorkOrder
  responses : Dict Key (List PoolResponse)
  tracking : TrackingTables
  counters : Dict String Nat
  outbox : List DomainEvent

def StoreTables.empty : StoreTables := ⟨.empty, .empty, .empty, .empty, []⟩

/-- What is raised in a transaction: what the repositories raise, a key of the outbox, or a
counter at its end. -/
inductive TransactionError
  | raised (failure : Failure)
  | uniqueViolation
  | numericValueOutOfRange

inductive StoreLock
  | counter (organizationId : String)
  | order (key : Key)
  | publicNumber (organizationId publicNumber : String)
  | executor (executor : Key)
  | session (key : Key)
  | indexed (entry : Indexed)
  | point (session : Key) (sequenceNo : Nat)
  | sourceEvent (organizationId : String) (source : LocationSource) (sourceEventId : String)
  | event (eventId : String)
  | eventVersion (aggregateType : AggregateType) (key : Key) (version : Nat)
deriving DecidableEq

inductive StoreWrite
  | counter (organizationId : String) (value : Nat)
  | order (key : Key) (row : WorkOrder)
  | responses (key : Key) (rows : List PoolResponse)
  | session (key : Key) (row : SessionRow)
  | points (rows : List PointRow)
  | events (events : List DomainEvent)

namespace StoreTables

def responsesAt (tables : StoreTables) (key : Key) : List PoolResponse :=
  (tables.responses.get? key).getD []

def apply (tables : StoreTables) : StoreWrite → StoreTables
  | .counter organizationId value =>
      { tables with counters := tables.counters.set organizationId value }
  | .order key row => { tables with orders := tables.orders.set key row }
  | .responses key rows => { tables with responses := tables.responses.set key rows }
  | .session key row =>
      { tables with
        tracking := { tables.tracking with sessions := tables.tracking.sessions.set key row } }
  | .points rows =>
      { tables with tracking := { tables.tracking with points := tables.tracking.points ++ rows } }
  | .events events => { tables with outbox := tables.outbox ++ events }

/-- Another order has the number, or the executor of an active order. -/
def violates (tables : StoreTables) (order : WorkOrder) : Bool :=
  tables.orders.entries.any fun entry =>
    entry.1 ≠ (order.organizationId, order.id) &&
      (entry.2.organizationId = order.organizationId && entry.2.publicNumber = order.publicNumber ||
        (UnitOfWork.occupies order).isSome &&
          UnitOfWork.occupies entry.2 = UnitOfWork.occupies order)

end StoreTables

/-- The keys an order has in the indexes. -/
def orderLocks (order : WorkOrder) : List StoreLock :=
  [.order (order.organizationId, order.id),
    .publicNumber order.organizationId order.publicNumber] ++
    (UnitOfWork.occupies order).toList.map .executor

def sessionLocks (key : Key) (row : SessionRow) : List StoreLock :=
  .session key :: (row.indexed key).map .indexed

def pointLocks (row : PointRow) : List StoreLock :=
  .point row.session row.sequenceNo ::
    row.point.sourceEventId.toList.map (.sourceEvent row.session.1 row.point.source)

def eventLocks (event : DomainEvent) : List StoreLock :=
  [.event event.eventId, .eventVersion event.aggregateType
    (event.organizationId, event.aggregateId) event.aggregateVersion]

/-- The two events cannot both be in the outbox. -/
def DomainEvent.clashes (event other : DomainEvent) : Bool :=
  event.organizationId = other.organizationId && event.aggregateType = other.aggregateType &&
    event.aggregateId = other.aggregateId && event.aggregateVersion = other.aggregateVersion

/-- `ON CONFLICT (event_id) DO NOTHING`, for one event after the other: the ones that go in. -/
def insertedEvents :
    List DomainEvent → List DomainEvent → Except TransactionError (List DomainEvent)
  | _, [] => .ok []
  | outbox, event :: rest =>
      if outbox.any fun other => other.eventId = event.eventId then insertedEvents outbox rest
      else if outbox.any fun other => DomainEvent.clashes event other then .error .uniqueViolation
      else (insertedEvents (outbox ++ [event]) rest).map (event :: ·)

/-- The statements of the repositories, and what they answer. -/
inductive StoreStatement
  | allocateNumber (organizationId : String)
  | selectOrder (key : Key)
  | selectResponses (key : Key)
  | insertOrder (order : WorkOrder)
  | updateOrder (order : WorkOrder) (expectedVersion : Nat)
  | deleteResponses (key : Key)
  | insertResponses (key : Key) (responses : List PoolResponse)
  | beginSelectSession (key : Key)
  | selectSession (key : Key)
  | selectSourceEvent (organizationId : String) (source : LocationSource) (sourceEventId : String)
  | selectActive (organizationId orderId : String)
  | insertSession (key : Key) (row : SessionRow)
  | updateSession (key : Key) (row : SessionRow) (expectedVersion : Nat)
  | insertPoints (rows : List PointRow)
  | insertEvents (events : List DomainEvent)

abbrev StoreStatement.Answer : StoreStatement → Type
  | .allocateNumber _ => Nat
  | .selectOrder _ => Option WorkOrder
  | .selectResponses _ => List PoolResponse
  | .insertOrder _ => Bool
  | .updateOrder _ _ => Bool
  | .deleteResponses _ => Unit
  | .insertResponses _ _ => Unit
  | .beginSelectSession _ => Option (Option TrackingPoint)
  | .selectSession _ => Option SessionRow
  | .selectSourceEvent _ _ _ => Bool
  | .selectActive _ _ => Option String
  | .insertSession _ _ => Bool
  | .updateSession _ _ _ => Bool
  | .insertPoints _ => Unit
  | .insertEvents _ => Unit

/-- `ORDER BY responded_at, executor_id` -/
def PoolResponse.upTo (left right : PoolResponse) : Bool :=
  left.respondedAt < right.respondedAt ||
    (left.respondedAt = right.respondedAt && left.executorId ≤ right.executorId)

/-- What `save` makes of a rejected key. -/
def assignmentRejected : TransactionError :=
  .raised (.concurrencyConflict "database uniqueness constraint rejected concurrent assignment")

namespace StoreStatement

/-- The limit of a `bigint`. -/
def bigintEnd : Nat := 9223372036854775808

abbrev Outcome (statement : StoreStatement) :=
  Except TransactionError (Executed StoreWrite StoreLock statement.Answer)

/-- One statement, by what its transaction sees. -/
def execute : (statement : StoreStatement) → StoreTables → statement.Outcome
  | .allocateNumber organizationId, tables =>
      let value := (tables.counters.get? organizationId).getD 0 + 1
      if value < bigintEnd then
        .ok ⟨[.counter organizationId], [.counter organizationId value], value⟩
      else .error .numericValueOutOfRange
  | .selectOrder key, tables =>
      match tables.orders.get? key with
      | none => .ok ⟨[], [], none⟩
      | some row => .ok ⟨[.order key], [], some row⟩
  | .selectResponses key, tables =>
      .ok ⟨[], [], (tables.responsesAt key).mergeSort PoolResponse.upTo⟩
  | .insertOrder order, tables =>
      let key := (order.organizationId, order.id)
      if tables.orders.contains key then .ok ⟨[], [], false⟩
      else if tables.violates order then .error assignmentRejected
      else .ok ⟨orderLocks order, [.order key (orderRow order)], true⟩
  | .updateOrder order expectedVersion, tables =>
      let key := (order.organizationId, order.id)
      if (tables.orders.get? key).any fun row => row.version = expectedVersion then
        if tables.violates order then .error assignmentRejected
        else .ok ⟨orderLocks order, [.order key (orderRow order)], true⟩
      else .ok ⟨[], [], false⟩
  | .deleteResponses key, _ => .ok ⟨[], [.responses key []], ()⟩
  | .insertResponses key responses, tables =>
      let rows := tables.responsesAt key ++ responses
      if (rows.map PoolResponse.executorId).Nodup then .ok ⟨[], [.responses key rows], ()⟩
      else .error assignmentRejected
  | .beginSelectSession key, tables =>
      .ok ⟨[], [], if tables.tracking.sessions.contains key then
        some ((tables.tracking.latest key).map PointRow.point) else none⟩
  | .selectSession key, tables =>
      .ok ⟨[.session key], [], tables.tracking.sessions.get? key⟩
  | .selectSourceEvent organizationId source sourceEventId, tables =>
      .ok ⟨[], [], tables.tracking.hasSourceEvent organizationId source sourceEventId⟩
  | .selectActive organizationId orderId, tables =>
      match tables.tracking.sessions.entries.find? fun entry =>
          entry.1.1 = organizationId && entry.2.workOrderId = orderId &&
            entry.2.status = .active with
      | none => .ok ⟨[], [], none⟩
      | some entry => .ok ⟨[.session entry.1], [], some entry.1.2⟩
  | .insertSession key row, tables =>
      if tables.tracking.sessions.contains key then .ok ⟨[], [], false⟩
      else if tables.tracking.Violates key row then .error (.raised TrackingTables.uniqueness)
      else .ok ⟨sessionLocks key row, [.session key row], true⟩
  | .updateSession key row expectedVersion, tables =>
      match tables.tracking.sessions.get? key with
      | none => .ok ⟨[], [], false⟩
      | some found =>
          if found.version = expectedVersion then
            if tables.tracking.Violates key row then .error (.raised TrackingTables.uniqueness)
            -- `created_at` is not among the columns an update sets
            else .ok ⟨sessionLocks key row,
              [.session key { row with createdAt := found.createdAt }], true⟩
          else .ok ⟨[], [], false⟩
  | .insertPoints rows, tables =>
      match rows.foldlM TrackingTables.insertPoint tables.tracking with
      | .error failure => .error (.raised failure)
      | .ok _ => .ok ⟨rows.flatMap pointLocks, [.points rows], ()⟩
  | .insertEvents events, tables =>
      match insertedEvents tables.outbox events with
      | .error failure => .error failure
      | .ok inserted => .ok ⟨inserted.flatMap eventLocks, [.events inserted], ()⟩

end StoreStatement

/-! ### The repositories -/

abbrev Transaction := Program StoreStatement StoreStatement.Answer TransactionError

namespace Transaction

def ask (statement : StoreStatement) : Transaction statement.Answer := Program.request statement

def raise {α : Type} (failure : Failure) : Transaction α := Program.raise (.raised failure)

/-- What the domain makes of it, or what it raises. -/
def domain {α : Type} (result : Except Failure α) : Transaction α :=
  Program.attempt (result.mapError .raised)

end Transaction

open Transaction

def withResponses (row : WorkOrder) (responses : List PoolResponse) : WorkOrder :=
  { row with
    poolResponses := Dict.ofList (responses.map fun response => (response.executorId, response)) }

namespace PostgresOrderRepository

def allocatePublicNumber (organizationId : String) : Transaction String := do
  let sequence ← ask (.allocateNumber organizationId)
  domain (formatOrderNumber sequence)

def get (organizationId orderId : String) : Transaction WorkOrder := do
  match ← ask (.selectOrder (organizationId, orderId)) with
  | none => raise (.notFound s!"work order {Text.repr orderId} was not found")
  | some row =>
      let responses ← ask (.selectResponses (organizationId, orderId))
      return withResponses row responses

def replaceResponses (order : WorkOrder) : Transaction Unit := do
  let key := (order.organizationId, order.id)
  ask (.deleteResponses key)
  if order.poolResponses.entries ≠ [] then
    ask (.insertResponses key order.poolResponses.values)

def save (order : WorkOrder) : (expectedVersion : Option Nat) → Transaction Unit
  | none => do
      if !(← ask (.insertOrder order)) then
        raise (.concurrencyConflict s!"work order {Text.repr order.id} already exists")
      replaceResponses order
  | some expectedVersion => do
      if !(← ask (.updateOrder order expectedVersion)) then
        raise (.concurrencyConflict s!"work order {Text.repr order.id} changed concurrently")
      replaceResponses order

end PostgresOrderRepository

namespace PostgresTrackingRepository

/-- A statement that waits for the row finds it as it is then, and the latest point as it was
when the statement began. -/
def get (organizationId sessionId : String) : Transaction LoadedSession := do
  let key := (organizationId, sessionId)
  match ← ask (.beginSelectSession key) with
  | none => raise (.notFound s!"tracking session {Text.repr sessionId} was not found")
  | some latest =>
      match ← ask (.selectSession key) with
      | none => raise (.notFound s!"tracking session {Text.repr sessionId} was not found")
      | some row => return trackingFromRow key row latest

def findActiveForOrder (organizationId orderId : String) :
    Transaction (Option LoadedSession) := do
  match ← ask (.selectActive organizationId orderId) with
  | none => return none
  | some sessionId =>
      let session ← get organizationId sessionId
      return some session

/-- `enumerate(new_points, start=...)` -/
def numberedPoints (key : Key) (start : Nat) (points : List TrackingPoint) : List PointRow :=
  points.zipIdx.map fun entry => ⟨key, start + entry.2, entry.1⟩

def appendNewPoints (loaded : LoadedSession) : Transaction Unit := do
  let newPoints ← domain loaded.pendingPoints
  if newPoints ≠ [] then
    ask (.insertPoints (numberedPoints (loaded.session.organizationId, loaded.session.id)
      (loaded.persisted + 1) newPoints))

def save (loaded : LoadedSession) : (expectedVersion : Option Nat) → Transaction Unit
  | none => do
      let session := loaded.session
      if !(← ask (.insertSession (session.organizationId, session.id) (.ofSession session))) then
        raise (.concurrencyConflict s!"tracking session {Text.repr session.id} already exists")
      appendNewPoints loaded
  | some expectedVersion => do
      let session := loaded.session
      if !(← ask (.updateSession (session.organizationId, session.id) (.ofSession session)
          expectedVersion)) then
        raise (.concurrencyConflict
          s!"tracking session {Text.repr session.id} changed concurrently")
      appendNewPoints loaded

end PostgresTrackingRepository

def PostgresOutbox.add (events : List DomainEvent) : Transaction Unit := do
  if events ≠ [] then
    ask (.insertEvents events)

end DispatchCore.Infrastructure
