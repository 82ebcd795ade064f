import DispatchCore.Application.Atomic
import DispatchCore.Infrastructure.PostgresUnitOfWork

/-! The service on the database: each command is a transaction, or two where the first attempt at
a submission was ambiguous. -/
namespace DispatchCore.Application

open DispatchCore.Library DispatchCore.Domain DispatchCore.Infrastructure Transaction

namespace Transacted

/-- Call a method on an object that the transaction has read. -/
def call {σ : Type} (method : Method Failure σ Unit) (object : σ) : Transaction σ :=
  domain (Atomic.outcome method object)

def createNewOrder (ambient : Ambient) (orderId : String) (creation : Creation) :
    Transaction WorkOrder := do
  let publicNumber ← PostgresOrderRepository.allocatePublicNumber creation.organizationId
  let order ← domain (creation.order ambient orderId publicNumber)
  PostgresOrderRepository.save order none
  PostgresOutbox.add order.pullEvents.1
  return order.pullEvents.2

def confirmSubmission (ambient : Ambient) (orderId : String) (creation : Creation) :
    Transaction WorkOrder := do
  let existing ← PostgresOrderRepository.get creation.organizationId orderId
  let candidate ← domain (creation.order ambient orderId existing.publicNumber)
  if !sameSubmission existing candidate then
    raise (.concurrencyConflict
      s!"work order {Text.repr orderId} belongs to a different submission")
  return existing

def changeOrder (organizationId orderId : String) (change : Method Failure WorkOrder Unit) :
    Transaction WorkOrder := do
  let order ← PostgresOrderRepository.get organizationId orderId
  let changed ← call change order
  PostgresOrderRepository.save changed (some order.version)
  PostgresOutbox.add changed.pullEvents.1
  return changed.pullEvents.2

def startTravel (ambient : Ambient) (sessionAmbient : SessionAmbient)
    (organizationId orderId executorId sessionId : String) :
    Transaction (WorkOrder × TrackingSession) := do
  let order ← PostgresOrderRepository.get organizationId orderId
  let changed ← call (WorkOrder.startTravel ambient executorId none) order
  let session ← domain (TrackingSession.start sessionAmbient sessionId organizationId changed.id
    executorId none none none)
  PostgresOrderRepository.save changed (some order.version)
  PostgresTrackingRepository.save ⟨session, 0⟩ none
  PostgresOutbox.add (changed.pullEvents.1 ++ session.pullEvents.1)
  return (changed.pullEvents.2, session.pullEvents.2)

def closeOrder (organizationId orderId : String) (change : Method Failure WorkOrder Unit)
    (close : Method Failure TrackingSession Unit) : Transaction WorkOrder := do
  let order ← PostgresOrderRepository.get organizationId orderId
  let changed ← call change order
  PostgresOrderRepository.save changed (some order.version)
  match ← PostgresTrackingRepository.findActiveForOrder organizationId orderId with
  | some loaded =>
      let closed ← call close loaded.session
      PostgresTrackingRepository.save { loaded with session := closed }
        (some loaded.session.version)
      PostgresOutbox.add (changed.pullEvents.1 ++ closed.pullEvents.1)
  | none => PostgresOutbox.add changed.pullEvents.1
  return changed.pullEvents.2

/-- The report names an event of its source that is in the table of points. -/
def reportedBefore (report : LocationReport) : Transaction Bool :=
  match report.sourceEventId with
  | none => pure false
  | some sourceEventId =>
      ask (.selectSourceEvent report.organizationId report.source sourceEventId)

def recordLocation (ambient : Ambient) (report : LocationReport) :
    Transaction TrackingSession := do
  let loaded ← PostgresTrackingRepository.get report.organizationId report.sessionId
  let session := loaded.session
  if session.executorId ≠ report.executorId then
    raise (.invalidTransition "session does not belong to this executor")
  if ← reportedBefore report then
    return session
  let point ← domain (TrackingPoint.make report.latitude report.longitude
    (AsyncDispatchService.observedAt report session ambient.clock) ambient.clock report.source
    report.accuracyM report.sourceEventId)
  let changed ← call (TrackingSession.addPoint ambient point) session
  PostgresTrackingRepository.save { loaded with session := changed } (some session.version)
  PostgresOutbox.add changed.pullEvents.1
  return changed.pullEvents.2

end Transacted

/-- The transaction of a command, and the one that follows where it raises. -/
def Command.body : Command → Transaction Unit
  | .createOrder ambient freshId orderId creation => do
      let _ ← Transacted.createNewOrder ambient (AsyncDispatchService.orFresh orderId freshId)
        creation
  | .createOrderOnce ambient orderId creation => do
      let _ ← Transacted.createNewOrder ambient orderId creation
  | .change ambient organizationId orderId call _ => do
      let _ ← Transacted.changeOrder organizationId orderId (call.perform ambient none)
  | .startTravel ambient sessionAmbient organizationId orderId freshId executorId sessionId => do
      let _ ← Transacted.startTravel ambient sessionAmbient organizationId orderId executorId
        (AsyncDispatchService.orFresh sessionId freshId)
  | .recordLocation ambient report => do
      let _ ← Transacted.recordLocation ambient report
  | .completeOrder ambient sessionAmbient organizationId orderId executorId report => do
      let _ ← Transacted.closeOrder organizationId orderId
        (WorkOrder.complete ambient executorId report none)
        (TrackingSession.complete sessionAmbient none)
  | .cancelOrder ambient sessionAmbient organizationId orderId reason actorId => do
      let _ ← Transacted.closeOrder organizationId orderId
        (WorkOrder.cancel ambient reason actorId none)
        (TrackingSession.cancel sessionAmbient reason none)

/-- `except ConcurrencyConflict` of a submission -/
def Command.otherwise : Command → TransactionError → Option (Transaction Unit)
  | .createOrderOnce ambient orderId creation, .raised failure =>
      if failure.isConcurrencyConflict then
        some (Transacted.confirmSubmission ambient orderId creation >>= fun _ => pure ())
      else none
  | _, _ => none

def Command.client (command : Command) :
    Client StoreStatement StoreStatement.Answer TransactionError Unit :=
  .transacting command.body command.otherwise

abbrev PostgresClients :=
  Isolation.Clients StoreStatement StoreStatement.Answer TransactionError Unit StoreTables
    StoreWrite StoreLock

/-- Commands that arrive at once, on tables without orders. -/
def launchTransactions (commands : List Command) : PostgresClients :=
  Database.open .empty (commands.map Command.client)

def postgresTurn (clients : PostgresClients) (next : Database.Turn) : PostgresClients :=
  Isolation.turn StoreStatement.execute StoreTables.apply clients next

def runTransactions (commands : List Command) (schedule : List Database.Turn) : PostgresClients :=
  schedule.foldl postgresTurn (launchTransactions commands)

end DispatchCore.Application
