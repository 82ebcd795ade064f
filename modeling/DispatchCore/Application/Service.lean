import DispatchCore.Application.Atomic
import DispatchCore.Infrastructure.Memory

/-! The synchronous dispatch service: the same commands over the other store,
kept by hand next to the asynchronous ones. -/
namespace DispatchCore.Application

open DispatchCore.Library DispatchCore.Domain DispatchCore.Infrastructure

namespace DispatchService

def createOrder (ambient : Ambient) (freshId : String) (orderId : Option String)
    (creation : Creation) : Method Failure MemoryStore WorkOrder :=
  MemoryWork.transaction do
    let publicNumber ← MemoryWork.allocatePublicNumber creation.organizationId
    let order ← MemoryWork.attempt
      (creation.order ambient (AsyncDispatchService.orFresh orderId freshId) publicNumber)
    MemoryWork.saveOrder order none
    MemoryWork.addEvents order.pullEvents.1
    MemoryWork.commit
    return order.pullEvents.2

def changeOrder (organizationId orderId : String) (change : Method Failure WorkOrder Unit) :
    Method Failure MemoryStore WorkOrder :=
  MemoryWork.transaction do
    let order ← MemoryWork.getOrder organizationId orderId
    let changed ← MemoryWork.call change order
    MemoryWork.saveOrder changed (some order.version)
    MemoryWork.addEvents changed.pullEvents.1
    MemoryWork.commit
    return changed.pullEvents.2

section

variable (ambient : Ambient) (organizationId orderId : String)

def claimCoordination (coordinatorId : String) : Method Failure MemoryStore WorkOrder :=
  changeOrder organizationId orderId (WorkOrder.claimCoordination ambient coordinatorId none)

def publishPool (mode : PoolMode) (actorId : Option String) :
    Method Failure MemoryStore WorkOrder :=
  changeOrder organizationId orderId (WorkOrder.publishPool ambient mode actorId none)

def expressInterest (executorId : String) : Method Failure MemoryStore WorkOrder :=
  changeOrder organizationId orderId (WorkOrder.expressInterest ambient executorId none)

def withdrawInterest (executorId : String) : Method Failure MemoryStore WorkOrder :=
  changeOrder organizationId orderId (WorkOrder.withdrawInterest ambient executorId none)

def claimFirst (executorId : String) : Method Failure MemoryStore WorkOrder :=
  changeOrder organizationId orderId (WorkOrder.claimFirst ambient executorId none)

def assignOrder (executorId : String) (actorId : Option String) :
    Method Failure MemoryStore WorkOrder :=
  changeOrder organizationId orderId (WorkOrder.assign ambient executorId actorId none)

def acceptOrder (executorId : String) : Method Failure MemoryStore WorkOrder :=
  changeOrder organizationId orderId (WorkOrder.accept ambient executorId none)

def rejectAssignment (executorId : String) : Method Failure MemoryStore WorkOrder :=
  changeOrder organizationId orderId (WorkOrder.rejectAssignment ambient executorId none)

def startWork (executorId : String) : Method Failure MemoryStore WorkOrder :=
  changeOrder organizationId orderId (WorkOrder.startWork ambient executorId none)

def startTravel (sessionAmbient : SessionAmbient) (freshId executorId : String)
    (sessionId : Option String) : Method Failure MemoryStore (WorkOrder × TrackingSession) :=
  MemoryWork.transaction do
    let order ← MemoryWork.getOrder organizationId orderId
    let changed ← MemoryWork.call (WorkOrder.startTravel ambient executorId none) order
    let session ← MemoryWork.attempt (TrackingSession.start sessionAmbient
      (AsyncDispatchService.orFresh sessionId freshId) organizationId changed.id executorId none
      none none)
    MemoryWork.saveOrder changed (some order.version)
    MemoryWork.saveTracking session none
    MemoryWork.addEvents (changed.pullEvents.1 ++ session.pullEvents.1)
    MemoryWork.commit
    return (changed.pullEvents.2, session.pullEvents.2)

/-- `complete_order` and `cancel_order` differ in what they call on the order
and on its active session. -/
def closeOrder (change : Method Failure WorkOrder Unit)
    (close : Method Failure TrackingSession Unit) : Method Failure MemoryStore WorkOrder :=
  MemoryWork.transaction do
    let order ← MemoryWork.getOrder organizationId orderId
    let changed ← MemoryWork.call change order
    MemoryWork.saveOrder changed (some order.version)
    let session ← MemoryWork.findActiveForOrder organizationId orderId
    match session with
    | some session =>
        let closed ← MemoryWork.call close session
        MemoryWork.saveTracking closed (some session.version)
        MemoryWork.addEvents (changed.pullEvents.1 ++ closed.pullEvents.1)
    | none => MemoryWork.addEvents changed.pullEvents.1
    MemoryWork.commit
    return changed.pullEvents.2

def completeOrder (sessionAmbient : Ambient) (executorId : String) (report : CompletionReport) :
    Method Failure MemoryStore WorkOrder :=
  closeOrder organizationId orderId (WorkOrder.complete ambient executorId report none)
    (TrackingSession.complete sessionAmbient none)

def cancelOrder (sessionAmbient : Ambient) (reason : String) (actorId : Option String) :
    Method Failure MemoryStore WorkOrder :=
  closeOrder organizationId orderId (WorkOrder.cancel ambient reason actorId none)
    (TrackingSession.cancel sessionAmbient reason none)

end

/-- The time a point counts as captured at: the clock, where it was before the latest point. -/
def observedAt (report : LocationReport) (session : TrackingSession) (now : Instant) :
    Instant :=
  let observed := report.capturedAt.getD now
  match session.latestPoint with
  | none => observed
  | some latest => if observed < latest.capturedAt then now else observed

def recordLocation (ambient : Ambient) (report : LocationReport) :
    Method Failure MemoryStore TrackingSession :=
  MemoryWork.transaction do
    let session ← MemoryWork.getTracking report.organizationId report.sessionId
    if session.executorId ≠ report.executorId then
      throw (.invalidTransition "session does not belong to this executor")
    let point ← MemoryWork.attempt (TrackingPoint.make report.latitude report.longitude
      (observedAt report session ambient.clock) ambient.clock report.source report.accuracyM
      report.sourceEventId)
    let changed ← MemoryWork.call (TrackingSession.addPoint ambient point) session
    MemoryWork.saveTracking changed (some session.version)
    MemoryWork.addEvents changed.pullEvents.1
    MemoryWork.commit
    return changed.pullEvents.2

end DispatchService

/-- A command that both services have. -/
def Command.Shared : Command → Prop
  | .createOrderOnce _ _ _ => False
  | _ => True

namespace Command

/-- The service method a plain call belongs to. -/
def changeMethod (ambient : Ambient) (organizationId orderId : String) :
    (call : Call) → Plain call → Method Failure MemoryStore WorkOrder
  | .claimCoordination coordinatorId, _ =>
      DispatchService.claimCoordination ambient organizationId orderId coordinatorId
  | .publishPool mode actorId, _ =>
      DispatchService.publishPool ambient organizationId orderId mode actorId
  | .expressInterest executorId, _ =>
      DispatchService.expressInterest ambient organizationId orderId executorId
  | .withdrawInterest executorId, _ =>
      DispatchService.withdrawInterest ambient organizationId orderId executorId
  | .claimFirst executorId, _ =>
      DispatchService.claimFirst ambient organizationId orderId executorId
  | .assign executorId actorId, _ =>
      DispatchService.assignOrder ambient organizationId orderId executorId actorId
  | .accept executorId, _ =>
      DispatchService.acceptOrder ambient organizationId orderId executorId
  | .rejectAssignment executorId, _ =>
      DispatchService.rejectAssignment ambient organizationId orderId executorId
  | .startWork executorId, _ =>
      DispatchService.startWork ambient organizationId orderId executorId
  | .startTravel _, plain => plain.elim
  | .complete _ _, plain => plain.elim
  | .cancel _ _, plain => plain.elim

def discard {σ α : Type} (method : Method Failure σ α) : Method Failure σ Unit := do
  let _ ← method
  return

/-- The command put to the synchronous service. -/
def serve : (command : Command) → command.Shared → Method Failure MemoryStore Unit
  | createOrder ambient freshId orderId creation, _ =>
      discard (DispatchService.createOrder ambient freshId orderId creation)
  | createOrderOnce _ _ _, shared => shared.elim
  | change ambient organizationId orderId call plain, _ =>
      discard (changeMethod ambient organizationId orderId call plain)
  | startTravel ambient sessionAmbient organizationId orderId freshId executorId sessionId, _ =>
      discard (DispatchService.startTravel ambient organizationId orderId sessionAmbient freshId
        executorId sessionId)
  | recordLocation ambient report, _ => discard (DispatchService.recordLocation ambient report)
  | completeOrder ambient sessionAmbient organizationId orderId executorId report, _ =>
      discard (DispatchService.completeOrder ambient organizationId orderId sessionAmbient
        executorId report)
  | cancelOrder ambient sessionAmbient organizationId orderId reason actorId, _ =>
      discard (DispatchService.cancelOrder ambient organizationId orderId sessionAmbient reason
        actorId)

end Command
end DispatchCore.Application
