import DispatchCore.Domain.Transitions
import DispatchCore.Infrastructure.AsyncMemory

/-! The commands of the dispatch service, each one transaction over a unit of
work.  Clock readings, fresh ids and tokens come in as arguments, so that a run
is determined by its commands and its interleaving. -/
namespace DispatchCore.Application

open DispatchCore.Library DispatchCore.Domain DispatchCore.Infrastructure

/-- The two lookups whose answers are not covered by the version checks of the
commit. -/
structure Lookups where
  allocateNumber : String → StoreTask String
  hasEvent : String → LocationSource → String → StoreTask Bool

def Lookups.live : Lookups := ⟨allocatePublicNumber, hasSourceEvent⟩

/-- The immutable intent of a creation. -/
structure Creation where
  organizationId : String
  workType : String
  source : String
  details : Dict String Json
  requesterId : Option String
  evidenceRequirements : Option EvidenceRequirements

def Creation.order (creation : Creation) (ambient : Ambient) (orderId publicNumber : String) :
    Except Failure WorkOrder :=
  WorkOrder.create ambient orderId publicNumber creation.organizationId creation.workType
    creation.source creation.details creation.requesterId creation.evidenceRequirements none

def sameSubmission (existing candidate : WorkOrder) : Bool :=
  existing.id = candidate.id && existing.organizationId = candidate.organizationId &&
    existing.workType = candidate.workType && existing.source = candidate.source &&
    existing.requesterId = candidate.requesterId &&
    existing.details.same candidate.details &&
    existing.evidenceRequirements = candidate.evidenceRequirements

/-- What a location report says. -/
structure LocationReport where
  organizationId : String
  executorId : String
  sessionId : String
  latitude : Reading
  longitude : Reading
  source : LocationSource
  capturedAt : Option Instant
  accuracyM : Option Reading
  sourceEventId : Option String

namespace AsyncDispatchService

def createNewOrder (lookups : Lookups) (ambient : Ambient) (orderId : String)
    (creation : Creation) : StoreTask WorkOrder :=
  Work.transaction do
    let publicNumber ← lookups.allocateNumber creation.organizationId
    let order ← (creation.order ambient orderId publicNumber : Except Failure WorkOrder)
    Work.saveOrder order none
    Work.addEvents order.pullEvents.1
    Work.commit
    return order.pullEvents.2

/-- `given or fresh`, with the identifier drawn when the caller names none -/
def orFresh (given : Option String) (fresh : String) : String :=
  match given with
  | some name => if name = "" then fresh else name
  | none => fresh

def createOrder (lookups : Lookups) (ambient : Ambient) (freshId : String)
    (orderId : Option String) (creation : Creation) : StoreTask WorkOrder :=
  createNewOrder lookups ambient (orFresh orderId freshId) creation

/-- The second attempt at an ambiguous submission: the order is there, and it
is the one that was meant. -/
def confirmSubmission (ambient : Ambient) (orderId : String) (creation : Creation) :
    StoreTask WorkOrder :=
  Work.transaction do
    let existing ← getOrder creation.organizationId orderId
    let candidate ← (creation.order ambient orderId existing.publicNumber :
      Except Failure WorkOrder)
    if !sameSubmission existing candidate then
      throw (.concurrencyConflict
        s!"work order {Text.repr orderId} belongs to a different submission")
    Work.commit
    return existing

def createOrderOnce (lookups : Lookups) (ambient : Ambient) (orderId : String)
    (creation : Creation) : StoreTask WorkOrder :=
  (createNewOrder lookups ambient orderId creation).tryCatch fun failure =>
    if failure.isConcurrencyConflict then confirmSubmission ambient orderId creation
    else .raise failure

def changeOrder (organizationId orderId : String) (change : Method Failure WorkOrder Unit) :
    StoreTask WorkOrder :=
  Work.transaction do
    let order ← getOrder organizationId orderId
    let changed ← Work.call change order
    Work.saveOrder changed (some order.version)
    Work.addEvents changed.pullEvents.1
    Work.commit
    return changed.pullEvents.2

section

variable (ambient : Ambient) (organizationId orderId : String)

def claimCoordination (coordinatorId : String) : StoreTask WorkOrder :=
  changeOrder organizationId orderId (WorkOrder.claimCoordination ambient coordinatorId none)

def publishPool (mode : PoolMode) (actorId : Option String) : StoreTask WorkOrder :=
  changeOrder organizationId orderId (WorkOrder.publishPool ambient mode actorId none)

def expressInterest (executorId : String) : StoreTask WorkOrder :=
  changeOrder organizationId orderId (WorkOrder.expressInterest ambient executorId none)

def withdrawInterest (executorId : String) : StoreTask WorkOrder :=
  changeOrder organizationId orderId (WorkOrder.withdrawInterest ambient executorId none)

def claimFirst (executorId : String) : StoreTask WorkOrder :=
  changeOrder organizationId orderId (WorkOrder.claimFirst ambient executorId none)

def assignOrder (executorId : String) (actorId : Option String) : StoreTask WorkOrder :=
  changeOrder organizationId orderId (WorkOrder.assign ambient executorId actorId none)

def acceptOrder (executorId : String) : StoreTask WorkOrder :=
  changeOrder organizationId orderId (WorkOrder.accept ambient executorId none)

def rejectAssignment (executorId : String) : StoreTask WorkOrder :=
  changeOrder organizationId orderId (WorkOrder.rejectAssignment ambient executorId none)

def startWork (executorId : String) : StoreTask WorkOrder :=
  changeOrder organizationId orderId (WorkOrder.startWork ambient executorId none)

def startTravel (sessionAmbient : SessionAmbient) (freshId executorId : String)
    (sessionId : Option String) : StoreTask (WorkOrder × TrackingSession) :=
  Work.transaction do
    let order ← getOrder organizationId orderId
    let changed ← Work.call (WorkOrder.startTravel ambient executorId none) order
    let session ← (TrackingSession.start sessionAmbient (orFresh sessionId freshId)
      organizationId changed.id executorId none none none : Except Failure TrackingSession)
    Work.saveOrder changed (some order.version)
    Work.saveTracking session none
    Work.addEvents (changed.pullEvents.1 ++ session.pullEvents.1)
    Work.commit
    return (changed.pullEvents.2, session.pullEvents.2)

/-- `complete_order` and `cancel_order` differ in what they call on the order
and on its active session. -/
def closeOrder (change : Method Failure WorkOrder Unit)
    (close : Method Failure TrackingSession Unit) : StoreTask WorkOrder :=
  Work.transaction do
    let order ← getOrder organizationId orderId
    let changed ← Work.call change order
    Work.saveOrder changed (some order.version)
    let session ← findActiveForOrder organizationId orderId
    match session with
    | some session =>
        let closed ← Work.call close session
        Work.saveTracking closed (some session.version)
        Work.addEvents (changed.pullEvents.1 ++ closed.pullEvents.1)
    | none => Work.addEvents changed.pullEvents.1
    Work.commit
    return changed.pullEvents.2

def completeOrder (sessionAmbient : Ambient) (executorId : String)
    (report : CompletionReport) : StoreTask WorkOrder :=
  closeOrder organizationId orderId (WorkOrder.complete ambient executorId report none)
    (TrackingSession.complete sessionAmbient none)

def cancelOrder (sessionAmbient : Ambient) (reason : String) (actorId : Option String) :
    StoreTask WorkOrder :=
  closeOrder organizationId orderId (WorkOrder.cancel ambient reason actorId none)
    (TrackingSession.cancel sessionAmbient reason none)

end

/-- The time a point counts as captured at: never before the latest point. -/
def observedAt (report : LocationReport) (session : TrackingSession) (now : Instant) :
    Instant :=
  let observed := report.capturedAt.getD now
  match session.latestPoint with
  | none => observed
  | some latest =>
      if observed < latest.capturedAt then Instant.latest now latest.capturedAt else observed

def recordLocation (lookups : Lookups) (ambient : Ambient) (report : LocationReport) :
    StoreTask TrackingSession :=
  Work.transaction do
    let session ← getTracking report.organizationId report.sessionId
    if session.executorId ≠ report.executorId then
      throw (.invalidTransition "session does not belong to this executor")
    let seen ← match report.sourceEventId with
      | none => pure false
      | some sourceEventId =>
          lookups.hasEvent report.organizationId report.source sourceEventId
    if seen then
      Work.commit
      return session
    let point ← (TrackingPoint.make report.latitude report.longitude
      (observedAt report session ambient.clock) ambient.clock report.source report.accuracyM
      report.sourceEventId : Except Failure TrackingPoint)
    let changed ← Work.call (TrackingSession.addPoint ambient point) session
    Work.saveTracking changed (some session.version)
    Work.addEvents changed.pullEvents.1
    Work.commit
    return changed.pullEvents.2

end AsyncDispatchService
end DispatchCore.Application
