import DispatchCore.Domain.Tracking
import DispatchCore.Domain.Transitions

/-! What the events tell: orders and tracking sessions as somebody knows them who reads
nothing but their events, one after the other. -/
namespace DispatchCore.Domain

open DispatchCore.Library

/-! ### Orders -/

structure OrderPicture where
  publicNumber : String
  source : String
  requesterId : Option String
  coordinatorId : Option String
  status : WorkOrderStatus
  poolMode : Option PoolMode
  assigneeId : Option String
  responses : String → Option PoolResponse
  version : Nat
  createdAt : Instant
  updatedAt : Instant

namespace OrderPicture

/-- The picture of an order that lies open. -/
def of (order : WorkOrder) : OrderPicture where
  publicNumber := order.publicNumber
  source := order.source
  requesterId := order.requesterId
  coordinatorId := order.coordinatorId
  status := order.status
  poolMode := order.poolMode
  assigneeId := order.assigneeId
  responses := order.poolResponses.get?
  version := order.version
  createdAt := order.createdAt
  updatedAt := order.updatedAt

def answered (executorId : String) (status : PoolResponseStatus) (instant : Instant)
    (picture : OrderPicture) : OrderPicture :=
  { picture with
    responses := fun other =>
      if other = executorId then some ⟨executorId, status, instant⟩ else picture.responses other }

/-- Of those who wait one is selected, and the others are turned down. -/
def resolved (executorId : String) (instant : Instant) (picture : OrderPicture) : OrderPicture :=
  { picture with
    responses := fun other => (picture.responses other).map fun response =>
      if response.status = .interested then
        ⟨other, if other = executorId then .selected else .rejected, instant⟩
      else response }

def modeNamed? (text : String) : Option PoolMode :=
  [PoolMode.curated, .firstClaim].find? fun mode => mode.value = text

/-- What an event says beside its version and its time. -/
def told (event : DomainEvent) (picture : OrderPicture) : OrderPicture :=
  let executorId := event.payload.textAt "executor_id"
  match event.name with
  | .coordinationClaimed =>
      { picture with coordinatorId := some (event.payload.textAt "coordinator_id") }
  | .poolPublished =>
      { picture with status := .poolOpen, poolMode := modeNamed? (event.payload.textAt "mode") }
  | .poolInterestRecorded => picture.answered executorId .interested event.occurredAt
  | .poolInterestWithdrawn => picture.answered executorId .withdrawn event.occurredAt
  | .firstClaimWon =>
      { picture.answered executorId .selected event.occurredAt with
        status := .assigned
        assigneeId := some executorId }
  | .assigned =>
      let chosen :=
        if picture.poolMode = some .curated then picture.resolved executorId event.occurredAt
        else picture
      { chosen with status := .assigned, assigneeId := some executorId }
  | .accepted => { picture with status := .accepted }
  | .assignmentRejected =>
      let left :=
        if (picture.responses executorId).isSome then
          picture.answered executorId .withdrawn event.occurredAt
        else picture
      { left with
        assigneeId := none
        status := if picture.poolMode.isSome then .poolOpen else .submitted }
  | .travelStarted => { picture with status := .enRoute }
  | .started => { picture with status := .inProgress }
  | .completed => { picture with status := .completed }
  | .cancelled => { picture with status := .cancelled }
  | _ => picture

def begun (event : DomainEvent) : OrderPicture where
  publicNumber := event.payload.textAt "public_number"
  source := event.payload.textAt "source"
  requesterId := (event.payload.get? "requester_id").bind Json.text?
  coordinatorId := none
  status := .submitted
  poolMode := none
  assigneeId := none
  responses := fun _ => none
  version := event.aggregateVersion
  createdAt := event.occurredAt
  updatedAt := event.occurredAt

/-- An order is heard of first when it is submitted. -/
def hear (picture : Option OrderPicture) (event : DomainEvent) : Option OrderPicture :=
  match event.name with
  | .submitted => some (begun event)
  | _ => picture.map fun known =>
      { known.told event with
        version := event.aggregateVersion
        updatedAt := event.occurredAt }

theorem of_pulled (order : WorkOrder) : of order.pullEvents.2 = of order := rfl

theorem answered_respond (executorId : String) (status : PoolResponseStatus) (instant : Instant)
    (order : WorkOrder) :
    of (order.respond executorId status instant) = (of order).answered executorId status instant := by
  unfold of answered WorkOrder.respond
  congr 1
  funext other
  exact Dict.get?_set ..

theorem resolved_resolveCuratedResponses (executorId : String) (instant : Instant)
    (order : WorkOrder) :
    of (order.resolveCuratedResponses executorId instant) =
      (of order).resolved executorId instant := by
  unfold of resolved WorkOrder.resolveCuratedResponses
  congr 1
  funext other
  exact Dict.get?_mapValues ..

section heard

variable {order : WorkOrder} {ambient : Ambient} {now : Option Instant} {call : Call}

/-- The event that a call records tells what the call has written. -/
theorem told_writes (event : DomainEvent) (named : event.name = call.eventName)
    (carries : event.payload = Dict.ofList call.payload) :
    (of order).told event = of (call.writes event.occurredAt order) := by
  unfold told
  rw [named, carries]
  cases call with
  | claimCoordination coordinatorId => rfl
  | publishPool mode actorId => cases mode <;> rfl
  | expressInterest executorId => exact (answered_respond ..).symm
  | withdrawInterest executorId => exact (answered_respond ..).symm
  | claimFirst executorId =>
      show { (of order).answered executorId .selected event.occurredAt with
        status := .assigned, assigneeId := some executorId } = _
      rw [← answered_respond]
      rfl
  | assign executorId actorId =>
      show { (if order.poolMode = some .curated then
          (of order).resolved executorId event.occurredAt else of order) with
        status := .assigned, assigneeId := some executorId } = _
      simp only [Call.writes]
      split
      · rw [resolved_resolveCuratedResponses]
        rfl
      · rfl
  | accept executorId => rfl
  | rejectAssignment executorId =>
      show { (if order.poolResponses.contains executorId then
          (of order).answered executorId .withdrawn event.occurredAt else of order) with
        assigneeId := none
        status := if order.poolMode.isSome then .poolOpen else .submitted } = _
      simp only [Call.writes]
      split
      · rw [← answered_respond]
        rfl
      · rfl
  | startTravel executorId => rfl
  | startWork executorId => rfl
  | complete executorId report => rfl
  | cancel reason actorId => rfl

theorem heard_change (pulled : order.events = []) :
    (call.change ambient now order).events.foldl hear (some (of order)) =
      some (of (call.change ambient now order)) := by
  unfold Call.change
  split
  · rw [pulled]
    rfl
  · have hevents : ((call.writes (now.getD ambient.clock) order).recorded ambient call.eventName
        call.payload now).events = [DomainEvent.create ambient order.organizationId .workOrder
          order.id (order.version + 1) call.eventName (Dict.ofList call.payload)
          (some (now.getD ambient.clock))] := by
      simp [WorkOrder.recorded, pulled]
    rw [hevents]
    generalize hevent : DomainEvent.create ambient order.organizationId .workOrder order.id
      (order.version + 1) call.eventName (Dict.ofList call.payload)
      (some (now.getD ambient.clock)) = event
    have hname : event.name = call.eventName := by rw [← hevent]; rfl
    have hknown : hear (some (of order)) event = some { (of order).told event with
        version := event.aggregateVersion, updatedAt := event.occurredAt } := by
      unfold hear
      rw [hname]
      cases call <;> rfl
    show hear (some (of order)) event = _
    rw [hknown, told_writes event hname (by rw [← hevent]; rfl), ← hevent]
    simp [of, WorkOrder.recorded, DomainEvent.create]

/-- A new order is told of by its first event. -/
theorem heard_create {orderId publicNumber organizationId workType source : String}
    {details : Dict String Json} {requesterId : Option String}
    {evidenceRequirements : Option EvidenceRequirements}
    (created : WorkOrder.create ambient orderId publicNumber organizationId workType source
      details requesterId evidenceRequirements now = .ok order) :
    order.events.foldl hear none = some (of order) := by
  unfold WorkOrder.create at created
  dsimp only at created
  split at created
  · cases created
    cases requesterId <;> rfl
  · cases created

end heard
end OrderPicture

/-! ### Tracking sessions -/

structure SessionPicture where
  status : TrackingStatus
  points : List (String × String × Option String)
  version : Nat
  updatedAt : Instant

namespace SessionPicture

/-- When a point was captured, what reported it, and under which name. -/
def pointOf (point : TrackingPoint) : String × String × Option String :=
  (point.capturedAt.isoformat, point.source.value, point.sourceEventId)

def of (session : TrackingSession) : SessionPicture where
  status := session.status
  points := session.points.map pointOf
  version := session.version
  updatedAt := session.updatedAt

def told (event : DomainEvent) (picture : SessionPicture) : SessionPicture :=
  match event.name with
  | .trackingPointRecorded =>
      { picture with
        points := picture.points ++ [(event.payload.textAt "captured_at",
          event.payload.textAt "source",
          (event.payload.get? "source_event_id").bind Json.text?)] }
  | .trackingCompleted => { picture with status := .completed }
  | .trackingCancelled => { picture with status := .cancelled }
  | _ => picture

def hear (picture : Option SessionPicture) (event : DomainEvent) : Option SessionPicture :=
  match event.name with
  | .trackingStarted => some ⟨.active, [], event.aggregateVersion, event.occurredAt⟩
  | _ => picture.map fun known =>
      { known.told event with
        version := event.aggregateVersion
        updatedAt := event.occurredAt }

section heard

variable {session changed : TrackingSession} {ambient : Ambient} {now : Option Instant}

theorem of_pulled (session : TrackingSession) : of session.pullEvents.2 = of session := rfl

theorem heard_start {ambient : SessionAmbient}
    {sessionId organizationId workOrderId executorId : String}
    {publicToken locationToken : Option String}
    (started : TrackingSession.start ambient sessionId organizationId workOrderId executorId
      publicToken locationToken now = .ok session) :
    session.events.foldl hear none = some (of session) := by
  unfold TrackingSession.start at started
  dsimp only at started
  repeat (split at started; · cases started)
  cases started
  rfl

theorem events_recorded {name : EventName} {payload : List (String × Json)}
    (pulled : session.events = []) : (session.recorded ambient name payload now).events =
      [DomainEvent.create ambient session.organizationId .trackingSession session.id
        (session.version + 1) name (Dict.ofList payload) (some (now.getD ambient.clock))] := by
  simp [TrackingSession.recorded, pulled]

theorem heard_point {point : TrackingPoint} (pulled : session.events = [])
    (added : (TrackingSession.addPoint ambient point).run session = .ok () changed) :
    changed.events.foldl hear (some (of session)) = some (of changed) := by
  rcases TrackingSession.addPoint_ok added with ⟨-, rfl⟩ | ⟨-, rfl⟩
  · rw [pulled]
    rfl
  · have hpulled : (session.withPoint point).events = [] := pulled
    rw [events_recorded hpulled]
    have hsource : ((Dict.ofList (TrackingSession.pointPayload point)).get?
        "source_event_id").bind Json.text? = point.sourceEventId := by
      show (some (optional point.sourceEventId)).bind Json.text? = _
      cases point.sourceEventId <;> rfl
    show some (SessionPicture.mk session.status (session.points.map pointOf ++
      [(point.capturedAt.isoformat, point.source.value, ((Dict.ofList
        (TrackingSession.pointPayload point)).get? "source_event_id").bind Json.text?)])
      (session.version + 1) point.ingestedAt) = some (of _)
    rw [hsource]
    simp [of, TrackingSession.recorded, TrackingSession.withPoint, pointOf]

theorem heard_complete (pulled : session.events = [])
    (completed : (TrackingSession.complete ambient now).run session = .ok () changed) :
    changed.events.foldl hear (some (of session)) = some (of changed) := by
  obtain ⟨-, rfl⟩ := TrackingSession.complete_ok completed
  have hpulled : (session.closed .completed).events = [] := pulled
  rw [events_recorded hpulled]
  rfl

theorem heard_cancel {reason : String} (pulled : session.events = [])
    (cancelled : (TrackingSession.cancel ambient reason now).run session = .ok () changed) :
    changed.events.foldl hear (some (of session)) = some (of changed) := by
  obtain ⟨-, rfl⟩ := TrackingSession.cancel_ok cancelled
  have hpulled : (session.closed .cancelled).events = [] := pulled
  rw [events_recorded hpulled]
  rfl

end heard
end SessionPicture
end DispatchCore.Domain
