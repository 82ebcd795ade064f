import DispatchCore.Domain.Events

/-! Work orders: the aggregate, its checks and its twelve lifecycle methods.
Each method reads the clock and a fresh event id from its `Ambient`; what it
writes before raising stays written, as in the mutable object of the source. -/
namespace DispatchCore.Domain

open DispatchCore.Library

inductive PoolMode
  | curated
  | firstClaim
deriving DecidableEq, Repr

def PoolMode.value : PoolMode → String
  | curated => "curated"
  | firstClaim => "first_claim"

inductive PoolResponseStatus
  | interested
  | selected
  | rejected
  | withdrawn
deriving DecidableEq, Repr

def PoolResponseStatus.value : PoolResponseStatus → String
  | interested => "interested"
  | selected => "selected"
  | rejected => "rejected"
  | withdrawn => "withdrawn"

inductive WorkOrderStatus
  | submitted
  | poolOpen
  | assigned
  | accepted
  | enRoute
  | inProgress
  | completed
  | cancelled
deriving DecidableEq, Repr

def WorkOrderStatus.value : WorkOrderStatus → String
  | submitted => "submitted"
  | poolOpen => "pool_open"
  | assigned => "assigned"
  | accepted => "accepted"
  | enRoute => "en_route"
  | inProgress => "in_progress"
  | completed => "completed"
  | cancelled => "cancelled"

def terminalStatuses : List WorkOrderStatus := [.completed, .cancelled]

structure EvidenceRequirements where
  minimumPhotos : Int
  commentRequired : Bool
  signatureRequired : Bool
  customerCodeRequired : Bool
  nonNegative : 0 ≤ minimumPhotos
deriving DecidableEq

namespace EvidenceRequirements

theorem nonNegative_zero : (0 : Int) ≤ 0 := by decide

theorem nonNegative_of_not_negative {minimumPhotos : Int} (h : ¬minimumPhotos < 0) :
    0 ≤ minimumPhotos := by
  omega

def default : EvidenceRequirements := ⟨0, false, false, false, nonNegative_zero⟩

def make (minimumPhotos : Int) (commentRequired signatureRequired customerCodeRequired : Bool) :
    Except Failure EvidenceRequirements :=
  if h : minimumPhotos < 0 then
    .error (.valueError "minimum_photos cannot be negative")
  else
    .ok ⟨minimumPhotos, commentRequired, signatureRequired, customerCodeRequired,
      nonNegative_of_not_negative h⟩

end EvidenceRequirements

structure CompletionReport where
  photoRefs : List String
  comment : Option String
  signatureRef : Option String
  customerCode : Option String
deriving DecidableEq, Repr

structure PoolResponse where
  executorId : String
  status : PoolResponseStatus
  respondedAt : Instant
deriving DecidableEq, Repr

structure WorkOrder where
  id : String
  publicNumber : String
  organizationId : String
  workType : String
  source : String
  details : Dict String Json
  requesterId : Option String
  coordinatorId : Option String
  evidenceRequirements : EvidenceRequirements
  status : WorkOrderStatus
  poolMode : Option PoolMode
  assigneeId : Option String
  poolResponses : Dict String PoolResponse
  report : Option CompletionReport
  version : Nat
  createdAt : Instant
  updatedAt : Instant
  events : List DomainEvent
  required : id ≠ "" ∧ publicNumber ≠ "" ∧ organizationId ≠ "" ∧ workType ≠ ""

namespace WorkOrder

/-- The order after `_record`: one version more, and the event that carries it. -/
def recorded (ambient : Ambient) (name : EventName) (payload : List (String × Json))
    (now : Option Instant) (order : WorkOrder) : WorkOrder :=
  let instant := now.getD ambient.clock
  { order with
    version := order.version + 1
    updatedAt := instant
    events := order.events ++
      [DomainEvent.create ambient order.organizationId .workOrder order.id (order.version + 1)
        name (Dict.ofList payload) (some instant)] }

section recorded

variable (ambient : Ambient) (name : EventName) (payload : List (String × Json))
  (now : Option Instant) (order : WorkOrder)

@[simp] theorem recorded_id : (order.recorded ambient name payload now).id = order.id := rfl

@[simp] theorem recorded_organizationId :
    (order.recorded ambient name payload now).organizationId = order.organizationId := rfl

@[simp] theorem recorded_coordinatorId :
    (order.recorded ambient name payload now).coordinatorId = order.coordinatorId := rfl

@[simp] theorem recorded_evidenceRequirements :
    (order.recorded ambient name payload now).evidenceRequirements =
      order.evidenceRequirements := rfl

@[simp] theorem recorded_status :
    (order.recorded ambient name payload now).status = order.status := rfl

@[simp] theorem recorded_poolMode :
    (order.recorded ambient name payload now).poolMode = order.poolMode := rfl

@[simp] theorem recorded_assigneeId :
    (order.recorded ambient name payload now).assigneeId = order.assigneeId := rfl

@[simp] theorem recorded_poolResponses :
    (order.recorded ambient name payload now).poolResponses = order.poolResponses := rfl

@[simp] theorem recorded_report :
    (order.recorded ambient name payload now).report = order.report := rfl

@[simp] theorem recorded_version :
    (order.recorded ambient name payload now).version = order.version + 1 := rfl

theorem recorded_getD :
    order.recorded ambient name payload (some (now.getD ambient.clock)) =
      order.recorded ambient name payload now := rfl

end recorded

def record (ambient : Ambient) (name : EventName) (payload : List (String × Json))
    (now : Option Instant) : Method Failure WorkOrder Unit :=
  modify (recorded ambient name payload now)

def requireNotTerminal : Method Failure WorkOrder Unit := do
  let order ← get
  Method.require (order.status ∉ terminalStatuses)
    (.invalidTransition s!"work order is already {order.status.value}")

def requireCoordinatorIfPresent (actorId : Option String) : Method Failure WorkOrder Unit := do
  let order ← get
  Method.require (order.coordinatorId = none ∨ actorId = order.coordinatorId)
    (.invalidTransition "only the assigned coordinator may act")

def requireAssignee (executorId : String) : Method Failure WorkOrder Unit := do
  let order ← get
  Method.require (order.assigneeId = some executorId)
    (.invalidTransition "only the assigned executor may perform this action")

def requireExecutorId (executorId : String) : Method Failure WorkOrder Unit :=
  Method.require (executorId ≠ "") (.valueError "executor_id is required")

def requireStatus (allowed : List WorkOrderStatus) : Method Failure WorkOrder Unit := do
  let order ← get
  let choices := Text.join ", " (allowed.map WorkOrderStatus.value)
  Method.require (order.status ∈ allowed) (.invalidTransition
    s!"status {order.status.value} is not allowed; expected one of: {choices}")

def requirePoolMode (mode : PoolMode) : Method Failure WorkOrder Unit := do
  requireStatus [.poolOpen]
  let order ← get
  let found := (order.poolMode.map PoolMode.value).getD "None"
  Method.require (order.poolMode = some mode)
    (.invalidTransition s!"pool mode is {found}; expected {mode.value}")

/-- The evidence a report lacks, in the order it is checked. -/
def missingEvidence (rules : EvidenceRequirements) (report : CompletionReport) : List String :=
  (if (report.photoRefs.length : Int) < rules.minimumPhotos then
    [s!"at least {rules.minimumPhotos} photo(s)"] else []) ++
  (if rules.commentRequired ∧ Text.strip (report.comment.getD "") = "" then
    ["comment"] else []) ++
  (if rules.signatureRequired ∧ report.signatureRef.getD "" = "" then ["signature"] else []) ++
  (if rules.customerCodeRequired ∧ report.customerCode.getD "" = "" then
    ["customer code"] else [])

def validateReport (report : CompletionReport) : Method Failure WorkOrder Unit := do
  let order ← get
  let missing := missingEvidence order.evidenceRequirements report
  Method.require (missing = [])
    (.evidenceMissing ("missing completion evidence: " ++ Text.join ", " missing))

def respond (executorId : String) (status : PoolResponseStatus) (respondedAt : Instant)
    (order : WorkOrder) : WorkOrder :=
  { order with
    poolResponses := order.poolResponses.set executorId ⟨executorId, status, respondedAt⟩ }

def responseStatus (order : WorkOrder) (executorId : String) : Option PoolResponseStatus :=
  (order.poolResponses.get? executorId).map PoolResponse.status

/-- `_resolve_curated_responses`: the interested executor who was chosen is
selected, every other interested one is turned down. -/
def resolveCuratedResponses (selectedExecutorId : String) (instant : Instant)
    (order : WorkOrder) : WorkOrder :=
  { order with
    poolResponses := order.poolResponses.mapValues fun executorId response =>
      if response.status = .interested then
        ⟨executorId, if executorId = selectedExecutorId then .selected else .rejected, instant⟩
      else response }

section responses

variable (order : WorkOrder) (executorId other : String) (instant : Instant)

theorem responseStatus_respond (status : PoolResponseStatus) :
    (order.respond executorId status instant).responseStatus other =
      if other = executorId then some status else order.responseStatus other := by
  unfold respond responseStatus
  rw [Dict.get?_set]
  split <;> rfl

theorem responseStatus_resolveCuratedResponses :
    (order.resolveCuratedResponses executorId instant).responseStatus other =
      (order.responseStatus other).map fun status =>
        if status = .interested then
          if other = executorId then .selected else .rejected
        else status := by
  unfold resolveCuratedResponses responseStatus
  rw [Dict.get?_mapValues, Option.map_map, Option.map_map]
  congr 1
  funext response
  simp only [Function.comp_apply]
  split <;> rfl

theorem not_interested_resolveCuratedResponses :
    (order.resolveCuratedResponses executorId instant).responseStatus other ≠
      some .interested := by
  rw [responseStatus_resolveCuratedResponses]
  cases order.responseStatus other with
  | none => simp
  | some status =>
      simp only [Option.map_some, ne_eq, Option.some.injEq]
      split
      · split <;> simp
      · assumption

end responses

def create (ambient : Ambient) (orderId publicNumber organizationId workType source : String)
    (details : Dict String Json) (requesterId : Option String)
    (evidenceRequirements : Option EvidenceRequirements) (now : Option Instant) :
    Except Failure WorkOrder :=
  let instant := now.getD ambient.clock
  if required : orderId ≠ "" ∧ publicNumber ≠ "" ∧ organizationId ≠ "" ∧ workType ≠ "" then
    let order : WorkOrder :=
      { id := orderId
        publicNumber
        organizationId
        workType
        source
        details
        requesterId
        coordinatorId := none
        evidenceRequirements := evidenceRequirements.getD .default
        status := .submitted
        poolMode := none
        assigneeId := none
        poolResponses := .empty
        report := none
        version := 0
        createdAt := instant
        updatedAt := instant
        events := []
        required }
    .ok (order.recorded ambient .submitted
      [("public_number", .str publicNumber), ("source", .str source),
        ("requester_id", optional requesterId)] (some instant))
  else
    .error (.valueError "id, public_number, organization_id and work_type are required")

def claimCoordination (ambient : Ambient) (coordinatorId : String) (now : Option Instant) :
    Method Failure WorkOrder Unit := do
  requireNotTerminal
  Method.require (coordinatorId ≠ "") (.valueError "coordinator_id is required")
  let order ← get
  if order.coordinatorId = some coordinatorId then
    return
  Method.require (order.coordinatorId = none)
    (.invalidTransition "work order is coordinated by another actor")
  modify fun order => { order with coordinatorId := some coordinatorId }
  record ambient .coordinationClaimed [("coordinator_id", .str coordinatorId)] now

def publishPool (ambient : Ambient) (mode : PoolMode) (actorId : Option String)
    (now : Option Instant) : Method Failure WorkOrder Unit := do
  requireStatus [.submitted]
  requireCoordinatorIfPresent actorId
  modify fun order => { order with poolMode := some mode, status := .poolOpen }
  record ambient .poolPublished [("mode", .str mode.value), ("actor_id", optional actorId)] now

def expressInterest (ambient : Ambient) (executorId : String) (now : Option Instant) :
    Method Failure WorkOrder Unit := do
  requirePoolMode .curated
  requireExecutorId executorId
  let order ← get
  if order.responseStatus executorId = some .interested then
    return
  let instant := now.getD ambient.clock
  modify (respond executorId .interested instant)
  record ambient .poolInterestRecorded [("executor_id", .str executorId)] (some instant)

def withdrawInterest (ambient : Ambient) (executorId : String) (now : Option Instant) :
    Method Failure WorkOrder Unit := do
  requirePoolMode .curated
  let order ← get
  Method.require (order.responseStatus executorId = some .interested)
    (.invalidTransition "executor has no active interest")
  let instant := now.getD ambient.clock
  modify (respond executorId .withdrawn instant)
  record ambient .poolInterestWithdrawn [("executor_id", .str executorId)] (some instant)

def claimFirst (ambient : Ambient) (executorId : String) (now : Option Instant) :
    Method Failure WorkOrder Unit := do
  requirePoolMode .firstClaim
  requireExecutorId executorId
  let instant := now.getD ambient.clock
  modify fun order => { order with assigneeId := some executorId, status := .assigned }
  modify (respond executorId .selected instant)
  record ambient .firstClaimWon [("executor_id", .str executorId)] (some instant)

def assign (ambient : Ambient) (executorId : String) (actorId : Option String)
    (now : Option Instant) : Method Failure WorkOrder Unit := do
  requireStatus [.submitted, .poolOpen]
  requireCoordinatorIfPresent actorId
  requireExecutorId executorId
  let instant := now.getD ambient.clock
  modify fun order => { order with assigneeId := some executorId, status := .assigned }
  modify fun order =>
    if order.poolMode = some .curated then order.resolveCuratedResponses executorId instant
    else order
  record ambient .assigned [("executor_id", .str executorId), ("actor_id", optional actorId)]
    (some instant)

def accept (ambient : Ambient) (executorId : String) (now : Option Instant) :
    Method Failure WorkOrder Unit := do
  requireStatus [.assigned]
  requireAssignee executorId
  modify fun order => { order with status := .accepted }
  record ambient .accepted [("executor_id", .str executorId)] now

def rejectAssignment (ambient : Ambient) (executorId : String) (now : Option Instant) :
    Method Failure WorkOrder Unit := do
  requireStatus [.assigned]
  requireAssignee executorId
  let instant := now.getD ambient.clock
  modify fun order =>
    if order.poolResponses.contains executorId then order.respond executorId .withdrawn instant
    else order
  modify fun order =>
    { order with
      assigneeId := none
      status := if order.poolMode.isSome then .poolOpen else .submitted }
  record ambient .assignmentRejected [("executor_id", .str executorId)] (some instant)

def startTravel (ambient : Ambient) (executorId : String) (now : Option Instant) :
    Method Failure WorkOrder Unit := do
  requireAssignee executorId
  requireStatus [.accepted]
  modify fun order => { order with status := .enRoute }
  record ambient .travelStarted [("executor_id", .str executorId)] now

def startWork (ambient : Ambient) (executorId : String) (now : Option Instant) :
    Method Failure WorkOrder Unit := do
  requireAssignee executorId
  requireStatus [.accepted, .enRoute]
  modify fun order => { order with status := .inProgress }
  record ambient .started [("executor_id", .str executorId)] now

def complete (ambient : Ambient) (executorId : String) (report : CompletionReport)
    (now : Option Instant) : Method Failure WorkOrder Unit := do
  requireAssignee executorId
  requireStatus [.inProgress]
  validateReport report
  modify fun order => { order with report := some report, status := .completed }
  record ambient .completed
    [("executor_id", .str executorId), ("photo_count", .int report.photoRefs.length)] now

def cancel (ambient : Ambient) (reason : String) (actorId : Option String)
    (now : Option Instant) : Method Failure WorkOrder Unit := do
  requireNotTerminal
  requireCoordinatorIfPresent actorId
  Method.require (reason ≠ "" ∧ Text.strip reason ≠ "")
    (.valueError "cancellation reason is required")
  modify fun order => { order with status := .cancelled }
  record ambient .cancelled
    [("reason", .str (Text.strip reason)), ("actor_id", optional actorId)] now

def interestedExecutorIds (order : WorkOrder) : List String :=
  (order.poolResponses.entries.filter fun entry => entry.2.status = .interested).map Prod.fst

/-- `pull_events`: the recorded events, and the order without them. -/
def pullEvents (order : WorkOrder) : List DomainEvent × WorkOrder :=
  (order.events, { order with events := [] })

end WorkOrder
end DispatchCore.Domain
