import DispatchCore.Domain.WorkOrder

/-! The twelve methods as guarded changes.  A call either finds its guard
satisfied and applies one change, or raises and leaves the order alone; every
later argument about work orders starts from this reading. -/
namespace DispatchCore.Domain

open DispatchCore.Library

namespace WorkOrder

variable {before after : WorkOrder} {done : Unit}

@[simp] theorem requireNotTerminal_ok :
    requireNotTerminal.run before = .ok done after ↔
      before.status ∉ terminalStatuses ∧ before = after := by
  simp [requireNotTerminal, Method.bind_ok, -EStateM.run_bind, and_comm]

@[simp] theorem requireStatus_ok {allowed : List WorkOrderStatus} :
    (requireStatus allowed).run before = .ok done after ↔
      before.status ∈ allowed ∧ before = after := by
  simp [requireStatus, Method.bind_ok, -EStateM.run_bind, and_comm]

@[simp] theorem requireCoordinatorIfPresent_ok {actorId : Option String} :
    (requireCoordinatorIfPresent actorId).run before = .ok done after ↔
      (before.coordinatorId = none ∨ actorId = before.coordinatorId) ∧ before = after := by
  simp [requireCoordinatorIfPresent, Method.bind_ok, -EStateM.run_bind, and_comm]

@[simp] theorem requireAssignee_ok {executorId : String} :
    (requireAssignee executorId).run before = .ok done after ↔
      before.assigneeId = some executorId ∧ before = after := by
  simp [requireAssignee, Method.bind_ok, -EStateM.run_bind, and_comm]

@[simp] theorem requireExecutorId_ok {executorId : String} :
    (requireExecutorId executorId).run before = .ok done after ↔
      executorId ≠ "" ∧ before = after := by
  simp [requireExecutorId]

@[simp] theorem requirePoolMode_ok {mode : PoolMode} :
    (requirePoolMode mode).run before = .ok done after ↔
      (before.status = .poolOpen ∧ before.poolMode = some mode) ∧ before = after := by
  simp [requirePoolMode, Method.bind_ok, -EStateM.run_bind, and_assoc]

@[simp] theorem validateReport_ok {report : CompletionReport} :
    (validateReport report).run before = .ok done after ↔
      missingEvidence before.evidenceRequirements report = [] ∧ before = after := by
  simp [validateReport, Method.bind_ok, -EStateM.run_bind, and_comm]

@[simp] theorem record_ok {ambient : Ambient} {name : EventName}
    {payload : List (String × Json)} {now : Option Instant} :
    (record ambient name payload now).run before = .ok done after ↔
      before.recorded ambient name payload now = after := by
  simp [record]

theorem readOnly_requireNotTerminal : Method.ReadOnly requireNotTerminal :=
  Method.readOnly_get.bind fun _ => Method.readOnly_require _ _

theorem readOnly_requireStatus (allowed : List WorkOrderStatus) :
    Method.ReadOnly (requireStatus allowed) :=
  Method.readOnly_get.bind fun _ => Method.readOnly_require _ _

theorem readOnly_requireCoordinatorIfPresent (actorId : Option String) :
    Method.ReadOnly (requireCoordinatorIfPresent actorId) :=
  Method.readOnly_get.bind fun _ => Method.readOnly_require _ _

theorem readOnly_requireAssignee (executorId : String) :
    Method.ReadOnly (requireAssignee executorId) :=
  Method.readOnly_get.bind fun _ => Method.readOnly_require _ _

theorem readOnly_requireExecutorId (executorId : String) :
    Method.ReadOnly (requireExecutorId executorId) :=
  Method.readOnly_require _ _

theorem readOnly_requirePoolMode (mode : PoolMode) :
    Method.ReadOnly (requirePoolMode mode) :=
  (readOnly_requireStatus _).bind fun _ =>
    Method.readOnly_get.bind fun _ => Method.readOnly_require _ _

theorem readOnly_validateReport (report : CompletionReport) :
    Method.ReadOnly (validateReport report) :=
  Method.readOnly_get.bind fun _ => Method.readOnly_require _ _

theorem total_record (ambient : Ambient) (name : EventName) (payload : List (String × Json))
    (now : Option Instant) : Method.Total (record ambient name payload now) :=
  Method.total_modify _

end WorkOrder

/-- A call of a lifecycle method with its arguments. -/
inductive Call
  | claimCoordination (coordinatorId : String)
  | publishPool (mode : PoolMode) (actorId : Option String)
  | expressInterest (executorId : String)
  | withdrawInterest (executorId : String)
  | claimFirst (executorId : String)
  | assign (executorId : String) (actorId : Option String)
  | accept (executorId : String)
  | rejectAssignment (executorId : String)
  | startTravel (executorId : String)
  | startWork (executorId : String)
  | complete (executorId : String) (report : CompletionReport)
  | cancel (reason : String) (actorId : Option String)
deriving DecidableEq

namespace Call

def perform (ambient : Ambient) (now : Option Instant) : Call → Method Failure WorkOrder Unit
  | claimCoordination coordinatorId => WorkOrder.claimCoordination ambient coordinatorId now
  | publishPool mode actorId => WorkOrder.publishPool ambient mode actorId now
  | expressInterest executorId => WorkOrder.expressInterest ambient executorId now
  | withdrawInterest executorId => WorkOrder.withdrawInterest ambient executorId now
  | claimFirst executorId => WorkOrder.claimFirst ambient executorId now
  | assign executorId actorId => WorkOrder.assign ambient executorId actorId now
  | accept executorId => WorkOrder.accept ambient executorId now
  | rejectAssignment executorId => WorkOrder.rejectAssignment ambient executorId now
  | startTravel executorId => WorkOrder.startTravel ambient executorId now
  | startWork executorId => WorkOrder.startWork ambient executorId now
  | complete executorId report => WorkOrder.complete ambient executorId report now
  | cancel reason actorId => WorkOrder.cancel ambient reason actorId now

/-- Nobody coordinates the order, or the acting person does. -/
def MayAct (order : WorkOrder) (actorId : Option String) : Prop :=
  order.coordinatorId = none ∨ actorId = order.coordinatorId

instance (order : WorkOrder) (actorId : Option String) : Decidable (MayAct order actorId) :=
  inferInstanceAs (Decidable (_ ∨ _))

/-- The condition under which the call does not raise. -/
def Enabled (order : WorkOrder) : Call → Prop
  | claimCoordination coordinatorId =>
      order.status ∉ terminalStatuses ∧ coordinatorId ≠ "" ∧
        (order.coordinatorId = some coordinatorId ∨ order.coordinatorId = none)
  | publishPool _ actorId => order.status = .submitted ∧ MayAct order actorId
  | expressInterest executorId =>
      order.status = .poolOpen ∧ order.poolMode = some .curated ∧ executorId ≠ ""
  | withdrawInterest executorId =>
      order.status = .poolOpen ∧ order.poolMode = some .curated ∧
        order.responseStatus executorId = some .interested
  | claimFirst executorId =>
      order.status = .poolOpen ∧ order.poolMode = some .firstClaim ∧ executorId ≠ ""
  | assign executorId actorId =>
      order.status ∈ [WorkOrderStatus.submitted, .poolOpen] ∧ MayAct order actorId ∧
        executorId ≠ ""
  | accept executorId => order.status = .assigned ∧ order.assigneeId = some executorId
  | rejectAssignment executorId =>
      order.status = .assigned ∧ order.assigneeId = some executorId
  | startTravel executorId => order.assigneeId = some executorId ∧ order.status = .accepted
  | startWork executorId =>
      order.assigneeId = some executorId ∧
        order.status ∈ [WorkOrderStatus.accepted, .enRoute]
  | complete executorId report =>
      order.assigneeId = some executorId ∧ order.status = .inProgress ∧
        WorkOrder.missingEvidence order.evidenceRequirements report = []
  | cancel reason actorId =>
      order.status ∉ terminalStatuses ∧ MayAct order actorId ∧
        reason ≠ "" ∧ Text.strip reason ≠ ""

instance (order : WorkOrder) (call : Call) : Decidable (call.Enabled order) := by
  cases call <;> unfold Enabled <;> infer_instance

/-- The call asks for what already holds, and records nothing. -/
def Idle (order : WorkOrder) : Call → Prop
  | claimCoordination coordinatorId => order.coordinatorId = some coordinatorId
  | expressInterest executorId => order.responseStatus executorId = some .interested
  | _ => False

instance (order : WorkOrder) (call : Call) : Decidable (call.Idle order) := by
  cases call <;> unfold Idle <;> infer_instance

/-- The fields a call writes, before it records its event. -/
def writes (instant : Instant) (order : WorkOrder) : Call → WorkOrder
  | claimCoordination coordinatorId => { order with coordinatorId := some coordinatorId }
  | publishPool mode _ => { order with poolMode := some mode, status := .poolOpen }
  | expressInterest executorId => order.respond executorId .interested instant
  | withdrawInterest executorId => order.respond executorId .withdrawn instant
  | claimFirst executorId =>
      { order with assigneeId := some executorId, status := .assigned }.respond executorId
        .selected instant
  | assign executorId _ =>
      let chosen : WorkOrder :=
        { order with assigneeId := some executorId, status := .assigned }
      if chosen.poolMode = some .curated then chosen.resolveCuratedResponses executorId instant
      else chosen
  | accept _ => { order with status := .accepted }
  | rejectAssignment executorId =>
      let left : WorkOrder :=
        if order.poolResponses.contains executorId then
          order.respond executorId .withdrawn instant
        else order
      { left with
        assigneeId := none
        status := if left.poolMode.isSome then .poolOpen else .submitted }
  | startTravel _ => { order with status := .enRoute }
  | startWork _ => { order with status := .inProgress }
  | complete _ report => { order with report := some report, status := .completed }
  | cancel _ _ => { order with status := .cancelled }

def eventName : Call → EventName
  | claimCoordination _ => .coordinationClaimed
  | publishPool _ _ => .poolPublished
  | expressInterest _ => .poolInterestRecorded
  | withdrawInterest _ => .poolInterestWithdrawn
  | claimFirst _ => .firstClaimWon
  | assign _ _ => .assigned
  | accept _ => .accepted
  | rejectAssignment _ => .assignmentRejected
  | startTravel _ => .travelStarted
  | startWork _ => .started
  | complete _ _ => .completed
  | cancel _ _ => .cancelled

def payload : Call → List (String × Json)
  | claimCoordination coordinatorId => [("coordinator_id", .str coordinatorId)]
  | publishPool mode actorId => [("mode", .str mode.value), ("actor_id", optional actorId)]
  | assign executorId actorId =>
      [("executor_id", .str executorId), ("actor_id", optional actorId)]
  | complete executorId report =>
      [("executor_id", .str executorId), ("photo_count", .int report.photoRefs.length)]
  | cancel reason actorId =>
      [("reason", .str (Text.strip reason)), ("actor_id", optional actorId)]
  | expressInterest executorId => [("executor_id", .str executorId)]
  | withdrawInterest executorId => [("executor_id", .str executorId)]
  | claimFirst executorId => [("executor_id", .str executorId)]
  | accept executorId => [("executor_id", .str executorId)]
  | rejectAssignment executorId => [("executor_id", .str executorId)]
  | startTravel executorId => [("executor_id", .str executorId)]
  | startWork executorId => [("executor_id", .str executorId)]

/-- The order after an enabled call. -/
def change (ambient : Ambient) (now : Option Instant) (call : Call) (order : WorkOrder) :
    WorkOrder :=
  if call.Idle order then order
  else
    (call.writes (now.getD ambient.clock) order).recorded ambient call.eventName call.payload now

section writes

variable (call : Call) (instant : Instant) (order : WorkOrder)

/-- The fields no call touches before it records its event. -/
theorem writes_frame :
    (call.writes instant order).id = order.id ∧
      (call.writes instant order).organizationId = order.organizationId ∧
      (call.writes instant order).version = order.version ∧
      (call.writes instant order).events = order.events := by
  cases call
  case assign executorId actorId =>
    simp only [writes]
    split <;> simp [WorkOrder.resolveCuratedResponses]
  case rejectAssignment executorId =>
    simp only [writes]
    split <;> simp [WorkOrder.respond]
  all_goals simp [writes, WorkOrder.respond]

@[simp] theorem writes_id : (call.writes instant order).id = order.id :=
  (writes_frame call instant order).1

@[simp] theorem writes_organizationId :
    (call.writes instant order).organizationId = order.organizationId :=
  (writes_frame call instant order).2.1

@[simp] theorem writes_version : (call.writes instant order).version = order.version :=
  (writes_frame call instant order).2.2.1

@[simp] theorem writes_events : (call.writes instant order).events = order.events :=
  (writes_frame call instant order).2.2.2

end writes

/-- A call succeeds exactly when it is enabled, and then applies its change. -/
theorem perform_ok (ambient : Ambient) (now : Option Instant) (call : Call)
    {before after : WorkOrder} {done : Unit} :
    (call.perform ambient now).run before = .ok done after ↔
      call.Enabled before ∧ call.change ambient now before = after := by
  cases call
  case claimCoordination coordinatorId =>
    by_cases hsame : before.coordinatorId = some coordinatorId
    · simp [perform, WorkOrder.claimCoordination, Method.bind_ok, -EStateM.run_bind, Enabled,
        change, Idle, hsame, and_assoc]
    · simp [perform, WorkOrder.claimCoordination, Method.bind_ok, -EStateM.run_bind, Enabled,
        change, Idle, hsame, and_assoc, writes, payload, eventName]
  case expressInterest executorId =>
    by_cases hsame : before.responseStatus executorId = some .interested
    · simp [perform, WorkOrder.expressInterest, Method.bind_ok, -EStateM.run_bind, Enabled,
        change, Idle, hsame, and_assoc]
    · simp [perform, WorkOrder.expressInterest, Method.bind_ok, -EStateM.run_bind, Enabled,
        change, Idle, hsame, and_assoc, writes, payload, eventName, WorkOrder.recorded_getD]
  all_goals
    simp [perform, WorkOrder.publishPool, WorkOrder.withdrawInterest, WorkOrder.claimFirst,
      WorkOrder.assign, WorkOrder.accept, WorkOrder.rejectAssignment, WorkOrder.startTravel,
      WorkOrder.startWork, WorkOrder.complete, WorkOrder.cancel, Method.bind_ok,
      -EStateM.run_bind, Enabled, MayAct, change, Idle, and_assoc, writes, payload, eventName,
      WorkOrder.recorded_getD]

/-- Every method checks first and writes afterwards. -/
theorem perform_steady (ambient : Ambient) (now : Option Instant) (call : Call) :
    Method.Steady (call.perform ambient now) := by
  have writing (change : WorkOrder → WorkOrder) (name : EventName)
      (payload : List (String × Json)) (instant : Option Instant) :
      Method.Steady (do
        modify change
        WorkOrder.record ambient name payload instant : Method Failure WorkOrder Unit) :=
    ((Method.total_modify change).bind fun _ =>
      WorkOrder.total_record ambient name payload instant).steady
  have writingTwice (first second : WorkOrder → WorkOrder) (name : EventName)
      (payload : List (String × Json)) (instant : Option Instant) :
      Method.Steady (do
        modify first
        modify second
        WorkOrder.record ambient name payload instant : Method Failure WorkOrder Unit) :=
    ((Method.total_modify first).bind fun _ => (Method.total_modify second).bind fun _ =>
      WorkOrder.total_record ambient name payload instant).steady
  cases call with
  | claimCoordination coordinatorId =>
      refine .after_checks WorkOrder.readOnly_requireNotTerminal fun _ => ?_
      refine .after_checks (Method.readOnly_require _ _) fun _ => ?_
      refine .after_checks Method.readOnly_get fun order => ?_
      refine Method.steady_ite (fun _ => (Method.total_pure ()).steady) fun _ => ?_
      exact .after_checks (Method.readOnly_require _ _) fun _ => writing _ _ _ _
  | publishPool mode actorId =>
      refine .after_checks (WorkOrder.readOnly_requireStatus _) fun _ => ?_
      exact .after_checks (WorkOrder.readOnly_requireCoordinatorIfPresent _) fun _ =>
        writing _ _ _ _
  | expressInterest executorId =>
      refine .after_checks (WorkOrder.readOnly_requirePoolMode _) fun _ => ?_
      refine .after_checks (WorkOrder.readOnly_requireExecutorId _) fun _ => ?_
      refine .after_checks Method.readOnly_get fun order => ?_
      exact Method.steady_ite (fun _ => (Method.total_pure ()).steady) fun _ =>
        writing _ _ _ _
  | withdrawInterest executorId =>
      refine .after_checks (WorkOrder.readOnly_requirePoolMode _) fun _ => ?_
      refine .after_checks Method.readOnly_get fun order => ?_
      exact .after_checks (Method.readOnly_require _ _) fun _ => writing _ _ _ _
  | claimFirst executorId =>
      refine .after_checks (WorkOrder.readOnly_requirePoolMode _) fun _ => ?_
      exact .after_checks (WorkOrder.readOnly_requireExecutorId _) fun _ =>
        writingTwice _ _ _ _ _
  | assign executorId actorId =>
      refine .after_checks (WorkOrder.readOnly_requireStatus _) fun _ => ?_
      refine .after_checks (WorkOrder.readOnly_requireCoordinatorIfPresent _) fun _ => ?_
      exact .after_checks (WorkOrder.readOnly_requireExecutorId _) fun _ =>
        writingTwice _ _ _ _ _
  | accept executorId =>
      refine .after_checks (WorkOrder.readOnly_requireStatus _) fun _ => ?_
      exact .after_checks (WorkOrder.readOnly_requireAssignee _) fun _ => writing _ _ _ _
  | rejectAssignment executorId =>
      refine .after_checks (WorkOrder.readOnly_requireStatus _) fun _ => ?_
      exact .after_checks (WorkOrder.readOnly_requireAssignee _) fun _ =>
        writingTwice _ _ _ _ _
  | startTravel executorId =>
      refine .after_checks (WorkOrder.readOnly_requireAssignee _) fun _ => ?_
      exact .after_checks (WorkOrder.readOnly_requireStatus _) fun _ => writing _ _ _ _
  | startWork executorId =>
      refine .after_checks (WorkOrder.readOnly_requireAssignee _) fun _ => ?_
      exact .after_checks (WorkOrder.readOnly_requireStatus _) fun _ => writing _ _ _ _
  | complete executorId report =>
      refine .after_checks (WorkOrder.readOnly_requireAssignee _) fun _ => ?_
      refine .after_checks (WorkOrder.readOnly_requireStatus _) fun _ => ?_
      exact .after_checks (WorkOrder.readOnly_validateReport _) fun _ => writing _ _ _ _
  | cancel reason actorId =>
      refine .after_checks WorkOrder.readOnly_requireNotTerminal fun _ => ?_
      refine .after_checks (WorkOrder.readOnly_requireCoordinatorIfPresent _) fun _ => ?_
      exact .after_checks (Method.readOnly_require _ _) fun _ => writing _ _ _ _

theorem perform_error (ambient : Ambient) (now : Option Instant) (call : Call)
    {before after : WorkOrder} {failure : Failure}
    (h : (call.perform ambient now).run before = .error failure after) :
    ¬call.Enabled before ∧ after = before := by
  refine ⟨fun enabled => ?_, perform_steady ambient now call before failure after h⟩
  have hok : (call.perform ambient now).run before = .ok () _ :=
    (perform_ok ambient now call).mpr ⟨enabled, rfl⟩
  rw [h] at hok
  contradiction

/-- The order after a call that may have raised. -/
theorem final_perform (ambient : Ambient) (now : Option Instant) (call : Call)
    (order : WorkOrder) :
    (call.perform ambient now).final order =
      if call.Enabled order then call.change ambient now order else order := by
  unfold Method.final
  cases h : (call.perform ambient now).run order with
  | ok done after =>
      obtain ⟨enabled, hchange⟩ := (perform_ok ambient now call).mp h
      rw [if_pos enabled, hchange]
  | error failure after =>
      obtain ⟨disabled, hsame⟩ := perform_error ambient now call h
      rw [if_neg disabled]
      exact hsame

end Call
end DispatchCore.Domain
