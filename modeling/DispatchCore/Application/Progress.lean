import DispatchCore.Application.Histories
import DispatchCore.Application.Interleaving
import DispatchCore.Application.Coupling
import DispatchCore.Domain.Lifecycle

/-! No order gets stuck: whatever the interleaving that led to it, an order that is not over
can be cancelled by one command, and completed by four at most. -/
namespace DispatchCore.Application

open DispatchCore.Library DispatchCore.Domain DispatchCore.Infrastructure

/-- Every stored order satisfies the lifecycle invariant. -/
def AllSound (orders : Dict Key WorkOrder) : Prop :=
  ∀ key order, orders.get? key = some order → Sound order

theorem sound_pulled {order : WorkOrder} (sound : Sound order) : Sound order.pullEvents.2 := by
  obtain ⟨assigned, unassigned, submitted, pooled, reported, evidence, interested⟩ := sound
  exact ⟨assigned, unassigned, submitted, pooled, reported, evidence, interested⟩

theorem AllSound.set {orders : Dict Key WorkOrder} (sound : AllSound orders) {order : WorkOrder}
    (fits : Sound order) (key : Key) : AllSound (orders.set key order.pullEvents.2) := by
  intro found stored h
  rw [Dict.get?_set] at h
  split at h
  · cases h
    exact sound_pulled fits
  · exact sound found stored h

section sound

variable {records after : Records}

theorem sound_createNewOrder (sound : AllSound records.orders) {ambient : Ambient}
    {orderId publicNumber : String} {creation : Creation}
    (h : Atomic.createNewOrder ambient orderId creation publicNumber records = .ok after) :
    AllSound after.orders := by
  obtain ⟨order, hmade, hcommit⟩ := except_bind_ok.mp h
  obtain ⟨-, -, rfl⟩ := (commit_order order none records after).mp hcommit
  exact sound.set (sound_create hmade).1 _

theorem sound_apply (valid : Valid records) (sound : AllSound records.orders) {answers : Answers}
    {command : Command} (h : command.apply answers records = .ok after) :
    AllSound after.orders := by
  have hcalls (key : Key) (call : Call) (asked : command.call? = some (key, call)) :
      AllSound after.orders := by
    obtain ⟨⟨order, ambient, hstored, henabled, horders⟩, -⟩ := apply_call valid asked h
    rw [horders]
    exact sound.set ((sound key order hstored).change henabled ambient none) key
  cases command with
  | createOrder ambient freshId orderId creation => exact sound_createNewOrder sound h
  | createOrderOnce ambient orderId creation =>
      change Atomic.createOrderOnce _ _ _ _ _ = _ at h
      unfold Atomic.createOrderOnce at h
      split at h
      · rename_i found hcreate
        cases h
        exact sound_createNewOrder sound hcreate
      · split at h
        · obtain ⟨existing, -, h⟩ := except_bind_ok.mp h
          obtain ⟨candidate, -, h⟩ := except_bind_ok.mp h
          split at h
          · obtain ⟨-, rfl⟩ := (commit_empty records after).mp h
            exact sound
          · contradiction
        · contradiction
  | recordLocation ambient report =>
      obtain ⟨session, -, h⟩ := except_bind_ok.mp h
      split at h
      · split at h
        · obtain ⟨-, rfl⟩ := (commit_empty records after).mp h
          exact sound
        · obtain ⟨point, -, h⟩ := except_bind_ok.mp h
          obtain ⟨changed, -, hcommit⟩ := except_bind_ok.mp h
          obtain ⟨-, -, rfl⟩ := (commit_session _ _ records after).mp hcommit
          exact sound
      · contradiction
  | change ambient organizationId orderId call plain => exact hcalls _ _ rfl
  | startTravel ambient sessionAmbient organizationId orderId freshId executorId sessionId =>
      exact hcalls _ _ rfl
  | completeOrder ambient sessionAmbient organizationId orderId executorId report =>
      exact hcalls _ _ rfl
  | cancelOrder ambient sessionAmbient organizationId orderId reason actorId =>
      exact hcalls _ _ rfl

end sound

/-- What every reachable store keeps. -/
structure Live (records : Records) : Prop extends Consistent records where
  coupled : Coupled records
  sound : AllSound records.orders

theorem live_empty : Live .empty :=
  ⟨consistent_empty, coupled_empty, fun key order h => by simp [Records.empty] at h⟩

theorem Live.apply {records after : Records} (live : Live records) {answers : Answers}
    {command : Command} (h : command.apply answers records = .ok after) : Live after :=
  have takes := apply_takes live.valid h
  ⟨⟨(takes.sound live.valid).1, (apply_orders live.valid h).2⟩,
    live.coupled.takes live.valid takes, sound_apply live.valid live.sound h⟩

theorem live_reached (commands : List Command) (schedule : List Nat) :
    Live ((launch commands).run schedule).state.toRecords := by
  obtain ⟨log, orderly⟩ :=
    (launch_orderly commands).run (fun hstep => poolStep_lawful hstep) schedule
  refine orderly.trace.invariant (fun store => Live store.toRecords) live_empty ?_ ?_
  · intro before after silent live
    change after.toRecords = before.toRecords at silent
    rwa [silent]
  · rintro index answers before after ⟨command, -, hstep⟩ live
    obtain ⟨records, happly, rfl⟩ := commitStep_iff.mp hstep
    exact live.apply happly

/-- So many commands at most, one after the other and each of them successful, leave records
with the property. -/
def Within (steps : Nat) (store : AsyncMemoryStore) (goal : Records → Prop) : Prop :=
  ∃ history : List (Command × Answers), history.length ≤ steps ∧
    ∃ final, replay history store = .ok final ∧ goal final.toRecords

section within

variable {store : AsyncMemoryStore} {goal : Records → Prop} {steps : Nat}

theorem Within.more (within : Within steps store goal) {most : Nat} (h : steps ≤ most) :
    Within most store goal := by
  obtain ⟨history, hlength, hreplay⟩ := within
  exact ⟨history, by omega, hreplay⟩

theorem Within.step {command : Command} {answers : Answers} {records : Records}
    (h : command.apply answers store.toRecords = .ok records)
    (rest : Within steps { store with toRecords := records } goal) :
    Within (steps + 1) store goal := by
  obtain ⟨history, hlength, final, hreplay, hgoal⟩ := rest
  refine ⟨(command, answers) :: history, by simpa using hlength, final, ?_, hgoal⟩
  rw [replay, alone_task, h]
  exact hreplay

theorem Within.last {command : Command} {answers : Answers} {records : Records}
    (h : command.apply answers store.toRecords = .ok records) (held : goal records) :
    Within 1 store goal :=
  Within.step h ⟨[], le_rfl, _, rfl, held⟩

end within

section commands

variable {records : Records} {key : Key} {order : WorkOrder}

theorem evidenceRequirements_change (ambient : Ambient) (call : Call) (order : WorkOrder) :
    (call.change ambient none order).evidenceRequirements = order.evidenceRequirements :=
  congrArg Origin.evidenceRequirements (originOf_change ambient none call order)

/-- A plain call goes through where it is enabled and takes nobody from another order. -/
theorem Live.change (live : Live records) (stored : records.orders.get? key = some order)
    (call : Call) (plain : Plain call) (enabled : call.Enabled order) (ambient : Ambient)
    (answers : Answers)
    (free : ∀ executor, UnitOfWork.occupies (call.change ambient none order) = some executor →
      FreeBut records key executor) :
    (Command.change ambient key.1 key.2 call plain).apply answers records =
      .ok (putOrder (call.change ambient none order) records) := by
  obtain ⟨hkey, -⟩ := live.valid.orderKeyed stored
  apply (change_ok live.valid).mpr
  refine ⟨order, stored, enabled, ?_, rfl⟩
  rw [capacity_put live.capacity, orderKey_change, hkey]
  exact free

theorem get?_putOrder_change (live : Live records)
    (stored : records.orders.get? key = some order) (ambient : Ambient) (call : Call) :
    (putOrder (call.change ambient none order) records).orders.get? key =
      some (call.change ambient none order).pullEvents.2 := by
  obtain ⟨hkey, -⟩ := live.valid.orderKeyed stored
  show (records.orders.set _ _).get? key = _
  rw [orderKey_change, hkey, Dict.get?_set_self]

/-- Whoever works on the order works on no other. -/
theorem Live.freeBut (live : Live records) (stored : records.orders.get? key = some order)
    {executor : Key} (occupied : UnitOfWork.occupies order = some executor) :
    FreeBut records key executor := by
  intro other found hne hfound hoccupies
  exact hne ((capacity_iff records).mp live.capacity other key found order executor hfound stored
    hoccupies occupied)

theorem occupies_of {order : WorkOrder} {executorId : String}
    (assignee : order.assigneeId = some executorId)
    (active : order.status ∈ UnitOfWork.activeStatuses) :
    UnitOfWork.occupies order = some (order.organizationId, executorId) := by
  simp [UnitOfWork.occupies, assignee, active]

theorem occupies_terminal {order : WorkOrder} (terminal : order.status ∈ terminalStatuses) :
    UnitOfWork.occupies order = none := by
  unfold UnitOfWork.occupies
  cases order.assigneeId with
  | none => rfl
  | some assigneeId =>
      apply if_neg
      revert terminal
      cases order.status <;> decide

/-- A closing call goes through, with the active session of the order if it has one, once the
session can be closed. -/
theorem Live.close (live : Live records) (stored : records.orders.get? key = some order)
    {call : Call} {status : TrackingStatus} (ends : closing call = some status)
    (enabled : call.Enabled order) (ambient : Ambient)
    {close : Method Failure TrackingSession Unit}
    (closes : ∀ session : TrackingSession, session.status = .active →
      ∃ closed, close.run session = .ok () closed ∧ sessionKey closed = sessionKey session) :
    ∃ after, Atomic.closeOrder key.1 key.2 (call.perform ambient none) close records = .ok after ∧
      after.orders.get? key = some (call.change ambient none order).pullEvents.2 := by
  obtain ⟨hkey, -⟩ := live.valid.orderKeyed stored
  have hget : records.getOrder key.1 key.2 = .ok order := getOrder_ok.mpr stored
  have hperformed : Atomic.outcome (call.perform ambient none) order =
      .ok (call.change ambient none order) :=
    outcome_ok.mpr ((Call.perform_ok ambient none call).mpr ⟨enabled, rfl⟩)
  have hversion : (records.orders.get? (orderKey (call.change ambient none order))).map
      WorkOrder.version = some order.version := by
    rw [orderKey_change, hkey, stored]
    rfl
  have hover : UnitOfWork.occupies (call.change ambient none order) = none := by
    apply occupies_terminal
    rcases status_change_of_closing ends ambient order with ⟨-, h⟩ | ⟨-, h⟩ <;>
    · rw [h]
      decide
  have hcapacity : Capacity (putOrder (call.change ambient none order) records) := by
    rw [capacity_put live.capacity, hover]
    simp
  have hfound := get?_putOrder_change live stored ambient call
  obtain ⟨active, hactive⟩ :=
    findActiveForOrder_never_raises live.valid live.coupled key.1 key.2
  cases active with
  | none =>
      refine ⟨putOrder (call.change ambient none order) records, ?_, hfound⟩
      apply except_bind_ok.mpr
      refine ⟨order, hget, except_bind_ok.mpr ⟨_, hperformed, except_bind_ok.mpr ⟨_, hactive, ?_⟩⟩⟩
      exact (commit_order _ _ _ _).mpr ⟨hversion, hcapacity, rfl⟩
  | some session =>
      rcases findActiveForOrder_ok.mp hactive with ⟨habsent, -⟩ | ⟨found, _, hsession, htracked⟩
      · contradiction
      cases hsession
      have hentry : (found, session) ∈ records.activeEntries key.1 key.2 := by
        rw [htracked]
        exact List.mem_singleton_self _
      obtain ⟨hmem, hfits⟩ := List.mem_filter.mp hentry
      have hopen : session.status = .active := by
        exact (of_decide_eq_true hfits).2.2
      have hheld : records.trackingSessions.get? found = some session :=
        (Dict.get?_eq_some _ _ _).mpr hmem
      obtain ⟨hsame, -⟩ := live.valid.sessionKeyed hheld
      obtain ⟨closed, hclosed, hclosedKey⟩ := closes session hopen
      refine ⟨putSession closed (putOrder (call.change ambient none order) records), ?_, hfound⟩
      apply except_bind_ok.mpr
      refine ⟨order, hget, except_bind_ok.mpr ⟨_, hperformed, except_bind_ok.mpr
        ⟨_, hactive, except_bind_ok.mpr ⟨closed, outcome_ok.mpr hclosed, ?_⟩⟩⟩⟩
      refine (commit_both _ _ _ _ _ _).mpr ⟨hversion, ?_, hcapacity, rfl⟩
      rw [hclosedKey, hsame, hheld]
      rfl

end commands

/-- An active session can be completed. -/
theorem complete_active (ambient : Ambient) (session : TrackingSession)
    (active : session.status = .active) :
    ∃ closed, (TrackingSession.complete ambient none).run session = .ok () closed ∧
      sessionKey closed = sessionKey session := by
  refine ⟨(session.closed .completed).recorded ambient .trackingCompleted
    [("point_count", .int session.pointCount)] none, ?_, rfl⟩
  simp [TrackingSession.complete, Method.bind_ok, -EStateM.run_bind, active,
    TrackingSession.record]

/-- An active session can be cancelled. -/
theorem cancel_active (ambient : Ambient) (reason : String) (session : TrackingSession)
    (active : session.status = .active) :
    ∃ closed, (TrackingSession.cancel ambient reason none).run session = .ok () closed ∧
      sessionKey closed = sessionKey session := by
  refine ⟨(session.closed .cancelled).recorded ambient .trackingCancelled
    [("reason", .str reason)] none, ?_, rfl⟩
  simp [TrackingSession.cancel, Method.bind_ok, -EStateM.run_bind, active,
    TrackingSession.record]

/-- Some report meets every requirement. -/
theorem exists_evidence (rules : EvidenceRequirements) :
    ∃ report, WorkOrder.missingEvidence rules report = [] := by
  refine ⟨⟨List.replicate rules.minimumPhotos.toNat "photo", some "done", some "signed",
    some "code"⟩, ?_⟩
  have hstrip : Text.strip "done" ≠ "" := by decide
  have hphotos : ¬((rules.minimumPhotos.toNat : Int) < rules.minimumPhotos) := by omega
  simp only [WorkOrder.missingEvidence, List.length_replicate, if_neg hphotos]
  simp [hstrip]

/-- The order is over with the status, and what the property says of it holds. -/
def Ends (key : Key) (property : WorkOrder → Prop) (records : Records) : Prop :=
  ∃ order, records.orders.get? key = some order ∧ property order

section stages

variable {store : AsyncMemoryStore} {key : Key} {order : WorkOrder} {executorId : String}
  {report : CompletionReport}

/-- The order was completed by the executor with the report. -/
structure Done (executorId : String) (report : CompletionReport) (order : WorkOrder) :
    Prop where
  completed : order.status = .completed
  assignee : order.assigneeId = some executorId
  reported : order.report = some report

/-- An order a named executor works on, which the report would complete. -/
structure Working (store : AsyncMemoryStore) (key : Key) (executorId : String)
    (report : CompletionReport) (order : WorkOrder) : Prop where
  live : Live store.toRecords
  stored : store.orders.get? key = some order
  assignee : order.assigneeId = some executorId
  evidence : WorkOrder.missingEvidence order.evidenceRequirements report = []

theorem Working.finish (working : Working store key executorId report order)
    (status : order.status = .inProgress) (ambient : Ambient) (answers : Answers) :
    Within 1 store (Ends key (Done executorId report)) := by
  obtain ⟨live, hstored, hassignee, hevidence⟩ := working
  have henabled : (Call.complete executorId report).Enabled order :=
    ⟨hassignee, status, hevidence⟩
  obtain ⟨after, happly, hafter⟩ :=
    live.close hstored rfl henabled ambient (complete_active ambient)
  have happly : (Command.completeOrder ambient ambient key.1 key.2 executorId report).apply answers
      store.toRecords = .ok after := happly
  exact .last happly ⟨_, hafter, rfl, hassignee, rfl⟩

/-- The executor takes the order on by a call that leaves it with them. -/
theorem Working.call (working : Working store key executorId report order) (call : Call)
    (plain : Plain call) (enabled : call.Enabled order) (ambient : Ambient) (answers : Answers)
    (active : order.status ∈ UnitOfWork.activeStatuses)
    (stays : (call.change ambient none order).assigneeId = some executorId) :
    ∃ records, (Command.change ambient key.1 key.2 call plain).apply answers store.toRecords =
        .ok records ∧
      Working { store with toRecords := records } key executorId report
        (call.change ambient none order).pullEvents.2 := by
  obtain ⟨live, hstored, hassignee, hevidence⟩ := working
  have happly := live.change hstored call plain enabled ambient answers (by
    intro executor hoccupies
    apply live.freeBut hstored
    rw [occupies_of hassignee active]
    unfold UnitOfWork.occupies at hoccupies
    rw [stays] at hoccupies
    simp only at hoccupies
    split at hoccupies
    · cases hoccupies
      have hkey := congrArg Prod.fst (orderKey_change ambient none call order)
      exact congrArg some (Prod.ext hkey.symm rfl)
    · contradiction)
  refine ⟨_, happly, live.apply happly, get?_putOrder_change live hstored ambient call, stays, ?_⟩
  show WorkOrder.missingEvidence (call.change ambient none order).evidenceRequirements report = []
  rw [evidenceRequirements_change]
  exact hevidence

theorem Working.start (working : Working store key executorId report order)
    (status : order.status ∈ [WorkOrderStatus.accepted, .enRoute]) (ambient : Ambient)
    (answers : Answers) : Within 2 store (Ends key (Done executorId report)) := by
  have hactive : order.status ∈ UnitOfWork.activeStatuses := by
    revert status
    cases order.status <;> decide
  obtain ⟨records, happly, hworking⟩ := working.call (.startWork executorId) trivial
    ⟨working.assignee, status⟩ ambient answers hactive working.assignee
  exact .step happly (hworking.finish rfl ambient answers)

theorem Working.accept (working : Working store key executorId report order)
    (status : order.status = .assigned) (ambient : Ambient) (answers : Answers) :
    Within 3 store (Ends key (Done executorId report)) := by
  have hactive : order.status ∈ UnitOfWork.activeStatuses := by
    rw [status]
    decide
  obtain ⟨records, happly, hworking⟩ := working.call (.accept executorId) trivial
    ⟨status, working.assignee⟩ ambient answers hactive working.assignee
  exact .step happly (hworking.start (List.mem_cons_self ..) ambient answers)

end stages

/-- The executor who may work on the order: its own, or for an order nobody is assigned to
anybody who works on no other order of the organization. -/
def MayWork (records : Records) (organizationId : String) (order : WorkOrder)
    (executorId : String) : Prop :=
  order.assigneeId = some executorId ∨
    order.assigneeId = none ∧ executorId ≠ "" ∧
      ∀ key busy, records.orders.get? key = some busy →
        UnitOfWork.occupies busy ≠ some (organizationId, executorId)

/-- An order nobody is assigned to waits. -/
theorem waiting_of_unassigned {order : WorkOrder} (sound : Sound order)
    (isOpen : order.status ∉ terminalStatuses) (unassigned : order.assigneeId = none) :
    order.status ∈ [WorkOrderStatus.submitted, .poolOpen] := by
  by_contra hbusy
  have hassigned : order.status ∈ assignedStatuses := by
    revert isOpen hbusy
    cases order.status <;> decide
  obtain ⟨executorId, hassignee, -⟩ := sound.assigned hassigned
  rw [unassigned] at hassignee
  contradiction

/-- An order somebody is assigned to is on the way to its completion. -/
theorem busy_of_assigned {order : WorkOrder} (sound : Sound order)
    (isOpen : order.status ∉ terminalStatuses) {executorId : String}
    (assigned : order.assigneeId = some executorId) :
    order.status = .assigned ∨ order.status ∈ [WorkOrderStatus.accepted, .enRoute] ∨
      order.status = .inProgress := by
  have hwaits : order.status ∉ [WorkOrderStatus.submitted, .poolOpen] := by
    intro hwaits
    rw [sound.unassigned hwaits] at assigned
    contradiction
  revert isOpen hwaits
  cases order.status <;> decide

theorem assigned_change (ambient : Ambient) (order : WorkOrder) (executorId : String)
    (actorId : Option String) :
    ((Call.assign executorId actorId).change ambient none order).status = .assigned ∧
      ((Call.assign executorId actorId).change ambient none order).assigneeId =
        some executorId := by
  have hbusy : ¬(Call.assign executorId actorId).Idle order := not_false
  unfold Call.change
  rw [if_neg hbusy, WorkOrder.recorded_status, WorkOrder.recorded_assigneeId]
  simp only [Call.writes]
  split <;> exact ⟨rfl, rfl⟩

section finish

variable {store : AsyncMemoryStore} {key : Key} {order : WorkOrder}

theorem Live.completes (live : Live store.toRecords) (stored : store.orders.get? key = some order)
    (isOpen : order.status ∉ terminalStatuses) {executorId : String} {report : CompletionReport}
    (evidence : WorkOrder.missingEvidence order.evidenceRequirements report = [])
    (may : MayWork store.toRecords key.1 order executorId) (ambient : Ambient)
    (answers : Answers) : Within 4 store (Ends key (Done executorId report)) := by
  have hsound : Sound order := live.sound key order stored
  rcases may with hassigned | ⟨hunassigned, hnamed, hfree⟩
  · have working : Working store key executorId report order :=
      ⟨live, stored, hassigned, evidence⟩
    rcases busy_of_assigned hsound isOpen hassigned with hstatus | hstatus | hstatus
    · exact (working.accept hstatus ambient answers).more (by omega)
    · exact (working.start hstatus ambient answers).more (by omega)
    · exact (working.finish hstatus ambient answers).more (by omega)
  · have henabled : (Call.assign executorId order.coordinatorId).Enabled order :=
      ⟨waiting_of_unassigned hsound isOpen hunassigned, .inr rfl, hnamed⟩
    obtain ⟨hstatus, hassignee⟩ := assigned_change ambient order executorId order.coordinatorId
    have happly := live.change stored (.assign executorId order.coordinatorId) trivial
      henabled ambient answers (by
        intro executor hoccupies other busy hne hbusy
        rw [occupies_of hassignee (by rw [hstatus]; decide)] at hoccupies
        cases hoccupies
        have hkey := congrArg Prod.fst (orderKey_change ambient none
          (.assign executorId order.coordinatorId) order)
        have horganization : ((Call.assign executorId order.coordinatorId).change ambient none
            order).organizationId = key.1 :=
          hkey.trans (congrArg Prod.fst (live.valid.orderKeyed stored).1)
        rw [horganization]
        exact hfree other busy hbusy)
    have working : Working { store with toRecords := _ } key executorId report _ :=
      ⟨live.apply happly, get?_putOrder_change live stored ambient _, hassignee, by
        show WorkOrder.missingEvidence (Call.change ambient none _ order).evidenceRequirements
          report = []
        rw [evidenceRequirements_change]
        exact evidence⟩
    exact .step happly (working.accept hstatus ambient answers)

theorem Live.cancels (live : Live store.toRecords) (stored : store.orders.get? key = some order)
    (isOpen : order.status ∉ terminalStatuses) {reason : String}
    (given : Text.strip reason ≠ "") (ambient : Ambient) (answers : Answers) :
    Within 1 store (Ends key fun ended => ended.status = .cancelled) := by
  have henabled : (Call.cancel reason order.coordinatorId).Enabled order :=
    ⟨isOpen, .inr rfl, Text.ne_empty_of_strip given, given⟩
  obtain ⟨after, happly, hafter⟩ :=
    live.close stored rfl henabled ambient (cancel_active ambient reason)
  have happly : (Command.cancelOrder ambient ambient key.1 key.2 reason order.coordinatorId).apply
      answers store.toRecords = .ok after := happly
  exact .last happly ⟨_, hafter, rfl⟩

end finish

end DispatchCore.Application
