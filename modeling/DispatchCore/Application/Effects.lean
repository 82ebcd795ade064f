import DispatchCore.Application.Ledger

/-! The effect of one command that commits: which order and which session it
writes, how they follow the stored ones, and that the books stay in order. -/
namespace DispatchCore.Application

open DispatchCore.Library DispatchCore.Domain DispatchCore.Infrastructure

def orderKey (order : WorkOrder) : Key := (order.organizationId, order.id)

def sessionKey (session : TrackingSession) : Key := (session.organizationId, session.id)

/-- Store an order and publish what it recorded. -/
def putOrder (order : WorkOrder) (records : Records) : Records :=
  { records with
    orders := records.orders.set (orderKey order) order.pullEvents.2
    outboxEvents := records.outboxEvents ++ order.events }

def putSession (session : TrackingSession) (records : Records) : Records :=
  { records with
    trackingSessions :=
      records.trackingSessions.set (sessionKey session) session.pullEvents.2
    outboxEvents := records.outboxEvents ++ session.events }

/-- No executor occupies two orders of an organization. -/
def Capacity (records : Records) : Prop :=
  UnitOfWork.checkOccupied [] records.orders.values = .ok ()

section commit

open UnitOfWork

theorem checkVersion_ok {α : Type} (version : α → Nat) (stored : Dict Key α) (key : Key)
    (expectedVersion : Option Nat) :
    checkVersion version stored key expectedVersion = .ok () ↔
      (stored.get? key).map version = expectedVersion := by
  unfold checkVersion
  cases expectedVersion with
  | none => cases stored.get? key <;> simp
  | some expected =>
      cases stored.get? key with
      | none => simp
      | some current =>
          by_cases h : version current = expected <;> simp [h]

theorem checkCollectionVersions_ok {α : Type} (version : α → Nat) (stored : Dict Key α)
    (staged : List (Key × α × Option Nat)) :
    checkCollectionVersions version stored staged = .ok () ↔
      ∀ entry ∈ staged, (stored.get? entry.1).map version = entry.2.2 := by
  induction staged with
  | nil => simp [checkCollectionVersions]
  | cons entry rest ih =>
      simp only [checkCollectionVersions, except_bind_ok, List.forall_mem_cons]
      constructor
      · rintro ⟨_, hfirst, hrest⟩
        exact ⟨(checkVersion_ok _ _ _ _).mp hfirst, ih.mp hrest⟩
      · rintro ⟨hfirst, hrest⟩
        exact ⟨(), (checkVersion_ok _ _ _ _).mpr hfirst, ih.mpr hrest⟩

theorem commit_ok (work : UnitOfWork) (records after : Records) :
    work.commit records = .ok after ↔
      (∀ entry ∈ work.stagedOrders.entries,
        (records.orders.get? entry.1).map WorkOrder.version = entry.2.2) ∧
      (∀ entry ∈ work.stagedTracking.entries,
        (records.trackingSessions.get? entry.1).map TrackingSession.version = entry.2.2) ∧
      Capacity after ∧
      after =
        { orders := records.orders.update work.orderWrites
          trackingSessions := records.trackingSessions.update work.trackingWrites
          outboxEvents := records.outboxEvents ++ work.stagedEvents } := by
  simp only [commit, checkVersions, checkExecutorCapacity, except_bind_ok]
  constructor
  · rintro ⟨_, ⟨_, horders, hsessions⟩, _, hcapacity, hafter⟩
    cases hafter
    exact ⟨(checkCollectionVersions_ok _ _ _).mp horders,
      (checkCollectionVersions_ok _ _ _).mp hsessions, hcapacity, rfl⟩
  · rintro ⟨horders, hsessions, hcapacity, rfl⟩
    exact ⟨(), ⟨(), (checkCollectionVersions_ok _ _ _).mpr horders,
      (checkCollectionVersions_ok _ _ _).mpr hsessions⟩, (), hcapacity, rfl⟩

theorem commit_empty (records after : Records) :
    UnitOfWork.empty.commit records = .ok after ↔ Capacity after ∧ after = records := by
  rw [commit_ok]
  constructor
  · rintro ⟨-, -, hcapacity, hafter⟩
    refine ⟨hcapacity, hafter.trans ?_⟩
    simp [UnitOfWork.empty, orderWrites, trackingWrites, Dict.empty]
  · rintro ⟨hcapacity, rfl⟩
    refine ⟨by simp [UnitOfWork.empty, Dict.empty], by simp [UnitOfWork.empty, Dict.empty],
      hcapacity, ?_⟩
    simp [UnitOfWork.empty, orderWrites, trackingWrites, Dict.empty]

theorem commit_order (order : WorkOrder) (expectedVersion : Option Nat)
    (records after : Records) :
    ((UnitOfWork.empty.stageOrder order expectedVersion).stageEvents order.events).commit
        records = .ok after ↔
      (records.orders.get? (orderKey order)).map WorkOrder.version = expectedVersion ∧
        Capacity after ∧ after = putOrder order records := by
  rw [commit_ok]
  simp [UnitOfWork.empty, stageOrder, stageEvents, orderWrites, trackingWrites, Dict.empty,
    Dict.set, Dict.assign, putOrder, orderKey]

theorem commit_session (session : TrackingSession) (expectedVersion : Option Nat)
    (records after : Records) :
    ((UnitOfWork.empty.stageTracking session expectedVersion).stageEvents
        session.events).commit records = .ok after ↔
      (records.trackingSessions.get? (sessionKey session)).map TrackingSession.version =
          expectedVersion ∧
        Capacity after ∧ after = putSession session records := by
  rw [commit_ok]
  simp [UnitOfWork.empty, stageTracking, stageEvents, orderWrites, trackingWrites, Dict.empty,
    Dict.set, Dict.assign, putSession, sessionKey]

theorem commit_both (order : WorkOrder) (session : TrackingSession)
    (orderVersion sessionVersion : Option Nat) (records after : Records) :
    (((UnitOfWork.empty.stageOrder order orderVersion).stageTracking session
        sessionVersion).stageEvents (order.events ++ session.events)).commit records =
          .ok after ↔
      (records.orders.get? (orderKey order)).map WorkOrder.version = orderVersion ∧
        (records.trackingSessions.get? (sessionKey session)).map TrackingSession.version =
          sessionVersion ∧
        Capacity after ∧ after = putSession session (putOrder order records) := by
  rw [commit_ok]
  simp [UnitOfWork.empty, stageOrder, stageTracking, stageEvents, orderWrites, trackingWrites,
    Dict.empty, Dict.set, Dict.assign, putOrder, putSession, orderKey, sessionKey]

end commit

/-! ### What stays with an order -/

/-- What a work order never loses: its names and the intent it was made with. -/
structure Origin where
  id : String
  publicNumber : String
  organizationId : String
  workType : String
  source : String
  details : Dict String Json
  requesterId : Option String
  evidenceRequirements : EvidenceRequirements

def originOf (order : WorkOrder) : Origin :=
  ⟨order.id, order.publicNumber, order.organizationId, order.workType, order.source,
    order.details, order.requesterId, order.evidenceRequirements⟩

theorem originOf_writes (call : Call) (instant : Instant) (order : WorkOrder) :
    originOf (call.writes instant order) = originOf order := by
  cases call
  case assign executorId actorId =>
    simp only [Call.writes]
    split <;> rfl
  case rejectAssignment executorId =>
    simp only [Call.writes]
    split <;> rfl
  all_goals rfl

theorem originOf_change (ambient : Ambient) (now : Option Instant) (call : Call)
    (order : WorkOrder) : originOf (call.change ambient now order) = originOf order := by
  unfold Call.change
  split
  · rfl
  · exact originOf_writes call _ order

theorem orderKey_change (ambient : Ambient) (now : Option Instant) (call : Call)
    (order : WorkOrder) : orderKey (call.change ambient now order) = orderKey order := by
  have horigin := originOf_change ambient now call order
  exact Prod.ext (congrArg Origin.organizationId horigin) (congrArg Origin.id horigin)

theorem sameSubmission_congr {left right : WorkOrder} (h : originOf left = originOf right)
    (candidate : WorkOrder) : sameSubmission left candidate = sameSubmission right candidate := by
  simp only [originOf, Origin.mk.injEq] at h
  obtain ⟨hid, -, horganization, htype, hsource, hdetails, hrequester, hevidence⟩ := h
  unfold sameSubmission
  rw [hid, horganization, htype, hsource, hdetails, hrequester, hevidence]

/-! ### Recorded values follow the stored ones -/

theorem follows_recordedOrder {order : WorkOrder} (written : WorkOrder)
    (pulled : order.events = []) (version : written.version = order.version)
    (events : written.events = order.events) (ambient : Ambient) (name : EventName)
    (payload : List (String × Json)) (now : Option Instant) :
    orderAggregate.Follows (some order) (written.recorded ambient name payload now) := by
  have hevents : (written.recorded ambient name payload now).events =
      [DomainEvent.create ambient written.organizationId .workOrder written.id
        (written.version + 1) name (Dict.ofList payload) (some (now.getD ambient.clock))] := by
    simp [WorkOrder.recorded, events, pulled]
  refine ⟨?_, ?_, ?_, ?_⟩
  · simp [orderAggregate, Aggregate.versionOf, hevents, Numbered, DomainEvent.create, version]
  · simp [orderAggregate, Aggregate.versionOf, hevents, version]
  · simp [orderAggregate, hevents, Owned, DomainEvent.create]
  · simp [orderAggregate, hevents]

theorem follows_change {order : WorkOrder} (pulled : order.events = []) (ambient : Ambient)
    (call : Call) :
    orderAggregate.Follows (some order) (call.change ambient none order) := by
  unfold Call.change
  split
  · refine ⟨?_, ?_, ?_, fun _ => rfl⟩
    · simp [orderAggregate, pulled, Numbered]
    · simp [orderAggregate, Aggregate.versionOf, pulled]
    · simp [orderAggregate, pulled]
  · exact follows_recordedOrder _ pulled (by simp) (by simp) _ _ _ _

/-- What a created order looks like. -/
structure Created (creation : Creation) (orderId : String) (order : WorkOrder) : Prop where
  named : orderKey order = (creation.organizationId, orderId)
  submitted : order.status = .submitted
  unassigned : order.assigneeId = none
  follows : orderAggregate.Follows none order

theorem creation_ok {creation : Creation} {ambient : Ambient} {orderId publicNumber : String}
    {order : WorkOrder} (h : creation.order ambient orderId publicNumber = .ok order) :
    Created creation orderId order := by
  unfold Creation.order WorkOrder.create at h
  simp only at h
  split at h
  · cases h
    refine ⟨rfl, rfl, rfl, ?_, rfl, ?_, ?_⟩
    · exact ⟨rfl, trivial⟩
    · simp [orderAggregate, WorkOrder.recorded, Owned, DomainEvent.create]
    · simp [orderAggregate, WorkOrder.recorded]
  · contradiction

theorem follows_recordedSession {session : TrackingSession} (written : TrackingSession)
    (pulled : session.events = []) (version : written.version = session.version) (events : written.events = session.events)
    (ambient : Ambient) (name : EventName) (payload : List (String × Json))
    (now : Option Instant) :
    sessionAggregate.Follows (some session) (written.recorded ambient name payload now) := by
  have hevents : (written.recorded ambient name payload now).events =
      [DomainEvent.create ambient written.organizationId .trackingSession written.id
        (written.version + 1) name (Dict.ofList payload) (some (now.getD ambient.clock))] := by
    simp [TrackingSession.recorded, events, pulled]
  refine ⟨?_, ?_, ?_, ?_⟩
  · simp [sessionAggregate, Aggregate.versionOf, hevents, Numbered, DomainEvent.create, version]
  · simp [sessionAggregate, Aggregate.versionOf, hevents, version]
  · simp [sessionAggregate, hevents, Owned, DomainEvent.create]
  · simp [sessionAggregate, hevents]

theorem follows_started {ambient : SessionAmbient}
    {sessionId organizationId workOrderId executorId : String} {session : TrackingSession}
    (started : TrackingSession.Started ambient sessionId organizationId workOrderId executorId
      session) : sessionAggregate.Follows none session := by
  obtain ⟨event, hevents, hversion, htype, horganization, hid⟩ := started.event
  refine ⟨?_, ?_, ?_, ?_⟩
  · simp [sessionAggregate, Aggregate.versionOf, hevents, Numbered, hversion]
  · simp [sessionAggregate, Aggregate.versionOf, hevents, started.first]
  · simp [sessionAggregate, hevents, Owned, htype, horganization, hid, started.named,
      started.within]
  · simp [sessionAggregate, hevents]

/-! ### One command, if it commits -/

/-- The books of the records are in order. -/
structure Valid (records : Records) : Prop where
  orders : orderAggregate.Ledger records.orders records.outboxEvents
  sessions : sessionAggregate.Ledger records.trackingSessions records.outboxEvents

theorem valid_empty : Valid .empty := by
  refine ⟨⟨?_, ?_, ?_⟩, ?_, ?_, ?_⟩ <;>
    simp [Records.empty, eventsOf, Numbered, Aggregate.versionOf]

theorem Valid.orderKeyed {records : Records} (valid : Valid records) {key : Key}
    {order : WorkOrder} (stored : records.orders.get? key = some order) :
    orderKey order = key ∧ order.events = [] :=
  valid.orders.keyed key order stored

theorem Valid.sessionKeyed {records : Records} (valid : Valid records) {key : Key}
    {session : TrackingSession} (stored : records.trackingSessions.get? key = some session) :
    sessionKey session = key ∧ session.events = [] :=
  valid.sessions.keyed key session stored

/-- The calls that end an order together with its active session, and the
status the session then gets. -/
def closing : Call → Option TrackingStatus
  | .complete _ _ => some .completed
  | .cancel _ _ => some .cancelled
  | _ => none

/-- The effect of a command that commits.  A command that starts a session
brings in `fresh` what it draws for it, and the order it is for. -/
inductive Takes (fresh : Option (SessionAmbient × Key)) (records : Records) : Records → Prop
  | nothing : Takes fresh records records
  | created {creation : Creation} {orderId : String} {order : WorkOrder}
      (made : Created creation orderId order)
      (absent : records.orders.get? (orderKey order) = none) :
      Takes fresh records (putOrder order records)
  | changed {order : WorkOrder} {call : Call} (ambient : Ambient)
      (stored : records.orders.get? (orderKey order) = some order) (plain : Plain call)
      (enabled : call.Enabled order) :
      Takes fresh records (putOrder (call.change ambient none order) records)
  | travelled {order : WorkOrder} {sessionAmbient : SessionAmbient}
      {sessionId executorId : String} {session : TrackingSession} (ambient : Ambient)
      (brought : fresh = some (sessionAmbient, orderKey order))
      (stored : records.orders.get? (orderKey order) = some order)
      (enabled : (Call.startTravel executorId).Enabled order)
      (started : session.Started sessionAmbient sessionId order.organizationId order.id
        executorId)
      (absent : records.trackingSessions.get? (sessionKey session) = none) :
      Takes fresh records
        (putSession session
          (putOrder ((Call.startTravel executorId).change ambient none order) records))
  | located {session changed : TrackingSession}
      (stored : records.trackingSessions.get? (sessionKey session) = some session)
      (follows : sessionAggregate.Follows (some session) changed)
      (same : sessionKey changed = sessionKey session ∧
        changed.workOrderId = session.workOrderId ∧
        changed.executorId = session.executorId ∧ changed.status = session.status ∧
        changed.publicToken = session.publicToken ∧
        changed.locationToken = session.locationToken) :
      Takes fresh records (putSession changed records)
  | closed {order : WorkOrder} {call : Call} {status : TrackingStatus} (ambient : Ambient)
      (stored : records.orders.get? (orderKey order) = some order)
      (ends : closing call = some status) (enabled : call.Enabled order)
      (untracked : records.activeEntries order.organizationId order.id = []) :
      Takes fresh records (putOrder (call.change ambient none order) records)
  | closedSession {order : WorkOrder} {call : Call} {status : TrackingStatus}
      {session changed : TrackingSession} (ambient : Ambient)
      (stored : records.orders.get? (orderKey order) = some order)
      (ends : closing call = some status) (enabled : call.Enabled order)
      (tracked : records.activeEntries order.organizationId order.id =
        [(sessionKey session, session)])
      (follows : sessionAggregate.Follows (some session) changed)
      (ended : sessionKey changed = sessionKey session ∧
        changed.workOrderId = session.workOrderId ∧
        changed.executorId = session.executorId ∧ changed.status = status ∧
        changed.publicToken = none ∧ changed.locationToken = none) :
      Takes fresh records
        (putSession changed (putOrder (call.change ambient none order) records))

/-- What a command draws for the session it starts, and the order it starts it
for. -/
def Command.starts? : Command → Option (SessionAmbient × Key)
  | .startTravel _ sessionAmbient organizationId orderId _ _ _ =>
      some (sessionAmbient, (organizationId, orderId))
  | _ => none

theorem outcome_ok {σ : Type} {method : Method Failure σ Unit} {object after : σ} :
    Atomic.outcome method object = .ok after ↔ method.run object = .ok () after := by
  unfold Atomic.outcome
  cases h : method.run object <;> simp

theorem getOrder_ok {records : Records} {organizationId orderId : String} {order : WorkOrder} :
    records.getOrder organizationId orderId = .ok order ↔
      records.orders.get? (organizationId, orderId) = some order := by
  unfold Records.getOrder
  cases records.orders.get? (organizationId, orderId) <;> simp

theorem getTracking_ok {records : Records} {organizationId sessionId : String}
    {session : TrackingSession} :
    records.getTracking organizationId sessionId = .ok session ↔
      records.trackingSessions.get? (organizationId, sessionId) = some session := by
  unfold Records.getTracking
  cases records.trackingSessions.get? (organizationId, sessionId) <;> simp

theorem findActiveForOrder_ok {records : Records} {organizationId orderId : String}
    {session : Option TrackingSession} :
    records.findActiveForOrder organizationId orderId = .ok session ↔
      (session = none ∧ records.activeEntries organizationId orderId = []) ∨
        ∃ key found, session = some found ∧
          records.activeEntries organizationId orderId = [(key, found)] := by
  unfold Records.findActiveForOrder
  rcases records.activeEntries organizationId orderId with _ | ⟨entry, _ | ⟨other, rest⟩⟩
  · cases session <;> simp
  · obtain ⟨key, found⟩ := entry
    cases session <;> simp [eq_comm]
  · simp

section takes

variable {fresh : Option (SessionAmbient × Key)} {records after : Records}

theorem takes_createNewOrder {ambient : Ambient} {orderId publicNumber : String}
    {creation : Creation}
    (h : Atomic.createNewOrder ambient orderId creation publicNumber records = .ok after) :
    Takes fresh records after := by
  obtain ⟨order, hmade, hcommit⟩ := except_bind_ok.mp h
  obtain ⟨habsent, -, rfl⟩ := (commit_order order none records after).mp hcommit
  exact .created (creation_ok hmade) (Option.map_eq_none_iff.mp habsent)

theorem takes_confirmSubmission {ambient : Ambient} {orderId : String} {creation : Creation}
    (h : Atomic.confirmSubmission ambient orderId creation records = .ok after) :
    Takes fresh records after := by
  obtain ⟨existing, -, h⟩ := except_bind_ok.mp h
  obtain ⟨candidate, -, h⟩ := except_bind_ok.mp h
  split at h
  · obtain ⟨-, rfl⟩ := (commit_empty records after).mp h
    exact .nothing
  · contradiction

theorem takes_createOrderOnce {ambient : Ambient} {orderId publicNumber : String}
    {creation : Creation}
    (h : Atomic.createOrderOnce ambient orderId creation publicNumber records = .ok after) :
    Takes fresh records after := by
  unfold Atomic.createOrderOnce at h
  split at h
  · rename_i found hcreate
    cases h
    exact takes_createNewOrder hcreate
  · split at h
    · exact takes_confirmSubmission h
    · contradiction

theorem takes_changeOrder (valid : Valid records) {ambient : Ambient}
    {organizationId orderId : String} {call : Call} (plain : Plain call)
    (h : Atomic.changeOrder organizationId orderId (call.perform ambient none) records =
      .ok after) : Takes fresh records after := by
  obtain ⟨order, hget, h⟩ := except_bind_ok.mp h
  obtain ⟨changed, houtcome, hcommit⟩ := except_bind_ok.mp h
  have hstored := getOrder_ok.mp hget
  obtain ⟨hkey, -⟩ := valid.orderKeyed hstored
  obtain ⟨enabled, rfl⟩ := (Call.perform_ok ambient none call).mp (outcome_ok.mp houtcome)
  obtain ⟨-, -, rfl⟩ := (commit_order _ _ records after).mp hcommit
  exact .changed ambient (hkey ▸ hstored) plain enabled

theorem takes_startTravel (valid : Valid records) {ambient : Ambient}
    {sessionAmbient : SessionAmbient} {organizationId orderId executorId sessionId : String}
    (brought : fresh = some (sessionAmbient, (organizationId, orderId)))
    (h : Atomic.startTravel ambient sessionAmbient organizationId orderId executorId sessionId
      records = .ok after) : Takes fresh records after := by
  obtain ⟨order, hget, h⟩ := except_bind_ok.mp h
  obtain ⟨changed, houtcome, h⟩ := except_bind_ok.mp h
  obtain ⟨session, hstart, hcommit⟩ := except_bind_ok.mp h
  have hstored := getOrder_ok.mp hget
  obtain ⟨hkey, -⟩ := valid.orderKeyed hstored
  obtain ⟨enabled, rfl⟩ :=
    (Call.perform_ok ambient none (.startTravel executorId)).mp (outcome_ok.mp houtcome)
  obtain ⟨-, habsent, -, rfl⟩ := (commit_both _ _ _ _ records after).mp hcommit
  have hstarted := TrackingSession.start_ok hstart
  obtain ⟨horganization, hid⟩ := Prod.ext_iff.mp hkey
  have hchangedId : ((Call.startTravel executorId).change ambient none order).id = order.id :=
    congrArg Prod.snd (orderKey_change ambient none (.startTravel executorId) order)
  rw [hchangedId, ← (show order.organizationId = organizationId from horganization)] at hstarted
  exact .travelled ambient (hkey ▸ brought) (hkey ▸ hstored) enabled hstarted
    (Option.map_eq_none_iff.mp habsent)

theorem takes_closeOrder (valid : Valid records) {ambient : Ambient}
    {organizationId orderId : String} {call : Call} {status : TrackingStatus}
    {close : Method Failure TrackingSession Unit} (ends : closing call = some status)
    (closes : ∀ session changed, close.run session = .ok () changed →
      ∃ sessionAmbient name payload, changed =
        (session.closed status).recorded sessionAmbient name payload none)
    (h : Atomic.closeOrder organizationId orderId (call.perform ambient none) close records =
      .ok after) : Takes fresh records after := by
  obtain ⟨order, hget, h⟩ := except_bind_ok.mp h
  obtain ⟨changed, houtcome, h⟩ := except_bind_ok.mp h
  obtain ⟨active, hactive, hcommit⟩ := except_bind_ok.mp h
  have hstored := getOrder_ok.mp hget
  obtain ⟨hkey, -⟩ := valid.orderKeyed hstored
  obtain ⟨horganization, hid⟩ := Prod.ext_iff.mp hkey
  simp only [orderKey] at horganization hid
  subst horganization hid
  obtain ⟨enabled, rfl⟩ := (Call.perform_ok ambient none call).mp (outcome_ok.mp houtcome)
  rcases findActiveForOrder_ok.mp hactive with ⟨rfl, huntracked⟩ | ⟨key, session, rfl, htracked⟩
  · obtain ⟨-, -, rfl⟩ := (commit_order _ _ records after).mp hcommit
    exact .closed ambient hstored ends enabled huntracked
  · obtain ⟨closed, hclosed, hcommit⟩ := except_bind_ok.mp hcommit
    obtain ⟨-, -, -, rfl⟩ := (commit_both _ _ _ _ records after).mp hcommit
    have hmem : (key, session) ∈ records.trackingSessions.entries := by
      have hfound : (key, session) ∈ records.activeEntries order.organizationId order.id := by
        rw [htracked]
        exact List.mem_singleton.mpr rfl
      exact (List.mem_filter.mp hfound).1
    obtain ⟨hsessionKey, hpulled⟩ :=
      valid.sessionKeyed ((Dict.get?_eq_some _ _ _).mpr hmem)
    subst hsessionKey
    obtain ⟨sessionAmbient, name, payload, rfl⟩ := closes _ _ (outcome_ok.mp hclosed)
    exact .closedSession ambient hstored ends enabled htracked
      (follows_recordedSession (session.closed status) hpulled rfl rfl _ _ _ _)
      ⟨rfl, rfl, rfl, rfl, rfl, rfl⟩

theorem takes_locate (valid : Valid records) {ambient : Ambient} {report : LocationReport}
    {session : TrackingSession}
    (stored : records.trackingSessions.get? (sessionKey session) = some session)
    (h : Atomic.locate ambient report session records = .ok after) :
    Takes fresh records after := by
  obtain ⟨point, -, h⟩ := except_bind_ok.mp h
  obtain ⟨changed, houtcome, hcommit⟩ := except_bind_ok.mp h
  obtain ⟨-, hpulled⟩ := valid.sessionKeyed stored
  obtain ⟨-, -, rfl⟩ := (commit_session _ _ records after).mp hcommit
  rcases TrackingSession.addPoint_ok (outcome_ok.mp houtcome) with ⟨-, rfl⟩ | ⟨-, rfl⟩
  · refine .located stored ⟨?_, ?_, ?_, fun _ => rfl⟩ ⟨rfl, rfl, rfl, rfl, rfl, rfl⟩
    · simp [sessionAggregate, hpulled, Numbered]
    · simp [sessionAggregate, Aggregate.versionOf, hpulled]
    · simp [sessionAggregate, hpulled]
  · exact .located stored
      (follows_recordedSession (session.withPoint point) hpulled rfl rfl _ _ _ _)
      ⟨rfl, rfl, rfl, rfl, rfl, rfl⟩

theorem takes_recordLocation (valid : Valid records) {ambient : Ambient}
    {report : LocationReport} {seen : Bool}
    (h : Atomic.recordLocation ambient report seen records = .ok after) :
    Takes fresh records after := by
  obtain ⟨session, hget, h⟩ := except_bind_ok.mp h
  have hstored := getTracking_ok.mp hget
  obtain ⟨hkey, -⟩ := valid.sessionKeyed hstored
  split at h
  · split at h
    · obtain ⟨-, rfl⟩ := (commit_empty records after).mp h
      exact .nothing
    · exact takes_locate valid (hkey ▸ hstored) h
  · contradiction

/-- Every command that commits has one of the effects. -/
theorem apply_takes (valid : Valid records) {answers : Answers} {command : Command}
    (h : command.apply answers records = .ok after) :
    Takes command.starts? records after := by
  cases command with
  | createOrder ambient freshId orderId creation => exact takes_createNewOrder h
  | createOrderOnce ambient orderId creation => exact takes_createOrderOnce h
  | change ambient organizationId orderId call plain => exact takes_changeOrder valid plain h
  | startTravel ambient sessionAmbient organizationId orderId freshId executorId sessionId =>
      exact takes_startTravel valid rfl h
  | recordLocation ambient report => exact takes_recordLocation valid h
  | completeOrder ambient sessionAmbient organizationId orderId executorId report =>
      refine takes_closeOrder valid
        (show closing (.complete executorId report) = some .completed from rfl) ?_ h
      intro session changed hrun
      exact ⟨_, _, _, (TrackingSession.complete_ok hrun).2⟩
  | cancelOrder ambient sessionAmbient organizationId orderId reason actorId =>
      refine takes_closeOrder valid
        (show closing (.cancel reason actorId) = some .cancelled from rfl) ?_ h
      intro session changed hrun
      exact ⟨_, _, _, (TrackingSession.cancel_ok hrun).2⟩

end takes
end DispatchCore.Application
