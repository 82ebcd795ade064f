import DispatchCore.Application.OrderTransactions

/-! The transactions of the service that write a tracking session, alone or with its order. -/
namespace DispatchCore.Application

open DispatchCore.Library DispatchCore.Domain DispatchCore.Infrastructure Isolation

/-! ### What saving a session writes -/

/-- The row of a session, and its new points after those that are in the table. -/
def sessionWrites (session : TrackingSession) (persisted : Nat) (points : List TrackingPoint) :
    List StoreWrite :=
  .session (sessionKey session) (.ofSession session) ::
    pointWrites (sessionKey session) (persisted + 1) points

theorem sequenceNo_numberedPoints (key : Key) (start : Nat) (points : List TrackingPoint) :
    (PostgresTrackingRepository.numberedPoints key start points).map PointRow.sequenceNo =
      List.range' start points.length := by
  unfold PostgresTrackingRepository.numberedPoints
  have hsplit : (PointRow.sequenceNo ∘ fun entry : TrackingPoint × Nat =>
      PointRow.mk key (start + entry.2) entry.1) = (start + ·) ∘ Prod.snd := rfl
  rw [List.map_map, hsplit, ← List.map_map, List.zipIdx_map_snd, List.map_add_range']
  rfl

section written

variable (key : Key) (start : Nat) (points : List TrackingPoint) (tables : StoreTables)

theorem written_pointWrites : written (pointWrites key start points) tables =
    { tables with
      tracking := { tables.tracking with
        points := tables.tracking.points ++
          PostgresTrackingRepository.numberedPoints key start points } } := by
  unfold pointWrites
  by_cases hempty : points ≠ []
  · rw [if_pos hempty]
    rfl
  · rw [if_neg hempty, not_not.mp hempty]
    simp [written, PostgresTrackingRepository.numberedPoints]

theorem pointsOf_pointWrites (other : Key) :
    (written (pointWrites key start points) tables).tracking.pointsOf other =
      tables.tracking.pointsOf other ++
        if other = key then PostgresTrackingRepository.numberedPoints key start points else [] := by
  rw [written_pointWrites]
  show (tables.tracking.points ++ _).filter _ = _
  rw [List.filter_append]
  congr 1
  by_cases hsame : other = key
  · rw [if_pos hsame, hsame]
    apply List.filter_eq_self.mpr
    intro row hrow
    obtain ⟨entry, -, rfl⟩ := List.mem_map.mp hrow
    exact decide_eq_true rfl
  · rw [if_neg hsame]
    apply List.filter_eq_nil_iff.mpr
    intro row hrow
    obtain ⟨entry, -, rfl⟩ := List.mem_map.mp hrow
    simpa using Ne.symm hsame

end written

theorem tracking_sessionWrites (session : TrackingSession) (persisted : Nat)
    (points : List TrackingPoint) (tables : StoreTables) :
    (written (sessionWrites session persisted points) tables).tracking =
      ⟨tables.tracking.sessions.set (sessionKey session) (.ofSession session),
        tables.tracking.points ++ PostgresTrackingRepository.numberedPoints (sessionKey session)
          (persisted + 1) points⟩ := by
  show (written (pointWrites _ _ _) _).tracking = _
  rw [written_pointWrites]
  rfl

theorem tracking_orderWrites (order : WorkOrder) (tables : StoreTables) :
    (written (orderWrites order) tables).tracking = tables.tracking := by
  rw [written_orderWrites]

theorem tracking_eventWrites (events : List DomainEvent) (tables : StoreTables) :
    (written (eventWrites events) tables).tracking = tables.tracking := by
  unfold eventWrites
  by_cases hempty : events ≠ []
  · rw [if_pos hempty]
    rfl
  · rw [if_neg hempty]
    rfl

section writes

variable {session bare : TrackingSession} {persisted : Nat} {points : List TrackingPoint}
  {ids : List String} {held : List StoreLock} {before after : StoreTables}

theorem touches_sessionWrites (locked : .session (sessionKey session) ∈ held)
    (visits : session.status = .active →
      .order (session.organizationId, session.workOrderId) ∈ held ∨
        ∃ found, before.tracking.sessions.get? (sessionKey session) = some found ∧
          found.status = .active ∧ found.workOrderId = session.workOrderId) :
    Touches ids held before (written (sessionWrites session persisted points) before) :=
  (Touches.session (.ofSession session) locked visits).trans
    (touches_pointWrites locked _ _ _)

theorem Matching.putSessionWrites {records : Records}
    (matching : Matching records (storedRecords before)) (unpointed : Unpointed session bare)
    (persisted : Nat) (points : List TrackingPoint) :
    Matching { records with
        trackingSessions := records.trackingSessions.set (sessionKey bare) bare.pullEvents.2 }
      (storedRecords (written (sessionWrites session persisted points) before)) := by
  rw [unpointed.key]
  exact (matching.putSession unpointed.read).putPoints _ _ _

/-- The points of the session are counted on. -/
theorem StoreValid.put_session (valid : StoreValid before) (persisted : Nat)
    (points : List TrackingPoint) (live : Live (storedRecords after))
    (tracking : after.tracking =
      (written (sessionWrites session persisted points) before).tracking)
    (numbered : (before.tracking.pointsOf (sessionKey session)).map PointRow.sequenceNo =
      List.range' 1 persisted)
    (counted : session.pointCount = persisted + points.length) : StoreValid after := by
  have hpoints (key : Key) : after.tracking.pointsOf key = before.tracking.pointsOf key ++
      if key = sessionKey session then
        PostgresTrackingRepository.numberedPoints (sessionKey session) (persisted + 1) points
      else [] := by
    rw [tracking]
    exact pointsOf_pointWrites ..
  refine ⟨live, fun key => ?_⟩
  rw [hpoints, tracking, tracking_sessionWrites, counted_set, List.map_append, valid.numbered key]
  by_cases hsame : key = sessionKey session
  · rw [if_pos hsame, if_pos hsame, hsame, ← valid.numbered, numbered, sequenceNo_numberedPoints]
    show _ = List.range' 1 session.pointCount
    rw [counted, Nat.add_comm persisted 1, List.range'_append_1]
  · rw [if_neg hsame, if_neg hsame, List.map_nil, List.append_nil]

end writes

section commands

variable {commands : List Command} {distinct : (commands.flatMap Command.eventIds).Nodup}
  {index : Nat} {command : Command} {writes : List StoreWrite} {locks : List StoreLock}
  {tables : StoreTables}

/-- What a transaction writes that saves an order and its session, which has no new points. -/
theorem commits_both (mine : commands[index]? = some command) {order : WorkOrder}
    {session bare : TrackingSession} (unpointed : Unpointed session bare) (keyed : Keyed order)
    (locked : orderLocks order ⊆ locks) (sessionLocked : .session (sessionKey session) ∈ locks)
    (own : ∀ event ∈ order.events ++ session.events, event.eventId ∈ command.eventIds)
    (visits : session.status = .active →
      .order (session.organizationId, session.workOrderId) ∈ locks)
    {facts : StoreTables → Prop}
    (stable : (storeIsolation commands distinct).Stable index locks facts) (held : facts tables)
    (plain : ∀ ambient report, command ≠ .recordLocation ambient report)
    (does : ∀ now, StoreValid now → facts now →
      (now.tracking.pointsOf (sessionKey session)).map PointRow.sequenceNo =
          List.range' 1 session.pointCount ∧
        ∃ answers, command.apply answers (storedRecords now) =
          .ok (putSession bare (putOrder order (storedRecords now)))) :
    MayCommit commands distinct index (orderWrites order ++
      sessionWrites session session.pointCount [] ++ eventWrites (order.events ++ session.events))
      locks tables := by
  refine commits_of_facts mine stable held fun now hvalid hfacts => ?_
  obtain ⟨numbered, answers, happly⟩ := does now hvalid hfacts
  rw [written_append, written_append]
  refine ⟨?_, ⟨putSession bare (putOrder order (storedRecords now)), ?_, ?_⟩, fun live => ?_⟩
  · exact ((touches_orderWrites locked _).trans
      (touches_sessionWrites sessionLocked fun active => .inl (visits active))).trans
        (touches_eventWrites own _)
  · have hmatching := (((matching_refl hvalid.live.valid).putOrder keyed).putSessionWrites
      unpointed session.pointCount []).putEvents
        (order.events ++ session.events)
    rw [← unpointed.events, ← List.append_assoc] at hmatching
    rw [← unpointed.events]
    exact hmatching
  · cases command with
    | recordLocation ambient report => exact absurd rfl (plain ambient report)
    | createOrder | createOrderOnce | change | startTravel | completeOrder | cancelOrder =>
        exact ⟨answers, happly⟩
  · refine hvalid.put_session session.pointCount [] live ?_ numbered rfl
    rw [tracking_eventWrites, tracking_sessionWrites, tracking_sessionWrites, tracking_orderWrites]

theorem events_started {ambient : SessionAmbient}
    {sessionId organizationId orderId executorId : String} {session : TrackingSession}
    (h : TrackingSession.start ambient sessionId organizationId orderId executorId none none none =
      .ok session) : ∃ event, session.events = [event] ∧ event.eventId = ambient.eventId := by
  unfold TrackingSession.start at h
  simp only at h
  split at h
  · contradiction
  split at h
  · contradiction
  split at h
  · contradiction
  split at h
  · contradiction
  cases h
  exact ⟨_, rfl, rfl⟩

theorem unpointed_self {session : TrackingSession} (points : session.points = []) :
    Unpointed session session :=
  ⟨rfl, rfl, points, rfl⟩

theorem eventIds_nodup (distinct : (commands.flatMap Command.eventIds).Nodup)
    (mine : commands[index]? = some command) : command.eventIds.Nodup :=
  (List.nodup_flatMap.mp distinct).1 command (List.mem_of_getElem? mine)

/-- The events of an order and of a session, each with an id of its own. -/
theorem own_events {orderEvents sessionEvents : List DomainEvent} {orderId sessionId : String}
    (order : (∀ event ∈ orderEvents, event.eventId = orderId) ∧
      (orderEvents.map DomainEvent.eventId).Nodup)
    (session : ∃ event, sessionEvents = [event] ∧ event.eventId = sessionId)
    (nodup : [orderId, sessionId].Nodup) :
    (∀ event ∈ orderEvents ++ sessionEvents, event.eventId ∈ [orderId, sessionId]) ∧
      ((orderEvents ++ sessionEvents).map DomainEvent.eventId).Nodup := by
  obtain ⟨event, rfl, hid⟩ := session
  obtain ⟨hown, hnodup⟩ := order
  constructor
  · intro found hmem
    rcases List.mem_append.mp hmem with h | h
    · rw [hown found h]
      exact List.mem_cons_self ..
    · rw [List.mem_singleton.mp h, hid]
      exact List.mem_cons_of_mem _ (List.mem_singleton_self _)
  · rw [List.map_append, List.nodup_append]
    refine ⟨hnodup, List.nodup_singleton _, fun left hleft right hright hsame => ?_⟩
    obtain ⟨found, hmem, rfl⟩ := List.mem_map.mp hleft
    have hother : right = sessionId := (List.mem_singleton.mp hright).trans hid
    rw [hown found hmem, hother] at hsame
    simp [hsame] at nodup

theorem pendingPoints_nil {session : TrackingSession} (points : session.points = [])
    {persisted : Nat} {pending : List TrackingPoint}
    (h : (LoadedSession.mk session persisted).pendingPoints = .ok pending) : pending = [] := by
  unfold LoadedSession.pendingPoints at h
  simp only [points, List.drop_nil] at h
  split at h
  · contradiction
  · cases h
    rfl

/-- A new session for an order that is there. -/
theorem startTravel_ok {records : Records} (live : Live records) {ambient : Ambient}
    {sessionAmbient : SessionAmbient} {organizationId orderId executorId sessionId : String}
    {order : WorkOrder} {session : TrackingSession}
    (stored : records.orders.get? (organizationId, orderId) = some order)
    (enabled : (Call.startTravel executorId).Enabled order)
    (started : TrackingSession.start sessionAmbient sessionId organizationId
      ((Call.startTravel executorId).change ambient none order).id executorId none none none =
        .ok session)
    (absent : records.trackingSessions.get? (sessionKey session) = none)
    (free : ∀ executor, UnitOfWork.occupies ((Call.startTravel executorId).change ambient none
      order) = some executor → FreeBut records (organizationId, orderId) executor) :
    Atomic.startTravel ambient sessionAmbient organizationId orderId executorId sessionId records =
      .ok (putSession session
        (putOrder ((Call.startTravel executorId).change ambient none order) records)) := by
  have hkey := (orderKey_change ambient none (.startTravel executorId) order).trans
    (live.valid.orderKeyed stored).1
  have hperformed : Atomic.outcome (WorkOrder.startTravel ambient executorId none) order =
      .ok ((Call.startTravel executorId).change ambient none order) :=
    outcome_ok.mpr ((Call.perform_ok ambient none (.startTravel executorId)).mpr ⟨enabled, rfl⟩)
  apply except_bind_ok.mpr
  refine ⟨order, getOrder_ok.mpr stored, except_bind_ok.mpr ⟨_, hperformed,
    except_bind_ok.mpr ⟨session, started, (commit_both _ _ _ _ _ _).mpr ⟨?_, ?_, ?_, rfl⟩⟩⟩⟩
  · rw [hkey, stored]
    rfl
  · rw [absent]
    rfl
  · show Capacity (putOrder _ records)
    rw [capacity_put live.capacity, hkey]
    exact free

theorem keeps_startTravel {ambient : Ambient} {sessionAmbient : SessionAmbient}
    {organizationId orderId freshId executorId : String} {sessionId : Option String}
    (mine : commands[index]? = some (.startTravel ambient sessionAmbient organizationId orderId
      freshId executorId sessionId)) :
    StoreKeeps commands distinct index
      (fun _ writes locks tables => MayCommit commands distinct index writes locks tables)
      (Transacted.startTravel ambient sessionAmbient organizationId orderId executorId
        (AsyncDispatchService.orFresh sessionId freshId)) [] [] tables := by
  refine keeps_call (.startTravel executorId)
    fun order taken now hpulled hkeyed enabled hkey hreads => keeps_domain fun session hstart => ?_
  refine (keeps_saveChanged hreads _).bind fun _ after taken now h => ?_
  obtain ⟨rfl, hchanging⟩ := h
  have hsame : orderKey ((Call.startTravel executorId).change ambient none order) =
      (organizationId, orderId) := (orderKey_change ambient none _ order).trans hkey
  have hid : ((Call.startTravel executorId).change ambient none order).id = orderId :=
    (Prod.ext_iff.mp hsame).2
  obtain ⟨hpoints, hcount⟩ := TrackingSession.start_points hstart
  have hstarted := TrackingSession.start_ok hstart
  obtain ⟨hmine, hnodup⟩ := own_events
    (own_change hpulled ambient (.startTravel executorId)) (events_started hstart)
    (eventIds_nodup distinct mine)
  refine ((keeps_saveSession ⟨session, 0⟩ none fun found => ?_).frame hchanging.stable
    hchanging).bind fun _ after further now h => ?_
  · rw [tracking_orderWrites]
  obtain ⟨⟨hsession, row, points, hpending, rfl, habsent, rfl⟩, hfurther, hchanging⟩ := h
  cases pendingPoints_nil hpoints hpending
  have hthere := hchanging.more hfurther
  refine ((keeps_addEvents mine hmine hnodup fun found => ?_).frame
    (hthere.stable.and (stable_row hsession none)) ⟨hthere, habsent⟩).bind
      fun _ after last final h => ?_
  · rw [written_append, written_orderWrites]
    rfl
  obtain ⟨rfl, hmost, hthere, habsent⟩ := h
  have hlast := hthere.more hmost
  have hwrites : MayCommit commands distinct index _ _ _ := commits_both mine
    (unpointed_self hpoints)
    (keyed_change hkeyed ambient (.startTravel executorId)) hlast.taken (hmost hsession) hmine ?_
    (hlast.stable.and (stable_row (hmost hsession) none)) ⟨hlast, habsent⟩
    (fun _ _ h => by contradiction) ?_
  · rw [hcount] at hwrites
    exact hwrites
  · intro _
    rw [hstarted.within, hstarted.visits, hid]
    exact hlast.locked
  · rintro now hnow ⟨hchanging, habsent⟩
    have hnone : now.tracking.pointsOf (sessionKey session) = [] := hnow.owned _ habsent
    refine ⟨?_, ⟨"", false⟩, startTravel_ok hnow.live hchanging.stored enabled hstart ?_
      (hchanging.free hsame)⟩
    · rw [hnone, hcount]
      rfl
    · rw [storedSession_eq]
      show (now.tracking.sessions.get? (loadedKey ⟨session, 0⟩)).map _ = none
      rw [habsent]
      rfl

/-! ### Closing an order -/

/-- What a session must be to be closed, and what is left of it. -/
def ClosesAs (close : Method Failure TrackingSession Unit) (ambient : Ambient)
    (status : TrackingStatus) (name : EventName) (payload : Nat → List (String × Json)) : Prop :=
  ∀ session closed, close.run session = .ok () closed ↔ session.status = .active ∧
    closed = (session.closed status).recorded ambient name (payload session.pointCount) none

theorem closesAs_complete (ambient : Ambient) :
    ClosesAs (TrackingSession.complete ambient none) ambient .completed .trackingCompleted
      fun pointCount => [("point_count", .int pointCount)] := by
  refine fun session closed => ⟨TrackingSession.complete_ok, fun h => ?_⟩
  obtain ⟨active, rfl⟩ := h
  obtain ⟨closed, hclosed, -⟩ := complete_active ambient session active
  rw [hclosed, (TrackingSession.complete_ok hclosed).2]

theorem closesAs_cancel (ambient : Ambient) (reason : String) :
    ClosesAs (TrackingSession.cancel ambient reason none) ambient .cancelled .trackingCancelled
      fun _ => [("reason", .str reason)] := by
  refine fun session closed => ⟨TrackingSession.cancel_ok, fun h => ?_⟩
  obtain ⟨active, rfl⟩ := h
  obtain ⟨closed, hclosed, -⟩ := cancel_active ambient reason session active
  rw [hclosed, (TrackingSession.cancel_ok hclosed).2]

section close

variable {records : Records} {ambient sessionAmbient : Ambient} {organizationId orderId : String}
  {call : Call} {order : WorkOrder} {close : Method Failure TrackingSession Unit}

/-- An order that nobody is on the way to is closed alone. -/
theorem closeOrder_untracked (live : Live records)
    (stored : records.orders.get? (organizationId, orderId) = some order)
    (enabled : call.Enabled order)
    (free : ∀ executor, UnitOfWork.occupies (call.change ambient none order) = some executor →
      FreeBut records (organizationId, orderId) executor)
    (untracked : records.activeEntries organizationId orderId = []) :
    Atomic.closeOrder organizationId orderId (call.perform ambient none) close records =
      .ok (putOrder (call.change ambient none order) records) := by
  have hkey := (orderKey_change ambient none call order).trans
    (live.valid.orderKeyed stored).1
  have hperformed : Atomic.outcome (call.perform ambient none) order =
      .ok (call.change ambient none order) :=
    outcome_ok.mpr ((Call.perform_ok ambient none call).mpr ⟨enabled, rfl⟩)
  apply except_bind_ok.mpr
  refine ⟨order, getOrder_ok.mpr stored, except_bind_ok.mpr ⟨_, hperformed, except_bind_ok.mpr
    ⟨none, findActiveForOrder_ok.mpr (.inl ⟨rfl, untracked⟩),
      (commit_order _ _ _ _).mpr ⟨?_, ?_, rfl⟩⟩⟩⟩
  · rw [hkey, stored]
    rfl
  · rw [capacity_put live.capacity, hkey]
    exact free

/-- An order is closed with the session that is on the way to it. -/
theorem closeOrder_tracked (live : Live records)
    (stored : records.orders.get? (organizationId, orderId) = some order)
    (enabled : call.Enabled order)
    (free : ∀ executor, UnitOfWork.occupies (call.change ambient none order) = some executor →
      FreeBut records (organizationId, orderId) executor)
    (session : TrackingSession) {closed : TrackingSession}
    (held : records.trackingSessions.get? (sessionKey session) = some session)
    (visits : visitKey session = (organizationId, orderId)) (active : session.status = .active)
    (closes : close.run session = .ok () closed) (same : sessionKey closed = sessionKey session) :
    Atomic.closeOrder organizationId orderId (call.perform ambient none) close records =
      .ok (putSession closed (putOrder (call.change ambient none order) records)) := by
  have horder := (live.valid.orderKeyed stored).1
  have hkey := (orderKey_change ambient none call order).trans horder
  have hperformed : Atomic.outcome (call.perform ambient none) order =
      .ok (call.change ambient none order) :=
    outcome_ok.mpr ((Call.perform_ok ambient none call).mpr ⟨enabled, rfl⟩)
  have hmem : (sessionKey session, session) ∈ records.activeEntries organizationId orderId := by
    have hactive := mem_activeEntries live.valid held (visits.trans horder.symm) active
    simp only [orderKey, Prod.mk.injEq] at horder
    rw [horder.1, horder.2] at hactive
    exact hactive
  have hfound : records.findActiveForOrder organizationId orderId = .ok (some session) := by
    obtain ⟨found, hfound⟩ :=
      findActiveForOrder_never_raises live.valid live.coupled organizationId orderId
    rcases findActiveForOrder_ok.mp hfound with ⟨-, hnone⟩ | ⟨key, other, rfl, honly⟩
    · rw [hnone] at hmem
      exact absurd hmem List.not_mem_nil
    · rw [honly] at hmem
      cases List.mem_singleton.mp hmem
      exact hfound
  apply except_bind_ok.mpr
  refine ⟨order, getOrder_ok.mpr stored, except_bind_ok.mpr ⟨_, hperformed, except_bind_ok.mpr
    ⟨some session, hfound, except_bind_ok.mpr ⟨closed, outcome_ok.mpr closes,
      (commit_both _ _ _ _ _ _).mpr ⟨?_, ?_, ?_, rfl⟩⟩⟩⟩⟩
  · rw [hkey, stored]
    rfl
  · rw [same, held]
    rfl
  · show Capacity (putOrder _ records)
    rw [capacity_put live.capacity, hkey]
    exact free

end close

theorem activeEntries_of_unvisited {organizationId orderId : String}
    (unvisited : Unvisited (organizationId, orderId) tables) :
    (storedRecords tables).activeEntries organizationId orderId = [] := by
  apply List.filter_eq_nil_iff.mpr
  rintro ⟨key, session⟩ hmem hactive
  obtain ⟨horganization, horder, hopen⟩ := of_decide_eq_true hactive
  have hstored : (storedRecords tables).trackingSessions.get? key = some session :=
    (Dict.get?_eq_some _ _ _).mpr hmem
  rw [storedSession_eq] at hstored
  obtain ⟨row, hrow, rfl⟩ := Option.map_eq_some_iff.mp hstored
  exact unvisited key row hrow hopen (Prod.ext horganization horder)

theorem pendingPoints_counted {loaded : LoadedSession} {pending : List TrackingPoint}
    (counted : loaded.session.pointCount = loaded.persisted)
    (h : loaded.pendingPoints = .ok pending) : pending = [] := by
  unfold LoadedSession.pendingPoints at h
  simp only [counted, Nat.sub_self, Nat.sub_zero, List.drop_length] at h
  split at h
  · contradiction
  · cases h
    rfl

/-- A session that was read under its lock is closed in its row. -/
theorem closed_of_reads {close : Method Failure TrackingSession Unit} {sessionAmbient : Ambient}
    {status : TrackingStatus} {name : EventName} {payload : Nat → List (String × Json)}
    (closes : ClosesAs close sessionAmbient status name payload) {key : Key}
    {loaded : LoadedSession} {row : SessionRow} (reads : ReadsSession key loaded row locks tables)
    {closed : TrackingSession} (h : close.run loaded.session = .ok () closed) :
    closed.status = status ∧ closed.pointCount = row.pointCount ∧
      (∃ event, closed.events = [event] ∧ event.eventId = sessionAmbient.eventId) ∧
      SessionRow.ofSession closed =
        { SessionRow.ofSession closed with createdAt := row.createdAt } ∧
      ∃ bare, Unpointed closed bare ∧ close.run (rowSession key row) = .ok () bare ∧
        sessionKey bare = key := by
  obtain ⟨-, -, ⟨latest, rfl⟩, counted⟩ := reads
  obtain ⟨active, rfl⟩ := (closes _ _).mp h
  refine ⟨rfl, counted, ⟨_, rfl, rfl⟩, rfl, ((rowSession key row).closed status).recorded
    sessionAmbient name (payload (rowSession key row).pointCount) none, ?_,
    (closes _ _).mpr ⟨active, rfl⟩, rfl⟩
  rw [pointCount_rowSession, counted]
  exact ((Unpointed.loaded counted).closed status).recorded sessionAmbient name _ none

/-- The closed session is saved with its order. -/
theorem keeps_closeVisit (mine : commands[index]? = some command)
    {ambient sessionAmbient : Ambient} {organizationId orderId sessionId : String} {call : Call}
    {order : WorkOrder} (pulled : order.events = []) (keyed : Keyed order)
    (enabled : call.Enabled order) (named : orderKey order = (organizationId, orderId))
    (changing : Changing (organizationId, orderId) order (call.change ambient none order) locks
      tables)
    {close : Method Failure TrackingSession Unit} {status : TrackingStatus} {name : EventName}
    {payload : Nat → List (String × Json)}
    (closes : ClosesAs close sessionAmbient status name payload) (ended : status ≠ .active)
    (own : command.eventIds = [ambient.eventId, sessionAmbient.eventId])
    (plain : ∀ ambient report, command ≠ .recordLocation ambient report)
    (does : ∀ answers records, command.apply answers records =
      Atomic.closeOrder organizationId orderId (call.perform ambient none) close records)
    {loaded : LoadedSession} {row : SessionRow}
    (reads : ReadsSession (organizationId, sessionId) loaded row locks tables)
    (active : row.status = .active) (visits : row.workOrderId = orderId)
    {closed : TrackingSession} (h : close.run loaded.session = .ok () closed)
    (answer : WorkOrder) :
    StoreKeeps commands distinct index
      (fun _ writes locks tables => MayCommit commands distinct index writes locks tables)
      (PostgresTrackingRepository.save { loaded with session := closed }
          (some loaded.session.version) >>= fun _ =>
        PostgresOutbox.add ((call.change ambient none order).pullEvents.1 ++ closed.pullEvents.1)
          >>= fun _ => (pure answer : Transaction WorkOrder))
      (orderWrites (call.change ambient none order)) locks tables := by
  obtain ⟨hstatus, hcount, hevents, hrow, bare, hunpointed, hbare, hbareKey⟩ :=
    closed_of_reads closes reads h
  have hclosedKey : sessionKey closed = (organizationId, sessionId) :=
    hunpointed.key.symm.trans hbareKey
  have hsame : orderKey (call.change ambient none order) = (organizationId, orderId) :=
    (orderKey_change ambient none call order).trans named
  have hids := eventIds_nodup distinct mine
  rw [own] at hids
  obtain ⟨hmine, hnodup⟩ := own_events (own_change pulled ambient call) hevents hids
  rw [← own] at hmine
  refine ((keeps_saveSession ⟨closed, loaded.persisted⟩ _ fun found => ?_).frame
    (changing.stable.and (stable_row reads.locked (some row))) ⟨changing, reads.stored⟩).bind
      fun _ after yet now h => ?_
  · rw [tracking_orderWrites]
  obtain ⟨⟨hsession, saved, points, hpending, rfl, found, hfound, -, rfl⟩, hyet, hthere, hheld⟩ := h
  have hfoundRow : found = row := by
    change now.tracking.sessions.get? (sessionKey closed) = some found at hfound
    rw [hclosedKey, hheld] at hfound
    exact (Option.some.inj hfound).symm
  subst hfoundRow
  have hpersisted : loaded.persisted = closed.pointCount := by
    obtain ⟨latest, rfl⟩ := reads.loads
    exact hcount.symm
  cases pendingPoints_counted hpersisted.symm hpending
  rw [← hrow]
  have hmore := hthere.more hyet
  have hlocked := hyet reads.locked
  refine ((keeps_addEvents mine hmine hnodup fun tables => ?_).frame
    (hmore.stable.and (stable_row hlocked (some found))) ⟨hmore, hheld⟩).bind
      fun _ after last final h => ?_
  · rw [written_append, written_orderWrites]
    rfl
  obtain ⟨rfl, hmost, hthere, hheld⟩ := h
  have hlast := hthere.more hmost
  have hwrites : MayCommit commands distinct index _ _ _ := commits_both mine hunpointed
    (keyed_change keyed ambient call) hlast.taken (hmost hsession) hmine
    (fun hopen => absurd (hstatus ▸ hopen) ended)
    (hlast.stable.and (stable_row (hmost hlocked) (some found))) ⟨hlast, hheld⟩ plain ?_
  · rw [← hpersisted] at hwrites
    exact hwrites
  · rintro now hnow ⟨hchanging, hheld⟩
    refine ⟨?_, ⟨"", false⟩, (does _ _).trans ?_⟩
    · rw [hclosedKey, hcount]
      exact hnow.counted _ found hheld
    · refine closeOrder_tracked hnow.live hchanging.stored enabled (hchanging.free hsame)
        (rowSession (organizationId, sessionId) found) ?_ ?_ active hbare hbareKey
      · show (storedRecords now).trackingSessions.get? (organizationId, sessionId) = _
        rw [storedSession_eq, hheld]
        rfl
      · exact Prod.ext rfl visits

theorem keeps_closeOrder (mine : commands[index]? = some command)
    {ambient sessionAmbient : Ambient} {organizationId orderId : String} (call : Call)
    {close : Method Failure TrackingSession Unit} {status : TrackingStatus} {name : EventName}
    {payload : Nat → List (String × Json)}
    (closes : ClosesAs close sessionAmbient status name payload) (ended : status ≠ .active)
    (own : command.eventIds = [ambient.eventId, sessionAmbient.eventId])
    (plain : ∀ ambient report, command ≠ .recordLocation ambient report)
    (does : ∀ answers records, command.apply answers records =
      Atomic.closeOrder organizationId orderId (call.perform ambient none) close records) :
    StoreKeeps commands distinct index
      (fun _ writes locks tables => MayCommit commands distinct index writes locks tables)
      (Transacted.closeOrder organizationId orderId (call.perform ambient none) close) [] []
      tables := by
  refine keeps_call call fun order taken now hpulled hkeyed enabled hkey hreads => ?_
  refine (keeps_saveChanged hreads _).bind fun _ after taken now h => ?_
  obtain ⟨rfl, hchanging⟩ := h
  have hsame : orderKey (call.change ambient none order) = (organizationId, orderId) :=
    (orderKey_change ambient none call order).trans hkey
  refine ((keeps_findActive organizationId orderId fun found => ?_).frame hchanging.stable
    hchanging).bind fun active after further now h => ?_
  · rw [tracking_orderWrites]
  obtain ⟨⟨rfl, hfinds⟩, hfurther, hchanging⟩ := h
  have hthere := hchanging.more hfurther
  cases active with
  | none =>
      obtain ⟨hown, hnodup⟩ := own_change hpulled ambient call
      have hmine : ∀ event ∈ (call.change ambient none order).events,
          event.eventId ∈ command.eventIds := by
        intro event hmem
        rw [hown event hmem, own]
        exact List.mem_cons_self ..
      refine ((keeps_addEvents mine hmine hnodup fun found => ?_).frame
        (hthere.stable.and (stable_unvisited hthere.locked)) ⟨hthere, hfinds⟩).bind
          fun _ after last final h => ?_
      · rw [written_orderWrites]
      obtain ⟨rfl, hmost, hchanging, hunvisited⟩ := h
      have hlast := hchanging.more hmost
      refine commits_order mine (keyed_change hkeyed ambient call) (.inl rfl) hlast.taken hmine
        (hlast.stable.and (stable_unvisited hlast.locked)) ⟨hlast, hunvisited⟩ plain ?_
      rintro now hnow ⟨hchanging, hunvisited⟩
      refine ⟨⟨"", false⟩, (does _ _).trans ?_⟩
      exact closeOrder_untracked hnow.live hchanging.stored enabled (hchanging.free hsame)
        (activeEntries_of_unvisited hunvisited)
  | some loaded =>
      obtain ⟨sessionId, row, hreads, hactive, hvisits⟩ := hfinds
      refine keeps_domain fun closed hclosed => ?_
      exact keeps_closeVisit mine hpulled hkeyed enabled hkey hthere closes ended own plain does
        hreads hactive hvisits (outcome_ok.mp hclosed) _

/-! ### Locations -/

theorem pendingPoints_added {loaded : LoadedSession} {pending points : List TrackingPoint}
    {point : TrackingPoint} (counted : loaded.session.pointCount = loaded.persisted + 1)
    (added : loaded.session.points = points ++ [point]) (h : loaded.pendingPoints = .ok pending) :
    pending = [point] := by
  unfold LoadedSession.pendingPoints at h
  simp only [counted, added, Nat.add_sub_cancel_left, List.length_append, List.length_singleton,
    Nat.add_sub_cancel, List.drop_left] at h
  split at h
  · contradiction
  · cases h
    rfl

section location

variable {ambient : Ambient} {report : LocationReport} {key : Key} {row : SessionRow}
  {changed : TrackingSession}

/-- A point goes into the session that is stored as it goes into the one that was read. -/
theorem located_of_reads {loaded : LoadedSession} (reads : ReadsSession key loaded row locks tables)
    {capturedAt : Instant} {point : TrackingPoint}
    (made : TrackingPoint.make report.latitude report.longitude capturedAt ambient.clock
      report.source report.accuracyM report.sourceEventId = .ok point)
    (added : (TrackingSession.addPoint ambient point).run loaded.session = .ok () changed) :
    changed = loaded.session ∨
      (changed.pointCount = row.pointCount + 1 ∧
        changed.points = loaded.session.points ++ [point] ∧
        (∃ event, changed.events = [event] ∧ event.eventId = ambient.eventId) ∧
        SessionRow.ofSession changed =
          { SessionRow.ofSession changed with createdAt := row.createdAt } ∧
        sessionKey changed = key ∧ changed.status = row.status ∧
        changed.workOrderId = row.workOrderId ∧
        ∃ bare, Unpointed changed bare ∧ PointAdded ambient report (rowSession key row) bare) := by
  obtain ⟨-, -, ⟨latest, rfl⟩, counted⟩ := reads
  rcases TrackingSession.addPoint_ok added with ⟨-, rfl⟩ | ⟨⟨-, active⟩, rfl⟩
  · exact .inl rfl
  obtain ⟨bare, hbare⟩ := exists_unpointed
    (((trackingFromRow key row latest).session.withPoint point).recorded ambient
      .trackingPointRecorded (TrackingSession.pointPayload point) (some point.ingestedAt))
  refine .inr ⟨congrArg (· + 1) counted, rfl, ⟨_, rfl, rfl⟩, rfl, rfl, rfl, rfl, bare, hbare,
    active, capturedAt, point, made, hbare.key, hbare.row.trans ?_, hbare.points, hbare.events⟩
  show SessionRow.mk _ _ _ _ _ ((trackingFromRow key row latest).session.pointCount + 1) _ _ _ _ _
    _ = SessionRow.mk _ _ _ _ _ ((rowSession key row).pointCount + 1) _ _ _ _ _ _
  rw [counted, pointCount_rowSession]
  rfl

/-- What is read is saved as it was. -/
theorem ofSession_read {latest : Option TrackingPoint}
    (counted : (trackingFromRow key row latest).session.pointCount = row.pointCount) :
    { SessionRow.ofSession (trackingFromRow key row latest).session with
      createdAt := row.createdAt } = row := by
  show { row with pointCount := (trackingFromRow key row latest).session.pointCount } = row
  rw [counted]

/-- A session that is saved as it is. -/
theorem written_kept {tables : StoreTables}
    (stored : tables.tracking.sessions.get? key = some row) :
    written [.session key row] tables = tables := by
  show { tables with
    tracking := { tables.tracking with sessions := tables.tracking.sessions.set key row } } = tables
  rw [Dict.set_of_get? _ stored]

/-- What a location report writes that found its session. -/
theorem commits_location (mine : commands[index]? = some (.recordLocation ambient report))
    (locked : .session key ∈ locks) (named : key = (report.organizationId, report.sessionId))
    (owner : row.executorId = report.executorId) {bare : TrackingSession}
    {point : TrackingPoint} (unpointed : Unpointed changed bare)
    (located : PointAdded ambient report (rowSession key row) bare)
    (saved : sessionKey changed = key) (counted : changed.pointCount = row.pointCount + 1)
    (same : changed.status = row.status)
    (visits : changed.workOrderId = row.workOrderId)
    (own : ∀ event ∈ changed.events, event.eventId ∈ [ambient.eventId])
    (stored : tables.tracking.sessions.get? key = some row) :
    MayCommit commands distinct index
      (sessionWrites changed row.pointCount [point] ++ eventWrites changed.events) locks
      tables := by
  subst saved
  refine commits_of_facts mine (stable_row locked (some row)) stored fun now hvalid hrow => ?_
  have hstored : (storedRecords now).trackingSessions.get? (sessionKey changed) =
      some (rowSession (sessionKey changed) row) := by
    rw [storedSession_eq, hrow]
    rfl
  rw [written_append]
  refine ⟨?_, ⟨putSession bare (storedRecords now), ?_, ?_⟩, fun live => ?_⟩
  · refine (touches_sessionWrites locked fun active => .inr ⟨row, hrow, ?_, ?_⟩).trans
      (touches_eventWrites own _)
    · rw [← same]
      exact active
    · exact visits.symm
  · have hmatching := ((matching_refl hvalid.live.valid).putSessionWrites
      unpointed row.pointCount [point]).putEvents changed.events
    rw [← unpointed.events] at hmatching ⊢
    exact hmatching
  · refine ⟨_, named ▸ hstored, owner, .inr ⟨bare, located, rfl⟩⟩
  · refine hvalid.put_session row.pointCount [point] live ?_ ?_ counted
    · exact tracking_eventWrites ..
    · exact hvalid.counted _ row hrow

/-- A location that is reported again is not recorded again. -/
theorem commits_reported (mine : commands[index]? = some (.recordLocation ambient report))
    (locked : .session key ∈ locks) (named : key = (report.organizationId, report.sessionId))
    (owner : row.executorId = report.executorId)
    (kept : ∀ now : StoreTables, now.tracking.sessions.get? key = some row →
      written writes now = now)
    (stored : tables.tracking.sessions.get? key = some row) :
    MayCommit commands distinct index writes locks tables := by
  refine commits_of_facts mine (stable_row locked (some row)) stored fun now hvalid hrow => ?_
  rw [kept now hrow]
  refine ⟨Touches.refl _ _ _, ⟨storedRecords now, matching_refl hvalid.live.valid, ?_⟩,
    fun _ => hvalid⟩
  refine ⟨rowSession key row, ?_, owner, .inl rfl⟩
  rw [← named, storedSession_eq, hrow]
  rfl

theorem keeps_reportedBefore :
    StoreKeeps commands distinct index (fun _ after _ _ => after = writes)
      (Transacted.reportedBefore report) writes locks tables := by
  unfold Transacted.reportedBefore
  split
  · rfl
  · refine keeps_asked fun now _ found hfound => ?_
    cases hfound
    exact List.append_nil _

theorem keeps_recordLocation
    (mine : commands[index]? = some (.recordLocation ambient report)) :
    StoreKeeps commands distinct index
      (fun _ writes locks tables => MayCommit commands distinct index writes locks tables)
      (Transacted.recordLocation ambient report) [] [] tables := by
  refine (keeps_getSession report.organizationId report.sessionId fun _ => rfl).bind
    fun loaded after taken now h => ?_
  obtain ⟨rfl, row, hreads⟩ := h
  have howner : loaded.session.executorId = row.executorId := by
    obtain ⟨latest, rfl⟩ := hreads.loads
    rfl
  by_cases hexecutor : loaded.session.executorId ≠ report.executorId
  · simp only [if_pos hexecutor]
    exact trivial
  simp only [if_neg hexecutor]
  rw [not_not, howner] at hexecutor
  refine (keeps_reportedBefore.frame (stable_row hreads.locked (some row)) hreads.stored).bind
    fun seen after more later h => ?_
  obtain ⟨rfl, hmore, hstored⟩ := h
  have hlocked := hmore hreads.locked
  cases seen with
  | true =>
      exact commits_reported mine hlocked rfl hexecutor (fun _ _ => rfl) hstored
  | false =>
      refine keeps_domain fun point hmade => keeps_domain fun changed hchanged => ?_
      have hadded := located_of_reads ⟨hlocked, hstored, hreads.loads, hreads.counted⟩ hmade
        (outcome_ok.mp hchanged)
      refine ((keeps_saveSession ⟨changed, loaded.persisted⟩ _ fun _ => rfl).frame
        (stable_row hlocked (some row)) hstored).bind fun _ after most now h => ?_
      obtain ⟨⟨hsession, saved, points, hpending, rfl, found, hfound, -, rfl⟩, hmost, hstored⟩ := h
      obtain ⟨latest, rfl⟩ := hreads.loads
      rcases hadded with rfl | ⟨hcount, hpoints, hevents, hrow, hkey, hstatus, hvisits, bare,
        hunpointed, hlocated⟩
      · cases pendingPoints_counted hreads.counted hpending
        have hsame : found = row := Option.some.inj (hfound.symm.trans hstored)
        subst hsame
        refine ((keeps_addEvents mine (fun _ hmem => absurd hmem List.not_mem_nil) List.nodup_nil
          fun tables => ?_).frame (stable_row (hmost hlocked) (some found)) hstored).bind
            fun _ after last final h => ?_
        · rfl
        obtain ⟨rfl, hlast, hstored⟩ := h
        refine commits_reported mine (hlast (hmost hlocked)) rfl hexecutor (fun tables hrow => ?_)
          hstored
        have hkept := ofSession_read hreads.counted
        rw [hkept]
        exact written_kept hrow
      · have hsame : found = row := by
          change now.tracking.sessions.get? (sessionKey changed) = some found at hfound
          rw [hkey, hstored] at hfound
          exact (Option.some.inj hfound).symm
        subst hsame
        rw [← hrow, List.nil_append]
        cases pendingPoints_added hcount hpoints hpending
        obtain ⟨event, hone, hid⟩ := hevents
        have hmine : ∀ event ∈ changed.events, event.eventId ∈ [ambient.eventId] := by
          intro other hmem
          rw [hone] at hmem
          rw [List.mem_singleton.mp hmem, hid]
          exact List.mem_singleton_self _
        have hnodup : (changed.events.map DomainEvent.eventId).Nodup := by
          rw [hone]
          exact List.nodup_singleton _
        refine ((keeps_addEvents mine hmine hnodup fun tables => ?_).frame
          (stable_row (hmost hlocked) (some found)) hstored).bind fun _ after last final h => ?_
        · rfl
        obtain ⟨rfl, hlast, hstored⟩ := h
        exact commits_location mine (hlast (hmost hlocked)) rfl hexecutor hunpointed hlocated hkey
          hcount hstatus hvisits hmine hstored

end location

end commands

end DispatchCore.Application
