import DispatchCore.Application.Histories

/-! Why a command on one order is refused: there is no such order, the order does not
allow the call, or something else than the order stands in the way. -/
namespace DispatchCore.Application

open DispatchCore.Library DispatchCore.Domain DispatchCore.Infrastructure

section commit

open UnitOfWork

theorem checkVersion_error {α : Type} {version : α → Nat} {stored : Dict Key α} {key : Key}
    {expectedVersion : Option Nat} {failure : Failure}
    (h : checkVersion version stored key expectedVersion = .error failure) :
    failure.isConcurrencyConflict = true := by
  unfold checkVersion at h
  cases expectedVersion with
  | none =>
      cases hstored : stored.get? key with
      | none => simp [hstored] at h
      | some current =>
          simp only [hstored, Except.error.injEq] at h
          rw [← h]
          rfl
  | some expected =>
      cases hstored : stored.get? key with
      | none =>
          simp only [hstored, Except.error.injEq] at h
          rw [← h]
          rfl
      | some current =>
          by_cases hversion : version current = expected
          · simp [hstored, hversion] at h
          · simp only [hstored, if_neg hversion, Except.error.injEq] at h
            rw [← h]
            rfl

theorem checkCollectionVersions_error {α : Type} {version : α → Nat} {stored : Dict Key α}
    {staged : List (Key × α × Option Nat)} {failure : Failure}
    (h : checkCollectionVersions version stored staged = .error failure) :
    failure.isConcurrencyConflict = true := by
  induction staged with
  | nil => contradiction
  | cons entry rest ih =>
      rcases except_bind_error.mp h with hfirst | ⟨_, -, hrest⟩
      · exact checkVersion_error hfirst
      · exact ih hrest

/-- A commit that is refused is refused as a conflict. -/
theorem commit_error {work : UnitOfWork} {records : Records} {failure : Failure}
    (h : work.commit records = .error failure) : failure.isConcurrencyConflict = true := by
  rcases except_bind_error.mp h with hversions | ⟨_, -, h⟩
  · rcases except_bind_error.mp hversions with horders | ⟨_, -, hsessions⟩
    · exact checkCollectionVersions_error horders
    · exact checkCollectionVersions_error hsessions
  · rcases except_bind_error.mp h with hcapacity | ⟨_, -, h⟩
    · unfold checkExecutorCapacity at hcapacity
      rw [checkOccupied_eq] at hcapacity
      rw [holdAll_error hcapacity]
      rfl
    · contradiction

end commit

theorem conflict_not_domain {failure : Failure} (h : failure.isConcurrencyConflict = true) :
    failure.isDomainError = false := by
  cases failure <;> simp_all [Failure.isConcurrencyConflict, Failure.isDomainError]

theorem getOrder_none {records : Records} {organizationId orderId : String}
    (h : records.orders.get? (organizationId, orderId) = none) :
    ∃ message, records.getOrder organizationId orderId = .error (.notFound message) := by
  unfold Records.getOrder
  rw [h]
  exact ⟨_, rfl⟩

theorem getOrder_some {records : Records} {organizationId orderId : String} {order : WorkOrder}
    (h : records.orders.get? (organizationId, orderId) = some order) :
    records.getOrder organizationId orderId = .ok order := getOrder_ok.mpr h

/-- A command on an order that is not there raises `NotFound`. -/
theorem apply_absent {records : Records} {answers : Answers} {command : Command} {key : Key}
    {call : Call} (asked : command.call? = some (key, call))
    (absent : records.orders.get? key = none) :
    ∃ message, command.apply answers records = .error (.notFound message) := by
  cases command with
  | change ambient organizationId orderId other plain =>
      cases asked
      obtain ⟨message, hmissing⟩ := getOrder_none absent
      exact ⟨message, by simp only [Command.apply, Atomic.changeOrder, hmissing]; rfl⟩
  | startTravel ambient sessionAmbient organizationId orderId freshId executorId sessionId =>
      cases asked
      obtain ⟨message, hmissing⟩ := getOrder_none absent
      exact ⟨message, by simp only [Command.apply, Atomic.startTravel, hmissing]; rfl⟩
  | completeOrder ambient sessionAmbient organizationId orderId executorId report =>
      cases asked
      obtain ⟨message, hmissing⟩ := getOrder_none absent
      exact ⟨message, by simp only [Command.apply, Atomic.closeOrder, hmissing]; rfl⟩
  | cancelOrder ambient sessionAmbient organizationId orderId reason actorId =>
      cases asked
      obtain ⟨message, hmissing⟩ := getOrder_none absent
      exact ⟨message, by simp only [Command.apply, Atomic.closeOrder, hmissing]; rfl⟩
  | createOrder | createOrderOnce | recordLocation => contradiction

theorem outcome_enabled {order : WorkOrder} {call : Call} (ambient : Ambient)
    (enabled : call.Enabled order) :
    Atomic.outcome (call.perform ambient none) order = .ok (call.change ambient none order) :=
  outcome_ok.mpr ((Call.perform_ok ambient none call).mpr ⟨enabled, rfl⟩)

theorem start_error {ambient : SessionAmbient}
    {sessionId organizationId workOrderId executorId : String}
    {publicToken locationToken : Option String} {now : Option Instant} {failure : Failure}
    (h : TrackingSession.start ambient sessionId organizationId workOrderId executorId publicToken
      locationToken now = .error failure) : failure.isDomainError = false := by
  unfold TrackingSession.start at h
  simp only at h
  split at h
  · cases h
    rfl
  split at h
  · cases h
    rfl
  split at h
  · cases h
    rfl
  split at h
  · cases h
    rfl
  contradiction

theorem active_of_find {records : Records} {organizationId orderId : String}
    {session : TrackingSession}
    (h : records.findActiveForOrder organizationId orderId = .ok (some session)) :
    session.status = .active := by
  rcases findActiveForOrder_ok.mp h with ⟨hnone, -⟩ | ⟨key, found, hsome, hentries⟩
  · contradiction
  · cases hsome
    have hmem : (key, session) ∈ records.activeEntries organizationId orderId := by
      rw [hentries]
      exact List.mem_singleton.mpr rfl
    have hactive := of_decide_eq_true (List.mem_filter.mp hmem).2
    exact hactive.2.2

/-- Closing an active session does not fail. -/
structure ClosesActive (close : Method Failure TrackingSession Unit) : Prop where
  closes : ∀ session : TrackingSession, session.status = .active →
    ∃ closed, Atomic.outcome close session = .ok closed

theorem closesActive_complete (ambient : Ambient) :
    ClosesActive (TrackingSession.complete ambient none) where
  closes := fun session active => by
    refine ⟨(session.closed .completed).recorded ambient .trackingCompleted
      [("point_count", .int session.pointCount)] none, outcome_ok.mpr ?_⟩
    simp [TrackingSession.complete, Method.bind_ok, -EStateM.run_bind, active,
      TrackingSession.record]

theorem closesActive_cancel (ambient : Ambient) (reason : String) :
    ClosesActive (TrackingSession.cancel ambient reason none) where
  closes := fun session active => by
    refine ⟨(session.closed .cancelled).recorded ambient .trackingCancelled
      [("reason", .str reason)] none, outcome_ok.mpr ?_⟩
    simp [TrackingSession.cancel, Method.bind_ok, -EStateM.run_bind, active,
      TrackingSession.record]

theorem closeOrder_enabled {records : Records} {ambient : Ambient}
    {organizationId orderId : String} {order : WorkOrder} {call : Call}
    {close : Method Failure TrackingSession Unit} {failure : Failure}
    (closing : ClosesActive close)
    (stored : records.orders.get? (organizationId, orderId) = some order)
    (enabled : call.Enabled order)
    (h : Atomic.closeOrder organizationId orderId (call.perform ambient none) close records =
      .error failure) : failure.isDomainError = false := by
  unfold Atomic.closeOrder at h
  rw [getOrder_some stored, except_ok_bind, outcome_enabled ambient enabled, except_ok_bind] at h
  rcases except_bind_error.mp h with hfind | ⟨active, hfind, h⟩
  · unfold Records.findActiveForOrder at hfind
    rcases hentries : records.activeEntries organizationId orderId with _ | ⟨entry, _ | ⟨other, rest⟩⟩
    · simp [hentries] at hfind
    · simp [hentries] at hfind
    · simp only [hentries, Except.error.injEq] at hfind
      rw [← hfind]
      rfl
  · cases active with
    | none => exact conflict_not_domain (commit_error h)
    | some session =>
        obtain ⟨closed, hclosed⟩ := closing.closes session (active_of_find hfind)
        simp only [hclosed, except_ok_bind] at h
        exact conflict_not_domain (commit_error h)

/-- Where the order allows the call, the command is not refused by a domain error. -/
theorem apply_enabled_error {records : Records} {answers : Answers} {command : Command} {key : Key}
    {call : Call} {order : WorkOrder} {failure : Failure}
    (asked : command.call? = some (key, call)) (stored : records.orders.get? key = some order)
    (enabled : call.Enabled order) (h : command.apply answers records = .error failure) :
    failure.isDomainError = false := by
  cases command with
  | change ambient organizationId orderId other plain =>
      cases asked
      simp only [Command.apply, Atomic.changeOrder] at h
      rw [getOrder_some stored, except_ok_bind, outcome_enabled ambient enabled,
        except_ok_bind] at h
      exact conflict_not_domain (commit_error h)
  | startTravel ambient sessionAmbient organizationId orderId freshId executorId sessionId =>
      cases asked
      simp only [Command.apply, Atomic.startTravel] at h
      rw [getOrder_some stored, except_ok_bind,
        show Atomic.outcome (WorkOrder.startTravel ambient executorId none) order = _ from
          outcome_enabled ambient enabled, except_ok_bind] at h
      rcases except_bind_error.mp h with hstart | ⟨session, -, h⟩
      · exact start_error hstart
      · exact conflict_not_domain (commit_error h)
  | completeOrder ambient sessionAmbient organizationId orderId executorId report =>
      cases asked
      exact closeOrder_enabled (closesActive_complete sessionAmbient) stored enabled h
  | cancelOrder ambient sessionAmbient organizationId orderId reason actorId =>
      cases asked
      exact closeOrder_enabled (closesActive_cancel sessionAmbient reason) stored enabled h
  | createOrder | createOrderOnce | recordLocation => contradiction

end DispatchCore.Application
