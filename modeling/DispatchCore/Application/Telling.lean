import DispatchCore.Application.Interleaving
import DispatchCore.Domain.Pictures

/-! The outbox tells everything that is stored of the status of an order or a session: who
hears the events of an aggregate, from the first one on, knows it as it is now. -/
namespace DispatchCore.Application

open DispatchCore.Library DispatchCore.Domain DispatchCore.Infrastructure

namespace Aggregate

variable {α ν : Type} {aggregate : Aggregate α} {view : α → ν}
  {hear : Option ν → DomainEvent → Option ν} {stored : Dict Key α} {outbox : List DomainEvent}

/-- What is heard of an aggregate is the picture of what is stored. -/
def Retold (aggregate : Aggregate α) (view : α → ν) (hear : Option ν → DomainEvent → Option ν)
    (stored : Dict Key α) (outbox : List DomainEvent) : Prop :=
  ∀ key, (eventsOf aggregate.kind key outbox).foldl hear none = (stored.get? key).map view

/-- Events of another kind are not heard. -/
theorem Retold.foreign (retold : aggregate.Retold view hear stored outbox)
    {events : List DomainEvent}
    (foreign : ∀ event ∈ events, event.aggregateType ≠ aggregate.kind) :
    aggregate.Retold view hear stored (outbox ++ events) := by
  intro key
  have hnone : eventsOf aggregate.kind key events = [] :=
    eventsOf_foreign fun event hmem howned => foreign event hmem howned.1
  rw [eventsOf_append, hnone, List.append_nil]
  exact retold key

/-- A recorded value goes into the store as its events are heard. -/
theorem Retold.set (retold : aggregate.Retold view hear stored outbox) {recorded : α}
    (owned : ∀ event ∈ aggregate.pending recorded,
      Owned aggregate.kind (aggregate.key recorded) event)
    (pulled : view (aggregate.pulled recorded) = view recorded)
    (heard : (aggregate.pending recorded).foldl hear
      ((stored.get? (aggregate.key recorded)).map view) = some (view recorded)) :
    aggregate.Retold view hear (stored.set (aggregate.key recorded) (aggregate.pulled recorded))
      (outbox ++ aggregate.pending recorded) := by
  intro key
  rw [eventsOf_append, List.foldl_append, retold key, Dict.get?_set]
  by_cases hkey : key = aggregate.key recorded
  · rw [if_pos hkey, hkey, eventsOf_owned owned, heard, Option.map_some, pulled]
  · rw [if_neg hkey]
    have hnone : eventsOf aggregate.kind key (aggregate.pending recorded) = [] :=
      eventsOf_foreign fun event hmem howned => hkey (howned.2.symm.trans (owned event hmem).2)
    rw [hnone]
    rfl

end Aggregate

/-- Orders and sessions are retold as they are stored. -/
structure Retold (records : Records) : Prop where
  orders : orderAggregate.Retold OrderPicture.of OrderPicture.hear records.orders
    records.outboxEvents
  sessions : sessionAggregate.Retold SessionPicture.of SessionPicture.hear records.trackingSessions
    records.outboxEvents

theorem retold_empty : Retold .empty :=
  ⟨fun _ => rfl, fun _ => rfl⟩

section put

variable {records after : Records}

theorem Retold.put_order (retold : Retold records) {before : Option WorkOrder} {order : WorkOrder}
    (stored : records.orders.get? (orderKey order) = before)
    (follows : orderAggregate.Follows before order)
    (heard : order.events.foldl OrderPicture.hear (before.map OrderPicture.of) =
      some (OrderPicture.of order)) : Retold (putOrder order records) := by
  constructor
  · refine retold.orders.set follows.owned rfl ?_
    show order.events.foldl _ ((records.orders.get? (orderKey order)).map _) = _
    rw [stored]
    exact heard
  · refine retold.sessions.foreign fun event hmem => ?_
    rw [(follows.owned event hmem).1]
    decide

theorem Retold.put_session (retold : Retold records) {before : Option TrackingSession}
    {session : TrackingSession}
    (stored : records.trackingSessions.get? (sessionKey session) = before)
    (follows : sessionAggregate.Follows before session)
    (heard : session.events.foldl SessionPicture.hear (before.map SessionPicture.of) =
      some (SessionPicture.of session)) : Retold (putSession session records) := by
  constructor
  · refine retold.orders.foreign fun event hmem => ?_
    rw [(follows.owned event hmem).1]
    decide
  · refine retold.sessions.set follows.owned rfl ?_
    show session.events.foldl _ ((records.trackingSessions.get? (sessionKey session)).map _) = _
    rw [stored]
    exact heard

/-- The stored order, changed by a call. -/
theorem Retold.put_change (retold : Retold records) (valid : Valid records) {order : WorkOrder}
    {key : Key} (stored : records.orders.get? key = some order) (ambient : Ambient) (call : Call) :
    Retold (putOrder (call.change ambient none order) records) := by
  obtain ⟨hkey, hpulled⟩ := valid.orderKeyed stored
  refine retold.put_order ?_ (follows_change hpulled ambient call)
    (OrderPicture.heard_change hpulled)
  rw [orderKey_change, hkey]
  exact stored

end put

section apply

variable {records after : Records} {ambient : Ambient}

theorem retold_createNewOrder (retold : Retold records) {orderId publicNumber : String}
    {creation : Creation}
    (h : Atomic.createNewOrder ambient orderId creation publicNumber records = .ok after) :
    Retold after := by
  obtain ⟨order, hmade, hcommit⟩ := except_bind_ok.mp h
  obtain ⟨habsent, -, rfl⟩ := (commit_order order none records after).mp hcommit
  exact retold.put_order (Option.map_eq_none_iff.mp habsent) (creation_ok hmade).follows
    (OrderPicture.heard_create hmade)

theorem retold_createOrderOnce (retold : Retold records) {orderId publicNumber : String}
    {creation : Creation}
    (h : Atomic.createOrderOnce ambient orderId creation publicNumber records = .ok after) :
    Retold after := by
  unfold Atomic.createOrderOnce at h
  split at h
  · rename_i found hcreate
    cases h
    exact retold_createNewOrder retold hcreate
  · split at h
    · obtain ⟨existing, -, h⟩ := except_bind_ok.mp h
      obtain ⟨candidate, -, h⟩ := except_bind_ok.mp h
      split at h
      · obtain ⟨-, rfl⟩ := (commit_empty records after).mp h
        exact retold
      · contradiction
    · contradiction

theorem retold_changeOrder (valid : Valid records) (retold : Retold records)
    {organizationId orderId : String} {call : Call}
    (h : Atomic.changeOrder organizationId orderId (call.perform ambient none) records =
      .ok after) : Retold after := by
  obtain ⟨order, hget, h⟩ := except_bind_ok.mp h
  obtain ⟨changed, houtcome, hcommit⟩ := except_bind_ok.mp h
  obtain ⟨-, rfl⟩ := (Call.perform_ok ambient none call).mp (outcome_ok.mp houtcome)
  obtain ⟨-, -, rfl⟩ := (commit_order _ _ records after).mp hcommit
  exact retold.put_change valid (getOrder_ok.mp hget) ambient call

theorem retold_startTravel (valid : Valid records) (retold : Retold records)
    {sessionAmbient : SessionAmbient} {organizationId orderId executorId sessionId : String}
    (h : Atomic.startTravel ambient sessionAmbient organizationId orderId executorId sessionId
      records = .ok after) : Retold after := by
  obtain ⟨order, hget, h⟩ := except_bind_ok.mp h
  obtain ⟨changed, houtcome, h⟩ := except_bind_ok.mp h
  obtain ⟨session, hstart, hcommit⟩ := except_bind_ok.mp h
  obtain ⟨-, rfl⟩ :=
    (Call.perform_ok ambient none (.startTravel executorId)).mp (outcome_ok.mp houtcome)
  obtain ⟨-, habsent, -, rfl⟩ := (commit_both _ _ _ _ records after).mp hcommit
  have hchanged := retold.put_change valid (getOrder_ok.mp hget) ambient (.startTravel executorId)
  exact hchanged.put_session (Option.map_eq_none_iff.mp habsent)
    (follows_started (TrackingSession.start_ok hstart)) (SessionPicture.heard_start hstart)

theorem retold_closeOrder (valid : Valid records) (retold : Retold records)
    {organizationId orderId : String} {call : Call} {close : Method Failure TrackingSession Unit}
    (closes : ∀ session changed, session.events = [] → close.run session = .ok () changed →
      sessionKey changed = sessionKey session ∧
        sessionAggregate.Follows (some session) changed ∧
        changed.events.foldl SessionPicture.hear (some (SessionPicture.of session)) =
          some (SessionPicture.of changed))
    (h : Atomic.closeOrder organizationId orderId (call.perform ambient none) close records =
      .ok after) : Retold after := by
  obtain ⟨order, hget, h⟩ := except_bind_ok.mp h
  obtain ⟨changed, houtcome, h⟩ := except_bind_ok.mp h
  obtain ⟨active, hactive, hcommit⟩ := except_bind_ok.mp h
  obtain ⟨-, rfl⟩ := (Call.perform_ok ambient none call).mp (outcome_ok.mp houtcome)
  have hchanged := retold.put_change valid (getOrder_ok.mp hget) ambient call
  rcases findActiveForOrder_ok.mp hactive with ⟨rfl, -⟩ | ⟨key, session, rfl, htracked⟩
  · obtain ⟨-, -, rfl⟩ := (commit_order _ _ records after).mp hcommit
    exact hchanged
  · obtain ⟨closed, hclosed, hcommit⟩ := except_bind_ok.mp hcommit
    obtain ⟨-, -, -, rfl⟩ := (commit_both _ _ _ _ records after).mp hcommit
    have hfound : (key, session) ∈ records.activeEntries organizationId orderId := by
      rw [htracked]
      exact List.mem_singleton_self _
    have hstored : records.trackingSessions.get? key = some session :=
      (Dict.get?_eq_some _ _ _).mpr (List.mem_filter.mp hfound).1
    obtain ⟨hkey, hpulled⟩ := valid.sessionKeyed hstored
    obtain ⟨hsame, hfollows, hheard⟩ := closes _ _ hpulled (outcome_ok.mp hclosed)
    refine hchanged.put_session ?_ hfollows hheard
    rw [hsame, hkey]
    exact hstored

/-- A point that is added, or was reported before. -/
theorem follows_addPoint {session changed : TrackingSession} {point : TrackingPoint}
    (pulled : session.events = [])
    (added : (TrackingSession.addPoint ambient point).run session = .ok () changed) :
    sessionKey changed = sessionKey session ∧ sessionAggregate.Follows (some session) changed := by
  rcases TrackingSession.addPoint_ok added with ⟨-, rfl⟩ | ⟨-, rfl⟩
  · refine ⟨rfl, ?_, ?_, ?_, fun _ => rfl⟩
    · simp [sessionAggregate, pulled, Numbered]
    · simp [sessionAggregate, Aggregate.versionOf, pulled]
    · simp [sessionAggregate, pulled]
  · exact ⟨rfl, follows_recordedSession (session.withPoint point) pulled rfl rfl _ _ _ _⟩

theorem retold_recordLocation (valid : Valid records) (retold : Retold records)
    {report : LocationReport} {seen : Bool}
    (h : Atomic.recordLocation ambient report seen records = .ok after) : Retold after := by
  obtain ⟨session, hget, h⟩ := except_bind_ok.mp h
  have hstored := getTracking_ok.mp hget
  obtain ⟨hkey, hpulled⟩ := valid.sessionKeyed hstored
  split at h
  · split at h
    · obtain ⟨-, rfl⟩ := (commit_empty records after).mp h
      exact retold
    · obtain ⟨point, -, h⟩ := except_bind_ok.mp h
      obtain ⟨changed, houtcome, hcommit⟩ := except_bind_ok.mp h
      obtain ⟨-, -, rfl⟩ := (commit_session _ _ records after).mp hcommit
      obtain ⟨hsame, hfollows⟩ := follows_addPoint hpulled (outcome_ok.mp houtcome)
      refine retold.put_session ?_ hfollows
        (SessionPicture.heard_point hpulled (outcome_ok.mp houtcome))
      rw [hsame, hkey]
      exact hstored
  · contradiction

/-- Every command that commits publishes what it stores. -/
theorem retold_apply (valid : Valid records) (retold : Retold records) {answers : Answers}
    {command : Command} (h : command.apply answers records = .ok after) : Retold after := by
  cases command with
  | createOrder ambient freshId orderId creation => exact retold_createNewOrder retold h
  | createOrderOnce ambient orderId creation => exact retold_createOrderOnce retold h
  | change ambient organizationId orderId call plain => exact retold_changeOrder valid retold h
  | startTravel ambient sessionAmbient organizationId orderId freshId executorId sessionId =>
      exact retold_startTravel valid retold h
  | recordLocation ambient report => exact retold_recordLocation valid retold h
  | completeOrder ambient sessionAmbient organizationId orderId executorId report =>
      refine retold_closeOrder valid retold ?_ (show Atomic.closeOrder organizationId orderId
        ((Call.complete executorId report).perform ambient none) _ _ = _ from h)
      intro session changed hpulled hrun
      have hheard := SessionPicture.heard_complete hpulled hrun
      obtain ⟨-, rfl⟩ := TrackingSession.complete_ok hrun
      exact ⟨rfl, follows_recordedSession (session.closed .completed) hpulled rfl rfl _ _ _ _,
        hheard⟩
  | cancelOrder ambient sessionAmbient organizationId orderId reason actorId =>
      refine retold_closeOrder valid retold ?_ (show Atomic.closeOrder organizationId orderId
        ((Call.cancel reason actorId).perform ambient none) _ _ = _ from h)
      intro session changed hpulled hrun
      have hheard := SessionPicture.heard_cancel hpulled hrun
      obtain ⟨-, rfl⟩ := TrackingSession.cancel_ok hrun
      exact ⟨rfl, follows_recordedSession (session.closed .cancelled) hpulled rfl rfl _ _ _ _,
        hheard⟩

end apply

/-- In every reachable store, whatever the interleaving: whoever has heard the events of an
order or of a session in the outbox, in their order, has the picture of what is stored, and
has heard of nothing that is not. -/
theorem outbox_retells (commands : List Command) (schedule : List Nat) :
    let reached := ((launch commands).run schedule).state
    (∀ key, (eventsOf .workOrder key reached.outboxEvents).foldl OrderPicture.hear none =
      (reached.orders.get? key).map OrderPicture.of) ∧
    ∀ key, (eventsOf .trackingSession key reached.outboxEvents).foldl SessionPicture.hear none =
      (reached.trackingSessions.get? key).map SessionPicture.of := by
  intro reached
  obtain ⟨log, orderly⟩ :=
    (launch_orderly commands).run (fun hstep => poolStep_lawful hstep) schedule
  have hboth : Valid reached.toRecords ∧ Retold reached.toRecords := by
    refine orderly.trace.invariant
      (fun store => Valid store.toRecords ∧ Retold store.toRecords) ⟨valid_empty, retold_empty⟩
      ?_ ?_
    · intro before after silent held
      change after.toRecords = before.toRecords at silent
      rwa [silent]
    · rintro index answers before after ⟨command, -, hstep⟩ ⟨valid, retold⟩
      obtain ⟨records, happly, rfl⟩ := commitStep_iff.mp hstep
      exact ⟨((apply_takes valid happly).sound valid).1, retold_apply valid retold happly⟩
  exact ⟨hboth.2.orders, hboth.2.sessions⟩

end DispatchCore.Application
