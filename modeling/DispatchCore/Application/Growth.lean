import DispatchCore.Application.Effects

/-! What every commit keeps and what it may only extend.  A command that read
an aggregate before its commit relies on exactly this: if the version is still
the one it read, so is the aggregate, and so are the active sessions of an
unchanged order. -/
namespace DispatchCore.Application

open DispatchCore.Library DispatchCore.Domain DispatchCore.Infrastructure

section put

variable {records : Records}

theorem Valid.put_order (valid : Valid records) {order : WorkOrder}
    (follows : orderAggregate.Follows (records.orders.get? (orderKey order)) order) :
    Valid (putOrder order records) :=
  ⟨valid.orders.set follows, valid.sessions.append_foreign fun event hmem htype => by
    have howned := (follows.owned event hmem).1
    rw [htype] at howned
    contradiction⟩

theorem Valid.put_session (valid : Valid records) {session : TrackingSession}
    (follows : sessionAggregate.Follows (records.trackingSessions.get? (sessionKey session))
      session) : Valid (putSession session records) :=
  ⟨valid.orders.append_foreign fun event hmem htype => by
    have howned := (follows.owned event hmem).1
    rw [htype] at howned
    contradiction, valid.sessions.set follows⟩

end put

def activeKeys (records : Records) (key : Key) : List Key :=
  (records.activeEntries key.1 key.2).map Prod.fst

theorem activeKeys_congr {records later : Records}
    (h : later.trackingSessions = records.trackingSessions) (key : Key) :
    activeKeys later key = activeKeys records key := by
  unfold activeKeys Records.activeEntries
  rw [h]

/-- What a later state of the records keeps of an earlier one. -/
structure Grows (records later : Records) : Prop where
  orders : orderAggregate.Extends records.orders later.orders
  sessions : sessionAggregate.Extends records.trackingSessions later.trackingSessions
  origins : ∀ key order next, records.orders.get? key = some order →
    later.orders.get? key = some next → originOf next = originOf order
  executors : ∀ key session next, records.trackingSessions.get? key = some session →
    later.trackingSessions.get? key = some next → next.executorId = session.executorId
  active : ∀ key order, records.orders.get? key = some order →
    later.orders.get? key = some order → activeKeys later key = activeKeys records key

theorem Grows.refl (records : Records) : Grows records records := by
  refine ⟨.refl _, .refl _, fun key order next hfirst hlast => ?_,
    fun key session next hfirst hlast => ?_, fun _ _ _ _ => rfl⟩
  · rw [hfirst] at hlast
    cases hlast
    rfl
  · rw [hfirst] at hlast
    cases hlast
    rfl

theorem Grows.trans {first second third : Records} (left : Grows first second)
    (right : Grows second third) : Grows first third := by
  refine ⟨left.orders.trans right.orders, left.sessions.trans right.sessions,
    fun key order next hfirst hlast => ?_, fun key session next hfirst hlast => ?_,
    fun key order hfirst hlast => ?_⟩
  · obtain ⟨middle, hmiddle, -⟩ := left.orders key order hfirst
    exact (right.origins key middle next hmiddle hlast).trans
      (left.origins key order middle hfirst hmiddle)
  · obtain ⟨middle, hmiddle, -⟩ := left.sessions key session hfirst
    exact (right.executors key middle next hmiddle hlast).trans
      (left.executors key session middle hfirst hmiddle)
  · have hmiddle := left.orders.between right.orders hfirst hlast
    exact (right.active key order hmiddle hlast).trans (left.active key order hfirst hmiddle)

/-- An order is put, and the sessions stay. -/
theorem Grows.put_order {records : Records} {order : WorkOrder}
    (follows : orderAggregate.Follows (records.orders.get? (orderKey order)) order)
    (origin : ∀ before, records.orders.get? (orderKey order) = some before →
      originOf order = originOf before) : Grows records (putOrder order records) := by
  refine ⟨.set follows, .refl _, fun key before next hbefore hnext => ?_,
    (Grows.refl records).executors, fun key _ _ _ => activeKeys_congr rfl key⟩
  change (records.orders.set _ _).get? key = _ at hnext
  rw [Dict.get?_set] at hnext
  split at hnext
  · rename_i heq
    subst heq
    cases hnext
    exact origin before hbefore
  · rw [hbefore] at hnext
    cases hnext
    rfl

theorem executors_put {records : Records} {session : TrackingSession}
    (same : ∀ old, records.trackingSessions.get? (sessionKey session) = some old →
      session.executorId = old.executorId) (key : Key) (old next : TrackingSession)
    (hold : records.trackingSessions.get? key = some old)
    (hnext : (putSession session records).trackingSessions.get? key = some next) :
    next.executorId = old.executorId := by
  change (records.trackingSessions.set _ _).get? key = _ at hnext
  rw [Dict.get?_set] at hnext
  split at hnext
  · rename_i heq
    subst heq
    cases hnext
    exact same old hold
  · rw [hold] at hnext
    cases hnext
    rfl

/-- The active sessions of other orders do not notice a session that is put. -/
theorem activeKeys_putSession {records : Records} {session : TrackingSession} {key : Key}
    (present : ∀ old, records.trackingSessions.get? (sessionKey session) = some old →
      (Records.ActiveFor key.1 key.2 (sessionKey session, session) ↔
        Records.ActiveFor key.1 key.2 (sessionKey session, old)))
    (absent : records.trackingSessions.get? (sessionKey session) = none →
      ¬Records.ActiveFor key.1 key.2 (sessionKey session, session)) :
    activeKeys (putSession session records) key = activeKeys records key :=
  Dict.keys_filter_set present absent

theorem change_version {call : Call} {order : WorkOrder} (busy : ¬call.Idle order)
    (ambient : Ambient) : (call.change ambient none order).version = order.version + 1 := by
  unfold Call.change
  rw [if_neg busy]
  simp

theorem not_idle_of_closing {call : Call} {status : TrackingStatus}
    (ends : closing call = some status) (order : WorkOrder) : ¬call.Idle order := by
  cases call <;> simp [closing, Call.Idle] at *

/-- The sessions of one order change together with the order. -/
theorem Grows.put_both {records : Records} {before order : WorkOrder}
    {session : TrackingSession}
    (stored : records.orders.get? (orderKey order) = some before)
    (followsOrder : orderAggregate.Follows (some before) order)
    (origin : originOf order = originOf before)
    (newer : order.version = before.version + 1)
    (followsSession : sessionAggregate.Follows
      (records.trackingSessions.get? (sessionKey session)) session)
    (visits : (session.organizationId, session.workOrderId) = orderKey order)
    (visited : ∀ old, records.trackingSessions.get? (sessionKey session) = some old →
      old.workOrderId = session.workOrderId ∧ old.executorId = session.executorId) :
    Grows records (putSession session (putOrder order records)) := by
  have hput : Grows records (putOrder order records) := by
    refine .put_order (stored ▸ followsOrder) fun found hfound => ?_
    rw [stored] at hfound
    cases hfound
    exact origin
  refine ⟨hput.orders, .set followsSession, hput.origins,
    executors_put fun old hold => (visited old hold).2.symm, fun key found hfound hlast => ?_⟩
  have hother : key ≠ orderKey order := by
    rintro rfl
    rw [stored] at hfound
    cases hfound
    change (records.orders.set (orderKey order) _).get? (orderKey order) = _ at hlast
    rw [Dict.get?_set_self] at hlast
    have hversion : order.pullEvents.2.version = before.version :=
      congrArg WorkOrder.version (Option.some.inj hlast)
    have hpulled : order.pullEvents.2.version = order.version := rfl
    omega
  have hnot (other : TrackingSession) (hsame : other.workOrderId = session.workOrderId) :
      ¬Records.ActiveFor key.1 key.2 (sessionKey session, other) := by
    rintro ⟨horganization, horder, -⟩
    obtain ⟨hfirst, hsecond⟩ := Prod.ext_iff.mp visits
    refine hother (Prod.ext ?_ ?_)
    · exact horganization.symm.trans hfirst
    · exact (horder.symm.trans hsame).trans hsecond
  show activeKeys (putSession session (putOrder order records)) key =
    activeKeys (putOrder order records) key
  apply activeKeys_putSession
  · exact fun old hold => iff_of_false (hnot session rfl) (hnot old (visited old hold).1)
  · exact fun _ => hnot session rfl

section takes

variable {fresh : Option (SessionAmbient × Key)} {records after : Records}

theorem tracked_mem {organizationId orderId : String} {key : Key} {session : TrackingSession}
    (tracked : records.activeEntries organizationId orderId = [(key, session)]) :
    records.trackingSessions.get? key = some session ∧
      Records.ActiveFor organizationId orderId (key, session) := by
  have hmem : (key, session) ∈ records.activeEntries organizationId orderId := by
    rw [tracked]
    exact List.mem_singleton.mpr rfl
  obtain ⟨hentry, hactive⟩ := List.mem_filter.mp hmem
  exact ⟨(Dict.get?_eq_some _ _ _).mpr hentry, by simpa using hactive⟩

/-- A commit keeps the books in order and only extends the records. -/
theorem Takes.sound (valid : Valid records) (takes : Takes fresh records after) :
    Valid after ∧ Grows records after := by
  cases takes with
  | nothing => exact ⟨valid, .refl _⟩
  | created made absent =>
      have hfollows := made.follows
      rw [← absent] at hfollows
      refine ⟨valid.put_order hfollows, .put_order hfollows fun before hbefore => ?_⟩
      rw [absent] at hbefore
      contradiction
  | @changed order call ambient stored plain enabled =>
      have hkey := orderKey_change ambient none call order
      have hfollows := follows_change (valid.orderKeyed stored).2 ambient call
      rw [← stored, ← hkey] at hfollows
      refine ⟨valid.put_order hfollows, .put_order hfollows fun before hbefore => ?_⟩
      rw [hkey, stored] at hbefore
      cases hbefore
      exact originOf_change ambient none call order
  | @travelled order sessionAmbient sessionId executorId session ambient brought stored enabled
      started absent =>
      have hkey := orderKey_change ambient none (.startTravel executorId) order
      have hfollows := follows_change (valid.orderKeyed stored).2 ambient
        (.startTravel executorId)
      have hbusy : ¬(Call.startTravel executorId).Idle order := fun idle => idle
      have hsession := follows_started started
      rw [← absent] at hsession
      have hstored := stored
      rw [← hkey] at hstored
      refine ⟨(valid.put_order (hstored ▸ hfollows)).put_session hsession,
        .put_both hstored hfollows (originOf_change _ _ _ _) (change_version hbusy ambient)
          hsession
          ?_ fun old hold => ?_⟩
      · rw [hkey, started.within, started.visits]
        rfl
      · rw [absent] at hold
        contradiction
  | @located session changed stored follows same =>
      obtain ⟨hkey, hvisits, hexecutor, hstatus, -⟩ := same
      have hstored := hkey ▸ stored
      have hfollows := hstored ▸ follows
      refine ⟨valid.put_session hfollows, .refl _, .set hfollows, (Grows.refl _).origins,
        executors_put fun old hold => ?_,
        fun key order _ _ => activeKeys_putSession (fun old hold => ?_) fun hnone => ?_⟩
      · rw [hstored] at hold
        cases hold
        exact hexecutor
      · rw [hstored] at hold
        cases hold
        simp [Records.ActiveFor, hvisits, hstatus]
      · rw [hstored] at hnone
        contradiction
  | @closed order call status ambient stored ends enabled untracked =>
      have hkey := orderKey_change ambient none call order
      have hfollows := follows_change (valid.orderKeyed stored).2 ambient call
      rw [← stored, ← hkey] at hfollows
      refine ⟨valid.put_order hfollows, .put_order hfollows fun before hbefore => ?_⟩
      rw [hkey, stored] at hbefore
      cases hbefore
      exact originOf_change ambient none call order
  | @closedSession order call status session changed ambient stored ends enabled tracked follows
      ended =>
      obtain ⟨hsessionKey, hvisits, hexecutor, -⟩ := ended
      obtain ⟨hsession, horganization, horder, -⟩ := tracked_mem tracked
      have hkey := orderKey_change ambient none call order
      have hfollows := follows_change (valid.orderKeyed stored).2 ambient call
      have hstored := stored
      rw [← hkey] at hstored
      have hstoredSession := hsessionKey ▸ hsession
      refine ⟨(valid.put_order (hstored ▸ hfollows)).put_session (hstoredSession ▸ follows),
        .put_both hstored hfollows (originOf_change _ _ _ _)
          (change_version (not_idle_of_closing ends order) ambient) (hstoredSession ▸ follows)
          ?_ fun old hold => ?_⟩
      · rw [hkey, hvisits]
        refine Prod.ext ?_ horder
        exact (congrArg Prod.fst hsessionKey).trans horganization
      · rw [hstoredSession] at hold
        cases hold
        exact ⟨hvisits.symm, hexecutor.symm⟩

end takes
end DispatchCore.Application
