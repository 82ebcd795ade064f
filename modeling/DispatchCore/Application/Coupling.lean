import Mathlib.Data.List.Pairwise
import DispatchCore.Application.Interleaving
import DispatchCore.Infrastructure.ReadModels

/-! Orders and their tracking sessions move together: a session is opened when
its order sets out and closed with it, and its tokens are good only in between. -/
namespace DispatchCore.Application

open DispatchCore.Library DispatchCore.Domain DispatchCore.Infrastructure

/-- The order a session belongs to. -/
def visitKey (session : TrackingSession) : Key := (session.organizationId, session.workOrderId)

/-- The order and its session agree. -/
structure Pairs (order : WorkOrder) (session : TrackingSession) : Prop where
  active : session.status = .active ↔ order.status ∈ [WorkOrderStatus.enRoute, .inProgress]
  completed : session.status = .completed ↔ order.status = .completed
  cancelled : session.status = .cancelled ↔ order.status = .cancelled
  executor : order.assigneeId = some session.executorId
  publicToken : session.publicToken.isSome ↔ session.status = .active
  locationToken : session.locationToken.isSome ↔ session.status = .active

theorem Pairs.pulled_order {order : WorkOrder} {session : TrackingSession}
    (pairs : Pairs order session) : Pairs order.pullEvents.2 session :=
  ⟨pairs.active, pairs.completed, pairs.cancelled, pairs.executor, pairs.publicToken,
    pairs.locationToken⟩

theorem Pairs.pulled_session {order : WorkOrder} {session : TrackingSession}
    (pairs : Pairs order session) : Pairs order session.pullEvents.2 :=
  ⟨pairs.active, pairs.completed, pairs.cancelled, pairs.executor, pairs.publicToken,
    pairs.locationToken⟩

/-- Every session agrees with its order, no order has two sessions, and an order
on the way has one. -/
structure Coupled (records : Records) : Prop where
  paired : ∀ key session, records.trackingSessions.get? key = some session →
    ∃ order, records.orders.get? (visitKey session) = some order ∧ Pairs order session
  once : ∀ first second left right, records.trackingSessions.get? first = some left →
    records.trackingSessions.get? second = some right → visitKey left = visitKey right →
      first = second
  tracked : ∀ key order, records.orders.get? key = some order → order.status = .enRoute →
    ∃ place session, records.trackingSessions.get? place = some session ∧
      visitKey session = key

theorem coupled_empty : Coupled .empty := by
  refine ⟨fun key session h => ?_, fun _ _ _ _ h => ?_, fun key order h => ?_⟩ <;>
    simp [Records.empty] at h

section step

variable {records : Records}

/-- An order is put that every session of it still agrees with. -/
theorem Coupled.put_order (coupled : Coupled records) {order : WorkOrder}
    (agrees : ∀ key session before, records.trackingSessions.get? key = some session →
      visitKey session = orderKey order → records.orders.get? (orderKey order) = some before →
        Pairs before session → Pairs order session)
    (departs : order.status = .enRoute →
      ∃ before, records.orders.get? (orderKey order) = some before ∧ before.status = .enRoute) :
    Coupled (putOrder order records) := by
  refine ⟨fun key session h => ?_, coupled.once, fun key found h hroute => ?_⟩
  · obtain ⟨before, hbefore, hpairs⟩ := coupled.paired key session h
    by_cases hvisit : visitKey session = orderKey order
    · rw [hvisit] at hbefore
      refine ⟨order.pullEvents.2, ?_,
        (agrees key session before h hvisit hbefore hpairs).pulled_order⟩
      rw [hvisit]
      exact Dict.get?_set_self _ _ _
    · exact ⟨before, (Dict.get?_set_of_ne _ _ hvisit).trans hbefore, hpairs⟩
  · change (records.orders.set _ _).get? key = _ at h
    rw [Dict.get?_set] at h
    split at h
    · rename_i heq
      subst heq
      cases h
      obtain ⟨before, hbefore, hwas⟩ := departs hroute
      exact coupled.tracked _ before hbefore hwas
    · exact coupled.tracked key found h hroute

/-- An order and its only session are put together. -/
theorem Coupled.put_both (coupled : Coupled records) {order : WorkOrder}
    {session : TrackingSession} (visits : visitKey session = orderKey order)
    (pairs : Pairs order session)
    (only : ∀ key other, records.trackingSessions.get? key = some other →
      visitKey other = orderKey order → key = sessionKey session)
    (kept : ∀ old, records.trackingSessions.get? (sessionKey session) = some old →
      visitKey old = orderKey order) :
    Coupled (putSession session (putOrder order records)) := by
  have hplaced : (putSession session (putOrder order records)).trackingSessions.get?
      (sessionKey session) = some session.pullEvents.2 := Dict.get?_set_self _ _ _
  have hother {key : Key} (hne : key ≠ sessionKey session) :
      (putSession session (putOrder order records)).trackingSessions.get? key =
        records.trackingSessions.get? key := Dict.get?_set_of_ne _ _ hne
  have hvisit : visitKey session.pullEvents.2 = orderKey order := visits
  refine ⟨fun key found h => ?_, fun first second left right hleft hright hsame => ?_,
    fun key found h hroute => ?_⟩
  · by_cases hkey : key = sessionKey session
    · subst hkey
      rw [hplaced] at h
      cases h
      refine ⟨order.pullEvents.2, ?_, pairs.pulled_order.pulled_session⟩
      rw [hvisit]
      exact Dict.get?_set_self _ _ _
    · rw [hother hkey] at h
      obtain ⟨before, hbefore, hpairs⟩ := coupled.paired key found h
      have hne : visitKey found ≠ orderKey order := fun heq => hkey (only key found h heq)
      exact ⟨before, (Dict.get?_set_of_ne _ _ hne).trans hbefore, hpairs⟩
  · by_cases hfirst : first = sessionKey session
    · by_cases hsecond : second = sessionKey session
      · rw [hfirst, hsecond]
      · subst hfirst
        rw [hplaced] at hleft
        cases hleft
        rw [hother hsecond] at hright
        exact (only second right hright (hsame ▸ hvisit)).symm
    · by_cases hsecond : second = sessionKey session
      · subst hsecond
        rw [hplaced] at hright
        cases hright
        rw [hother hfirst] at hleft
        exact only first left hleft (hsame.trans hvisit)
      · rw [hother hfirst] at hleft
        rw [hother hsecond] at hright
        exact coupled.once first second left right hleft hright hsame
  · change (records.orders.set _ _).get? key = _ at h
    rw [Dict.get?_set] at h
    split at h
    · rename_i heq
      subst heq
      exact ⟨_, _, hplaced, hvisit⟩
    · obtain ⟨place, tracked, hplace, hkey⟩ := coupled.tracked key found h hroute
      by_cases hsame : place = sessionKey session
      · subst hsame
        rename_i hne
        exact absurd (hkey.symm.trans (kept tracked hplace)) hne
      · exact ⟨place, tracked, (hother hsame).trans hplace, hkey⟩

/-- The statuses an order with a session can have. -/
theorem Pairs.status {order : WorkOrder} {session : TrackingSession}
    (pairs : Pairs order session) :
    order.status ∈ [WorkOrderStatus.enRoute, .inProgress, .completed, .cancelled] := by
  have hactive := pairs.active
  have hcompleted := pairs.completed
  have hcancelled := pairs.cancelled
  cases hstatus : session.status <;> simp [hstatus] at hactive hcompleted hcancelled ⊢ <;> tauto

/-- A plain call on an order that has a session leaves them in agreement. -/
theorem Pairs.change {order : WorkOrder} {session : TrackingSession}
    (pairs : Pairs order session) {call : Call} (plain : Plain call)
    (enabled : call.Enabled order) (ambient : Ambient) :
    Pairs (call.change ambient none order) session := by
  have hstatus := pairs.status
  unfold Call.change
  split
  · exact pairs
  cases call
  case claimCoordination coordinatorId =>
    exact ⟨pairs.active, pairs.completed, pairs.cancelled, pairs.executor, pairs.publicToken,
      pairs.locationToken⟩
  case startWork executorId =>
    have hroute : order.status = .enRoute := by
      have henabled := enabled.2
      simp only [List.mem_cons, List.not_mem_nil, or_false] at henabled hstatus
      rcases henabled with h | h
      · simp [h] at hstatus
      · exact h
    have hactive := pairs.active
    have hcompleted := pairs.completed
    have hcancelled := pairs.cancelled
    simp only [hroute] at hactive hcompleted hcancelled
    refine ⟨?_, ?_, ?_, pairs.executor, pairs.publicToken, pairs.locationToken⟩
    · simpa [Call.writes] using hactive
    · simpa [Call.writes] using hcompleted
    · simpa [Call.writes] using hcancelled
  all_goals first
    | exact plain.elim
    | simp only [Call.Enabled, List.mem_cons, List.not_mem_nil, or_false] at enabled hstatus
      grind

theorem status_change_enRoute {order : WorkOrder} {call : Call} (plain : Plain call)
    (ambient : Ambient) (h : (call.change ambient none order).status = .enRoute) :
    order.status = .enRoute := by
  unfold Call.change at h
  split at h
  · exact h
  rw [WorkOrder.recorded_status] at h
  cases call
  case assign executorId actorId =>
    simp only [Call.writes] at h
    split at h <;> simp [WorkOrder.resolveCuratedResponses] at h
  case rejectAssignment executorId =>
    simp only [Call.writes] at h
    split at h <;> split at h <;> simp at h
  all_goals first
    | exact plain.elim
    | exact h
    | simp [Call.writes, WorkOrder.respond] at h

theorem assigneeId_change_of_closing {order : WorkOrder} {call : Call} {status : TrackingStatus}
    (ends : closing call = some status) (ambient : Ambient) :
    (call.change ambient none order).assigneeId = order.assigneeId := by
  cases call <;> simp [closing, Call.change, Call.Idle, Call.writes] at *

/-- The status a closing call leaves. -/
theorem status_change_of_closing {call : Call} {status : TrackingStatus}
    (ends : closing call = some status) (ambient : Ambient) (order : WorkOrder) :
    (status = .completed ∧ (call.change ambient none order).status = .completed) ∨
      (status = .cancelled ∧ (call.change ambient none order).status = .cancelled) := by
  cases call <;> simp [closing, Call.change, Call.Idle, Call.writes] at * <;> simp [ends]

/-- A closing call finds its order open. -/
theorem open_of_closing {order : WorkOrder} {call : Call} {status : TrackingStatus}
    (ends : closing call = some status) (enabled : call.Enabled order) :
    order.status ≠ .completed ∧ order.status ≠ .cancelled := by
  cases call <;> simp [closing] at ends
  case complete executorId report =>
    simp [enabled.2.1]
  case cancel reason actorId =>
    have hopen := enabled.1
    simpa [terminalStatuses] using hopen

/-- The sessions of an open order are active. -/
theorem Pairs.active_of_open {order : WorkOrder} {session : TrackingSession}
    (pairs : Pairs order session)
    (isOpen : order.status ≠ .completed ∧ order.status ≠ .cancelled) :
    session.status = .active := by
  cases hstatus : session.status with
  | active => rfl
  | completed => exact absurd (pairs.completed.mp hstatus) isOpen.1
  | cancelled => exact absurd (pairs.cancelled.mp hstatus) isOpen.2

end step
/-- A session is put back with the same order, executor, status and tokens. -/
theorem Coupled.put_located {records : Records} (coupled : Coupled records)
    {session changed : TrackingSession}
    (stored : records.trackingSessions.get? (sessionKey session) = some session)
    (key : sessionKey changed = sessionKey session)
    (visits : visitKey changed = visitKey session)
    (agrees : ∀ order, Pairs order session → Pairs order changed) :
    Coupled (putSession changed records) := by
  -- The session keeps its place and its order, so only its content moved.
  have hget (place : Key) (found : TrackingSession)
      (h : (putSession changed records).trackingSessions.get? place = some found) :
      ∃ old, records.trackingSessions.get? place = some old ∧ visitKey found = visitKey old ∧
        ∀ order, Pairs order old → Pairs order found := by
    change (records.trackingSessions.set _ _).get? place = _ at h
    rw [Dict.get?_set] at h
    split at h
    · rename_i heq
      cases h
      exact ⟨session, by rw [heq, key]; exact stored, visits,
        fun order hpairs => (agrees order hpairs).pulled_session⟩
    · exact ⟨found, h, rfl, fun _ hpairs => hpairs⟩
  refine ⟨fun place found h => ?_, fun first second left right hleft hright hsame => ?_,
    fun place order h hroute => ?_⟩
  · obtain ⟨old, hold, hvisit, hagrees⟩ := hget place found h
    obtain ⟨order, horder, hpairs⟩ := coupled.paired place old hold
    exact ⟨order, by rw [hvisit]; exact horder, hagrees order hpairs⟩
  · obtain ⟨oldLeft, hfirst, hvisitLeft, -⟩ := hget first left hleft
    obtain ⟨oldRight, hsecond, hvisitRight, -⟩ := hget second right hright
    exact coupled.once first second oldLeft oldRight hfirst hsecond
      (hvisitLeft.symm.trans (hsame.trans hvisitRight))
  · obtain ⟨found, tracked, hplace, hvisit⟩ := coupled.tracked place order h hroute
    by_cases hsame : found = sessionKey changed
    · subst hsame
      rw [key, stored] at hplace
      cases hplace
      exact ⟨_, _, Dict.get?_set_self _ _ _, visits.trans hvisit⟩
    · exact ⟨found, tracked, (Dict.get?_set_of_ne _ _ hsame).trans hplace, hvisit⟩

/-- A session of an open order is among its active sessions. -/
theorem mem_activeEntries {records : Records} (valid : Valid records) {order : WorkOrder}
    {key : Key} {session : TrackingSession}
    (stored : records.trackingSessions.get? key = some session)
    (visits : visitKey session = orderKey order) (active : session.status = .active) :
    (key, session) ∈ records.activeEntries order.organizationId order.id := by
  refine List.mem_filter.mpr ⟨(Dict.get?_eq_some _ _ _).mp stored, ?_⟩
  obtain ⟨horganization, horder⟩ := Prod.ext_iff.mp visits
  obtain ⟨hkey, -⟩ := valid.sessionKeyed stored
  have hplace : key.1 = order.organizationId := by
    rw [← hkey]
    exact horganization
  exact decide_eq_true ⟨hplace, horder, active⟩

/-- One commit keeps orders and sessions together. -/
theorem Coupled.takes {fresh : Option (SessionAmbient × Key)} {records after : Records}
    (valid : Valid records) (coupled : Coupled records) (takes : Takes fresh records after) :
    Coupled after := by
  cases takes with
  | nothing => exact coupled
  | created made absent =>
      refine coupled.put_order (fun key session before _ _ hbefore _ => ?_) fun hroute => ?_
      · rw [absent] at hbefore
        contradiction
      · rw [made.submitted] at hroute
        contradiction
  | @changed order call ambient stored plain enabled =>
      have hkey := orderKey_change ambient none call order
      refine coupled.put_order (fun key session before _ _ hbefore hpairs => ?_) fun hroute => ?_
      · rw [hkey, stored] at hbefore
        cases hbefore
        exact hpairs.change plain enabled ambient
      · exact ⟨order, hkey ▸ stored, status_change_enRoute plain ambient hroute⟩
  | @travelled order sessionAmbient sessionId executorId session ambient brought stored enabled
      started absent =>
      have hkey := orderKey_change ambient none (.startTravel executorId) order
      have hvisit : visitKey session = orderKey order := by
        unfold visitKey orderKey
        rw [started.within, started.visits]
      refine coupled.put_both (hvisit.trans hkey.symm) ⟨?_, ?_, ?_, ?_, ?_, ?_⟩
        (fun key other hother hsame => ?_) fun old hold => ?_
      · simp [started.active, Call.change, Call.Idle, Call.writes]
      · simp [started.active, Call.change, Call.Idle, Call.writes]
      · simp [started.active, Call.change, Call.Idle, Call.writes]
      · rw [started.traveller]
        exact enabled.1
      · simp [started.publicToken, started.active]
      · simp [started.locationToken, started.active]
      · -- An accepted order has no session yet.
        obtain ⟨before, hbefore, hpairs⟩ := coupled.paired key other hother
        rw [hsame, hkey, stored] at hbefore
        cases hbefore
        have hstatus := hpairs.status
        rw [enabled.2] at hstatus
        simp at hstatus
      · rw [absent] at hold
        contradiction
  | @located session changed stored follows same =>
      obtain ⟨hkey, hvisits, hexecutor, hstatus, hpublic, hlocation⟩ := same
      have hvisit : visitKey changed = visitKey session :=
        Prod.ext (Prod.ext_iff.mp hkey).1 hvisits
      refine coupled.put_located stored hkey hvisit fun order hpairs => ⟨?_, ?_, ?_, ?_, ?_, ?_⟩
      · rw [hstatus]
        exact hpairs.active
      · rw [hstatus]
        exact hpairs.completed
      · rw [hstatus]
        exact hpairs.cancelled
      · rw [hexecutor]
        exact hpairs.executor
      · rw [hpublic, hstatus]
        exact hpairs.publicToken
      · rw [hlocation, hstatus]
        exact hpairs.locationToken
  | @closed order call status ambient stored ends enabled untracked =>
      have hkey := orderKey_change ambient none call order
      refine coupled.put_order (fun key session before hsession hvisit hbefore hpairs => ?_)
        fun hroute => ?_
      · rw [hkey, stored] at hbefore
        cases hbefore
        have hactive := hpairs.active_of_open (open_of_closing ends enabled)
        have hmem := mem_activeEntries valid hsession (hvisit.trans hkey) hactive
        rw [untracked] at hmem
        contradiction
      · rcases status_change_of_closing ends ambient order with ⟨-, h⟩ | ⟨-, h⟩ <;>
        · rw [h] at hroute
          contradiction
  | @closedSession order call status session changed ambient stored ends enabled tracked follows
      ended =>
      obtain ⟨hsessionKey, hvisits, hexecutor, hstatus, hpublic, hlocation⟩ := ended
      obtain ⟨hsession, horganization, horder, hactive⟩ := tracked_mem tracked
      have hkey := orderKey_change ambient none call order
      have hvisitSession : visitKey session = orderKey order := Prod.ext horganization horder
      have hsame : visitKey changed = visitKey session :=
        Prod.ext (Prod.ext_iff.mp hsessionKey).1 hvisits
      have hvisit := hsame.trans hvisitSession
      have honly (key : Key) (other : TrackingSession)
          (hother : records.trackingSessions.get? key = some other)
          (hsame : visitKey other = orderKey order) : key = sessionKey session :=
        coupled.once key _ other session hother hsession (hsame.trans hvisitSession.symm)
      obtain ⟨before, hbefore, hpairs⟩ := coupled.paired _ session hsession
      rw [hvisitSession, stored] at hbefore
      cases hbefore
      refine coupled.put_both (hvisit.trans hkey.symm) ⟨?_, ?_, ?_, ?_, ?_, ?_⟩
        (fun key other hother hsame => ?_) fun old hold => ?_
      · rcases status_change_of_closing ends ambient order with ⟨hends, h⟩ | ⟨hends, h⟩ <;>
          simp [hstatus, hends, h]
      · rcases status_change_of_closing ends ambient order with ⟨hends, h⟩ | ⟨hends, h⟩ <;>
          simp [hstatus, hends, h]
      · rcases status_change_of_closing ends ambient order with ⟨hends, h⟩ | ⟨hends, h⟩ <;>
          simp [hstatus, hends, h]
      · rw [assigneeId_change_of_closing ends ambient, hexecutor]
        exact hpairs.executor
      · rcases status_change_of_closing ends ambient order with ⟨hends, -⟩ | ⟨hends, -⟩ <;>
          simp [hstatus, hends, hpublic]
      · rcases status_change_of_closing ends ambient order with ⟨hends, -⟩ | ⟨hends, -⟩ <;>
          simp [hstatus, hends, hlocation]
      · rw [hsessionKey]
        exact honly key other hother (hsame.trans hkey)
      · rw [hsessionKey, hsession] at hold
        cases hold
        exact hvisitSession.trans hkey.symm

/-! ### Tokens -/

/-- What the commands of a run draw for the sessions they start. -/
def drawn (commands : List Command) : List (SessionAmbient × Key) :=
  commands.filterMap Command.starts?

/-- All tokens a run generates, of both kinds. -/
def tokens (commands : List Command) : List String :=
  (drawn commands).flatMap fun draw => [draw.1.publicToken, draw.1.locationToken]

/-- Every session was started for its order by a command of the run, and has no
tokens but the ones drawn for it. -/
def Traced (commands : List Command) (records : Records) : Prop :=
  ∀ key session, records.trackingSessions.get? key = some session →
    ∃ ambient, (ambient, visitKey session) ∈ drawn commands ∧
      (∀ token, session.publicToken = some token → token = ambient.publicToken) ∧
      (∀ token, session.locationToken = some token → token = ambient.locationToken)

theorem Traced.put {commands : List Command} {records : Records} (traced : Traced commands records)
    {session : TrackingSession}
    (known : ∃ ambient, (ambient, visitKey session) ∈ drawn commands ∧
      (∀ token, session.publicToken = some token → token = ambient.publicToken) ∧
      (∀ token, session.locationToken = some token → token = ambient.locationToken)) :
    Traced commands (putSession session records) := by
  intro key found h
  change (records.trackingSessions.set _ _).get? key = _ at h
  rw [Dict.get?_set] at h
  split at h
  · cases h
    exact known
  · exact traced key found h

theorem Traced.takes {commands : List Command} {command : Command} {records after : Records}
    (mem : command ∈ commands) (traced : Traced commands records)
    (takes : Takes command.starts? records after) : Traced commands after := by
  cases takes with
  | nothing => exact traced
  | created made absent => exact traced
  | changed ambient stored plain enabled => exact traced
  | @travelled order sessionAmbient sessionId executorId session ambient brought stored enabled
      started absent =>
      refine Traced.put (fun key found h => traced key found h) ⟨sessionAmbient, ?_, ?_, ?_⟩
      · have hvisit : visitKey session = orderKey order := by
          unfold visitKey orderKey
          rw [started.within, started.visits]
        rw [hvisit]
        exact List.mem_filterMap.mpr ⟨command, mem, brought⟩
      · intro token htoken
        rw [started.publicToken] at htoken
        exact (Option.some.inj htoken).symm
      · intro token htoken
        rw [started.locationToken] at htoken
        exact (Option.some.inj htoken).symm
  | @located session changed stored follows same =>
      obtain ⟨hkey, hvisits, -, -, hpublic, hlocation⟩ := same
      have hvisit : visitKey changed = visitKey session :=
        Prod.ext (Prod.ext_iff.mp hkey).1 hvisits
      refine traced.put ?_
      rw [hvisit, hpublic, hlocation]
      exact traced _ session stored
  | closed ambient stored ends enabled untracked => exact traced
  | @closedSession order call status session changed ambient stored ends enabled tracked follows
      ended =>
      obtain ⟨hkey, hvisits, -, -, hpublic, hlocation⟩ := ended
      have hvisit : visitKey changed = visitKey session :=
        Prod.ext (Prod.ext_iff.mp hkey).1 hvisits
      obtain ⟨hsession, -⟩ := tracked_mem tracked
      obtain ⟨sessionAmbient, hdrawn, -⟩ := traced _ session hsession
      refine Traced.put (fun key found h => traced key found h) ⟨sessionAmbient, ?_, ?_, ?_⟩
      · rw [hvisit]
        exact hdrawn
      · simp [hpublic]
      · simp [hlocation]

section distinct

variable {commands : List Command} (distinct : (tokens commands).Nodup)
  {left right : SessionAmbient × Key} (hleft : left ∈ drawn commands)
  (hright : right ∈ drawn commands)

include distinct hleft hright

/-- Pairwise distinct tokens are of one kind and for one session. -/
theorem disjoint_of_distinct (h : left ≠ right) :
    List.Disjoint [left.1.publicToken, left.1.locationToken]
      [right.1.publicToken, right.1.locationToken] := by
  have hsymmetric : Std.Symm (Function.onFun List.Disjoint
      fun draw : SessionAmbient × Key => [draw.1.publicToken, draw.1.locationToken]) :=
    ⟨fun _ _ hdisjoint _ hleft hright => hdisjoint hright hleft⟩
  exact (List.nodup_flatMap.mp distinct).2.forall hleft hright h

theorem eq_of_publicToken (h : left.1.publicToken = right.1.publicToken) : left = right := by
  by_contra hne
  exact disjoint_of_distinct distinct hleft hright hne (List.mem_cons_self ..) (by simp [h])

theorem eq_of_locationToken (h : left.1.locationToken = right.1.locationToken) :
    left = right := by
  by_contra hne
  exact disjoint_of_distinct distinct hleft hright hne
    (List.mem_cons_of_mem _ (List.mem_cons_self ..)) (by simp [h])

theorem publicToken_ne_locationToken : left.1.publicToken ≠ right.1.locationToken := by
  by_cases hsame : left = right
  · subst hsame
    have hown := (List.nodup_flatMap.mp distinct).1 left hleft
    simpa using hown
  · intro h
    exact disjoint_of_distinct distinct hleft hright hsame (List.mem_cons_self ..) (by simp [h])

end distinct

theorem findByToken_some {tokenOf : TrackingSession → Option String} {token : String}
    {sessions : List TrackingSession} {session : TrackingSession}
    (h : findByToken tokenOf token sessions = .ok (some session)) :
    session ∈ sessions ∧ session.status = .active ∧ tokenOf session = some token := by
  induction sessions with
  | nil => cases h
  | cons head rest ih =>
      unfold findByToken at h
      split at h
      · rename_i own hstatus htoken
        obtain ⟨isSame, hdigest, h⟩ := except_bind_ok.mp h
        cases isSame with
        | true =>
            cases h
            have howner : own = token := by
              unfold compareDigest at hdigest
              split at hdigest
              · simpa using hdigest
              · contradiction
            exact ⟨List.mem_cons_self .., hstatus, howner ▸ htoken⟩
        | false =>
            obtain ⟨hmem, hrest⟩ := ih h
            exact ⟨List.mem_cons_of_mem _ hmem, hrest⟩
      · obtain ⟨hmem, hrest⟩ := ih h
        exact ⟨List.mem_cons_of_mem _ hmem, hrest⟩

/-- A stored order is under way: its executor travels to it or works on it. -/
def UnderWay (records : Records) (key : Key) (order : WorkOrder) : Prop :=
  records.orders.get? key = some order ∧
    order.status ∈ [WorkOrderStatus.enRoute, .inProgress]

section answers

variable {commands : List Command} {records : Records} (coupled : Coupled records)
  (traced : Traced commands records)

include coupled traced

/-- Whatever a view is answered for is a public token drawn for an order that is
under way. -/
theorem resolve_some {token : String} {view : PublicTrackingView}
    (h : records.resolve token = .ok (some view)) :
    ∃ ambient key order session, (ambient, key) ∈ drawn commands ∧
      token = ambient.publicToken ∧ UnderWay records key order ∧
        visitKey session = key ∧ view = trackingView order session := by
  obtain ⟨found, hfound, h⟩ := except_bind_ok.mp h
  cases found with
  | none => cases h
  | some session =>
      obtain ⟨hmem, hactive, htoken⟩ := findByToken_some hfound
      obtain ⟨key, hstored⟩ := (Dict.mem_values _ _).mp hmem
      obtain ⟨order, horder, hpairs⟩ := coupled.paired key session hstored
      obtain ⟨ambient, hdrawn, hpublic, -⟩ := traced key session hstored
      refine ⟨ambient, visitKey session, order, session, hdrawn, hpublic token htoken,
        ⟨horder, hpairs.active.mp hactive⟩, rfl, ?_⟩
      have hget : records.orders.get? (session.organizationId, session.workOrderId) =
          some order := horder
      simp only [hget] at h
      exact (Option.some.inj (Except.ok.inj h)).symm

/-- Likewise for senders, with location tokens. -/
theorem resolveLocationSender_some {token : String} {target : LocationSubmissionTarget}
    (h : records.resolveLocationSender token = .ok (some target)) :
    ∃ ambient key order, (ambient, key) ∈ drawn commands ∧ token = ambient.locationToken ∧
      UnderWay records key order ∧ target.organizationId = key.1 ∧
        order.assigneeId = some target.executorId := by
  obtain ⟨found, hfound, h⟩ := except_bind_ok.mp h
  cases found with
  | none => cases h
  | some session =>
      obtain ⟨hmem, hactive, htoken⟩ := findByToken_some hfound
      obtain ⟨key, hstored⟩ := (Dict.mem_values _ _).mp hmem
      obtain ⟨order, horder, hpairs⟩ := coupled.paired key session hstored
      obtain ⟨ambient, hdrawn, -, hlocation⟩ := traced key session hstored
      cases h
      exact ⟨ambient, visitKey session, order, hdrawn, hlocation token htoken,
        ⟨horder, hpairs.active.mp hactive⟩, rfl, hpairs.executor⟩

end answers

/-- The search for the active session of an order never finds two. -/
theorem findActiveForOrder_never_raises {records : Records} (valid : Valid records)
    (coupled : Coupled records) (organizationId orderId : String) :
    ∃ session, records.findActiveForOrder organizationId orderId = .ok session := by
  have hnodup : ((records.activeEntries organizationId orderId).map Prod.fst).Nodup :=
    records.trackingSessions.distinct.sublist (List.filter_sublist.map Prod.fst)
  have hentry (entry : Key × TrackingSession)
      (hmem : entry ∈ records.activeEntries organizationId orderId) :
      records.trackingSessions.get? entry.1 = some entry.2 ∧
        visitKey entry.2 = (organizationId, orderId) := by
    obtain ⟨hstored, hactive⟩ := List.mem_filter.mp hmem
    have hget := (Dict.get?_eq_some _ _ _).mpr hstored
    obtain ⟨horganization, horder, -⟩ := of_decide_eq_true hactive
    obtain ⟨hkey, -⟩ := valid.sessionKeyed hget
    exact ⟨hget, Prod.ext ((congrArg Prod.fst hkey).trans horganization) horder⟩
  unfold Records.findActiveForOrder
  rcases hentries : records.activeEntries organizationId orderId with
    _ | ⟨entry, _ | ⟨other, rest⟩⟩
  · exact ⟨none, rfl⟩
  · exact ⟨some entry.2, rfl⟩
  · rw [hentries] at hentry hnodup
    obtain ⟨hfirst, hvisitFirst⟩ := hentry entry (by simp)
    obtain ⟨hsecond, hvisitSecond⟩ := hentry other (by simp)
    have hsame := coupled.once _ _ _ _ hfirst hsecond (hvisitFirst.trans hvisitSecond.symm)
    simp [hsame] at hnodup

theorem coupled_reached (commands : List Command) (schedule : List Nat) :
    let reached := (launch commands).run schedule
    Valid reached.state.toRecords ∧ Coupled reached.state.toRecords ∧
      Traced commands reached.state.toRecords := by
  intro reached
  obtain ⟨log, orderly⟩ :=
    (launch_orderly commands).run (fun hstep => poolStep_lawful hstep) schedule
  refine orderly.trace.invariant (fun store => Valid store.toRecords ∧
    Coupled store.toRecords ∧ Traced commands store.toRecords) ?_ ?_ ?_
  · exact ⟨valid_empty, coupled_empty, fun key session h => by
      simp [AsyncMemoryStore.empty, Records.empty] at h⟩
  · intro before after silent held
    change after.toRecords = before.toRecords at silent
    rwa [silent]
  · rintro index answers before after ⟨command, hcommand, hstep⟩ ⟨valid, coupled, traced⟩
    obtain ⟨records, happly, rfl⟩ := commitStep_iff.mp hstep
    have htakes := apply_takes valid happly
    exact ⟨(htakes.sound valid).1, coupled.takes valid htakes,
      traced.takes (List.mem_of_getElem? hcommand) htakes⟩

/-- In every reachable store orders and sessions are coupled, and the search for
an active session does not raise.  If the tokens of the run are pairwise
distinct, the token of a session is answered for only while its order is under
way, no other text is answered for, and neither kind of token passes as the
other. -/
theorem sessions_coupled (commands : List Command) (schedule : List Nat) :
    let reached := (launch commands).run schedule
    Coupled reached.state.toRecords ∧
    (∀ organizationId orderId, ∃ session,
      reached.state.findActiveForOrder organizationId orderId = .ok session) ∧
    ((tokens commands).Nodup →
      (∀ token view, reached.state.resolve token = .ok (some view) →
        ∃ draw ∈ drawn commands, token = draw.1.publicToken) ∧
      (∀ token target, reached.state.resolveLocationSender token = .ok (some target) →
        ∃ draw ∈ drawn commands, token = draw.1.locationToken) ∧
      ∀ draw ∈ drawn commands,
        (∀ view, reached.state.resolve draw.1.publicToken = .ok (some view) →
          ∃ order session, UnderWay reached.state.toRecords draw.2 order ∧
            visitKey session = draw.2 ∧ view = trackingView order session) ∧
        (∀ target, reached.state.resolveLocationSender draw.1.locationToken = .ok (some target) →
          ∃ order, UnderWay reached.state.toRecords draw.2 order ∧
            target.organizationId = draw.2.1 ∧ order.assigneeId = some target.executorId) ∧
        (∀ view, reached.state.resolve draw.1.locationToken ≠ .ok (some view)) ∧
        ∀ target, reached.state.resolveLocationSender draw.1.publicToken ≠
          .ok (some target)) := by
  intro reached
  obtain ⟨valid, coupled, traced⟩ := coupled_reached commands schedule
  refine ⟨coupled, findActiveForOrder_never_raises valid coupled, fun distinct =>
    ⟨fun token view h => ?_, fun token target h => ?_, fun draw hdraw =>
      ⟨fun view h => ?_, fun target h => ?_, fun view h => ?_, fun target h => ?_⟩⟩⟩
  · obtain ⟨ambient, key, _, _, hdrawn, htoken, _⟩ := resolve_some coupled traced h
    exact ⟨_, hdrawn, htoken⟩
  · obtain ⟨ambient, key, _, hdrawn, htoken, _⟩ := resolveLocationSender_some coupled traced h
    exact ⟨_, hdrawn, htoken⟩
  · obtain ⟨ambient, key, order, session, hdrawn, htoken, hunder, hvisit, hview⟩ :=
      resolve_some coupled traced h
    have hsame := eq_of_publicToken distinct hdraw hdrawn htoken
    subst hsame
    exact ⟨order, session, hunder, hvisit, hview⟩
  · obtain ⟨ambient, key, order, hdrawn, htoken, hunder, horganization, hexecutor⟩ :=
      resolveLocationSender_some coupled traced h
    have hsame := eq_of_locationToken distinct hdraw hdrawn htoken
    subst hsame
    exact ⟨order, hunder, horganization, hexecutor⟩
  · obtain ⟨ambient, key, _, _, hdrawn, htoken, _⟩ := resolve_some coupled traced h
    exact publicToken_ne_locationToken distinct hdrawn hdraw htoken.symm
  · obtain ⟨ambient, key, _, hdrawn, htoken, _⟩ := resolveLocationSender_some coupled traced h
    exact publicToken_ne_locationToken distinct hdraw hdrawn htoken

theorem sessions_coupled_visit :
    let reached := (launch (sampleVisit "a" "ann" "s" "x")).run
      ([0, 0, 0, 0] ++ [1, 1, 1, 1] ++ [2, 2, 2, 2] ++ [3, 3, 3, 3, 3])
    (∃ view, reached.state.resolve "x-000000000000000000000000000000000000000000" =
      .ok (some view)) ∧
      ∀ view, reached.state.resolve "x-111111111111111111111111111111111111111111" ≠
        .ok (some view) := by
  intro reached
  have holds := (sessions_coupled (sampleVisit "a" "ann" "s" "x")
    ([0, 0, 0, 0] ++ [1, 1, 1, 1] ++ [2, 2, 2, 2] ++ [3, 3, 3, 3, 3])).2.2 (by decide)
  exact ⟨⟨_, rfl⟩, (holds.2.2 _ (List.mem_singleton.mpr rfl)).2.2.1⟩

end DispatchCore.Application
