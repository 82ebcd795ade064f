import DispatchCore.Application.Tenants

/-! Commands of several organizations over one store, with what they return.
Each is confined to its organization, so taking the commands of all others out
of a run changes nothing for it. -/
namespace DispatchCore.Application

open DispatchCore.Library DispatchCore.Domain DispatchCore.Infrastructure

/-- What a command of the service returns. -/
inductive Returned
  | order (order : WorkOrder)
  | started (order : WorkOrder) (session : TrackingSession)
  | session (session : TrackingSession)

namespace Command

/-- The organization a command is for. -/
def organizationId : Command → String
  | createOrder _ _ _ creation => creation.organizationId
  | createOrderOnce _ _ creation => creation.organizationId
  | change _ organizationId _ _ _ => organizationId
  | startTravel _ _ organizationId _ _ _ _ => organizationId
  | recordLocation _ report => report.organizationId
  | completeOrder _ _ organizationId _ _ _ => organizationId
  | cancelOrder _ _ organizationId _ _ _ => organizationId

/-- The service call of a command, with its result. -/
def ask : Command → StoreTask Returned
  | createOrder ambient freshId orderId creation => do
      return .order (← AsyncDispatchService.createOrder .live ambient freshId orderId creation)
  | createOrderOnce ambient orderId creation => do
      return .order (← AsyncDispatchService.createOrderOnce .live ambient orderId creation)
  | change ambient organizationId orderId call plain => do
      return .order (← changeTask ambient organizationId orderId call plain)
  | startTravel ambient sessionAmbient organizationId orderId freshId executorId sessionId => do
      let (order, session) ← AsyncDispatchService.startTravel ambient organizationId orderId
        sessionAmbient freshId executorId sessionId
      return .started order session
  | recordLocation ambient report => do
      return .session (← AsyncDispatchService.recordLocation .live ambient report)
  | completeOrder ambient sessionAmbient organizationId orderId executorId report => do
      return .order (← AsyncDispatchService.completeOrder ambient organizationId orderId
        sessionAmbient executorId report)
  | cancelOrder ambient sessionAmbient organizationId orderId reason actorId => do
      return .order (← AsyncDispatchService.cancelOrder ambient organizationId orderId
        sessionAmbient reason actorId)

end Command

open Coroutine Atomic Command

/-! ### The commands, step by step -/

section steps

variable (ambient : Ambient) (organizationId orderId : String)

theorem createNewOrder_steps (creation : Creation) :
    AsyncDispatchService.createNewOrder .live ambient orderId creation =
      (do
        let publicNumber ← allocatePublicNumber creation.organizationId
        let order ← attempt (creation.order ambient orderId publicNumber)
        pause
        pause
        commitSegment (newOrder order)
        done order.pullEvents.2) := by
  simp only [AsyncDispatchService.createNewOrder, Work.transaction, StateT.run_bind,
    StateT.run_pure, run_lift, run_attempt, run_saveOrder, run_addEvents, run_commit, bind_assoc,
    done_bind, pure_eq]
  rfl

theorem confirmSubmission_steps (creation : Creation) :
    AsyncDispatchService.confirmSubmission ambient orderId creation =
      (do
        let existing ← getOrder creation.organizationId orderId
        let candidate ← attempt (creation.order ambient orderId existing.publicNumber)
        if sameSubmission existing candidate then
          commitSegment .empty
          done existing
        else raise (.concurrencyConflict
          s!"work order {Text.repr orderId} belongs to a different submission")) := by
  simp only [AsyncDispatchService.confirmSubmission, Work.transaction, StateT.run_bind, run_lift,
    run_attempt, bind_assoc, done_bind, pure_eq]
  congr 1
  funext existing
  congr 1
  funext candidate
  by_cases h : sameSubmission existing candidate
  · simp [h, run_commit, bind_assoc]
  · simp [h]

theorem changeOrder_steps (change : Method Failure WorkOrder Unit) :
    AsyncDispatchService.changeOrder organizationId orderId change =
      (do
        let order ← getOrder organizationId orderId
        let changed ← attempt (outcome change order)
        pause
        pause
        commitSegment (changedOrder order changed)
        done changed.pullEvents.2) := by
  simp only [AsyncDispatchService.changeOrder, Work.transaction, StateT.run_bind, StateT.run_pure,
    run_lift, run_call, run_saveOrder, run_addEvents, run_commit, bind_assoc, done_bind, pure_eq]
  rfl

theorem startTravel_steps (sessionAmbient : SessionAmbient) (freshId executorId : String)
    (sessionId : Option String) :
    AsyncDispatchService.startTravel ambient organizationId orderId sessionAmbient freshId
        executorId sessionId =
      (do
        let order ← getOrder organizationId orderId
        let changed ← attempt (outcome (WorkOrder.startTravel ambient executorId none) order)
        let session ← attempt (TrackingSession.start sessionAmbient
          (AsyncDispatchService.orFresh sessionId freshId) organizationId changed.id executorId
          none none none)
        pause
        pause
        pause
        commitSegment (((UnitOfWork.empty.stageOrder changed (some order.version)).stageTracking
          session none).stageEvents (changed.events ++ session.events))
        done (changed.pullEvents.2, session.pullEvents.2)) := by
  simp only [AsyncDispatchService.startTravel, Work.transaction, StateT.run_bind, StateT.run_pure,
    run_lift, run_attempt, run_call, run_saveOrder, run_saveTracking, run_addEvents, run_commit,
    bind_assoc, done_bind, pure_eq]
  rfl

theorem closeOrder_steps (change : Method Failure WorkOrder Unit)
    (close : Method Failure TrackingSession Unit) :
    AsyncDispatchService.closeOrder organizationId orderId change close =
      (do
        let order ← getOrder organizationId orderId
        let changed ← attempt (outcome change order)
        pause
        let session ← findActiveForOrder organizationId orderId
        match session with
        | none => do
            pause
            commitSegment (changedOrder order changed)
            done changed.pullEvents.2
        | some session => do
            let closed ← attempt (outcome close session)
            pause
            pause
            commitSegment (((UnitOfWork.empty.stageOrder changed
              (some order.version)).stageTracking closed (some session.version)).stageEvents
                (changed.events ++ closed.events))
            done changed.pullEvents.2) := by
  simp only [AsyncDispatchService.closeOrder, Work.transaction, StateT.run_bind, run_lift,
    run_call, run_saveOrder, bind_assoc, done_bind, pure_eq]
  congr 1
  funext order
  congr 1
  funext changed
  congr 1
  funext _
  congr 1
  funext session
  cases session with
  | none =>
      simp only [StateT.run_bind, StateT.run_pure, run_addEvents, run_commit, bind_assoc,
        done_bind, pure_eq]
      rfl
  | some session =>
      simp only [StateT.run_bind, StateT.run_pure, run_call, run_saveTracking, run_addEvents,
        run_commit, bind_assoc, done_bind, pure_eq]
      rfl

/-- `record_location` once it is known that the point is new. -/
def locateSteps (report : LocationReport) (session : TrackingSession) :
    StoreTask TrackingSession := do
  let point ← attempt (TrackingPoint.make report.latitude report.longitude
    (AsyncDispatchService.observedAt report session ambient.clock) ambient.clock
    report.source report.accuracyM report.sourceEventId)
  let changed ← attempt (outcome (TrackingSession.addPoint ambient point) session)
  pause
  pause
  commitSegment ((UnitOfWork.empty.stageTracking changed (some session.version)).stageEvents
    changed.events)
  done changed.pullEvents.2

theorem recordLocation_steps (report : LocationReport) :
    AsyncDispatchService.recordLocation .live ambient report =
      (do
        let session ← getTracking report.organizationId report.sessionId
        if session.executorId = report.executorId then
          match report.sourceEventId with
          | none => locateSteps ambient report session
          | some sourceEventId =>
              let seen ← hasSourceEvent report.organizationId report.source sourceEventId
              if seen then
                commitSegment .empty
                done session
              else locateSteps ambient report session
        else raise (.invalidTransition "session does not belong to this executor")) := by
  simp only [AsyncDispatchService.recordLocation, Work.transaction, StateT.run_bind, run_lift,
    bind_assoc, done_bind, pure_eq]
  congr 1
  funext session
  by_cases howner : session.executorId = report.executorId
  · cases hsource : report.sourceEventId with
    | none =>
        simp [howner, run_call, run_saveTracking, run_addEvents, run_commit, -bind_pure_comp,
          locateSteps, hsource]
        rfl
    | some sourceEventId =>
        simp only [howner, ne_eq, not_true_eq_false, if_false, if_true, StateT.run_bind, run_lift,
          bind_assoc, done_bind]
        change (hasSourceEvent report.organizationId report.source sourceEventId >>= _) = _
        congr 1
        funext seen
        cases seen with
        | false =>
            simp [run_call, run_saveTracking, run_addEvents, run_commit, -bind_pure_comp,
              locateSteps, hsource]
            rfl
        | true =>
            simp [run_commit, -bind_pure_comp]
  · simp [howner]

end steps

/-! ### The repository calls are confined -/

section calls

variable {organizationId : String}

theorem order_same {state twin : AsyncMemoryStore}
    (view : tenant organizationId state = tenant organizationId twin) (orderId : String) :
    state.orders.get? (organizationId, orderId) = twin.orders.get? (organizationId, orderId) := by
  have horders := congrArg Tenant.orders view
  simp only [tenant] at horders
  rw [← @get?_part organizationId _ state.orders (organizationId, orderId) rfl, horders,
    @get?_part organizationId _ twin.orders (organizationId, orderId) rfl]

theorem session_same {state twin : AsyncMemoryStore}
    (view : tenant organizationId state = tenant organizationId twin) (sessionId : String) :
    state.trackingSessions.get? (organizationId, sessionId) =
      twin.trackingSessions.get? (organizationId, sessionId) := by
  have hsessions := congrArg Tenant.trackingSessions view
  simp only [tenant] at hsessions
  rw [← @get?_part organizationId _ state.trackingSessions (organizationId, sessionId) rfl,
    hsessions, @get?_part organizationId _ twin.trackingSessions (organizationId, sessionId) rfl]

theorem confined_getOrder (organizationId orderId : String) :
    Confined tenancy organizationId
      (fun order => orderKey order = (organizationId, orderId) ∧ order.events = [])
      (getOrder organizationId orderId) := by
  refine Confined.read (fun state order htidy h => htidy.orders _ order (getOrder_ok.mp h))
    fun state twin _ _ hview => ?_
  unfold Records.getOrder
  rw [order_same hview]

theorem confined_getTracking (organizationId sessionId : String) :
    Confined tenancy organizationId
      (fun session => sessionKey session = (organizationId, sessionId) ∧ session.events = [])
      (getTracking organizationId sessionId) := by
  refine Confined.read (fun state session htidy h => htidy.sessions _ session (getTracking_ok.mp h))
    fun state twin _ _ hview => ?_
  unfold Records.getTracking
  rw [session_same hview]

/-- The active sessions of an order are found in the part of its organization. -/
theorem activeEntries_part (records : Records) (orderId : String) :
    records.activeEntries organizationId orderId =
      (records.trackingSessions.restrict fun key _ =>
        ofOrganization organizationId key).entries.filter fun entry =>
          Records.ActiveFor organizationId orderId entry := by
  unfold Records.activeEntries Dict.restrict
  simp only [List.filter_filter]
  apply List.filter_congr
  intro entry hentry
  by_cases h : entry.1.1 = organizationId
  · simp [ofOrganization, h]
  · simp [Records.ActiveFor, h]

theorem confined_findActiveForOrder (organizationId orderId : String) :
    Confined tenancy organizationId
      (fun found => ∀ session, found = some session →
        session.organizationId = organizationId ∧ session.events = [])
      (findActiveForOrder organizationId orderId) := by
  refine Confined.read (fun state found htidy h session hsession => ?_)
    fun state twin _ _ hview => ?_
  · rcases findActiveForOrder_ok.mp h with ⟨hnone, -⟩ | ⟨key, other, hsome, hentries⟩
    · rw [hnone] at hsession
      contradiction
    · have hsame : session = other := Option.some.inj (hsession.symm.trans hsome)
      subst hsame
      have hmem : (key, session) ∈ state.activeEntries organizationId orderId := by
        rw [hentries]
        exact List.mem_singleton.mpr rfl
      obtain ⟨hentry, hactive⟩ := List.mem_filter.mp hmem
      obtain ⟨hkey, hevents⟩ := htidy.sessions key session ((Dict.get?_eq_some _ _ _).mpr hentry)
      exact ⟨(congrArg Prod.fst hkey).trans (of_decide_eq_true hactive).1, hevents⟩
  · have hsessions := congrArg Tenant.trackingSessions hview
    simp only [tenancy, tenant] at hsessions
    unfold Records.findActiveForOrder
    rw [activeEntries_part, activeEntries_part, hsessions]

/-- Whether a source event is on record shows in the part of the organization. -/
theorem hasSourceEvent_iff {state : AsyncMemoryStore} (tidy : Tidy state.toRecords)
    (source : LocationSource) (sourceEventId : String) :
    state.hasSourceEvent organizationId source sourceEventId = true ↔
      ∃ sessionId session, state.trackingSessions.get? (organizationId, sessionId) = some session ∧
        (session.points.any fun point =>
          point.source = source && point.sourceEventId = some sourceEventId) = true := by
  unfold Records.hasSourceEvent
  simp only [List.any_eq_true (l := state.trackingSessions.values), Bool.and_eq_true,
    decide_eq_true_eq]
  constructor
  · rintro ⟨session, hsession, horganization, hpoints⟩
    obtain ⟨key, hstored⟩ := (Dict.mem_values _ _).mp hsession
    obtain ⟨hkey, -⟩ := tidy.sessions key session hstored
    refine ⟨session.id, session, ?_, hpoints⟩
    rw [← horganization]
    exact (congrArg state.trackingSessions.get? hkey).trans hstored
  · rintro ⟨sessionId, session, hstored, hpoints⟩
    obtain ⟨hkey, -⟩ := tidy.sessions _ session hstored
    exact ⟨session, (Dict.mem_values _ _).mpr ⟨_, hstored⟩, congrArg Prod.fst hkey, hpoints⟩

theorem confined_hasSourceEvent (organizationId : String) (source : LocationSource)
    (sourceEventId : String) :
    Confined tenancy organizationId (fun _ => True)
      (hasSourceEvent organizationId source sourceEventId) := by
  refine Confined.read (fun _ _ _ _ => trivial) fun state twin htidy htwin hview => ?_
  congr 1
  rw [Bool.eq_iff_iff, hasSourceEvent_iff htidy, hasSourceEvent_iff htwin]
  simp only [session_same hview]

theorem confined_allocatePublicNumber (organizationId : String) :
    Confined tenancy organizationId (fun _ => True) (allocatePublicNumber organizationId) := by
  refine Confined.bind (show Confined tenancy organizationId (fun _ => True) _ from
    Confined.segment ?_ ?_) fun _ _ => Confined.attempt fun _ _ => trivial
  · intro state value after htidy h
    cases h
    refine ⟨htidy, trivial, fun other hother => ?_⟩
    simp only [tenancy, tenant, Dict.get?_set_of_ne _ _ hother]
  · intro state twin _ _ hview
    have hcounter := congrArg Tenant.orderNumberCounter hview
    simp only [tenancy, tenant] at hcounter
    refine ⟨by rw [hcounter], ?_⟩
    simp only [tenancy, tenant] at hview ⊢
    simp only [Dict.get?_set_self, hcounter]
    rw [Tenant.mk.injEq] at hview ⊢
    exact ⟨hview.1, hview.2.1, rfl, hview.2.2.2⟩

theorem confined_commit {work : UnitOfWork} (staged : Staged organizationId work) :
    Confined tenancy organizationId (fun _ => True) (commitSegment work) := by
  refine Confined.segment ?_ ?_
  · intro state value after htidy h
    cases hcommit : work.commit state.toRecords with
    | error failure =>
        rw [hcommit] at h
        contradiction
    | ok records =>
        rw [hcommit] at h
        cases h
        exact ⟨commit_tidy htidy staged hcommit, trivial, fun other hother =>
          commit_foreign staged hother hcommit⟩
  · intro state twin htidy htwin hview
    have hversions : work.checkVersions state.toRecords = work.checkVersions twin.toRecords :=
      checkVersions_congr staged hview
    have hcapacity : work.checkExecutorCapacity state.toRecords =
        work.checkExecutorCapacity twin.toRecords :=
      checkExecutorCapacity_congr htidy htwin staged (congrArg Tenant.orders hview)
    cases hcommit : work.commit state.toRecords with
    | error failure =>
        have htwinCommit : work.commit twin.toRecords = .error failure := by
          unfold UnitOfWork.commit at hcommit ⊢
          rw [← hversions, ← hcapacity]
          revert hcommit
          cases work.checkVersions state.toRecords with
          | error other => exact id
          | ok _ =>
              cases work.checkExecutorCapacity state.toRecords with
              | error other => exact id
              | ok _ => exact fun h => by cases h
        rw [htwinCommit]
        rfl
    | ok records =>
        obtain ⟨twinRecords, htwinCommit⟩ : ∃ after, work.commit twin.toRecords = .ok after := by
          unfold UnitOfWork.commit at hcommit ⊢
          rw [← hversions, ← hcapacity]
          obtain ⟨_, hfirst, hcommit⟩ := except_bind_ok.mp hcommit
          obtain ⟨_, hsecond, -⟩ := except_bind_ok.mp hcommit
          exact ⟨_, except_bind_ok.mpr ⟨_, hfirst, except_bind_ok.mpr ⟨_, hsecond, rfl⟩⟩⟩
        rw [htwinCommit]
        refine ⟨rfl, ?_⟩
        have hown := @commit_own organizationId _ _ _ state.orderNumberCounters staged hcommit
        have htwinOwn := @commit_own organizationId _ _ _ twin.orderNumberCounters staged
          htwinCommit
        have hstate : tenant organizationId ⟨state.toRecords, state.orderNumberCounters⟩ =
            tenant organizationId ⟨twin.toRecords, twin.orderNumberCounters⟩ := hview
        have hcounter : state.orderNumberCounters.get? organizationId =
            twin.orderNumberCounters.get? organizationId :=
          congrArg Tenant.orderNumberCounter hview
        exact hown.trans ((by rw [hstate, hcounter]) : _ = _) |>.trans htwinOwn.symm

end calls

/-! ### The commands are confined -/

section commands

variable {ambient : Ambient} {organizationId orderId : String}

/-- An order of the organization that recorded events of its own only. -/
def OwnOrder (organizationId : String) (order : WorkOrder) : Prop :=
  order.organizationId = organizationId ∧
    ∀ event ∈ order.events, event.organizationId = organizationId

def OwnSession (organizationId : String) (session : TrackingSession) : Prop :=
  session.organizationId = organizationId ∧
    ∀ event ∈ session.events, event.organizationId = organizationId

theorem ownOrder_follows {order : WorkOrder} {before : Option WorkOrder}
    (follows : orderAggregate.Follows before order) (own : order.organizationId = organizationId) :
    OwnOrder organizationId order :=
  ⟨own, fun event hevent => (congrArg Prod.fst (follows.owned event hevent).2).trans own⟩

theorem ownSession_follows {session : TrackingSession} {before : Option TrackingSession}
    (follows : sessionAggregate.Follows before session)
    (own : session.organizationId = organizationId) : OwnSession organizationId session :=
  ⟨own, fun event hevent => (congrArg Prod.fst (follows.owned event hevent).2).trans own⟩

theorem ownOrder_change {order changed : WorkOrder} {call : Call}
    (named : orderKey order = (organizationId, orderId)) (pulled : order.events = [])
    (h : outcome (call.perform ambient none) order = .ok changed) :
    OwnOrder organizationId changed := by
  obtain ⟨-, rfl⟩ := (Call.perform_ok ambient none call).mp (outcome_ok.mp h)
  have hkey := orderKey_change ambient none call order
  exact ownOrder_follows (follows_change pulled ambient call)
    (congrArg Prod.fst (hkey.trans named))

theorem staged_order {order : WorkOrder} (own : OwnOrder organizationId order)
    (expectedVersion : Option Nat) :
    Staged organizationId
      ((UnitOfWork.empty.stageOrder order expectedVersion).stageEvents order.events) :=
  (Staged.empty.stageOrder own.1 expectedVersion).stageEvents own.2

theorem staged_session {session : TrackingSession} (own : OwnSession organizationId session)
    (expectedVersion : Option Nat) :
    Staged organizationId
      ((UnitOfWork.empty.stageTracking session expectedVersion).stageEvents session.events) :=
  (Staged.empty.stageTracking own.1 expectedVersion).stageEvents own.2

theorem staged_both {order : WorkOrder} {session : TrackingSession}
    (own : OwnOrder organizationId order) (ownSession : OwnSession organizationId session)
    (orderVersion sessionVersion : Option Nat) :
    Staged organizationId (((UnitOfWork.empty.stageOrder order orderVersion).stageTracking session
      sessionVersion).stageEvents (order.events ++ session.events)) := by
  refine ((Staged.empty.stageOrder own.1 orderVersion).stageTracking ownSession.1
    sessionVersion).stageEvents fun event hevent => ?_
  rcases List.mem_append.mp hevent with horder | hsession
  · exact own.2 event horder
  · exact ownSession.2 event hsession

/-- A commit, and the result. -/
theorem confined_finish {α : Type} {work : UnitOfWork} (staged : Staged organizationId work)
    (result : α) :
    Confined tenancy organizationId (fun _ => True) (do
      commitSegment work
      done result) :=
  (confined_commit staged).bind fun _ _ => trivial

theorem confined_createNewOrder (creation : Creation) :
    Confined tenancy creation.organizationId (fun _ => True)
      (AsyncDispatchService.createNewOrder .live ambient orderId creation) := by
  rw [createNewOrder_steps]
  refine (confined_allocatePublicNumber creation.organizationId).bind fun publicNumber _ => ?_
  refine Confined.bind (Confined.attempt fun order hmade =>
    (show OwnOrder creation.organizationId order from ?_)) fun order hown => ?_
  · have hcreated := creation_ok hmade
    exact ownOrder_follows hcreated.follows (congrArg Prod.fst hcreated.named)
  · refine Confined.pause.bind fun _ _ => Confined.pause.bind fun _ _ => ?_
    exact confined_finish (staged_order hown none) _

theorem confined_confirmSubmission (creation : Creation) :
    Confined tenancy creation.organizationId (fun _ => True)
      (AsyncDispatchService.confirmSubmission ambient orderId creation) := by
  rw [confirmSubmission_steps]
  refine (confined_getOrder creation.organizationId orderId).bind fun existing _ => ?_
  refine Confined.bind (Confined.attempt fun candidate _ => trivial) fun candidate _ => ?_
  by_cases hsame : sameSubmission existing candidate
  · rw [if_pos hsame]
    exact confined_finish Staged.empty existing
  · rw [if_neg hsame]
    trivial

theorem confined_createOrderOnce (creation : Creation) :
    Confined tenancy creation.organizationId (fun _ => True)
      (AsyncDispatchService.createOrderOnce .live ambient orderId creation) := by
  refine Confined.tryCatch (confined_createNewOrder creation) fun failure => ?_
  by_cases hconflict : failure.isConcurrencyConflict
  · rw [if_pos hconflict]
    exact confined_confirmSubmission creation
  · rw [if_neg hconflict]
    trivial

theorem confined_changeOrder (call : Call) :
    Confined tenancy organizationId (fun _ => True)
      (AsyncDispatchService.changeOrder organizationId orderId (call.perform ambient none)) := by
  rw [changeOrder_steps]
  refine (confined_getOrder organizationId orderId).bind fun order hread => ?_
  refine Confined.bind (Confined.attempt fun changed houtcome =>
    ownOrder_change hread.1 hread.2 houtcome) fun changed hown => ?_
  refine Confined.pause.bind fun _ _ => Confined.pause.bind fun _ _ => ?_
  exact confined_finish (staged_order hown _) _

theorem confined_startTravel (sessionAmbient : SessionAmbient) (freshId executorId : String)
    (sessionId : Option String) :
    Confined tenancy organizationId (fun _ => True)
      (AsyncDispatchService.startTravel ambient organizationId orderId sessionAmbient freshId
        executorId sessionId) := by
  rw [startTravel_steps]
  refine (confined_getOrder organizationId orderId).bind fun order hread => ?_
  refine Confined.bind (Confined.attempt fun changed houtcome =>
    @ownOrder_change ambient _ _ order changed (.startTravel executorId) hread.1 hread.2 houtcome)
    fun changed hown => ?_
  refine Confined.bind (Confined.attempt fun session hstart =>
    (show OwnSession organizationId session from ?_)) fun session hsession => ?_
  · have hstarted := TrackingSession.start_ok hstart
    exact ownSession_follows (follows_started hstarted) hstarted.within
  · refine Confined.pause.bind fun _ _ => Confined.pause.bind fun _ _ =>
      Confined.pause.bind fun _ _ => ?_
    exact confined_finish (staged_both hown hsession _ _) _

theorem confined_closeOrder (call : Call) {close : Method Failure TrackingSession Unit}
    (closes : ∀ session changed, session.events = [] → close.run session = .ok () changed →
      sessionAggregate.Follows (some session) changed ∧
        changed.organizationId = session.organizationId) :
    Confined tenancy organizationId (fun _ => True)
      (AsyncDispatchService.closeOrder organizationId orderId (call.perform ambient none)
        close) := by
  rw [closeOrder_steps]
  refine (confined_getOrder organizationId orderId).bind fun order hread => ?_
  refine Confined.bind (Confined.attempt fun changed houtcome =>
    ownOrder_change hread.1 hread.2 houtcome) fun changed hown => ?_
  refine Confined.pause.bind fun _ _ => ?_
  refine (confined_findActiveForOrder organizationId orderId).bind fun found hfound => ?_
  cases found with
  | none =>
      refine Confined.pause.bind fun _ _ => ?_
      exact confined_finish (staged_order hown _) _
  | some session =>
      obtain ⟨horganization, hpulled⟩ := hfound session rfl
      refine Confined.bind (Confined.attempt fun closed houtcome =>
        (show OwnSession organizationId closed from ?_)) fun closed hclosed => ?_
      · obtain ⟨hfollows, hsame⟩ := closes session closed hpulled (outcome_ok.mp houtcome)
        exact ownSession_follows hfollows (hsame.trans horganization)
      · refine Confined.pause.bind fun _ _ => Confined.pause.bind fun _ _ => ?_
        exact confined_finish (staged_both hown hclosed _ _) _

theorem confined_locateSteps (report : LocationReport) {session : TrackingSession}
    (named : sessionKey session = (report.organizationId, report.sessionId))
    (pulled : session.events = []) :
    Confined tenancy report.organizationId (fun _ => True) (locateSteps ambient report session) := by
  refine Confined.bind (Confined.attempt fun point _ => trivial) fun point _ => ?_
  refine Confined.bind (Confined.attempt fun changed houtcome =>
    (show OwnSession report.organizationId changed from ?_)) fun changed hown => ?_
  · rcases TrackingSession.addPoint_ok (outcome_ok.mp houtcome) with ⟨-, rfl⟩ | ⟨-, rfl⟩
    · refine ⟨congrArg Prod.fst named, fun event hevent => ?_⟩
      rw [pulled] at hevent
      contradiction
    · exact ownSession_follows (follows_recordedSession (session.withPoint point) pulled rfl rfl
        _ _ _ _) (congrArg Prod.fst named)
  · refine Confined.pause.bind fun _ _ => Confined.pause.bind fun _ _ => ?_
    exact confined_finish (staged_session hown _) _

theorem confined_recordLocation (report : LocationReport) :
    Confined tenancy report.organizationId (fun _ => True)
      (AsyncDispatchService.recordLocation .live ambient report) := by
  rw [recordLocation_steps]
  refine (confined_getTracking report.organizationId report.sessionId).bind fun session hread => ?_
  obtain ⟨hnamed, hpulled⟩ := hread
  by_cases howner : session.executorId = report.executorId
  · rw [if_pos howner]
    cases report.sourceEventId with
    | none => exact confined_locateSteps report hnamed hpulled
    | some sourceEventId =>
        refine (confined_hasSourceEvent report.organizationId report.source sourceEventId).bind
          fun seen _ => ?_
        cases seen with
        | true => exact confined_finish Staged.empty session
        | false => exact confined_locateSteps report hnamed hpulled
  · rw [if_neg howner]
    trivial

/-- Every command reads and writes nothing but its organization's part of the store. -/
theorem confined_ask (command : Command) :
    Confined tenancy command.organizationId (fun _ => True) command.ask := by
  cases command with
  | createOrder ambient freshId orderId creation =>
      exact (confined_createNewOrder creation).bind fun _ _ => trivial
  | createOrderOnce ambient orderId creation =>
      exact (confined_createOrderOnce creation).bind fun _ _ => trivial
  | change ambient organizationId orderId call plain =>
      simp only [Command.ask, changeTask_eq]
      exact (confined_changeOrder call).bind fun _ _ => trivial
  | startTravel ambient sessionAmbient organizationId orderId freshId executorId sessionId =>
      exact (confined_startTravel sessionAmbient freshId executorId sessionId).bind
        fun _ _ => trivial
  | recordLocation ambient report =>
      exact (confined_recordLocation report).bind fun _ _ => trivial
  | completeOrder ambient sessionAmbient organizationId orderId executorId report =>
      refine (confined_closeOrder (.complete executorId report)
        fun session changed hpulled hrun => ?_).bind fun _ _ => trivial
      rw [(TrackingSession.complete_ok hrun).2]
      exact ⟨follows_recordedSession (session.closed .completed) hpulled rfl rfl _ _ _ _, rfl⟩
  | cancelOrder ambient sessionAmbient organizationId orderId reason actorId =>
      refine (confined_closeOrder (.cancel reason actorId)
        fun session changed hpulled hrun => ?_).bind fun _ _ => trivial
      rw [(TrackingSession.cancel_ok hrun).2]
      exact ⟨follows_recordedSession (session.closed .cancelled) hpulled rfl rfl _ _ _ _, rfl⟩

end commands

/-! ### Runs -/

/-- All commands over one store, none of them started, each with its result. -/
def begin (commands : List Command) : Coroutine.Pool AsyncMemoryStore Failure Returned :=
  { state := .empty, tasks := commands.map Command.ask }

def isFor (organizationId : String) (command : Command) : Bool :=
  command.organizationId = organizationId

/-- Where a command of the organization stands once the commands of all others are deleted. -/
def placeAmong (organizationId : String) (commands : List Command) (index : Nat) : Option Nat :=
  match commands[index]? with
  | none => none
  | some command =>
      if isFor organizationId command then
        some ((commands.take index).countP (isFor organizationId))
      else none

theorem getElem?_filter_countP {α : Type} (keeps : α → Bool) (items : List α) (index : Nat)
    {item : α} (found : items[index]? = some item) (kept : keeps item = true) :
    (items.filter keeps)[(items.take index).countP keeps]? = some item := by
  induction items generalizing index with
  | nil => simp at found
  | cons first rest ih =>
      cases index with
      | zero =>
          simp only [List.getElem?_cons_zero, Option.some.injEq] at found
          subst found
          simp [kept]
      | succ index =>
          rw [List.getElem?_cons_succ] at found
          have hrest := ih index found
          by_cases hfirst : keeps first = true
          · simp [hfirst, hrest]
          · simp [hfirst, hrest]

theorem placeAmong_some {organizationId : String} {commands : List Command} {index at' : Nat}
    (h : placeAmong organizationId commands index = some at') :
    ∃ command, commands[index]? = some command ∧ command.organizationId = organizationId ∧
      at' = (commands.take index).countP (isFor organizationId) := by
  unfold placeAmong at h
  cases hcommand : commands[index]? with
  | none =>
      rw [hcommand] at h
      contradiction
  | some command =>
      simp only [hcommand] at h
      by_cases hfor : isFor organizationId command = true
      · rw [if_pos hfor] at h
        cases h
        exact ⟨command, rfl, of_decide_eq_true hfor, rfl⟩
      · rw [if_neg hfor] at h
        contradiction

theorem countP_take_lt {α : Type} (keeps : α → Bool) (items : List α) {first second : Nat}
    {item : α} (found : items[first]? = some item) (kept : keeps item = true)
    (h : first < second) :
    (items.take first).countP keeps < (items.take second).countP keeps := by
  obtain ⟨hbound, hitem⟩ := List.getElem?_eq_some_iff.mp found
  have hnext : (items.take (first + 1)).countP keeps = (items.take first).countP keeps + 1 := by
    rw [List.take_succ_eq_append_getElem hbound, List.countP_append, hitem]
    simp [kept]
  have hmono : (items.take (first + 1)).countP keeps ≤ (items.take second).countP keeps := by
    apply List.Sublist.countP_le
    exact List.take_sublist_take_left h
  omega

/-- Delete the commands of every other organization from an interleaved run, and their steps
from its schedule.  The organization's part of the store ends up the same, and each of its
commands is where it was: it returned the same, it raised the same, or it has the same still to
do. -/
theorem tenants_apart (commands : List Command) (schedule : List Nat) (organizationId : String) :
    let reached := (begin commands).run schedule
    let alone := (begin (commands.filter (isFor organizationId))).run
      (schedule.filterMap (placeAmong organizationId commands))
    tenant organizationId reached.state = tenant organizationId alone.state ∧
      ∀ index command, commands[index]? = some command →
        command.organizationId = organizationId →
          alone.tasks[(commands.take index).countP (isFor organizationId)]? =
            reached.tasks[index]? := by
  intro reached alone
  have howns (index : Nat) :
      (commands[index]?).map Command.organizationId = some organizationId ↔
        ∃ at', placeAmong organizationId commands index = some at' := by
    unfold placeAmong
    cases commands[index]? with
    | none => simp
    | some command =>
        by_cases hfor : command.organizationId = organizationId <;> simp [isFor, hfor]
  have honce (first second at' : Nat)
      (hfirst : placeAmong organizationId commands first = some at')
      (hsecond : placeAmong organizationId commands second = some at') : first = second := by
    obtain ⟨left, hleft, hleftFor, hleftAt⟩ := placeAmong_some hfirst
    obtain ⟨right, hright, hrightFor, hrightAt⟩ := placeAmong_some hsecond
    rcases Nat.lt_trichotomy first second with hlt | heq | hgt
    · have hcount := countP_take_lt (isFor organizationId) _ hleft
        (decide_eq_true hleftFor) hlt
      exact absurd (hleftAt.symm.trans hrightAt) (Nat.ne_of_lt hcount)
    · exact heq
    · have hcount := countP_take_lt (isFor organizationId) _ hright
        (decide_eq_true hrightFor) hgt
      exact absurd (hrightAt.symm.trans hleftAt) (Nat.ne_of_lt hcount)
  have hmirrors : Coroutine.Pool.Mirrors tenancy organizationId
      (fun index => (commands[index]?).map Command.organizationId)
      (placeAmong organizationId commands) (begin commands)
      (begin (commands.filter (isFor organizationId))) := by
    refine ⟨tidy_empty, tidy_empty, rfl, fun index at' hplace => ?_, fun index task htask => ?_⟩
    · obtain ⟨command, hcommand, hfor, rfl⟩ := placeAmong_some hplace
      simp only [begin, List.getElem?_map, hcommand]
      rw [getElem?_filter_countP _ _ _ hcommand (decide_eq_true hfor)]
    · simp only [begin, List.getElem?_map] at htask
      obtain ⟨command, hcommand, rfl⟩ := Option.map_eq_some_iff.mp htask
      refine ⟨command.organizationId, ?_, confined_ask command⟩
      rw [hcommand]
      rfl
  have hrun := hmirrors.run howns honce schedule
  refine ⟨hrun.view, fun index command hcommand hfor => hrun.tasks index _ ?_⟩
  unfold placeAmong
  simp [hcommand, isFor, hfor]

/-- Two organizations that name an order alike. -/
def sampleNamesakes : List Command :=
  [.createOrder ⟨⟨0⟩, "e"⟩ "" (some "a") ⟨"acme", "repair", "web", .empty, none, none⟩,
    .createOrder ⟨⟨0⟩, "f"⟩ "" (some "a") ⟨"bolt", "repair", "web", .empty, none, none⟩]

theorem namesakes_apart :
    ((begin [sampleNamesakes.get ⟨1, by decide⟩]).run [0, 0, 0, 0]).tasks[0]? =
      ((begin sampleNamesakes).run [0, 1, 1, 0, 0, 1, 0, 1]).tasks[1]? :=
  (tenants_apart sampleNamesakes [0, 1, 1, 0, 0, 1, 0, 1] "bolt").2 1
    (sampleNamesakes.get ⟨1, by decide⟩) rfl rfl

end DispatchCore.Application
