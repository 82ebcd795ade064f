import DispatchCore.Application.Effects
import DispatchCore.Application.PostgresService
import DispatchCore.Library.LockOrder

/-! The transactions of the service take their locks in one order, counter before order before
session before events, and so none of them ever waits in a circle. -/
namespace DispatchCore.Application

open DispatchCore.Library DispatchCore.Domain DispatchCore.Infrastructure Isolation

/-- The order in which the transactions come to their locks. -/
def lockRank : StoreLock → Nat
  | .counter _ => 0
  | .order _ => 1
  | .publicNumber _ _ => 2
  | .executor _ => 3
  | .session _ => 4
  | .indexed _ => 5
  | .point _ _ => 6
  | .sourceEvent _ _ _ => 7
  | .event _ => 8
  | .eventVersion _ _ _ => 9

/-- The rows of orders stand under their keys. -/
def KeyedRows (tables : StoreTables) : Prop :=
  ∀ key row, tables.orders.get? key = some row → orderKey row = key

def KeyedWrite : StoreWrite → Prop
  | .order key row => orderKey row = key
  | _ => True

theorem keyedRows_apply (tables : StoreTables) (write : StoreWrite) (keyed : KeyedRows tables)
    (h : KeyedWrite write) : KeyedRows (tables.apply write) := by
  cases write with
  | order key row =>
      intro other found hfound
      change (tables.orders.set key row).get? other = some found at hfound
      rw [Dict.get?_set] at hfound
      by_cases hsame : other = key
      · rw [if_pos hsame] at hfound
        cases hfound
        rw [hsame]
        exact h
      · rw [if_neg hsame] at hfound
        exact keyed other found hfound
  | counter | responses | session | points | events => exact keyed

theorem keyedWrite_execute (statement : StoreStatement) (tables : StoreTables)
    (found : Executed StoreWrite StoreLock statement.Answer)
    (h : statement.execute tables = .ok found) : ∀ write ∈ found.writes, KeyedWrite write := by
  have hrow (order : WorkOrder) :
      orderKey (orderRow order) = (order.organizationId, order.id) := rfl
  cases statement <;> simp only [StoreStatement.execute] at h
  all_goals
    repeat' split at h
    all_goals cases h
    all_goals simp [KeyedWrite, hrow]

theorem steady_store : Steady StoreStatement.execute StoreTables.apply KeyedRows KeyedWrite where
  apply := keyedRows_apply
  execute := keyedWrite_execute

abbrev StoreAscends {α : Type} (promise : α → List StoreLock → Prop) (program : Transaction α)
    (locks : List StoreLock) : Prop :=
  Ascends StoreStatement.execute lockRank KeyedRows promise program locks

/-- Every lock that is held stands below the bound. -/
def Below (bound : Nat) (locks : List StoreLock) : Prop :=
  ∀ held ∈ locks, lockRank held < bound

section ascends

variable {locks : List StoreLock} {bound : Nat}

theorem below_nil (bound : Nat) : Below bound [] :=
  fun _ h => absurd h List.not_mem_nil

theorem Below.mono {more : Nat} (below : Below bound locks) (h : bound ≤ more) :
    Below more locks := by
  intro held hheld
  have hbelow := below held hheld
  omega

theorem Below.above (below : Below bound locks) {lock : StoreLock} (h : bound ≤ lockRank lock) :
    ∀ held ∈ locks, lockRank held < lockRank lock := by
  intro held hheld
  have hbelow := below held hheld
  omega

/-- A statement whose locks stand between two bounds, but for those that are held. -/
theorem ascends_between {statement : StoreStatement} {next : Nat} (below : Below bound locks)
    (upward : bound ≤ next)
    (h : ∀ view, KeyedRows view → ∀ found, statement.execute view = .ok found →
      ∀ lock ∈ found.locks, lock ∈ locks ∨ bound ≤ lockRank lock ∧ lockRank lock < next) :
    StoreAscends (fun _ taken => Below next taken) (Transaction.ask statement) locks := by
  refine ascends_asked fun view hseen found hfound => ⟨fun lock hlock => ?_, fun lock hlock => ?_⟩
  · rcases h view hseen found hfound lock hlock with hheld | ⟨habove, -⟩
    · exact .inl hheld
    · exact .inr (below.above habove)
  · rcases List.mem_append.mp hlock with hheld | htaken
    · exact below.mono upward lock hheld
    · rcases h view hseen found hfound lock htaken with hheld | ⟨-, hbelow⟩
      · exact below.mono upward lock hheld
      · exact hbelow

/-- A statement that locks nothing. -/
theorem ascends_reading {statement : StoreStatement} (promise : List StoreLock → Prop)
    (held : promise locks)
    (h : ∀ view found, statement.execute view = .ok found → found.locks = []) :
    StoreAscends (fun _ taken => promise taken) (Transaction.ask statement) locks := by
  refine ascends_asked fun view _ found hfound => ?_
  rw [h view found hfound, List.append_nil]
  exact ⟨fun lock hlock => absurd hlock List.not_mem_nil, held⟩

theorem ascends_domain {α : Type} {result : Except Failure α}
    {promise : α → List StoreLock → Prop} (h : ∀ value, result = .ok value → promise value locks) :
    StoreAscends promise (Transaction.domain result) locks := by
  cases result with
  | ok value => exact h value rfl
  | error failure => exact trivial

/-! ### The repositories -/

/-- The order may be put back where it was read. -/
structure OrderHeld (order : WorkOrder) (locks : List StoreLock) : Prop where
  below : Below 2 locks
  locked : .order (orderKey order) ∈ locks

theorem ascends_getOrder (organizationId orderId : String) (below : Below 1 locks) :
    StoreAscends OrderHeld (PostgresOrderRepository.get organizationId orderId) locks := by
  have hselect : StoreAscends (fun row taken => ∀ value, row = some value → OrderHeld value taken)
      (Transaction.ask (.selectOrder (organizationId, orderId))) locks := by
    refine ascends_asked fun view hseen found hfound => ?_
    change StoreStatement.execute (.selectOrder _) view = .ok found at hfound
    cases hrow : view.orders.get? (organizationId, orderId) with
    | none =>
        simp only [StoreStatement.execute, hrow] at hfound
        cases hfound
        exact ⟨fun lock h => absurd h List.not_mem_nil, fun value h => by contradiction⟩
    | some row =>
        simp only [StoreStatement.execute, hrow] at hfound
        cases hfound
        have hlocked : StoreLock.order (orderKey row) = .order (organizationId, orderId) :=
          congrArg _ (hseen _ row hrow)
        refine ⟨fun lock hlock => .inr (below.above ?_), fun value h => ?_⟩
        · rw [List.mem_singleton.mp hlock]
          exact Nat.le_refl 1
        · cases h
          refine ⟨fun lock hlock => ?_, ?_⟩
          · rcases List.mem_append.mp hlock with hheld | htaken
            · exact below.mono (by omega) lock hheld
            · rw [List.mem_singleton.mp htaken]
              exact Nat.lt_succ_self 1
          · rw [hlocked]
            exact List.mem_append_right _ (List.mem_singleton_self _)
  refine hselect.bind fun row taken h => ?_
  cases row with
  | none => exact trivial
  | some row =>
      refine (ascends_reading (OrderHeld row) (h row rfl) fun view found hfound => ?_).bind
        fun responses taken held => ⟨held.below, held.locked⟩
      cases hfound
      rfl

theorem ascends_replaceResponses (order : WorkOrder) (below : Below bound locks) :
    StoreAscends (fun _ taken => Below bound taken)
      (PostgresOrderRepository.replaceResponses order) locks := by
  refine (ascends_reading (Below bound) below fun view found hfound => ?_).bind
    fun _ taken below => ?_
  · cases hfound
    rfl
  · by_cases hempty : order.poolResponses.entries ≠ []
    · rw [if_pos hempty]
      refine ascends_reading (Below bound) below fun view found hfound => ?_
      change StoreStatement.execute (.insertResponses _ _) view = .ok found at hfound
      simp only [StoreStatement.execute] at hfound
      split at hfound
      · cases hfound
        rfl
      · contradiction
    · rw [if_neg hempty]
      exact below

/-- The entries of an order in the indexes stand above its row. -/
theorem rank_orderLocks {order : WorkOrder} {lock : StoreLock} (h : lock ∈ orderLocks order) :
    lock = .order (orderKey order) ∨ 2 ≤ lockRank lock ∧ lockRank lock < 4 := by
  simp only [orderLocks, List.mem_append, List.mem_cons, List.not_mem_nil, or_false,
    List.mem_map] at h
  rcases h with (rfl | rfl) | ⟨executor, -, rfl⟩
  · exact .inl rfl
  · exact .inr (by simp [lockRank])
  · exact .inr (by simp [lockRank])

theorem ascends_insertOrder (order : WorkOrder) (below : Below 1 locks) :
    StoreAscends (fun _ taken => Below 4 taken) (Transaction.ask (.insertOrder order)) locks := by
  refine ascends_between below (by omega) fun view _ found hfound lock hlock => .inr ?_
  simp only [StoreStatement.execute] at hfound
  split at hfound
  · cases hfound
    contradiction
  · split at hfound
    · contradiction
    · cases hfound
      rcases rank_orderLocks hlock with rfl | ⟨habove, hbelow⟩
      · simp [lockRank]
      · omega

theorem ascends_updateOrder {order : WorkOrder} (held : OrderHeld order locks)
    (expectedVersion : Nat) :
    StoreAscends (fun _ taken => Below 4 taken)
      (Transaction.ask (.updateOrder order expectedVersion)) locks := by
  refine ascends_between held.below (by omega) fun view _ found hfound lock hlock => ?_
  simp only [StoreStatement.execute] at hfound
  split at hfound
  · split at hfound
    · contradiction
    · cases hfound
      rcases rank_orderLocks hlock with rfl | hbetween
      · exact .inl held.locked
      · exact .inr hbetween
  · cases hfound
    contradiction

theorem ascends_saveNew (order : WorkOrder) (below : Below 1 locks) :
    StoreAscends (fun _ taken => Below 4 taken) (PostgresOrderRepository.save order none)
      locks := by
  refine (ascends_insertOrder order below).bind fun inserted taken below => ?_
  cases inserted with
  | false => exact trivial
  | true => exact ascends_replaceResponses order below

theorem ascends_saveChanged {order : WorkOrder} (held : OrderHeld order locks)
    (expectedVersion : Nat) :
    StoreAscends (fun _ taken => Below 4 taken)
      (PostgresOrderRepository.save order (some expectedVersion)) locks := by
  refine (ascends_updateOrder held expectedVersion).bind fun updated taken below => ?_
  cases updated with
  | false => exact trivial
  | true => exact ascends_replaceResponses order below

/-- The session may be put back where it was read. -/
structure SessionHeld (session : TrackingSession) (locks : List StoreLock) : Prop where
  below : Below 5 locks
  locked : .session (sessionKey session) ∈ locks

theorem ascends_getSession (organizationId sessionId : String)
    (reach : Below 4 locks ∨ Below 5 locks ∧ .session (organizationId, sessionId) ∈ locks) :
    StoreAscends (fun loaded taken => SessionHeld loaded.session taken)
      (PostgresTrackingRepository.get organizationId sessionId) locks := by
  have hbelow : Below 5 locks := reach.elim (fun below => below.mono (by omega)) And.left
  refine (ascends_reading (fun taken => Below 4 taken ∨
    Below 5 taken ∧ .session (organizationId, sessionId) ∈ taken) reach
      fun view found hfound => ?_).bind fun latest taken reach => ?_
  · cases hfound
    rfl
  cases latest with
  | none => exact trivial
  | some latest =>
      have hselect : StoreAscends
          (fun _ taken => Below 5 taken ∧ .session (organizationId, sessionId) ∈ taken)
          (Transaction.ask (.selectSession (organizationId, sessionId))) taken := by
        refine ascends_asked fun view _ found hfound => ?_
        cases hfound
        refine ⟨fun lock hlock => ?_, fun lock hlock => ?_,
          List.mem_append_right _ (List.mem_singleton_self _)⟩
        · rw [List.mem_singleton.mp hlock]
          rcases reach with below | ⟨-, hheld⟩
          · exact .inr (below.above (Nat.le_refl 4))
          · exact .inl hheld
        · rcases List.mem_append.mp hlock with hheld | htaken
          · exact (reach.elim (fun below => below.mono (by omega)) And.left : Below 5 taken) lock
              hheld
          · rw [List.mem_singleton.mp htaken]
            exact Nat.lt_succ_self 4
      refine hselect.bind fun row taken held => ?_
      cases row with
      | none => exact trivial
      | some row => exact ⟨held.1, held.2⟩

theorem ascends_findActive (organizationId orderId : String) (below : Below 4 locks) :
    StoreAscends
      (fun found taken => Below 5 taken ∧ ∀ loaded, found = some loaded →
        SessionHeld loaded.session taken)
      (PostgresTrackingRepository.findActiveForOrder organizationId orderId) locks := by
  have hselect : StoreAscends
      (fun found taken => Below 5 taken ∧ ∀ sessionId, found = some sessionId →
        .session (organizationId, sessionId) ∈ taken)
      (Transaction.ask (.selectActive organizationId orderId)) locks := by
    refine ascends_asked fun view _ found hfound => ?_
    simp only [StoreStatement.execute] at hfound
    split at hfound
    · cases hfound
      refine ⟨fun lock h => absurd h List.not_mem_nil, ?_, fun sessionId h => by contradiction⟩
      rw [List.append_nil]
      exact below.mono (by omega)
    · rename_i entry hentry
      cases hfound
      have hfits := List.find?_some hentry
      simp only [Bool.and_eq_true, decide_eq_true_eq] at hfits
      refine ⟨fun lock hlock => .inr (below.above ?_), fun lock hlock => ?_,
        fun sessionId h => ?_⟩
      · rw [List.mem_singleton.mp hlock]
        exact Nat.le_refl 4
      · rcases List.mem_append.mp hlock with hheld | htaken
        · exact below.mono (by omega) lock hheld
        · rw [List.mem_singleton.mp htaken]
          exact Nat.lt_succ_self 4
      · cases h
        refine List.mem_append_right _ (List.mem_singleton.mpr (congrArg StoreLock.session ?_))
        exact Prod.ext hfits.1.1.symm rfl
  refine hselect.bind fun found taken h => ?_
  obtain ⟨below, hlocked⟩ := h
  cases found with
  | none => exact ⟨below, fun loaded h => by contradiction⟩
  | some sessionId =>
      refine (ascends_getSession organizationId sessionId
        (.inr ⟨below, hlocked sessionId rfl⟩)).bind fun loaded taken held => ⟨held.below, ?_⟩
      intro found h
      cases h
      exact held

/-- The entries of a session in the indexes stand above its row. -/
theorem rank_sessionLocks {key : Key} {row : SessionRow} {lock : StoreLock}
    (h : lock ∈ sessionLocks key row) :
    lock = .session key ∨ 5 ≤ lockRank lock ∧ lockRank lock < 6 := by
  simp only [sessionLocks, List.mem_cons, List.mem_map] at h
  rcases h with rfl | ⟨entry, -, rfl⟩
  · exact .inl rfl
  · exact .inr (by simp [lockRank])

theorem ascends_insertSession (key : Key) (row : SessionRow) (below : Below 4 locks) :
    StoreAscends (fun _ taken => Below 6 taken) (Transaction.ask (.insertSession key row))
      locks := by
  refine ascends_between below (by omega) fun view _ found hfound lock hlock => .inr ?_
  simp only [StoreStatement.execute] at hfound
  split at hfound
  · cases hfound
    contradiction
  · split at hfound
    · contradiction
    · cases hfound
      rcases rank_sessionLocks hlock with rfl | ⟨habove, hbelow⟩
      · simp [lockRank]
      · omega

theorem ascends_updateSession {session : TrackingSession} (held : SessionHeld session locks)
    (row : SessionRow) (expectedVersion : Nat) :
    StoreAscends (fun _ taken => Below 6 taken)
      (Transaction.ask (.updateSession (sessionKey session) row expectedVersion)) locks := by
  refine ascends_between held.below (by omega) fun view _ found hfound lock hlock => ?_
  simp only [StoreStatement.execute] at hfound
  split at hfound
  · cases hfound
    contradiction
  · split at hfound
    · split at hfound
      · contradiction
      · cases hfound
        rcases rank_sessionLocks hlock with rfl | hbetween
        · exact .inl held.locked
        · exact .inr hbetween
    · cases hfound
      contradiction

theorem ascends_appendNewPoints (loaded : LoadedSession) (below : Below 6 locks) :
    StoreAscends (fun _ taken => Below 8 taken)
      (PostgresTrackingRepository.appendNewPoints loaded) locks := by
  refine (ascends_domain fun _ _ => below).bind fun points taken below => ?_
  by_cases hempty : points ≠ []
  · rw [if_pos hempty]
    refine ascends_between below (by omega) fun view _ found hfound lock hlock => .inr ?_
    simp only [StoreStatement.execute] at hfound
    split at hfound
    · contradiction
    · cases hfound
      obtain ⟨row, -, hrow⟩ := List.mem_flatMap.mp hlock
      simp only [pointLocks, List.mem_cons, List.mem_map] at hrow
      rcases hrow with rfl | ⟨sourceEventId, -, rfl⟩ <;> simp [lockRank]
  · rw [if_neg hempty]
    exact below.mono (by omega)

theorem ascends_startSession (loaded : LoadedSession) (below : Below 4 locks) :
    StoreAscends (fun _ taken => Below 8 taken) (PostgresTrackingRepository.save loaded none)
      locks := by
  refine (ascends_insertSession _ _ below).bind fun inserted taken below => ?_
  cases inserted with
  | false => exact trivial
  | true => exact ascends_appendNewPoints loaded below

theorem ascends_saveSession (loaded : LoadedSession) (held : SessionHeld loaded.session locks)
    (expectedVersion : Nat) :
    StoreAscends (fun _ taken => Below 8 taken)
      (PostgresTrackingRepository.save loaded (some expectedVersion)) locks := by
  refine (ascends_updateSession held _ expectedVersion).bind fun updated taken below => ?_
  cases updated with
  | false => exact trivial
  | true => exact ascends_appendNewPoints loaded below

theorem ascends_addEvents (events : List DomainEvent) (below : Below 8 locks) :
    StoreAscends (fun _ _ => True) (PostgresOutbox.add events) locks := by
  unfold PostgresOutbox.add
  by_cases hempty : events ≠ []
  · rw [if_pos hempty]
    refine ascends_asked fun view _ found hfound => ⟨fun lock hlock => .inr ?_, trivial⟩
    simp only [StoreStatement.execute] at hfound
    split at hfound
    · contradiction
    · cases hfound
      obtain ⟨event, -, hevent⟩ := List.mem_flatMap.mp hlock
      simp only [eventLocks, List.mem_cons, List.not_mem_nil, or_false] at hevent
      rcases hevent with rfl | rfl <;> exact below.above (by simp [lockRank])
  · rw [if_neg hempty]
    exact trivial

/-! ### The transactions -/

theorem ascends_call {ambient : Ambient} (call : Call) {order : WorkOrder}
    (held : OrderHeld order locks) :
    StoreAscends OrderHeld (Transacted.call (call.perform ambient none) order) locks := by
  refine ascends_domain fun changed hchanged => ⟨held.below, ?_⟩
  obtain ⟨-, rfl⟩ := (Call.perform_ok ambient none call).mp (outcome_ok.mp hchanged)
  rw [orderKey_change]
  exact held.locked

theorem ascends_allocatePublicNumber (organizationId : String) :
    StoreAscends (fun _ taken => Below 1 taken)
      (PostgresOrderRepository.allocatePublicNumber organizationId) [] := by
  have hsequence : StoreAscends (fun _ taken => Below 1 taken)
      (Transaction.ask (.allocateNumber organizationId)) [] := by
    refine ascends_between (below_nil 0) (by omega) fun view _ found hfound lock hlock => .inr ?_
    simp only [StoreStatement.execute] at hfound
    split at hfound
    · cases hfound
      rw [List.mem_singleton.mp hlock]
      simp [lockRank]
    · contradiction
  exact hsequence.bind fun sequence taken below => ascends_domain fun _ _ => below

theorem ascends_createNewOrder (ambient : Ambient) (orderId : String) (creation : Creation) :
    StoreAscends (fun _ _ => True) (Transacted.createNewOrder ambient orderId creation) [] := by
  refine (ascends_allocatePublicNumber creation.organizationId).bind
    fun publicNumber taken below => ?_
  have hmade : StoreAscends (fun _ taken => Below 1 taken)
      (Transaction.domain (creation.order ambient orderId publicNumber)) taken :=
    ascends_domain fun _ _ => below
  refine hmade.bind fun order taken below => ?_
  refine (ascends_saveNew order below).bind fun _ taken below => ?_
  exact (ascends_addEvents _ (below.mono (by omega))).bind fun _ _ _ => trivial

theorem ascends_confirmSubmission (ambient : Ambient) (orderId : String) (creation : Creation) :
    StoreAscends (fun _ _ => True) (Transacted.confirmSubmission ambient orderId creation) [] := by
  refine (ascends_getOrder creation.organizationId orderId (below_nil 1)).bind
    fun existing taken _ => ?_
  have hcandidate : StoreAscends (fun _ _ => True)
      (Transaction.domain (creation.order ambient orderId existing.publicNumber)) taken :=
    ascends_domain fun _ _ => trivial
  refine hcandidate.bind fun candidate taken _ => ?_
  split <;> exact trivial

theorem ascends_changeOrder (ambient : Ambient) (organizationId orderId : String) (call : Call) :
    StoreAscends (fun _ _ => True)
      (Transacted.changeOrder organizationId orderId (call.perform ambient none)) [] := by
  refine (ascends_getOrder organizationId orderId (below_nil 1)).bind fun order taken held => ?_
  refine (ascends_call call held).bind fun changed taken held => ?_
  refine (ascends_saveChanged held order.version).bind fun _ taken below => ?_
  exact (ascends_addEvents _ (below.mono (by omega))).bind fun _ _ _ => trivial

theorem ascends_startTravel (ambient : Ambient) (sessionAmbient : SessionAmbient)
    (organizationId orderId executorId sessionId : String) :
    StoreAscends (fun _ _ => True) (Transacted.startTravel ambient sessionAmbient organizationId
      orderId executorId sessionId) [] := by
  refine (ascends_getOrder organizationId orderId (below_nil 1)).bind fun order taken held => ?_
  refine (ascends_call (.startTravel executorId) held).bind fun changed taken held => ?_
  have hstart : StoreAscends (fun _ => OrderHeld changed)
      (Transaction.domain (TrackingSession.start sessionAmbient sessionId organizationId changed.id
        executorId none none none)) taken := ascends_domain fun _ _ => held
  refine hstart.bind fun session taken held => ?_
  refine (ascends_saveChanged held order.version).bind fun _ taken below => ?_
  refine (ascends_startSession ⟨session, 0⟩ below).bind fun _ taken below => ?_
  exact (ascends_addEvents _ below).bind fun _ _ _ => trivial

/-- What is done to a session leaves its row where it is. -/
theorem ascends_close {close : Method Failure TrackingSession Unit} {session : TrackingSession}
    (keyed : ∀ before after, close.run before = .ok () after →
      sessionKey after = sessionKey before) (held : SessionHeld session locks) :
    StoreAscends SessionHeld (Transacted.call close session) locks := by
  refine ascends_domain fun closed hclosed => ⟨held.below, ?_⟩
  rw [keyed session closed (outcome_ok.mp hclosed)]
  exact held.locked

theorem ascends_closeOrder (ambient : Ambient) (organizationId orderId : String) (call : Call)
    {close : Method Failure TrackingSession Unit}
    (keyed : ∀ before after, close.run before = .ok () after →
      sessionKey after = sessionKey before) :
    StoreAscends (fun _ _ => True)
      (Transacted.closeOrder organizationId orderId (call.perform ambient none) close) [] := by
  refine (ascends_getOrder organizationId orderId (below_nil 1)).bind fun order taken held => ?_
  refine (ascends_call call held).bind fun changed taken held => ?_
  refine (ascends_saveChanged held order.version).bind fun _ taken below => ?_
  refine (ascends_findActive organizationId orderId below).bind fun found taken h => ?_
  obtain ⟨below, hheld⟩ := h
  cases found with
  | none => exact (ascends_addEvents _ (below.mono (by omega))).bind fun _ _ _ => trivial
  | some loaded =>
      refine (ascends_close keyed (hheld loaded rfl)).bind fun closed taken held => ?_
      refine (ascends_saveSession { loaded with session := closed } held _).bind
        fun _ taken below => ?_
      exact (ascends_addEvents _ below).bind fun _ _ _ => trivial

theorem ascends_reportedBefore (report : LocationReport) {promise : List StoreLock → Prop}
    (held : promise locks) :
    StoreAscends (fun _ taken => promise taken) (Transacted.reportedBefore report) locks := by
  unfold Transacted.reportedBefore
  split
  · exact held
  · refine ascends_reading promise held fun view found hfound => ?_
    cases hfound
    rfl

theorem sessionKey_addPoint {ambient : Ambient} {point : TrackingPoint}
    {before after : TrackingSession}
    (h : (TrackingSession.addPoint ambient point).run before = .ok () after) :
    sessionKey after = sessionKey before := by
  rcases TrackingSession.addPoint_ok h with ⟨-, rfl⟩ | ⟨-, rfl⟩ <;> rfl

theorem ascends_recordLocation (ambient : Ambient) (report : LocationReport) :
    StoreAscends (fun _ _ => True) (Transacted.recordLocation ambient report) [] := by
  refine (ascends_getSession report.organizationId report.sessionId (.inl (below_nil 4))).bind
    fun loaded taken held => ?_
  by_cases hexecutor : loaded.session.executorId ≠ report.executorId
  · simp only [if_pos hexecutor]
    exact trivial
  simp only [if_neg hexecutor]
  refine (ascends_reportedBefore report held).bind fun seen taken held => ?_
  cases seen with
  | true => exact trivial
  | false =>
      have hmade : StoreAscends (fun _ => SessionHeld loaded.session)
          (Transaction.domain (TrackingPoint.make report.latitude report.longitude
            (AsyncDispatchService.observedAt report loaded.session ambient.clock) ambient.clock
            report.source report.accuracyM report.sourceEventId)) taken :=
        ascends_domain fun _ _ => held
      refine hmade.bind fun point taken held => ?_
      refine (ascends_close (fun _ _ h => sessionKey_addPoint h) held).bind
        fun changed taken held => ?_
      refine (ascends_saveSession { loaded with session := changed } held _).bind
        fun _ taken below => ?_
      exact (ascends_addEvents _ below).bind fun _ _ _ => trivial

end ascends

theorem ascends_body (command : Command) :
    StoreAscends (fun _ _ => True) command.body [] := by
  cases command with
  | createOrder ambient freshId orderId creation =>
      exact (ascends_createNewOrder _ _ _).bind fun _ _ _ => trivial
  | createOrderOnce ambient orderId creation =>
      exact (ascends_createNewOrder _ _ _).bind fun _ _ _ => trivial
  | change ambient organizationId orderId call plain =>
      exact (ascends_changeOrder _ _ _ _).bind fun _ _ _ => trivial
  | startTravel ambient sessionAmbient organizationId orderId freshId executorId sessionId =>
      exact (ascends_startTravel _ _ _ _ _ _).bind fun _ _ _ => trivial
  | recordLocation ambient report =>
      exact (ascends_recordLocation _ _).bind fun _ _ _ => trivial
  | completeOrder ambient sessionAmbient organizationId orderId executorId report =>
      refine (ascends_closeOrder ambient _ _ (.complete executorId report)
        fun before after h => ?_).bind fun _ _ _ => trivial
      rw [(TrackingSession.complete_ok h).2]
      rfl
  | cancelOrder ambient sessionAmbient organizationId orderId reason actorId =>
      refine (ascends_closeOrder ambient _ _ (.cancel reason actorId)
        fun before after h => ?_).bind fun _ _ _ => trivial
      rw [(TrackingSession.cancel_ok h).2]
      rfl

theorem ascends_otherwise (command : Command) {failure : TransactionError}
    {next : Transaction Unit} (h : command.otherwise failure = some next) :
    StoreAscends (fun _ _ => True) next [] := by
  unfold Command.otherwise at h
  split at h
  · split at h
    · cases h
      exact (ascends_confirmSubmission _ _ _).bind fun _ _ _ => trivial
    · contradiction
  · contradiction

theorem ordered_launch (commands : List Command) :
    Ordered StoreStatement.execute lockRank KeyedRows KeyedWrite
      (launchTransactions commands) := by
  have hfresh (index : Nat) (session) (h : (launchTransactions commands).sessions[index]? =
      some session) : ∃ command : Command, session = ⟨command.client, [], []⟩ := by
    obtain ⟨stage, hstage, rfl⟩ := List.mem_map.mp (List.mem_of_getElem? h)
    obtain ⟨command, -, rfl⟩ := List.mem_map.mp hstage
    exact ⟨command, rfl⟩
  constructor
  · intro first second left right lock _ hleft _ hlock
    obtain ⟨command, rfl⟩ := hfresh first left hleft
    contradiction
  · intro key row h
    contradiction
  · intro index session h write hwrite
    obtain ⟨command, rfl⟩ := hfresh index session h
    contradiction
  · intro index session h
    obtain ⟨command, rfl⟩ := hfresh index session h
    exact ⟨ascends_body command, fun _ _ => ascends_otherwise command⟩

/-- Whatever the turns so far: while a transaction is under way, some transaction need not wait;
and all that are under way can come to their end, with nobody cancelled. -/
theorem transactions_finish (commands : List Command) (schedule : List Database.Turn) :
    let clients := runTransactions commands schedule
    ((∃ index, Transacting clients index) →
      ∃ index, Ready StoreStatement.execute StoreTables.apply clients index) ∧
    ∃ rest : List Nat, ∀ index,
      ¬Transacting (runTransactions commands (schedule ++ rest.map .step)) index := by
  intro clients
  have hordered : Ordered StoreStatement.execute lockRank KeyedRows KeyedWrite clients := by
    refine List.foldlRecOn schedule postgresTurn (ordered_launch commands) fun before h turn _ => ?_
    exact h.turn steady_store turn
  obtain ⟨rest, hrest⟩ := hordered.finishes steady_store
  refine ⟨hordered.exists_ready steady_store, rest, fun index => ?_⟩
  rw [runTransactions, List.foldl_append]
  exact hrest index

end DispatchCore.Application
