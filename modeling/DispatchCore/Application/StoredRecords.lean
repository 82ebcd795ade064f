import DispatchCore.Application.PostgresService
import DispatchCore.Application.Progress
import DispatchCore.Infrastructure.StoredOrders
import Mathlib.Data.Option.Basic

/-! What the tables of the database hold, as records of the store in memory, and records that
differ in the order of an order's responses alone. -/
namespace DispatchCore.Application

open DispatchCore.Library DispatchCore.Domain DispatchCore.Infrastructure

/-- The orders and the sessions as the repositories read them, the sessions without points. -/
def storedRecords (tables : StoreTables) : Records where
  orders := tables.orders.mapValues fun key row =>
    withResponses row ((tables.responsesAt key).mergeSort PoolResponse.upTo)
  trackingSessions := tables.tracking.sessions.mapValues fun key row =>
    (trackingFromRow key row none).session
  outboxEvents := tables.outbox

section lookup

variable {tables : StoreTables} {key : Key}

theorem storedOrder_eq : (storedRecords tables).orders.get? key =
    (tables.orders.get? key).map fun row =>
      withResponses row ((tables.responsesAt key).mergeSort PoolResponse.upTo) :=
  Dict.get?_mapValues ..

theorem storedSession_eq : (storedRecords tables).trackingSessions.get? key =
    (tables.tracking.sessions.get? key).map fun row => (trackingFromRow key row none).session :=
  Dict.get?_mapValues ..

end lookup

/-- The same records, but for the order in which the responses of an order stand. -/
structure Matching (left right : Records) : Prop where
  orders : ∀ key, Option.Rel Survives (left.orders.get? key) (right.orders.get? key)
  sessions : ∀ key, right.trackingSessions.get? key = left.trackingSessions.get? key
  outbox : right.outboxEvents = left.outboxEvents

section survives

variable {order loaded : WorkOrder}

theorem status_survives (survives : Survives order loaded) : loaded.status = order.status := by
  rw [survives.fields]

theorem assigneeId_survives (survives : Survives order loaded) :
    loaded.assigneeId = order.assigneeId := by
  rw [survives.fields]

theorem version_survives (survives : Survives order loaded) : loaded.version = order.version := by
  rw [survives.fields]

theorem orderKey_survives (survives : Survives order loaded) :
    orderKey loaded = orderKey order := by
  rw [survives.fields]
  rfl

theorem events_survives (survives : Survives order loaded) : loaded.events = [] := by
  rw [survives.fields]

theorem responseStatus_survives (survives : Survives order loaded) (executorId : String) :
    loaded.responseStatus executorId = order.responseStatus executorId := by
  unfold WorkOrder.responseStatus
  rw [survives.responses]

theorem occupies_survives (survives : Survives order loaded) :
    UnitOfWork.occupies loaded = UnitOfWork.occupies order := by
  rw [survives.fields]
  rfl

theorem sound_survives (survives : Survives order loaded) (sound : Sound order) : Sound loaded := by
  have hresponses := responseStatus_survives survives
  obtain ⟨hfields, -⟩ := survives
  obtain ⟨assigned, unassigned, submitted, pooled, reported, evidence, interested⟩ := sound
  rw [hfields] at hresponses ⊢
  refine ⟨assigned, unassigned, submitted, pooled, reported, evidence, fun executorId h => ?_⟩
  exact interested executorId ((hresponses executorId).symm.trans h)

theorem pairs_survives (survives : Survives order loaded) {session : TrackingSession}
    (pairs : Pairs order session) : Pairs loaded session := by
  obtain ⟨active, completed, cancelled, executor, publicToken, locationToken⟩ := pairs
  refine ⟨?_, ?_, ?_, ?_, publicToken, locationToken⟩
  · rw [status_survives survives]
    exact active
  · rw [status_survives survives]
    exact completed
  · rw [status_survives survives]
    exact cancelled
  · rw [assigneeId_survives survives]
    exact executor

end survives

namespace Matching

variable {left right : Records}

theorem order_right (matching : Matching left right) {key : Key} {loaded : WorkOrder}
    (stored : right.orders.get? key = some loaded) :
    ∃ order, left.orders.get? key = some order ∧ Survives order loaded := by
  have hrel := matching.orders key
  rw [stored] at hrel
  generalize left.orders.get? key = found at hrel
  cases hrel with
  | some h => exact ⟨_, rfl, h⟩

theorem order_left (matching : Matching left right) {key : Key} {order : WorkOrder}
    (stored : left.orders.get? key = some order) :
    ∃ loaded, right.orders.get? key = some loaded ∧ Survives order loaded := by
  have hrel := matching.orders key
  rw [stored] at hrel
  generalize right.orders.get? key = found at hrel
  cases hrel with
  | some h => exact ⟨_, rfl, h⟩

theorem versionOf (matching : Matching left right) (key : Key) :
    orderAggregate.versionOf (right.orders.get? key) =
      orderAggregate.versionOf (left.orders.get? key) := by
  have hrel := matching.orders key
  generalize left.orders.get? key = before at hrel
  generalize right.orders.get? key = after at hrel
  cases hrel with
  | some h => exact version_survives h
  | none => rfl

theorem valid (matching : Matching left right) (valid : Valid left) : Valid right := by
  obtain ⟨⟨hkeyed, hnumbered, hcounted⟩, ⟨hsessions, hsessionNumbers, hsessionCounts⟩⟩ := valid
  constructor
  · refine ⟨fun key loaded hstored => ?_, ?_, fun key => ?_⟩
    · obtain ⟨order, horder, hsurvives⟩ := matching.order_right hstored
      exact ⟨(orderKey_survives hsurvives).trans (hkeyed key order horder).1,
        events_survives hsurvives⟩
    · rw [matching.outbox]
      exact hnumbered
    · rw [matching.outbox, matching.versionOf]
      exact hcounted key
  · refine ⟨fun key session hstored => ?_, ?_, fun key => ?_⟩
    · rw [matching.sessions] at hstored
      exact hsessions key session hstored
    · rw [matching.outbox]
      exact hsessionNumbers
    · rw [matching.outbox, matching.sessions]
      exact hsessionCounts key

theorem capacity (matching : Matching left right) (capacity : Capacity left) : Capacity right := by
  rw [capacity_iff] at capacity ⊢
  intro first second one other executor hone hother hfirst hsecond
  obtain ⟨before, hbefore, hsurvives⟩ := matching.order_right hone
  obtain ⟨beside, hbeside, hsurvivesToo⟩ := matching.order_right hother
  rw [occupies_survives hsurvives] at hfirst
  rw [occupies_survives hsurvivesToo] at hsecond
  exact capacity first second before beside executor hbefore hbeside hfirst hsecond

theorem coupled (matching : Matching left right) (coupled : Coupled left) : Coupled right where
  paired key session hstored := by
    rw [matching.sessions] at hstored
    obtain ⟨order, horder, hpairs⟩ := coupled.paired key session hstored
    obtain ⟨loaded, hloaded, hsurvives⟩ := matching.order_left horder
    exact ⟨loaded, hloaded, (pairs_survives hsurvives) hpairs⟩
  once first second one other hone hother hvisits := by
    rw [matching.sessions] at hone hother
    exact coupled.once first second one other hone hother hvisits
  tracked key loaded hstored hstatus := by
    obtain ⟨order, horder, hsurvives⟩ := matching.order_right hstored
    rw [status_survives hsurvives] at hstatus
    obtain ⟨found, session, hsession, hvisits⟩ := coupled.tracked key order horder hstatus
    refine ⟨found, session, ?_, hvisits⟩
    rw [matching.sessions]
    exact hsession

theorem live (matching : Matching left right) (live : Live left) : Live right :=
  ⟨⟨matching.valid live.valid, matching.capacity live.capacity⟩, matching.coupled live.coupled,
    fun key loaded hstored => by
      obtain ⟨order, horder, hsurvives⟩ := matching.order_right hstored
      exact (sound_survives hsurvives) (live.sound key order horder)⟩

end Matching

/-! ### Sessions and their rows -/

/-- The session without its points. -/
structure Unpointed (session bare : TrackingSession) : Prop where
  key : sessionKey bare = sessionKey session
  row : SessionRow.ofSession bare = SessionRow.ofSession session
  points : bare.points = []
  events : bare.events = session.events

/-- A session as its row has it. -/
def rowSession (key : Key) (row : SessionRow) : TrackingSession :=
  (trackingFromRow key row none).session

theorem pointCount_rowSession (key : Key) (row : SessionRow) :
    (rowSession key row).pointCount = row.pointCount := by
  simp [rowSession, trackingFromRow, countPoints]

theorem ofSession_rowSession (key : Key) (row : SessionRow) :
    SessionRow.ofSession (rowSession key row) = row := by
  simp [SessionRow.ofSession, rowSession, trackingFromRow, countPoints]

namespace Unpointed

variable {session bare : TrackingSession}

theorem read (unpointed : Unpointed session bare) :
    rowSession (sessionKey session) (.ofSession session) = bare.pullEvents.2 := by
  obtain ⟨hkey, hrow, hpoints, -⟩ := unpointed
  rw [← hkey, ← hrow]
  simp [rowSession, trackingFromRow, SessionRow.ofSession, TrackingSession.pullEvents, sessionKey,
    countPoints, hpoints]

theorem pointCount (unpointed : Unpointed session bare) :
    bare.pointCount = session.pointCount :=
  congrArg SessionRow.pointCount unpointed.row

theorem status (unpointed : Unpointed session bare) : bare.status = session.status :=
  congrArg SessionRow.status unpointed.row

theorem closed (unpointed : Unpointed session bare) (status : TrackingStatus) :
    Unpointed (session.closed status) (bare.closed status) := by
  obtain ⟨hkey, hrow, hpoints, hevents⟩ := unpointed
  refine ⟨hkey, ?_, hpoints, hevents⟩
  simp only [SessionRow.ofSession, SessionRow.mk.injEq] at hrow ⊢
  simp [TrackingSession.closed, hrow]

theorem recorded (unpointed : Unpointed session bare) (ambient : Ambient) (name : EventName)
    (payload : List (String × Json)) (now : Option Instant) :
    Unpointed (session.recorded ambient name payload now)
      (bare.recorded ambient name payload now) := by
  obtain ⟨hkey, hrow, hpoints, hevents⟩ := unpointed
  have hversion : bare.version = session.version := congrArg SessionRow.version hrow
  have horganization : bare.organizationId = session.organizationId := (Prod.ext_iff.mp hkey).1
  have hid : bare.id = session.id := (Prod.ext_iff.mp hkey).2
  refine ⟨hkey, ?_, hpoints, ?_⟩
  · simp only [SessionRow.ofSession, SessionRow.mk.injEq] at hrow ⊢
    simp [TrackingSession.recorded, hrow]
  · simp [TrackingSession.recorded, hevents, hversion, horganization, hid]

theorem loaded {key : Key} {row : SessionRow} {latest : Option TrackingPoint}
    (counted : (trackingFromRow key row latest).session.pointCount = row.pointCount) :
    Unpointed (trackingFromRow key row latest).session (rowSession key row) := by
  refine ⟨rfl, ?_, rfl, rfl⟩
  rw [ofSession_rowSession]
  show row = { row with
    pointCount := (trackingFromRow key row latest).session.pointCount }
  rw [counted]

end Unpointed

theorem exists_unpointed (session : TrackingSession) : ∃ bare, Unpointed session bare := by
  refine ⟨{ rowSession (sessionKey session) (.ofSession session) with events := session.events },
    rfl, ?_, rfl, rfl⟩
  exact ofSession_rowSession (sessionKey session) (.ofSession session)

end DispatchCore.Application
