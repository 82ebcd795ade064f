import DispatchCore.Domain.Events

/-! Tracking sessions: the positions an executor reports while under way, and
the two capability tokens that open the session to a client and to a sender. -/
namespace DispatchCore.Domain

open DispatchCore.Library

inductive TrackingStatus
  | active
  | completed
  | cancelled
deriving DecidableEq, Repr

def TrackingStatus.value : TrackingStatus → String
  | active => "active"
  | completed => "completed"
  | cancelled => "cancelled"

inductive LocationSource
  | telegram
  | max
  | web
  | mobile
  | importSource
deriving DecidableEq, Repr

def LocationSource.value : LocationSource → String
  | telegram => "telegram"
  | max => "max"
  | web => "web"
  | mobile => "mobile"
  | importSource => "import"

/-- A Python float, as far as the checks below can tell floats apart. -/
inductive Reading
  | finite (value : Rat)
  | notFinite
deriving DecidableEq, Repr

structure TrackingPoint where
  latitude : Rat
  longitude : Rat
  capturedAt : Instant
  ingestedAt : Instant
  source : LocationSource
  accuracyM : Option Rat
  sourceEventId : Option String
  latitudeBound : -90 ≤ latitude ∧ latitude ≤ 90
  longitudeBound : -180 ≤ longitude ∧ longitude ≤ 180
  accurate : ∀ value, accuracyM = some value → 0 ≤ value
  sourced : ∀ text, sourceEventId = some text → Text.strip text ≠ ""

namespace TrackingPoint

def bounded (reading : Reading) (bound : Rat) (failure : Failure) :
    Except Failure { value : Rat // -bound ≤ value ∧ value ≤ bound } :=
  match reading with
  | .notFinite => .error failure
  | .finite value => if h : -bound ≤ value ∧ value ≤ bound then .ok ⟨value, h⟩ else .error failure

def checkAccuracy : Option Reading →
    Except Failure { accuracy : Option Rat // ∀ value, accuracy = some value → 0 ≤ value }
  | none => .ok ⟨none, fun _ h => by contradiction⟩
  | some .notFinite => .error (.valueError "accuracy_m must be a non-negative finite number")
  | some (.finite value) =>
      if h : value < 0 then
        .error (.valueError "accuracy_m must be a non-negative finite number")
      else .ok ⟨some value, fun other heq => by cases heq; exact Rat.not_lt.mp h⟩

def checkSourceEventId : (sourceEventId : Option String) →
    Except Failure (PLift (∀ text, sourceEventId = some text → Text.strip text ≠ ""))
  | none => .ok ⟨fun _ h => by contradiction⟩
  | some text =>
      if h : Text.strip text = "" then .error (.valueError "source_event_id cannot be blank")
      else .ok ⟨fun other heq => by cases heq; exact h⟩

/-- The constructor's checks, in the order `__post_init__` makes them. -/
def make (latitude longitude : Reading) (capturedAt ingestedAt : Instant)
    (source : LocationSource) (accuracyM : Option Reading) (sourceEventId : Option String) :
    Except Failure TrackingPoint := do
  let north ← bounded latitude 90
    (.valueError "latitude must be finite and between -90 and 90")
  let east ← bounded longitude 180
    (.valueError "longitude must be finite and between -180 and 180")
  let accuracy ← checkAccuracy accuracyM
  let sourced ← checkSourceEventId sourceEventId
  return ⟨north.1, east.1, capturedAt, ingestedAt, source, accuracy.1, sourceEventId, north.2,
    east.2, accuracy.2, sourced.down⟩

end TrackingPoint

/-- A capability token carries at least 256 bits. -/
def TokenLike (token : String) : Prop := 43 ≤ Text.size token ∧ Text.strip token ≠ ""

instance (token : String) : Decidable (TokenLike token) :=
  inferInstanceAs (Decidable (_ ∧ _))

/-- What starting a session reads from outside: a clock reading for the record
and the tokens it generates, besides what recording reads. -/
structure SessionAmbient extends Ambient where
  created : Instant
  publicToken : String
  locationToken : String
deriving DecidableEq, Repr

structure TrackingSession where
  id : String
  organizationId : String
  workOrderId : String
  executorId : String
  publicToken : Option String
  locationToken : Option String
  status : TrackingStatus
  points : List TrackingPoint
  pointCount : Nat
  version : Nat
  createdAt : Instant
  updatedAt : Instant
  events : List DomainEvent
  loaded : points.length ≤ pointCount
  publicTokenLike : ∀ token, publicToken = some token → TokenLike token
  locationTokenLike : ∀ token, locationToken = some token → TokenLike token
  tokensDiffer : ∀ token, publicToken = some token → locationToken ≠ some token

namespace TrackingSession

def recorded (ambient : Ambient) (name : EventName) (payload : List (String × Json))
    (now : Option Instant) (session : TrackingSession) : TrackingSession :=
  let instant := now.getD ambient.clock
  { session with
    version := session.version + 1
    updatedAt := instant
    events := session.events ++
      [DomainEvent.create ambient session.organizationId .trackingSession session.id
        (session.version + 1) name (Dict.ofList payload) (some instant)] }

def record (ambient : Ambient) (name : EventName) (payload : List (String × Json))
    (now : Option Instant) : Method Failure TrackingSession Unit :=
  modify (recorded ambient name payload now)

def start (ambient : SessionAmbient)
    (sessionId organizationId workOrderId executorId : String)
    (publicToken locationToken : Option String) (now : Option Instant) :
    Except Failure TrackingSession :=
  let token := publicToken.getD ambient.publicToken
  let senderToken := locationToken.getD ambient.locationToken
  if sessionId = "" ∨ organizationId = "" ∨ workOrderId = "" ∨ executorId = "" then
    .error (.valueError "tracking session identifiers are required")
  else if hpublic : ¬TokenLike token then
    .error (.valueError "public tracking token must contain at least 256 bits")
  else if hlocation : ¬TokenLike senderToken then
    .error (.valueError "location submission token must contain at least 256 bits")
  else if hdiffer : senderToken = token then
    .error (.valueError "tracking capability tokens must be distinct")
  else
    let session : TrackingSession :=
      { id := sessionId
        organizationId
        workOrderId
        executorId
        publicToken := some token
        locationToken := some senderToken
        status := .active
        points := []
        pointCount := 0
        version := 0
        createdAt := ambient.created
        updatedAt := ambient.created
        events := []
        loaded := by simp
        publicTokenLike := fun other heq => by cases heq; exact not_not.mp hpublic
        locationTokenLike := fun other heq => by cases heq; exact not_not.mp hlocation
        tokensDiffer := fun other heq => by cases heq; simpa using hdiffer }
    .ok (session.recorded ambient.toAmbient .trackingStarted
      [("browser_location", .bool true), ("public_tracking", .bool true)] now)

def latestPoint (session : TrackingSession) : Option TrackingPoint := session.points.getLast?

/-- The session with one more point, before the event is recorded. -/
def withPoint (point : TrackingPoint) (session : TrackingSession) : TrackingSession :=
  { session with
    points := session.points ++ [point]
    pointCount := session.pointCount + 1
    loaded := by simpa using session.loaded }

/-- The session without its capability tokens. -/
def closed (status : TrackingStatus) (session : TrackingSession) : TrackingSession :=
  { session with
    status
    publicToken := none
    locationToken := none
    publicTokenLike := fun _ heq => by contradiction
    locationTokenLike := fun _ heq => by contradiction
    tokensDiffer := fun _ heq => by contradiction }

/-- The point was reported before, under the same source event. -/
def Duplicate (point : TrackingPoint) (session : TrackingSession) : Prop :=
  point.sourceEventId ≠ none ∧
    ∃ current ∈ session.points, current.sourceEventId = point.sourceEventId

instance (point : TrackingPoint) (session : TrackingSession) :
    Decidable (Duplicate point session) :=
  inferInstanceAs (Decidable (_ ∧ _))

/-- What the event of a new point says. -/
def pointPayload (point : TrackingPoint) : List (String × Json) :=
  [("captured_at", .str point.capturedAt.isoformat), ("source", .str point.source.value),
    ("source_event_id", optional point.sourceEventId)]

def addPoint (ambient : Ambient) (point : TrackingPoint) :
    Method Failure TrackingSession Unit := do
  let session ← get
  if Duplicate point session then
    return
  Method.require (session.status = .active)
    (.invalidTransition "tracking session is not active")
  Method.require (∀ latest, session.latestPoint = some latest →
      ¬point.capturedAt < latest.capturedAt)
    (.valueError "tracking points must be ordered by capture time")
  modify (withPoint point)
  record ambient .trackingPointRecorded (pointPayload point) (some point.ingestedAt)

def complete (ambient : Ambient) (now : Option Instant) :
    Method Failure TrackingSession Unit := do
  let session ← get
  Method.require (session.status = .active)
    (.invalidTransition "tracking session is not active")
  modify (closed .completed)
  record ambient .trackingCompleted [("point_count", .int session.pointCount)] now

def cancel (ambient : Ambient) (reason : String) (now : Option Instant) :
    Method Failure TrackingSession Unit := do
  let session ← get
  Method.require (session.status = .active)
    (.invalidTransition "tracking session is not active")
  modify (closed .cancelled)
  record ambient .trackingCancelled [("reason", .str reason)] now

def pullEvents (session : TrackingSession) : List DomainEvent × TrackingSession :=
  (session.events, { session with events := [] })

section recorded

variable (ambient : Ambient) (name : EventName) (payload : List (String × Json))
  (now : Option Instant) (session : TrackingSession)

@[simp] theorem recorded_id : (session.recorded ambient name payload now).id = session.id := rfl

@[simp] theorem recorded_organizationId :
    (session.recorded ambient name payload now).organizationId = session.organizationId := rfl

@[simp] theorem recorded_workOrderId :
    (session.recorded ambient name payload now).workOrderId = session.workOrderId := rfl

@[simp] theorem recorded_executorId :
    (session.recorded ambient name payload now).executorId = session.executorId := rfl

@[simp] theorem recorded_status :
    (session.recorded ambient name payload now).status = session.status := rfl

@[simp] theorem recorded_publicToken :
    (session.recorded ambient name payload now).publicToken = session.publicToken := rfl

@[simp] theorem recorded_locationToken :
    (session.recorded ambient name payload now).locationToken = session.locationToken := rfl

@[simp] theorem recorded_version :
    (session.recorded ambient name payload now).version = session.version + 1 := rfl

end recorded

variable {before after : TrackingSession} {done : Unit}

theorem addPoint_ok {ambient : Ambient} {point : TrackingPoint}
    (h : (addPoint ambient point).run before = .ok done after) :
    (Duplicate point before ∧ after = before) ∨
      ((¬Duplicate point before ∧ before.status = .active) ∧
        after = (before.withPoint point).recorded ambient .trackingPointRecorded
          (pointPayload point) (some point.ingestedAt)) := by
  by_cases hduplicate : Duplicate point before
  · left
    simp only [addPoint, Method.bind_ok, Method.get_ok] at h
    obtain ⟨found, middle, ⟨rfl, rfl⟩, h⟩ := h
    rw [if_pos hduplicate, Method.pure_ok] at h
    exact ⟨hduplicate, h.2.symm⟩
  · right
    simp only [addPoint, Method.bind_ok, Method.get_ok] at h
    obtain ⟨found, middle, ⟨rfl, rfl⟩, h⟩ := h
    rw [if_neg hduplicate] at h
    simp only [Method.bind_ok, Method.require_ok, Method.modify_ok, record] at h
    obtain ⟨_, _, ⟨hactive, rfl⟩, _, _, ⟨-, rfl⟩, _, _, rfl, rfl⟩ := h
    exact ⟨⟨hduplicate, hactive⟩, rfl⟩

theorem complete_ok {ambient : Ambient} {now : Option Instant}
    (h : (complete ambient now).run before = .ok done after) :
    before.status = .active ∧ after = (before.closed .completed).recorded ambient
      .trackingCompleted [("point_count", .int before.pointCount)] now := by
  simp only [complete, Method.bind_ok, Method.get_ok, Method.require_ok, Method.modify_ok,
    record] at h
  obtain ⟨_, _, ⟨rfl, rfl⟩, _, _, ⟨hactive, rfl⟩, _, _, rfl, rfl⟩ := h
  exact ⟨hactive, rfl⟩

theorem cancel_ok {ambient : Ambient} {reason : String} {now : Option Instant}
    (h : (cancel ambient reason now).run before = .ok done after) :
    before.status = .active ∧ after = (before.closed .cancelled).recorded ambient
      .trackingCancelled [("reason", .str reason)] now := by
  simp only [cancel, Method.bind_ok, Method.get_ok, Method.require_ok, Method.modify_ok,
    record] at h
  obtain ⟨_, _, ⟨rfl, rfl⟩, _, _, ⟨hactive, rfl⟩, _, _, rfl, rfl⟩ := h
  exact ⟨hactive, rfl⟩

theorem addPoint_steady (ambient : Ambient) (point : TrackingPoint) :
    (addPoint ambient point).Steady := by
  refine .after_checks Method.readOnly_get fun session => ?_
  refine Method.steady_ite (fun _ => (Method.readOnly_pure ()).steady) fun _ => ?_
  refine .after_checks (Method.readOnly_require _ _) fun _ => ?_
  refine .after_checks (Method.readOnly_require _ _) fun _ => ?_
  exact ((Method.total_modify _).bind fun _ => Method.total_modify _).steady

theorem complete_steady (ambient : Ambient) (now : Option Instant) :
    (complete ambient now).Steady := by
  refine .after_checks Method.readOnly_get fun session => ?_
  refine .after_checks (Method.readOnly_require _ _) fun _ => ?_
  exact ((Method.total_modify _).bind fun _ => Method.total_modify _).steady

theorem cancel_steady (ambient : Ambient) (reason : String) (now : Option Instant) :
    (cancel ambient reason now).Steady := by
  refine .after_checks Method.readOnly_get fun session => ?_
  refine .after_checks (Method.readOnly_require _ _) fun _ => ?_
  exact ((Method.total_modify _).bind fun _ => Method.total_modify _).steady

/-- What a session looks like when it has just started. -/
structure Started (ambient : SessionAmbient)
    (sessionId organizationId workOrderId executorId : String)
    (session : TrackingSession) : Prop where
  named : session.id = sessionId
  within : session.organizationId = organizationId
  visits : session.workOrderId = workOrderId
  traveller : session.executorId = executorId
  active : session.status = .active
  publicToken : session.publicToken = some ambient.publicToken
  locationToken : session.locationToken = some ambient.locationToken
  first : session.version = 1
  event : ∃ event, session.events = [event] ∧ event.aggregateVersion = 1 ∧
    event.aggregateType = .trackingSession ∧ event.organizationId = organizationId ∧
    event.aggregateId = sessionId

theorem start_ok {ambient : SessionAmbient}
    {sessionId organizationId workOrderId executorId : String} {now : Option Instant}
    {session : TrackingSession}
    (h : start ambient sessionId organizationId workOrderId executorId none none now =
      .ok session) :
    Started ambient sessionId organizationId workOrderId executorId session := by
  unfold start at h
  simp only at h
  split at h
  · contradiction
  split at h
  · contradiction
  split at h
  · contradiction
  split at h
  · contradiction
  cases h
  exact ⟨rfl, rfl, rfl, rfl, rfl, rfl, rfl, rfl, _, rfl, rfl, rfl, rfl, rfl⟩

theorem start_points {ambient : SessionAmbient}
    {sessionId organizationId workOrderId executorId : String}
    {publicToken locationToken : Option String} {now : Option Instant} {session : TrackingSession}
    (h : start ambient sessionId organizationId workOrderId executorId publicToken locationToken
      now = .ok session) : session.points = [] ∧ session.pointCount = 0 := by
  unfold start at h
  simp only at h
  split at h
  · contradiction
  split at h
  · contradiction
  split at h
  · contradiction
  split at h
  · contradiction
  cases h
  exact ⟨rfl, rfl⟩

end TrackingSession
end DispatchCore.Domain
