import DispatchCore.Domain.Fixes
import DispatchCore.Infrastructure.AsyncMemory

/-! The tracking tables of the database.  A session is read with its latest
point only, and written with the points that were added to it since. -/
namespace DispatchCore.Infrastructure

open DispatchCore.Library DispatchCore.Domain

/-- A row of `tracking_sessions`, besides its key. -/
structure SessionRow where
  workOrderId : String
  executorId : String
  publicToken : Option String
  locationToken : Option String
  status : TrackingStatus
  pointCount : Nat
  version : Nat
  createdAt : Instant
  updatedAt : Instant
  publicTokenLike : ∀ token, publicToken = some token → TokenLike token
  locationTokenLike : ∀ token, locationToken = some token → TokenLike token
  tokensDiffer : ∀ token, publicToken = some token → locationToken ≠ some token

/-- A row of `tracking_points`. -/
structure PointRow where
  session : Key
  sequenceNo : Nat
  point : TrackingPoint

structure TrackingTables where
  sessions : Dict Key SessionRow
  points : List PointRow

def TrackingTables.empty : TrackingTables := ⟨.empty, []⟩

def SessionRow.ofSession (session : TrackingSession) : SessionRow where
  workOrderId := session.workOrderId
  executorId := session.executorId
  publicToken := session.publicToken
  locationToken := session.locationToken
  status := session.status
  pointCount := session.pointCount
  version := session.version
  createdAt := session.createdAt
  updatedAt := session.updatedAt
  publicTokenLike := session.publicTokenLike
  locationTokenLike := session.locationTokenLike
  tokensDiffer := session.tokensDiffer

/-- A session as the repository hands it out, with the number of its points that are in the
table. -/
structure LoadedSession where
  session : TrackingSession
  persisted : Nat

/-- The constructor counts the points it is given where the row counts none. -/
def countPoints (latest : Option TrackingPoint) (pointCount : Nat) : Nat :=
  if latest.isSome ∧ pointCount = 0 then latest.toList.length else pointCount

theorem countPoints_loaded (latest : Option TrackingPoint) (pointCount : Nat) :
    latest.toList.length ≤ countPoints latest pointCount := by
  unfold countPoints
  cases latest with
  | none => simp
  | some point =>
      by_cases h : pointCount = 0
      · simp [h]
      · simp [h]
        omega

def trackingFromRow (key : Key) (row : SessionRow) (latest : Option TrackingPoint) :
    LoadedSession where
  session :=
    { id := key.2
      organizationId := key.1
      workOrderId := row.workOrderId
      executorId := row.executorId
      publicToken := row.publicToken
      locationToken := row.locationToken
      status := row.status
      points := latest.toList
      pointCount := countPoints latest row.pointCount
      version := row.version
      createdAt := row.createdAt
      updatedAt := row.updatedAt
      events := []
      loaded := countPoints_loaded latest row.pointCount
      publicTokenLike := row.publicTokenLike
      locationTokenLike := row.locationTokenLike
      tokensDiffer := row.tokensDiffer }
  persisted := row.pointCount

def LoadedSession.pendingPoints (loaded : LoadedSession) : Except Failure (List TrackingPoint) :=
  let pending := loaded.session.pointCount - loaded.persisted
  if pending > loaded.session.points.length then
    .error (.valueError "pending point count exceeds loaded tracking points")
  else .ok (loaded.session.points.drop (loaded.session.points.length - pending))

/-- What a session row holds in the unique indexes besides its key. -/
inductive Indexed
  | activeVisit (organizationId workOrderId : String)
  | publicToken (token : String)
  | locationToken (token : String)
deriving DecidableEq

def SessionRow.indexed (key : Key) (row : SessionRow) : List Indexed :=
  (if row.status = .active then [.activeVisit key.1 row.workOrderId] else []) ++
    row.publicToken.toList.map .publicToken ++ row.locationToken.toList.map .locationToken

namespace TrackingTables

/-- Another row of the table holds what this one holds. -/
def Violates (tables : TrackingTables) (key : Key) (row : SessionRow) : Prop :=
  ∃ entry ∈ tables.sessions.entries, entry.1 ≠ key ∧
    ∃ held ∈ row.indexed key, held ∈ entry.2.indexed entry.1

instance (tables : TrackingTables) (key : Key) (row : SessionRow) :
    Decidable (tables.Violates key row) :=
  inferInstanceAs (Decidable (∃ entry ∈ tables.sessions.entries, _))

/-- The two rows cannot both be in the table of points. -/
def Clashes (row other : PointRow) : Prop :=
  (row.session = other.session ∧ row.sequenceNo = other.sequenceNo) ∨
    (row.session.1 = other.session.1 ∧ row.point.source = other.point.source ∧
      row.point.sourceEventId ≠ none ∧ row.point.sourceEventId = other.point.sourceEventId)

instance (row other : PointRow) : Decidable (Clashes row other) :=
  inferInstanceAs (Decidable ((_ ∧ _) ∨ (_ ∧ _)))

/-- What a unique index that rejects a row comes out of the repository as. -/
def uniqueness : Failure :=
  .concurrencyConflict "database uniqueness constraint rejected tracking session"

/-- The row of the two with the higher number. -/
def later (best : Option PointRow) (row : PointRow) : Option PointRow :=
  match best with
  | none => some row
  | some found => if found.sequenceNo < row.sequenceNo then some row else some found

variable (tables : TrackingTables)

def pointsOf (key : Key) : List PointRow :=
  tables.points.filter fun row => row.session = key

/-- `ORDER BY sequence_no DESC LIMIT 1` -/
def latest (key : Key) : Option PointRow := (tables.pointsOf key).foldl later none

def get (organizationId sessionId : String) : Except Failure LoadedSession :=
  match tables.sessions.get? (organizationId, sessionId) with
  | none => .error (.notFound s!"tracking session {Text.repr sessionId} was not found")
  | some row => .ok (trackingFromRow (organizationId, sessionId) row
      ((tables.latest (organizationId, sessionId)).map PointRow.point))

def hasSourceEvent (organizationId : String) (source : LocationSource) (sourceEventId : String) :
    Bool :=
  tables.points.any fun row => row.session.1 = organizationId && row.point.source = source &&
    row.point.sourceEventId = some sourceEventId

def findActiveForOrder (organizationId orderId : String) :
    Except Failure (Option LoadedSession) :=
  match tables.sessions.entries.find? fun entry =>
      entry.1.1 = organizationId && entry.2.workOrderId = orderId && entry.2.status = .active with
  | none => .ok none
  | some entry => (tables.get organizationId entry.1.2).map some

def insertPoint (row : PointRow) : Except Failure TrackingTables :=
  if ∃ other ∈ tables.points, Clashes row other then .error uniqueness
  else .ok { tables with points := tables.points ++ [row] }

def insertPoints (key : Key) :
    Nat → List TrackingPoint → TrackingTables → Except Failure TrackingTables
  | _, [], tables => .ok tables
  | sequenceNo, point :: rest, tables => do
      let tables ← tables.insertPoint ⟨key, sequenceNo, point⟩
      insertPoints key (sequenceNo + 1) rest tables

/-- The row under its key, where no unique index rejects it. -/
def writeSession (key : Key) (row : SessionRow) : Except Failure TrackingTables :=
  if tables.Violates key row then .error uniqueness
  else .ok { tables with sessions := tables.sessions.set key row }

def saveRow (session : TrackingSession) (expectedVersion : Option Nat) :
    Except Failure TrackingTables :=
  let key := (session.organizationId, session.id)
  match expectedVersion, tables.sessions.get? key with
  | none, none => tables.writeSession key (.ofSession session)
  | none, some _ => .error (.concurrencyConflict
      s!"tracking session {Text.repr session.id} already exists")
  | some expected, found =>
      match found with
      | some row =>
          -- `created_at` is not among the columns an update sets.
          if row.version = expected then
            tables.writeSession key { SessionRow.ofSession session with createdAt := row.createdAt }
          else .error (.concurrencyConflict
            s!"tracking session {Text.repr session.id} changed concurrently")
      | none => .error (.concurrencyConflict
          s!"tracking session {Text.repr session.id} changed concurrently")

def save (loaded : LoadedSession) (expectedVersion : Option Nat) :
    Except Failure TrackingTables := do
  let session := loaded.session
  let tables ← tables.saveRow session expectedVersion
  let newPoints ← loaded.pendingPoints
  tables.insertPoints (session.organizationId, session.id) (loaded.persisted + 1) newPoints

end TrackingTables
end DispatchCore.Infrastructure
