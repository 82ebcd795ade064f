import DispatchCore.Infrastructure.AsyncMemory

/-! The public tracking views over the in-memory store.  Whoever holds a token
of an active session may look at its order, or send locations to it. -/
namespace DispatchCore.Infrastructure

open DispatchCore.Library DispatchCore.Domain

structure PublicMapPoint where
  latitude : Rat
  longitude : Rat
deriving DecidableEq

structure PublicTrackingView where
  publicNumber : String
  workType : String
  address : Option String
  clientLocation : Option PublicMapPoint
  masterName : Option String
  orderStatus : String
  trackingStatus : TrackingStatus
  pointCount : Nat
  latestPoint : Option TrackingPoint
  updatedAt : Instant

structure LocationSubmissionTarget where
  organizationId : String
  sessionId : String
  executorId : String
deriving DecidableEq

/-- `secrets.compare_digest` on two strings -/
def compareDigest (left right : String) : Except Failure Bool :=
  if left.toList.all (fun letter => letter.toNat < 128) ∧
      right.toList.all (fun letter => letter.toNat < 128) then
    .ok (left = right)
  else .error (.typeError "comparing strings with non-ASCII characters is not supported")

def publicAddress (details : Dict String Json) : Option String :=
  ["address", "destination"].findSome? fun key =>
    match details.get? key with
    | some (.str value) => if Text.strip value = "" then none else some (Text.strip value)
    | _ => none

/-- An integer or a float, and not a boolean. -/
def coordinate (fields : List (String × Json)) (name : String) : Option Rat :=
  match Dict.lookup name fields with
  | some (.int value) => some value
  | some (.num value) => some value
  | _ => none

def publicServiceLocation (details : Dict String Json) : Option PublicMapPoint :=
  match details.get? "service_location" with
  | some (.obj fields) =>
      match coordinate fields "latitude", coordinate fields "longitude" with
      | some latitude, some longitude =>
          if (-90 ≤ latitude ∧ latitude ≤ 90) ∧ (-180 ≤ longitude ∧ longitude ≤ 180) then
            some ⟨latitude, longitude⟩
          else none
      | _, _ => none
  | _ => none

def trackingView (order : WorkOrder) (session : TrackingSession) : PublicTrackingView :=
  { publicNumber := order.publicNumber
    workType := order.workType
    address := publicAddress order.details
    clientLocation := publicServiceLocation order.details
    masterName := some session.executorId
    orderStatus := order.status.value
    trackingStatus := session.status
    pointCount := session.pointCount
    latestPoint := session.latestPoint
    updatedAt := session.updatedAt }

/-- The first active session whose token, of the given kind, is the given one. -/
def findByToken (tokenOf : TrackingSession → Option String) (token : String) :
    List TrackingSession → Except Failure (Option TrackingSession)
  | [] => .ok none
  | session :: rest =>
      match session.status, tokenOf session with
      | .active, some own => do
          if ← compareDigest own token then return some session
          findByToken tokenOf token rest
      | _, _ => findByToken tokenOf token rest

namespace Records

def resolve (records : Records) (publicToken : String) :
    Except Failure (Option PublicTrackingView) := do
  match ← findByToken TrackingSession.publicToken publicToken records.trackingSessions.values with
  | none => return none
  | some session =>
      match records.orders.get? (session.organizationId, session.workOrderId) with
      | none => return none
      | some order => return some (trackingView order session)

def resolveLocationSender (records : Records) (locationToken : String) :
    Except Failure (Option LocationSubmissionTarget) := do
  match ← findByToken TrackingSession.locationToken locationToken
      records.trackingSessions.values with
  | none => return none
  | some session =>
      return some ⟨session.organizationId, session.id, session.executorId⟩

end Records
end DispatchCore.Infrastructure
