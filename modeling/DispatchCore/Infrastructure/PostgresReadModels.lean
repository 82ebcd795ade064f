import DispatchCore.Infrastructure.PostgresUnitOfWork
import DispatchCore.Infrastructure.ReadModels

/-! The public tracking views over the database.  Each is one statement, and sees what is
committed when it begins. -/
namespace DispatchCore.Infrastructure

open DispatchCore.Library DispatchCore.Domain

namespace PostgresTrackingViewReader

/-- The rows that the statement of `resolve` joins. -/
def linkRows (tables : StoreTables) (publicToken : String) : List (Key × SessionRow × WorkOrder) :=
  tables.tracking.sessions.entries.filterMap fun entry =>
    if entry.2.publicToken = some publicToken ∧ entry.2.status = .active then
      (tables.orders.get? (entry.1.1, entry.2.workOrderId)).map fun order =>
        (entry.1, entry.2, order)
    else none

/-- The names are from the table of actors, where the executor has a row. -/
def view (tables : StoreTables) (displayName : Key → Option String) (key : Key) (row : SessionRow)
    (order : WorkOrder) : PublicTrackingView where
  publicNumber := order.publicNumber
  workType := order.workType
  address := publicAddress order.details
  clientLocation := publicServiceLocation order.details
  masterName := displayName (key.1, row.executorId)
  orderStatus := order.status.value
  trackingStatus := row.status
  pointCount := row.pointCount
  latestPoint := (tables.tracking.latest key).map PointRow.point
  updatedAt := row.updatedAt

def resolve (tables : StoreTables) (displayName : Key → Option String) (publicToken : String) :
    Option PublicTrackingView :=
  (linkRows tables publicToken).head?.map fun found =>
    view tables displayName found.1 found.2.1 found.2.2

def resolveLocationSender (tables : StoreTables) (locationToken : String) :
    Option LocationSubmissionTarget :=
  (tables.tracking.sessions.entries.find? fun entry =>
      entry.2.locationToken = some locationToken && entry.2.status = .active).map fun entry =>
    ⟨entry.1.1, entry.1.2, entry.2.executorId⟩

end PostgresTrackingViewReader

section

variable {tables : StoreTables} {key : Key} {row : SessionRow} {order : WorkOrder}
  {publicToken : String}

theorem mem_linkRows :
    (key, row, order) ∈ PostgresTrackingViewReader.linkRows tables publicToken ↔
      tables.tracking.sessions.get? key = some row ∧ row.publicToken = some publicToken ∧
        row.status = .active ∧ tables.orders.get? (key.1, row.workOrderId) = some order := by
  unfold PostgresTrackingViewReader.linkRows
  rw [List.mem_filterMap]
  constructor
  · rintro ⟨entry, hentry, h⟩
    by_cases hfits : entry.2.publicToken = some publicToken ∧ entry.2.status = .active
    · rw [if_pos hfits] at h
      obtain ⟨found, hfound, hsame⟩ := Option.map_eq_some_iff.mp h
      cases hsame
      exact ⟨(Dict.get?_eq_some _ _ _).mpr hentry, hfits.1, hfits.2, hfound⟩
    · rw [if_neg hfits] at h
      contradiction
  · rintro ⟨hrow, htoken, hactive, horder⟩
    refine ⟨(key, row), (Dict.get?_eq_some _ _ _).mp hrow, ?_⟩
    rw [if_pos ⟨htoken, hactive⟩, horder]
    rfl

end
end DispatchCore.Infrastructure
