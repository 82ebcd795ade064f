import DispatchCore.Application.PostgresRefinement
import DispatchCore.Application.UniqueSessions
import DispatchCore.Infrastructure.PostgresReadModels

/-! What a public link shows, in every state that transactions at once can reach: the visit it was
made for, as long as it is under way. -/
namespace DispatchCore.Application

open DispatchCore.Library DispatchCore.Domain DispatchCore.Infrastructure Isolation

/-- A visit under way: a session with the order its executor is on the way to, or works at. -/
structure VisitUnderWay (tables : StoreTables) (key : Key) (row : SessionRow) (order : WorkOrder) :
    Prop where
  stored : tables.tracking.sessions.get? key = some row
  visits : tables.orders.get? (key.1, row.workOrderId) = some order
  active : row.status = .active
  status : order.status = .enRoute ∨ order.status = .inProgress
  assignee : order.assigneeId = some row.executorId

/-- What the view tells is the visit, with the number of its points and the last of them. -/
structure ShowsVisit (tables : StoreTables) (displayName : Key → Option String)
    (view : PublicTrackingView) (key : Key) (row : SessionRow) (order : WorkOrder) : Prop where
  visit : view = PostgresTrackingViewReader.view tables displayName key row order
  pointCount : view.pointCount = (tables.tracking.pointsOf key).length
  latestPoint : view.latestPoint = (tables.tracking.pointsOf key).getLast?.map PointRow.point

section views

variable {tables : StoreTables} {key : Key} {row : SessionRow}

/-- A session that has a link is under way. -/
theorem StoreValid.underWay (valid : StoreValid tables)
    (stored : tables.tracking.sessions.get? key = some row)
    (linked : row.publicToken.isSome ∨ row.locationToken.isSome) :
    ∃ order, VisitUnderWay tables key row order := by
  have hsession : (storedRecords tables).trackingSessions.get? key = some (rowSession key row) := by
    rw [storedSession_eq, stored]
    rfl
  obtain ⟨order, horder, hpairs⟩ := valid.live.coupled.paired key _ hsession
  have hactive : row.status = .active := linked.elim hpairs.publicToken.mp hpairs.locationToken.mp
  rw [storedOrder_eq] at horder
  obtain ⟨found, hfound, rfl⟩ := Option.map_eq_some_iff.mp horder
  refine ⟨found, stored, hfound, hactive, ?_, hpairs.executor⟩
  have hstatus : found.status ∈ [.enRoute, .inProgress] := hpairs.active.mp hactive
  simpa using hstatus

theorem StoreValid.shows (valid : StoreValid tables) (displayName : Key → Option String)
    {order : WorkOrder} (stored : tables.tracking.sessions.get? key = some row) :
    ShowsVisit tables displayName
      (PostgresTrackingViewReader.view tables displayName key row order) key row order := by
  refine ⟨rfl, ?_, ?_⟩
  · have hcounted := congrArg List.length (valid.counted key row stored)
    rw [List.length_map, List.length_range'] at hcounted
    exact hcounted.symm
  · show (tables.tracking.latest key).map PointRow.point = _
    rw [valid.numbered.latest key]
    exact List.getLast?_map

/-- One session at most has the link. -/
theorem UniqueSessions.publicToken (unique : UniqueSessions tables) {first second : Key}
    {left right : SessionRow} {token : String}
    (one : tables.tracking.sessions.get? first = some left)
    (two : tables.tracking.sessions.get? second = some right)
    (mine : left.publicToken = some token) (theirs : right.publicToken = some token) :
    first = second := by
  refine unique first second left right (.publicToken token) one two ?_ ?_
  · simp [SessionRow.indexed, mine]
  · simp [SessionRow.indexed, theirs]

theorem UniqueSessions.locationToken (unique : UniqueSessions tables) {first second : Key}
    {left right : SessionRow} {token : String}
    (one : tables.tracking.sessions.get? first = some left)
    (two : tables.tracking.sessions.get? second = some right)
    (mine : left.locationToken = some token) (theirs : right.locationToken = some token) :
    first = second := by
  refine unique first second left right (.locationToken token) one two ?_ ?_
  · simp [SessionRow.indexed, mine]
  · simp [SessionRow.indexed, theirs]

theorem resolve_eq_some (valid : StoreValid tables) (unique : UniqueSessions tables)
    (displayName : Key → Option String) (token : String) (view : PublicTrackingView) :
    PostgresTrackingViewReader.resolve tables displayName token = some view ↔
      ∃ key row order, row.publicToken = some token ∧ VisitUnderWay tables key row order ∧
        ShowsVisit tables displayName view key row order := by
  unfold PostgresTrackingViewReader.resolve
  constructor
  · intro h
    obtain ⟨⟨key, row, order⟩, hhead, rfl⟩ := Option.map_eq_some_iff.mp h
    obtain ⟨hrow, htoken, -, horder⟩ := mem_linkRows.mp (List.mem_of_head? hhead)
    obtain ⟨found, hunderWay⟩ := valid.underWay hrow (.inl (by rw [htoken]; rfl))
    cases hunderWay.visits.symm.trans horder
    exact ⟨key, row, order, htoken, hunderWay, valid.shows displayName hrow⟩
  · rintro ⟨key, row, order, htoken, hunderWay, hshows⟩
    have hmem : (key, row, order) ∈ PostgresTrackingViewReader.linkRows tables token :=
      mem_linkRows.mpr ⟨hunderWay.stored, htoken, hunderWay.active, hunderWay.visits⟩
    cases hrows : PostgresTrackingViewReader.linkRows tables token with
    | nil =>
        rw [hrows] at hmem
        contradiction
    | cons first rest =>
        obtain ⟨other, found, theirs⟩ := first
        have hfirst : (other, found, theirs) ∈
            PostgresTrackingViewReader.linkRows tables token := by
          rw [hrows]
          exact List.mem_cons_self ..
        obtain ⟨hfound, hsame, -, htheirs⟩ := mem_linkRows.mp hfirst
        obtain rfl := unique.publicToken hunderWay.stored hfound htoken hsame
        cases hunderWay.stored.symm.trans hfound
        cases hunderWay.visits.symm.trans htheirs
        rw [hshows.visit]
        rfl

theorem resolveLocationSender_eq_some (valid : StoreValid tables) (unique : UniqueSessions tables)
    (token : String) (target : LocationSubmissionTarget) :
    PostgresTrackingViewReader.resolveLocationSender tables token = some target ↔
      ∃ key row order, row.locationToken = some token ∧ VisitUnderWay tables key row order ∧
        target = ⟨key.1, key.2, row.executorId⟩ := by
  unfold PostgresTrackingViewReader.resolveLocationSender
  constructor
  · intro h
    obtain ⟨⟨key, row⟩, hfind, rfl⟩ := Option.map_eq_some_iff.mp h
    have hfits := List.find?_some hfind
    simp only [Bool.and_eq_true, decide_eq_true_eq] at hfits
    have hrow := (Dict.get?_eq_some _ _ _).mpr (List.mem_of_find?_eq_some hfind)
    obtain ⟨order, hunderWay⟩ := valid.underWay hrow (.inr (by rw [hfits.1]; rfl))
    exact ⟨key, row, order, hfits.1, hunderWay, rfl⟩
  · rintro ⟨key, row, order, htoken, hunderWay, rfl⟩
    have hmem := (Dict.get?_eq_some _ _ _).mp hunderWay.stored
    cases hfind : tables.tracking.sessions.entries.find? fun entry =>
        entry.2.locationToken = some token && entry.2.status = .active with
    | none =>
        have hnone := List.find?_eq_none.mp hfind _ hmem
        simp [htoken, hunderWay.active] at hnone
    | some found =>
        have hfits := List.find?_some hfind
        simp only [Bool.and_eq_true, decide_eq_true_eq] at hfits
        have hfound := (Dict.get?_eq_some _ _ _).mpr (List.mem_of_find?_eq_some hfind)
        obtain rfl := unique.locationToken hunderWay.stored hfound htoken hfits.1
        cases hunderWay.stored.symm.trans hfound
        rfl

end views

/-- An order that is given to an executor, who sets out to it. -/
def linkedVisit : List Command :=
  [.createOrder ⟨⟨0⟩, "e1"⟩ "" (some "a") ⟨"acme", "repair", "web", .empty, none, none⟩,
    .change ⟨⟨0⟩, "e2"⟩ "acme" "a" (.assign "ann" none) trivial,
    .change ⟨⟨0⟩, "e3"⟩ "acme" "a" (.accept "ann") trivial,
    .startTravel ⟨⟨0⟩, "e4"⟩
      ⟨⟨⟨0⟩, "e5"⟩, ⟨0⟩, "x-000000000000000000000000000000000000000000",
        "x-111111111111111111111111111111111111111111"⟩ "acme" "a" "" "ann" (some "s")]

def linkedVisitTurns : List Database.Turn :=
  (List.replicate 5 0 ++ List.replicate 7 1 ++ List.replicate 7 2 ++ List.replicate 11 3).map .step

end DispatchCore.Application
