import Mathlib.Data.List.Pairwise
import Mathlib.Logic.Function.Basic
import DispatchCore.Application.Histories
import DispatchCore.Application.Interleaving
import DispatchCore.Application.Placing

/-! The tracks of the sessions: the points of each, in recording order.  A track
is never rewritten; it starts empty and is continued by points that come no
earlier than its last one. -/
namespace DispatchCore.Application

open DispatchCore.Library DispatchCore.Domain DispatchCore.Infrastructure

abbrev Tracks := Key → List TrackingPoint

def Chronological (points : List TrackingPoint) : Prop :=
  points.Pairwise fun earlier later => earlier.capturedAt ≤ later.capturedAt

def reportKey (report : LocationReport) : Key := (report.organizationId, report.sessionId)

/-- The source event of the report is on record in the organization, from the same source. -/
def Known (tracks : Tracks) (report : LocationReport) : Prop :=
  ∃ sourceEventId sessionId, report.sourceEventId = some sourceEventId ∧
    ∃ point ∈ tracks (report.organizationId, sessionId),
      point.source = report.source ∧ point.sourceEventId = some sourceEventId

/-- The point is what the report says, captured whenever. -/
structure Reports (report : LocationReport) (point : TrackingPoint) : Prop where
  latitude : report.latitude = .finite point.latitude
  longitude : report.longitude = .finite point.longitude
  source : point.source = report.source
  sourceEventId : point.sourceEventId = report.sourceEventId

/-- The report leaves one more point in its session, or nothing where its source event is on
record already, and it does not fail. -/
structure RecordedOnce {σ : Type} (tracks : σ → Tracks) (report : LocationReport) (before : σ)
    (result : Except Failure Unit × σ) : Prop where
  returns : result.1 = .ok ()
  known : Known (tracks before) report → result.2 = before
  fresh : ¬Known (tracks before) report → ∃ point, Reports report point ∧
    tracks result.2 = Function.update (tracks before) (reportKey report)
      (tracks before (reportKey report) ++ [point])
  ordered : Chronological (tracks result.2 (reportKey report))

/-- The point may follow the track. -/
def Timely (points : List TrackingPoint) (point : TrackingPoint) : Prop :=
  ∀ latest, points.getLast? = some latest → ¬point.capturedAt < latest.capturedAt

/-- The track as it was, or with one more point. -/
inductive Continues (points : List TrackingPoint) : List TrackingPoint → Prop
  | same : Continues points points
  | more {point : TrackingPoint} (timely : Timely points point) :
      Continues points (points ++ [point])

theorem Chronological.append {points : List TrackingPoint} {point : TrackingPoint}
    (h : Chronological points) (timely : Timely points point) :
    Chronological (points ++ [point]) := by
  rw [Chronological, List.pairwise_append]
  refine ⟨h, List.pairwise_singleton _ _, fun earlier hearlier last hlast => ?_⟩
  rw [List.mem_singleton] at hlast
  subst hlast
  obtain ⟨before, latest, rfl⟩ : ∃ before latest, points = before ++ [latest] :=
    ⟨_, _, (List.dropLast_append_getLast (List.ne_nil_of_mem hearlier)).symm⟩
  have hlatest : latest.capturedAt ≤ last.capturedAt := by
    have htimely := timely latest (by simp)
    simp only [Instant.lt_def, Instant.le_def] at htimely ⊢
    omega
  rcases List.mem_append.mp hearlier with hbefore | hsame
  · have hordered := (List.pairwise_append.mp h).2.2 earlier hbefore latest (by simp)
    simp only [Instant.le_def] at hordered hlatest ⊢
    omega
  · rw [List.mem_singleton.mp hsame]
    exact hlatest

theorem Continues.chronological {points later : List TrackingPoint} (h : Continues points later)
    (ordered : Chronological points) : Chronological later := by
  cases h with
  | same => exact ordered
  | more timely => exact ordered.append timely

/-- A late fix is dated so that it follows the latest point. -/
theorem observedAt_timely (report : LocationReport) (session : TrackingSession) (now : Instant) :
    ¬TooEarly (AsyncDispatchService.observedAt report session now) session := by
  rintro ⟨latest, hlatest, hearly⟩
  unfold AsyncDispatchService.observedAt at hearly
  rw [hlatest] at hearly
  simp only at hearly
  by_cases hlate : report.capturedAt.getD now < latest.capturedAt
  · rw [if_pos hlate] at hearly
    unfold Instant.latest at hearly
    by_cases hnow : now < latest.capturedAt
    · rw [if_pos hnow] at hearly
      simp at hearly
    · rw [if_neg hnow] at hearly
      exact hnow hearly
  · rw [if_neg hlate] at hearly
    exact hlate hearly

theorem make_reports {report : LocationReport} {capturedAt ingestedAt : Instant}
    {point : TrackingPoint}
    (h : TrackingPoint.make report.latitude report.longitude capturedAt ingestedAt report.source
      report.accuracyM report.sourceEventId = .ok point) :
    Reports report point ∧ point.capturedAt = capturedAt := by
  obtain ⟨hcaptured, -, hsource, hevent⟩ := TrackingPoint.make_fields h
  obtain ⟨hnorth, heast⟩ := TrackingPoint.make_position h
  exact ⟨⟨hnorth, heast, hsource, hevent⟩, hcaptured⟩

/-! ### The records -/

def tracksOf (records : Records) : Tracks := fun key =>
  (records.trackingSessions.get? key).elim [] TrackingSession.points

/-- Every track goes on from what it was. -/
def Continued (before after : Tracks) : Prop := ∀ key, Continues (before key) (after key)

section records

variable {records after : Records} {ambient : Ambient} {answers : Answers}

@[simp] theorem tracksOf_putOrder (order : WorkOrder) :
    tracksOf (putOrder order records) = tracksOf records := rfl

@[simp] theorem tracksOf_putSession (session : TrackingSession) :
    tracksOf (putSession session records) =
      Function.update (tracksOf records) (sessionKey session) session.points := by
  funext key
  unfold tracksOf putSession Function.update
  simp only [Dict.get?_set]
  by_cases h : key = sessionKey session
  · simp [h]
    rfl
  · simp [h]

theorem tracksOf_stored {key : Key} {session : TrackingSession}
    (h : records.trackingSessions.get? key = some session) :
    tracksOf records key = session.points := by
  unfold tracksOf
  rw [h]
  rfl

theorem Continued.refl (tracks : Tracks) : Continued tracks tracks := fun _ => .same

theorem continued_update {tracks : Tracks} {key : Key} {points : List TrackingPoint}
    (h : Continues (tracks key) points) : Continued tracks (Function.update tracks key points) := by
  intro other
  by_cases hsame : other = key
  · subst hsame
    rw [Function.update_self]
    exact h
  · rw [Function.update_of_ne hsame]
    exact .same

theorem continued_createNewOrder {orderId publicNumber : String} {creation : Creation}
    (h : Atomic.createNewOrder ambient orderId creation publicNumber records = .ok after) :
    Continued (tracksOf records) (tracksOf after) := by
  obtain ⟨order, -, hcommit⟩ := except_bind_ok.mp h
  obtain ⟨-, -, rfl⟩ := (commit_order order none records after).mp hcommit
  exact .refl _

theorem continued_createOrderOnce {orderId publicNumber : String} {creation : Creation}
    (h : Atomic.createOrderOnce ambient orderId creation publicNumber records = .ok after) :
    Continued (tracksOf records) (tracksOf after) := by
  unfold Atomic.createOrderOnce at h
  cases hcreate : Atomic.createNewOrder ambient orderId creation publicNumber records with
  | ok found =>
      rw [hcreate] at h
      cases h
      exact continued_createNewOrder hcreate
  | error failure =>
      simp only [hcreate] at h
      by_cases hconflict : failure.isConcurrencyConflict
      · rw [if_pos hconflict] at h
        obtain ⟨existing, -, h⟩ := except_bind_ok.mp h
        obtain ⟨candidate, -, h⟩ := except_bind_ok.mp h
        by_cases hsame : sameSubmission existing candidate
        · rw [if_pos hsame] at h
          obtain ⟨-, rfl⟩ := (commit_empty records after).mp h
          exact .refl _
        · rw [if_neg hsame] at h
          contradiction
      · rw [if_neg hconflict] at h
        contradiction

theorem continued_changeOrder {organizationId orderId : String}
    {change : Method Failure WorkOrder Unit}
    (h : Atomic.changeOrder organizationId orderId change records = .ok after) :
    Continued (tracksOf records) (tracksOf after) := by
  obtain ⟨order, -, h⟩ := except_bind_ok.mp h
  obtain ⟨changed, -, hcommit⟩ := except_bind_ok.mp h
  obtain ⟨-, -, rfl⟩ := (commit_order changed _ records after).mp hcommit
  exact .refl _

theorem continued_startTravel {sessionAmbient : SessionAmbient}
    {organizationId orderId executorId sessionId : String}
    (h : Atomic.startTravel ambient sessionAmbient organizationId orderId executorId sessionId
      records = .ok after) : Continued (tracksOf records) (tracksOf after) := by
  obtain ⟨order, -, h⟩ := except_bind_ok.mp h
  obtain ⟨changed, -, h⟩ := except_bind_ok.mp h
  obtain ⟨session, hstart, hcommit⟩ := except_bind_ok.mp h
  obtain ⟨-, habsent, -, rfl⟩ := (commit_both _ _ _ _ records after).mp hcommit
  rw [tracksOf_putSession, tracksOf_putOrder]
  apply continued_update
  have hnone : tracksOf records (sessionKey session) = [] := by
    unfold tracksOf
    rw [Option.map_eq_none_iff.mp habsent]
    rfl
  rw [hnone, (TrackingSession.start_points hstart).1]
  exact .same

theorem continued_closeOrder (valid : Valid records) {organizationId orderId : String}
    {change : Method Failure WorkOrder Unit} {close : Method Failure TrackingSession Unit}
    (closes : ∀ session changed, close.run session = .ok () changed →
      sessionKey changed = sessionKey session ∧ changed.points = session.points)
    (h : Atomic.closeOrder organizationId orderId change close records = .ok after) :
    Continued (tracksOf records) (tracksOf after) := by
  obtain ⟨order, -, h⟩ := except_bind_ok.mp h
  obtain ⟨changed, -, h⟩ := except_bind_ok.mp h
  obtain ⟨active, hactive, hcommit⟩ := except_bind_ok.mp h
  rcases findActiveForOrder_ok.mp hactive with ⟨rfl, -⟩ | ⟨key, session, rfl, htracked⟩
  · obtain ⟨-, -, rfl⟩ := (commit_order _ _ records after).mp hcommit
    exact .refl _
  · obtain ⟨closed, hclosed, hcommit⟩ := except_bind_ok.mp hcommit
    obtain ⟨-, -, -, rfl⟩ := (commit_both _ _ _ _ records after).mp hcommit
    obtain ⟨hkey, hpoints⟩ := closes _ _ (outcome_ok.mp hclosed)
    have hmem : (key, session) ∈ records.activeEntries organizationId orderId := by
      rw [htracked]
      exact List.mem_singleton.mpr rfl
    have hstored := (Dict.get?_eq_some _ _ _).mpr (List.mem_filter.mp hmem).1
    obtain ⟨hsessionKey, -⟩ := valid.sessionKeyed hstored
    rw [tracksOf_putSession, tracksOf_putOrder]
    apply continued_update
    rw [hkey, hpoints, hsessionKey, tracksOf_stored hstored]
    exact .same

theorem continued_recordLocation (valid : Valid records) {report : LocationReport} {seen : Bool}
    (h : Atomic.recordLocation ambient report seen records = .ok after) :
    Continued (tracksOf records) (tracksOf after) := by
  obtain ⟨session, hget, h⟩ := except_bind_ok.mp h
  have hstored := getTracking_ok.mp hget
  obtain ⟨hkey, -⟩ := valid.sessionKeyed hstored
  by_cases howner : session.executorId = report.executorId
  · rw [if_pos howner] at h
    by_cases hseen : report.sourceEventId.isSome && seen
    · rw [if_pos hseen] at h
      obtain ⟨-, rfl⟩ := (commit_empty records after).mp h
      exact .refl _
    · rw [if_neg hseen] at h
      obtain ⟨point, hmake, h⟩ := except_bind_ok.mp h
      obtain ⟨changed, houtcome, hcommit⟩ := except_bind_ok.mp h
      obtain ⟨-, -, rfl⟩ := (commit_session changed _ records after).mp hcommit
      rw [tracksOf_putSession]
      apply continued_update
      rcases TrackingSession.addPoint_ok (outcome_ok.mp houtcome) with ⟨-, rfl⟩ | ⟨-, rfl⟩
      · rw [hkey, tracksOf_stored hstored]
        exact .same
      · change Continues (tracksOf records (sessionKey session)) (session.points ++ [point])
        rw [hkey, tracksOf_stored hstored]
        refine .more fun latest hlatest hearly => ?_
        rw [(make_reports hmake).2] at hearly
        exact observedAt_timely report session ambient.clock ⟨latest, hlatest, hearly⟩
  · rw [if_neg howner] at h
    contradiction

/-- Whatever a command does, it only adds to the tracks. -/
theorem apply_continued (valid : Valid records) {command : Command}
    (h : command.apply answers records = .ok after) :
    Continued (tracksOf records) (tracksOf after) := by
  cases command with
  | createOrder ambient freshId orderId creation => exact continued_createNewOrder h
  | createOrderOnce ambient orderId creation => exact continued_createOrderOnce h
  | change ambient organizationId orderId call plain => exact continued_changeOrder h
  | startTravel ambient sessionAmbient organizationId orderId freshId executorId sessionId =>
      exact continued_startTravel h
  | recordLocation ambient report => exact continued_recordLocation valid h
  | completeOrder ambient sessionAmbient organizationId orderId executorId report =>
      refine continued_closeOrder valid (fun session changed hrun => ?_) h
      rw [(TrackingSession.complete_ok hrun).2]
      exact ⟨rfl, rfl⟩
  | cancelOrder ambient sessionAmbient organizationId orderId reason actorId =>
      refine continued_closeOrder valid (fun session changed hrun => ?_) h
      rw [(TrackingSession.cancel_ok hrun).2]
      exact ⟨rfl, rfl⟩

/-- What every store a run reaches looks like to a report. -/
structure Charted (records : Records) : Prop where
  valid : Valid records
  capacity : Capacity records
  ordered : ∀ key, Chronological (tracksOf records key)

theorem charted_empty : Charted .empty where
  valid := valid_empty
  capacity := rfl
  ordered := fun _ => List.Pairwise.nil

theorem Charted.apply (charted : Charted records) {command : Command}
    (h : command.apply answers records = .ok after) : Charted after where
  valid := ((apply_takes charted.valid h).sound charted.valid).1
  capacity := (apply_orders charted.valid h).2
  ordered := fun key => (apply_continued charted.valid h key).chronological (charted.ordered key)

/-- Commands may interleave as they like. -/
theorem charted_reached (commands : List Command) (schedule : List Nat) :
    Charted ((launch commands).run schedule).state.toRecords := by
  obtain ⟨log, orderly⟩ :=
    (launch_orderly commands).run (fun hstep => poolStep_lawful hstep) schedule
  refine orderly.trace.invariant (fun store => Charted store.toRecords) charted_empty
    (fun hquiet charted => ?_) fun hstep charted => ?_
  · exact Eq.mpr (congrArg Charted hquiet) charted
  · obtain ⟨command, -, hcommit⟩ := hstep
    obtain ⟨records, happly, rfl⟩ := commitStep_iff.mp hcommit
    exact charted.apply happly

end records
end DispatchCore.Application
