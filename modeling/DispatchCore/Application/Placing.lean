import DispatchCore.Application.Proposals
import DispatchCore.Domain.Fixes

/-! What a location report comes to, once its session is found: no point at all,
the point that is there already, or one more. -/
namespace DispatchCore.Application

open DispatchCore.Library DispatchCore.Domain DispatchCore.Infrastructure

variable {ambient : Ambient} {report : LocationReport} {session : TrackingSession}
  {instant : Instant}

/-- The readings of the report make a point. -/
def Mappable (report : LocationReport) : Prop :=
  TrackingPoint.Acceptable report.latitude report.longitude report.accuracyM report.sourceEventId

/-- The source event of the report is on record in the session. -/
def Repeated (report : LocationReport) (session : TrackingSession) : Prop :=
  report.sourceEventId ≠ none ∧
    ∃ point ∈ session.points, point.sourceEventId = report.sourceEventId

/-- A point captured then would come before the latest one. -/
def TooEarly (instant : Instant) (session : TrackingSession) : Prop :=
  ∃ latest, session.latestPoint = some latest ∧ instant < latest.capturedAt

theorem place_unmappable (h : ¬Mappable report) :
    ∃ failure, Reads.place ambient report session instant = .error failure := by
  cases hplace : Reads.place ambient report session instant with
  | error failure => exact ⟨failure, rfl⟩
  | ok proposal =>
      obtain ⟨point, hmake, -⟩ := except_bind_ok.mp hplace
      exact absurd (TrackingPoint.make_ok_iff.mp ⟨point, hmake⟩) h

theorem place_repeated (mappable : Mappable report) (repeated : Repeated report session) :
    Reads.place ambient report session instant =
      .ok ⟨none, some (session, some session.version)⟩ := by
  obtain ⟨point, hmake⟩ := (@TrackingPoint.make_ok_iff _ _ instant ambient.clock report.source
    _ _).mpr mappable
  obtain ⟨-, -, -, hsource⟩ := TrackingPoint.make_fields hmake
  have hduplicate : TrackingSession.Duplicate point session := by
    unfold TrackingSession.Duplicate
    rw [hsource]
    exact repeated
  exact except_bind_ok.mpr ⟨point, hmake, except_bind_ok.mpr ⟨session,
    outcome_ok.mpr (TrackingSession.addPoint_duplicate hduplicate), rfl⟩⟩

theorem place_refused (fresh : ¬Repeated report session)
    (h : session.status ≠ .active ∨ TooEarly instant session) :
    ∃ failure, Reads.place ambient report session instant = .error failure := by
  cases hplace : Reads.place ambient report session instant with
  | error failure => exact ⟨failure, rfl⟩
  | ok proposal =>
      exfalso
      obtain ⟨point, hmake, hplace⟩ := except_bind_ok.mp hplace
      obtain ⟨changed, houtcome, -⟩ := except_bind_ok.mp hplace
      obtain ⟨hcaptured, -, -, hsource⟩ := TrackingPoint.make_fields hmake
      have hfresh : ¬TrackingSession.Duplicate point session := by
        unfold TrackingSession.Duplicate
        rw [hsource]
        exact fresh
      have hover : session.status ≠ .active ∨ TrackingSession.Overtaken point session := by
        unfold TrackingSession.Overtaken
        rw [hcaptured]
        exact h
      obtain ⟨failure, after, hrun⟩ :=
        @TrackingSession.addPoint_refused session point ambient hfresh hover
      rw [outcome_ok, hrun] at houtcome
      contradiction

theorem place_new (mappable : Mappable report) (fresh : ¬Repeated report session)
    (active : session.status = .active) (timely : ¬TooEarly instant session) :
    ∃ point, TrackingPoint.make report.latitude report.longitude instant ambient.clock
        report.source report.accuracyM report.sourceEventId = .ok point ∧
      Reads.place ambient report session instant =
        .ok ⟨none, some ((session.withPoint point).recorded ambient .trackingPointRecorded
          (TrackingSession.pointPayload point) (some point.ingestedAt), some session.version)⟩ := by
  obtain ⟨point, hmake⟩ := (@TrackingPoint.make_ok_iff _ _ instant ambient.clock report.source
    _ _).mpr mappable
  obtain ⟨hcaptured, -, -, hsource⟩ := TrackingPoint.make_fields hmake
  have hfresh : ¬TrackingSession.Duplicate point session := by
    unfold TrackingSession.Duplicate
    rw [hsource]
    exact fresh
  have hordered : ¬TrackingSession.Overtaken point session := by
    unfold TrackingSession.Overtaken
    rw [hcaptured]
    exact timely
  exact ⟨point, hmake, except_bind_ok.mpr ⟨point, hmake, except_bind_ok.mpr ⟨_,
    outcome_ok.mpr (TrackingSession.addPoint_new hfresh active hordered), rfl⟩⟩⟩

end DispatchCore.Application
