import DispatchCore.Domain.Tracking

/-! GPS fixes: which ones make a point, and what adding a point does to a session. -/
namespace DispatchCore.Domain

open DispatchCore.Library

namespace TrackingPoint

/-- The readings a point can be made of, whenever it was captured. -/
structure Acceptable (latitude longitude : Reading) (accuracyM : Option Reading)
    (sourceEventId : Option String) : Prop where
  north : ∃ value, latitude = .finite value ∧ -90 ≤ value ∧ value ≤ 90
  east : ∃ value, longitude = .finite value ∧ -180 ≤ value ∧ value ≤ 180
  accurate : ∀ reading, accuracyM = some reading → ∃ value, reading = .finite value ∧ 0 ≤ value
  sourced : ∀ text, sourceEventId = some text → Text.strip text ≠ ""

section make

variable {latitude longitude : Reading} {capturedAt ingestedAt : Instant}
  {source : LocationSource} {accuracyM : Option Reading} {sourceEventId : Option String}

theorem bounded_ok {reading : Reading} {bound : Rat} {failure : Failure} :
    (∃ value, bounded reading bound failure = .ok value) ↔
      ∃ value, reading = .finite value ∧ -bound ≤ value ∧ value ≤ bound := by
  unfold bounded
  cases reading with
  | notFinite => simp
  | finite value =>
      by_cases h : -bound ≤ value ∧ value ≤ bound <;> simp [h]

theorem checkAccuracy_ok :
    (∃ accuracy, checkAccuracy accuracyM = .ok accuracy) ↔
      ∀ reading, accuracyM = some reading → ∃ value, reading = .finite value ∧ 0 ≤ value := by
  cases accuracyM with
  | none => simp [checkAccuracy]
  | some reading =>
      cases reading with
      | notFinite => simp [checkAccuracy]
      | finite value =>
          unfold checkAccuracy
          by_cases h : value < 0
          · simp [h, Rat.not_le.mpr h]
          · simp [h, Rat.not_lt.mp h]

theorem checkSourceEventId_ok :
    (∃ done, checkSourceEventId sourceEventId = .ok done) ↔
      ∀ text, sourceEventId = some text → Text.strip text ≠ "" := by
  cases sourceEventId with
  | none =>
      refine iff_of_true ⟨_, rfl⟩ ?_
      intro text htext
      contradiction
  | some text =>
      unfold checkSourceEventId
      dsimp only
      by_cases h : Text.strip text = ""
      · rw [dif_pos h]
        refine iff_of_false ?_ fun hnamed => hnamed text rfl h
        rintro ⟨done, hdone⟩
        cases hdone
      · rw [dif_neg h]
        refine iff_of_true ⟨_, rfl⟩ ?_
        intro other hother
        cases hother
        exact h

/-- A point is made of every acceptable reading, with the times, the source and the source
event it is given. -/
theorem make_ok_iff :
    (∃ point, make latitude longitude capturedAt ingestedAt source accuracyM sourceEventId =
        .ok point) ↔ Acceptable latitude longitude accuracyM sourceEventId := by
  unfold make
  constructor
  · rintro ⟨point, h⟩
    obtain ⟨north, hnorth, h⟩ := except_bind_ok.mp h
    obtain ⟨east, heast, h⟩ := except_bind_ok.mp h
    obtain ⟨accuracy, haccuracy, h⟩ := except_bind_ok.mp h
    obtain ⟨sourced, hsourced, -⟩ := except_bind_ok.mp h
    exact ⟨bounded_ok.mp ⟨north, hnorth⟩, bounded_ok.mp ⟨east, heast⟩,
      checkAccuracy_ok.mp ⟨accuracy, haccuracy⟩, checkSourceEventId_ok.mp ⟨sourced, hsourced⟩⟩
  · rintro ⟨north, east, accurate, sourced⟩
    obtain ⟨north, hnorth⟩ := (@bounded_ok latitude 90
      (.valueError "latitude must be finite and between -90 and 90")).mpr north
    obtain ⟨east, heast⟩ := (@bounded_ok longitude 180
      (.valueError "longitude must be finite and between -180 and 180")).mpr east
    obtain ⟨accuracy, haccuracy⟩ := checkAccuracy_ok.mpr accurate
    obtain ⟨sourced, hsourced⟩ := checkSourceEventId_ok.mpr sourced
    exact ⟨_, except_bind_ok.mpr ⟨north, hnorth, except_bind_ok.mpr ⟨east, heast,
      except_bind_ok.mpr ⟨accuracy, haccuracy, except_bind_ok.mpr ⟨sourced, hsourced, rfl⟩⟩⟩⟩⟩

theorem make_fields {point : TrackingPoint}
    (h : make latitude longitude capturedAt ingestedAt source accuracyM sourceEventId =
      .ok point) :
    point.capturedAt = capturedAt ∧ point.ingestedAt = ingestedAt ∧ point.source = source ∧
      point.sourceEventId = sourceEventId := by
  unfold make at h
  obtain ⟨north, -, h⟩ := except_bind_ok.mp h
  obtain ⟨east, -, h⟩ := except_bind_ok.mp h
  obtain ⟨accuracy, -, h⟩ := except_bind_ok.mp h
  obtain ⟨sourced, -, h⟩ := except_bind_ok.mp h
  cases h
  exact ⟨rfl, rfl, rfl, rfl⟩

theorem bounded_value {reading : Reading} {bound : Rat} {failure : Failure}
    {value : { value : Rat // -bound ≤ value ∧ value ≤ bound }}
    (h : bounded reading bound failure = .ok value) : reading = .finite value.1 := by
  unfold bounded at h
  cases reading with
  | notFinite => contradiction
  | finite read =>
      by_cases hbound : -bound ≤ read ∧ read ≤ bound
      · simp only [hbound, and_self, dite_true, Except.ok.injEq] at h
        rw [← h]
      · simp [hbound] at h

theorem make_position {point : TrackingPoint}
    (h : make latitude longitude capturedAt ingestedAt source accuracyM sourceEventId =
      .ok point) :
    latitude = .finite point.latitude ∧ longitude = .finite point.longitude := by
  unfold make at h
  obtain ⟨north, hnorth, h⟩ := except_bind_ok.mp h
  obtain ⟨east, heast, h⟩ := except_bind_ok.mp h
  obtain ⟨accuracy, -, h⟩ := except_bind_ok.mp h
  obtain ⟨sourced, -, h⟩ := except_bind_ok.mp h
  cases h
  exact ⟨bounded_value hnorth, bounded_value heast⟩

end make

end TrackingPoint

namespace TrackingSession

variable {session : TrackingSession} {point : TrackingPoint} {ambient : Ambient}

/-- The point would come before the latest one. -/
def Overtaken (point : TrackingPoint) (session : TrackingSession) : Prop :=
  ∃ latest, session.latestPoint = some latest ∧ point.capturedAt < latest.capturedAt

theorem addPoint_duplicate (h : Duplicate point session) :
    (addPoint ambient point).run session = .ok () session := by
  simp only [addPoint, Method.bind_ok, Method.get_ok]
  refine ⟨session, session, ⟨rfl, rfl⟩, ?_⟩
  rw [if_pos h]
  rfl

theorem addPoint_new (fresh : ¬Duplicate point session) (active : session.status = .active)
    (ordered : ¬Overtaken point session) :
    (addPoint ambient point).run session = .ok () ((session.withPoint point).recorded ambient
      .trackingPointRecorded (pointPayload point) (some point.ingestedAt)) := by
  simp only [addPoint, Method.bind_ok, Method.get_ok]
  refine ⟨session, session, ⟨rfl, rfl⟩, ?_⟩
  rw [if_neg fresh]
  simp only [Method.bind_ok, Method.require_ok, Method.modify_ok, record]
  refine ⟨(), session, ⟨active, rfl⟩, (), session, ⟨?_, rfl⟩, (), _, rfl, rfl⟩
  exact fun latest hlatest hlate => ordered ⟨latest, hlatest, hlate⟩

/-- A new point is refused by a session that is over, and when it comes too late. -/
theorem addPoint_refused (fresh : ¬Duplicate point session)
    (h : session.status ≠ .active ∨ Overtaken point session) :
    ∃ failure after, (addPoint ambient point).run session = .error failure after := by
  cases hrun : (addPoint ambient point).run session with
  | error failure after => exact ⟨failure, after, rfl⟩
  | ok done after =>
      exfalso
      simp only [addPoint, Method.bind_ok, Method.get_ok] at hrun
      obtain ⟨found, middle, ⟨rfl, rfl⟩, hrun⟩ := hrun
      rw [if_neg fresh] at hrun
      simp only [Method.bind_ok, Method.require_ok] at hrun
      obtain ⟨_, _, ⟨hactive, rfl⟩, _, _, ⟨hordered, -⟩, -⟩ := hrun
      rcases h with hover | ⟨latest, hlatest, hlate⟩
      · exact hover hactive
      · exact hordered latest hlatest hlate

end TrackingSession
end DispatchCore.Domain
