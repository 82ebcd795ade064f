import Mathlib.Data.List.Induction
import DispatchCore.Application.Tracks
import DispatchCore.Infrastructure.PostgresTracking

/-! The service over the tracking tables, one transaction a call.  A transaction
that fails is rolled back, and so is one whose order half fails; what follows
holds whichever transactions those are. -/
namespace DispatchCore.Application

open DispatchCore.Library DispatchCore.Domain DispatchCore.Infrastructure

namespace TrackingService

variable (tables : TrackingTables)

/-- The session half of `start_travel`. -/
def startTravel (sessionAmbient : SessionAmbient)
    (organizationId orderId executorId sessionId : String) : Except Failure TrackingTables := do
  let session ← TrackingSession.start sessionAmbient sessionId organizationId orderId executorId
    none none none
  tables.save ⟨session, 0⟩ none

def recordLocation (ambient : Ambient) (report : LocationReport) (seen : Bool) :
    Except Failure TrackingTables := do
  let loaded ← tables.get report.organizationId report.sessionId
  if loaded.session.executorId = report.executorId then
    if report.sourceEventId.isSome && seen then return tables
    else
      let point ← TrackingPoint.make report.latitude report.longitude
        (AsyncDispatchService.observedAt report loaded.session ambient.clock) ambient.clock
        report.source report.accuracyM report.sourceEventId
      let changed ← Atomic.outcome (TrackingSession.addPoint ambient point) loaded.session
      tables.save { loaded with session := changed } (some loaded.session.version)
  else throw (.invalidTransition "session does not belong to this executor")

/-- The session half of `complete_order` and `cancel_order`. -/
def closeOrder (organizationId orderId : String) (close : Method Failure TrackingSession Unit) :
    Except Failure TrackingTables := do
  let found ← tables.findActiveForOrder organizationId orderId
  match found with
  | none => return tables
  | some loaded =>
      let closed ← Atomic.outcome close loaded.session
      tables.save { loaded with session := closed } (some loaded.session.version)

end TrackingService

/-- A transaction on the tracking tables.  A location report comes with what it was told about
its source event, at whatever moment it asked. -/
inductive TrackingCall
  | startTravel (sessionAmbient : SessionAmbient)
      (organizationId orderId executorId sessionId : String)
  | recordLocation (ambient : Ambient) (report : LocationReport) (seen : Bool)
  | completeOrder (ambient : Ambient) (organizationId orderId : String)
  | cancelOrder (ambient : Ambient) (organizationId orderId reason : String)

def TrackingCall.run (tables : TrackingTables) : TrackingCall → Except Failure TrackingTables
  | startTravel sessionAmbient organizationId orderId executorId sessionId =>
      TrackingService.startTravel tables sessionAmbient organizationId orderId executorId sessionId
  | recordLocation ambient report seen => TrackingService.recordLocation tables ambient report seen
  | completeOrder ambient organizationId orderId =>
      TrackingService.closeOrder tables organizationId orderId (TrackingSession.complete ambient none)
  | cancelOrder ambient organizationId orderId reason =>
      TrackingService.closeOrder tables organizationId orderId
        (TrackingSession.cancel ambient reason none)

/-- The end of a transaction: committed, or rolled back. -/
def transacted (tables : TrackingTables) :
    Except Failure TrackingTables → Except Failure Unit × TrackingTables
  | .ok after => (.ok (), after)
  | .error failure => (.error failure, tables)

def runTracking (tables : TrackingTables) (calls : List TrackingCall) : TrackingTables :=
  calls.foldl (fun current call => (transacted current (call.run current)).2) tables

def tracksOfTables (tables : TrackingTables) : Tracks :=
  fun key => (tables.pointsOf key).map PointRow.point

/-- The source event of the report is in the table of points. -/
def seenInTables (tables : TrackingTables) (report : LocationReport) : Bool :=
  match report.sourceEventId with
  | none => false
  | some sourceEventId => tables.hasSourceEvent report.organizationId report.source sourceEventId

/-! ### The rows of a session -/

section rows

variable {tables after : TrackingTables} {key : Key}

/-- The number of points the session row counts. -/
def counted (tables : TrackingTables) (key : Key) : Nat :=
  (tables.sessions.get? key).elim 0 SessionRow.pointCount

theorem counted_stored {row : SessionRow} (h : tables.sessions.get? key = some row) :
    counted tables key = row.pointCount := by
  unfold counted
  rw [h]
  rfl

/-- What the transactions keep: the points of a session are numbered from one to the count in
its row, they come in order, and no two session rows hold the same in a unique index. -/
structure Tabled (tables : TrackingTables) : Prop where
  numbered : ∀ key, (tables.pointsOf key).map PointRow.sequenceNo =
    List.range' 1 (counted tables key)
  ordered : ∀ key, Chronological (tracksOfTables tables key)
  distinct : ∀ first second left right held, tables.sessions.get? first = some left →
    tables.sessions.get? second = some right → held ∈ left.indexed first →
    held ∈ right.indexed second → first = second

theorem tabled_empty : Tabled .empty where
  numbered := fun _ => rfl
  ordered := fun _ => List.Pairwise.nil
  distinct := fun first second left right held h => by
    simp [TrackingTables.empty] at h

theorem latest_of_increasing {rows : List PointRow}
    (h : (rows.map PointRow.sequenceNo).Pairwise (· < ·)) :
    rows.foldl TrackingTables.later none = rows.getLast? := by
  induction rows using List.reverseRecOn with
  | nil => rfl
  | append_singleton rows row ih =>
      rw [List.map_append, List.pairwise_append] at h
      obtain ⟨hrows, -, hlast⟩ := h
      rw [List.foldl_append, ih hrows, List.getLast?_concat]
      change TrackingTables.later rows.getLast? row = some row
      cases hbest : rows.getLast? with
      | none => rfl
      | some found =>
          have hmem : found ∈ rows := List.mem_of_getLast? hbest
          have hlower := hlast found.sequenceNo (List.mem_map_of_mem hmem) row.sequenceNo (by simp)
          unfold TrackingTables.later
          simp [hlower]

/-- The points of every session are numbered from one to the count in its row. -/
def Numbered (tables : TrackingTables) : Prop :=
  ∀ key, (tables.pointsOf key).map PointRow.sequenceNo = List.range' 1 (counted tables key)

/-- The latest row is the last one that was inserted. -/
theorem Numbered.latest (numbered : Numbered tables) (key : Key) :
    (tables.latest key).map PointRow.point = (tracksOfTables tables key).getLast? := by
  unfold TrackingTables.latest tracksOfTables
  rw [latest_of_increasing, List.getLast?_map]
  rw [numbered key]
  exact List.pairwise_lt_range'

theorem Numbered.length (numbered : Numbered tables) (key : Key) :
    (tracksOfTables tables key).length = counted tables key := by
  have hlength := congrArg List.length (numbered key)
  rw [List.length_map, List.length_range'] at hlength
  unfold tracksOfTables
  rw [List.length_map, hlength]

/-- The constructor leaves the count of the row as it is. -/
theorem Numbered.countPoints (numbered : Numbered tables) {row : SessionRow}
    (stored : tables.sessions.get? key = some row) :
    countPoints ((tables.latest key).map PointRow.point) row.pointCount = row.pointCount := by
  unfold Infrastructure.countPoints
  rw [numbered.latest key]
  have hlength := numbered.length key
  rw [counted_stored stored] at hlength
  by_cases hnone : row.pointCount = 0
  · rw [hnone, List.length_eq_zero_iff] at hlength
    simp [hlength]
  · simp [hnone]

/-! ### What a transaction writes -/

/-- The effect of a transaction that commits. -/
inductive Writes (tables : TrackingTables) : TrackingTables → Prop
  | nothing : Writes tables tables
  | opened {key : Key} {row : SessionRow} (absent : tables.sessions.get? key = none)
      (empty : row.pointCount = 0) (allowed : ¬tables.Violates key row) :
      Writes tables { tables with sessions := tables.sessions.set key row }
  | updated {key : Key} {previous row : SessionRow}
      (stored : tables.sessions.get? key = some previous)
      (counts : row.pointCount = previous.pointCount) (allowed : ¬tables.Violates key row) :
      Writes tables { tables with sessions := tables.sessions.set key row }
  | appended {key : Key} {previous row : SessionRow} {point : TrackingPoint}
      (stored : tables.sessions.get? key = some previous)
      (counts : row.pointCount = previous.pointCount + 1) (allowed : ¬tables.Violates key row)
      (timely : Timely (tracksOfTables tables key) point) :
      Writes tables
        { sessions := tables.sessions.set key row
          points := tables.points ++ [⟨key, previous.pointCount + 1, point⟩] }

/-- A row that violates no unique index shares nothing with the rows of other sessions. -/
theorem distinct_set (tabled : Tabled tables) {row : SessionRow}
    (allowed : ¬tables.Violates key row) (first second : Key) (left right : SessionRow)
    (held : Indexed) (hfirst : (tables.sessions.set key row).get? first = some left)
    (hsecond : (tables.sessions.set key row).get? second = some right)
    (hleft : held ∈ left.indexed first) (hright : held ∈ right.indexed second) :
    first = second := by
  have hfree (other : Key) (found : SessionRow) (hne : other ≠ key)
      (hfound : tables.sessions.get? other = some found) (hheld : held ∈ row.indexed key)
      (hother : held ∈ found.indexed other) : False :=
    allowed ⟨(other, found), (Dict.get?_eq_some _ _ _).mp hfound, hne, held, hheld, hother⟩
  rw [Dict.get?_set] at hfirst hsecond
  by_cases hone : first = key
  · by_cases htwo : second = key
    · rw [hone, htwo]
    · rw [if_pos hone] at hfirst
      rw [if_neg htwo] at hsecond
      cases hfirst
      exact (hfree second right htwo hsecond (hone ▸ hleft) hright).elim
  · by_cases htwo : second = key
    · rw [if_neg hone] at hfirst
      rw [if_pos htwo] at hsecond
      cases hsecond
      exact (hfree first left hone hfirst (htwo ▸ hright) hleft).elim
    · rw [if_neg hone] at hfirst
      rw [if_neg htwo] at hsecond
      exact tabled.distinct first second left right held hfirst hsecond hleft hright

theorem counted_set (row : SessionRow) (points : List PointRow) (other : Key) :
    counted ⟨tables.sessions.set key row, points⟩ other =
      if other = key then row.pointCount else counted tables other := by
  unfold counted
  rw [Dict.get?_set]
  by_cases h : other = key <;> simp [h]

theorem pointsOf_append (row : PointRow) (sessions : Dict Key SessionRow) (other : Key) :
    TrackingTables.pointsOf ⟨sessions, tables.points ++ [row]⟩ other =
      tables.pointsOf other ++ if row.session = other then [row] else [] := by
  unfold TrackingTables.pointsOf
  rw [List.filter_append]
  by_cases h : row.session = other <;> simp [h]

theorem tracks_append (row : PointRow) (sessions : Dict Key SessionRow) :
    tracksOfTables ⟨sessions, tables.points ++ [row]⟩ =
      Function.update (tracksOfTables tables) row.session
        (tracksOfTables tables row.session ++ [row.point]) := by
  funext other
  unfold tracksOfTables
  rw [pointsOf_append]
  by_cases h : other = row.session
  · subst h
    simp
  · rw [Function.update_of_ne h]
    simp [Ne.symm h]

/-- The rows a session row has always been written with. -/
theorem Tabled.set (tabled : Tabled tables) {row : SessionRow}
    (counts : row.pointCount = counted tables key) (allowed : ¬tables.Violates key row) :
    Tabled { tables with sessions := tables.sessions.set key row } where
  numbered := fun other => by
    rw [counted_set]
    by_cases h : other = key
    · rw [if_pos h, counts, h]
      exact tabled.numbered key
    · rw [if_neg h]
      exact tabled.numbered other
  ordered := tabled.ordered
  distinct := distinct_set tabled allowed

theorem Tabled.writes (tabled : Tabled tables) (h : Writes tables after) : Tabled after := by
  cases h with
  | nothing => exact tabled
  | opened absent empty allowed =>
      refine tabled.set (empty.trans ?_) allowed
      unfold counted
      rw [absent]
      rfl
  | updated stored counts allowed =>
      exact tabled.set (counts.trans (counted_stored stored).symm) allowed
  | @appended key previous row point stored counts allowed timely =>
      constructor
      · intro other
        rw [counted_set, pointsOf_append]
        by_cases h : other = key
        · subst h
          rw [if_pos rfl, if_pos rfl, List.map_append, tabled.numbered, counted_stored stored,
            counts, List.range'_concat]
          simp [Nat.add_comm]
        · rw [if_neg h, if_neg (Ne.symm h), List.append_nil]
          exact tabled.numbered other
      · intro other
        rw [tracks_append]
        by_cases h : other = key
        · subst h
          rw [Function.update_self]
          exact (tabled.ordered other).append timely
        · rw [Function.update_of_ne h]
          exact tabled.ordered other
      · exact distinct_set tabled allowed

/-! ### The transactions -/

theorem writeSession_ok {row : SessionRow} :
    tables.writeSession key row = .ok after ↔
      ¬tables.Violates key row ∧ after = { tables with sessions := tables.sessions.set key row } := by
  unfold TrackingTables.writeSession
  by_cases h : tables.Violates key row
  · simp [h]
  · simp [h, eq_comm]

theorem insertPoint_ok {row : PointRow} :
    tables.insertPoint row = .ok after ↔
      (¬∃ other ∈ tables.points, TrackingTables.Clashes row other) ∧
        after = { tables with points := tables.points ++ [row] } := by
  unfold TrackingTables.insertPoint
  by_cases h : ∃ other ∈ tables.points, TrackingTables.Clashes row other
  · rw [if_pos h]
    simp [h]
  · rw [if_neg h]
    simp [h, eq_comm]

/-- A session as it was loaded from its row. -/
structure Loaded (tables : TrackingTables) (key : Key) (row : SessionRow)
    (loaded : LoadedSession) : Prop where
  stored : tables.sessions.get? key = some row
  named : (loaded.session.organizationId, loaded.session.id) = key
  version : loaded.session.version = row.version
  counts : loaded.session.pointCount = row.pointCount
  persisted : loaded.persisted = row.pointCount
  points : loaded.session.points = (tracksOfTables tables key).getLast?.toList
  indexed : (SessionRow.ofSession loaded.session).indexed key = row.indexed key

theorem Tabled.loads (tabled : Tabled tables) {organizationId sessionId : String}
    {row : SessionRow} (stored : tables.sessions.get? (organizationId, sessionId) = some row) :
    ∃ loaded, tables.get organizationId sessionId = .ok loaded ∧
      Loaded tables (organizationId, sessionId) row loaded ∧
      loaded.session.status = row.status ∧ loaded.session.executorId = row.executorId := by
  refine ⟨trackingFromRow (organizationId, sessionId) row
    ((tables.latest (organizationId, sessionId)).map PointRow.point), ?_, ?_, rfl, rfl⟩
  · unfold TrackingTables.get
    rw [stored]
  constructor
  · exact stored
  · rfl
  · rfl
  · exact Numbered.countPoints tabled.numbered stored
  · rfl
  · change ((tables.latest _).map PointRow.point).toList = _
    rw [Numbered.latest tabled.numbered]
  · rfl

theorem Tabled.loaded (tabled : Tabled tables) {organizationId sessionId : String}
    {loaded : LoadedSession} (h : tables.get organizationId sessionId = .ok loaded) :
    ∃ row, Loaded tables (organizationId, sessionId) row loaded := by
  cases hstored : tables.sessions.get? (organizationId, sessionId) with
  | none => simp [TrackingTables.get, hstored] at h
  | some row =>
      obtain ⟨found, hget, hloaded, -⟩ := tabled.loads hstored
      rw [h] at hget
      cases hget
      exact ⟨row, hloaded⟩

/-- A session that was read may be written back whatever its points are, as long as it keeps
what the unique indexes hold of it. -/
theorem Tabled.allowed (tabled : Tabled tables) {row next : SessionRow}
    (stored : tables.sessions.get? key = some row)
    (same : ∀ held ∈ next.indexed key, held ∈ row.indexed key) : ¬tables.Violates key next := by
  rintro ⟨⟨other, found⟩, hmem, hne, held, hheld, hother⟩
  have hfound := (Dict.get?_eq_some _ _ _).mpr hmem
  exact hne (tabled.distinct other key found row held hfound stored hother (same held hheld))

section save

variable {row : SessionRow} {loaded : LoadedSession} {changed : TrackingSession}

/-- The row an update leaves. -/
def updatedRow (changed : TrackingSession) (row : SessionRow) : SessionRow :=
  { SessionRow.ofSession changed with createdAt := row.createdAt }

theorem Loaded.saveRow (h : Loaded tables key row loaded)
    (named : (changed.organizationId, changed.id) = key) :
    tables.saveRow changed (some loaded.session.version) =
      tables.writeSession key (updatedRow changed row) := by
  unfold TrackingTables.saveRow
  simp only [named, h.stored, h.version]
  simp only [if_pos]
  rfl

/-- Saved without a new point, the session row is all that is written. -/
theorem Loaded.save_same (h : Loaded tables key row loaded)
    (named : (changed.organizationId, changed.id) = key)
    (counts : changed.pointCount = loaded.session.pointCount) :
    tables.save { loaded with session := changed } (some loaded.session.version) =
      tables.writeSession key (updatedRow changed row) := by
  have hpending : LoadedSession.pendingPoints { loaded with session := changed } = .ok [] := by
    unfold LoadedSession.pendingPoints
    simp [counts, h.counts, h.persisted]
  unfold TrackingTables.save
  simp only [h.saveRow named, hpending]
  cases tables.writeSession key (updatedRow changed row) <;> rfl

theorem Loaded.save_more (h : Loaded tables key row loaded)
    (named : (changed.organizationId, changed.id) = key) {point : TrackingPoint}
    (points : changed.points = loaded.session.points ++ [point])
    (counts : changed.pointCount = loaded.session.pointCount + 1) :
    tables.save { loaded with session := changed } (some loaded.session.version) =
      (tables.writeSession key (updatedRow changed row)) >>= fun written =>
        written.insertPoint ⟨key, row.pointCount + 1, point⟩ := by
  have hpending : LoadedSession.pendingPoints { loaded with session := changed } = .ok [point] := by
    unfold LoadedSession.pendingPoints
    simp [points, counts, h.counts, h.persisted]
  unfold TrackingTables.save
  simp only [h.saveRow named, hpending, named]
  cases tables.writeSession key (updatedRow changed row) with
  | error failure => rfl
  | ok written =>
      rw [← h.persisted]
      change (written.insertPoint ⟨key, loaded.persisted + 1, point⟩ >>= fun tables =>
        Except.ok tables) = written.insertPoint ⟨key, loaded.persisted + 1, point⟩
      cases written.insertPoint ⟨key, loaded.persisted + 1, point⟩ <;> rfl

end save

theorem writes_startTravel {sessionAmbient : SessionAmbient}
    {organizationId orderId executorId sessionId : String}
    (h : TrackingService.startTravel tables sessionAmbient organizationId orderId executorId
      sessionId = .ok after) : Writes tables after := by
  obtain ⟨session, hstart, hsave⟩ := except_bind_ok.mp h
  obtain ⟨hpoints, hcount⟩ := TrackingSession.start_points hstart
  obtain ⟨written, hrow, hsave⟩ := except_bind_ok.mp hsave
  have hpending : LoadedSession.pendingPoints ⟨session, 0⟩ = .ok [] := by
    unfold LoadedSession.pendingPoints
    simp [hcount]
  rw [hpending] at hsave
  cases hsave
  unfold TrackingTables.saveRow at hrow
  simp only at hrow
  cases hstored : tables.sessions.get? (session.organizationId, session.id) with
  | some row =>
      rw [hstored] at hrow
      contradiction
  | none =>
      rw [hstored] at hrow
      obtain ⟨hallowed, rfl⟩ := writeSession_ok.mp hrow
      exact .opened hstored hcount hallowed

theorem writes_closeOrder (tabled : Tabled tables) {organizationId orderId : String}
    {close : Method Failure TrackingSession Unit}
    (closes : ∀ session changed, close.run session = .ok () changed →
      sessionKey changed = sessionKey session ∧ changed.pointCount = session.pointCount)
    (h : TrackingService.closeOrder tables organizationId orderId close = .ok after) :
    Writes tables after := by
  obtain ⟨found, hfind, h⟩ := except_bind_ok.mp h
  cases found with
  | none =>
      cases h
      exact .nothing
  | some loaded =>
      obtain ⟨closed, houtcome, hsave⟩ := except_bind_ok.mp h
      obtain ⟨hkey, hcounts⟩ := closes _ _ (outcome_ok.mp houtcome)
      obtain ⟨sessionId, hget⟩ :
          ∃ sessionId, tables.get organizationId sessionId = .ok loaded := by
        unfold TrackingTables.findActiveForOrder at hfind
        split at hfind
        · cases hfind
        · rename_i entry hentry
          refine ⟨entry.1.2, ?_⟩
          cases hloaded : tables.get organizationId entry.1.2 with
          | error failure =>
              rw [hloaded] at hfind
              contradiction
          | ok other =>
              rw [hloaded] at hfind
              cases hfind
              rfl
      obtain ⟨row, hloaded⟩ := tabled.loaded hget
      rw [hloaded.save_same ((Prod.ext_iff.mpr (Prod.ext_iff.mp hkey)).trans hloaded.named)
        hcounts] at hsave
      obtain ⟨hallowed, rfl⟩ := writeSession_ok.mp hsave
      exact .updated hloaded.stored (hcounts.trans hloaded.counts) hallowed

theorem writes_recordLocation (tabled : Tabled tables) {ambient : Ambient}
    {report : LocationReport} {seen : Bool}
    (h : TrackingService.recordLocation tables ambient report seen = .ok after) :
    Writes tables after := by
  obtain ⟨loaded, hget, h⟩ := except_bind_ok.mp h
  obtain ⟨row, hloaded⟩ := tabled.loaded hget
  by_cases howner : loaded.session.executorId = report.executorId
  · rw [if_pos howner] at h
    by_cases hseen : report.sourceEventId.isSome && seen
    · rw [if_pos hseen] at h
      cases h
      exact .nothing
    · rw [if_neg hseen] at h
      obtain ⟨point, hmake, h⟩ := except_bind_ok.mp h
      obtain ⟨changed, houtcome, hsave⟩ := except_bind_ok.mp h
      rcases TrackingSession.addPoint_ok (outcome_ok.mp houtcome) with ⟨-, rfl⟩ | ⟨-, rfl⟩
      · rw [hloaded.save_same hloaded.named rfl] at hsave
        obtain ⟨hallowed, rfl⟩ := writeSession_ok.mp hsave
        exact .updated hloaded.stored hloaded.counts hallowed
      · rw [@Loaded.save_more tables _ row loaded
          ((loaded.session.withPoint point).recorded ambient .trackingPointRecorded
            (TrackingSession.pointPayload point) (some point.ingestedAt)) hloaded hloaded.named
          point rfl rfl] at hsave
        obtain ⟨written, hwrite, hinsert⟩ := except_bind_ok.mp hsave
        obtain ⟨hallowed, rfl⟩ := writeSession_ok.mp hwrite
        obtain ⟨-, rfl⟩ := insertPoint_ok.mp hinsert
        refine .appended hloaded.stored (congrArg (· + 1) hloaded.counts) hallowed ?_
        intro latest hlatest hearly
        rw [(make_reports hmake).2] at hearly
        refine observedAt_timely report loaded.session ambient.clock ⟨latest, ?_, hearly⟩
        unfold TrackingSession.latestPoint
        rw [hloaded.points, hlatest]
        rfl
  · rw [if_neg howner] at h
    contradiction

theorem Tabled.run (tabled : Tabled tables) {call : TrackingCall}
    (h : call.run tables = .ok after) : Tabled after := by
  refine tabled.writes ?_
  cases call with
  | startTravel sessionAmbient organizationId orderId executorId sessionId =>
      exact writes_startTravel h
  | recordLocation ambient report seen => exact writes_recordLocation tabled h
  | completeOrder ambient organizationId orderId =>
      refine writes_closeOrder tabled (fun session changed hrun => ?_) h
      rw [(TrackingSession.complete_ok hrun).2]
      exact ⟨rfl, rfl⟩
  | cancelOrder ambient organizationId orderId reason =>
      refine writes_closeOrder tabled (fun session changed hrun => ?_) h
      rw [(TrackingSession.cancel_ok hrun).2]
      exact ⟨rfl, rfl⟩

/-- The tables after any transactions, committed or rolled back. -/
theorem tabled_reached (calls : List TrackingCall) : Tabled (runTracking .empty calls) := by
  suffices h : ∀ tables, Tabled tables → Tabled (runTracking tables calls) from h _ tabled_empty
  induction calls with
  | nil => exact fun _ tabled => tabled
  | cons call calls ih =>
      intro tables tabled
      refine ih (transacted tables (call.run tables)).2 ?_
      cases hrun : call.run tables with
      | ok after => exact tabled.run hrun
      | error failure => exact tabled

end rows
end DispatchCore.Application
