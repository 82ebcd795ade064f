import DispatchCore.Application.FixTables

/-! Location reports recorded once and in order, by the store that loads every
point of a session and by the tables that load the latest one.  A point of
another source with the same source event stops a report, where it is loaded. -/
namespace DispatchCore.Application

open DispatchCore.Library DispatchCore.Domain DispatchCore.Infrastructure

/-- The coordinates are finite and on the map. -/
structure Located (report : LocationReport) : Prop where
  north : ∃ value, report.latitude = .finite value ∧ -90 ≤ value ∧ value ≤ 90
  east : ∃ value, report.longitude = .finite value ∧ -180 ≤ value ∧ value ≤ 180

/-- What else a point needs: an accuracy that is not negative, if any, and a source event that
is not blank, if any. -/
structure Storable (report : LocationReport) : Prop where
  accurate : ∀ reading, report.accuracyM = some reading →
    ∃ value, reading = .finite value ∧ 0 ≤ value
  sourced : ∀ text, report.sourceEventId = some text → Text.strip text ≠ ""

/-- One of the points has the source event of the report, from whatever source. -/
def Matched (report : LocationReport) (points : List TrackingPoint) : Prop :=
  report.sourceEventId ≠ none ∧ ∃ point ∈ points, point.sourceEventId = report.sourceEventId

/-- The report is on record, or it makes a point and matches none of the loaded ones. -/
def Recordable (tracks : Tracks) (loaded : List TrackingPoint) (report : LocationReport) : Prop :=
  Known tracks report ∨ (Storable report ∧ ¬Matched report loaded)

section shared

variable {ambient : Ambient} {report : LocationReport} {session : TrackingSession}

theorem mappable_iff (located : Located report) : Mappable report ↔ Storable report :=
  ⟨fun h => ⟨h.accurate, h.sourced⟩, fun h => ⟨located.north, located.east, h.accurate, h.sourced⟩⟩

/-- The point the service makes of the report, added to the session. -/
abbrev Placed (ambient : Ambient) (report : LocationReport) (session : TrackingSession) :
    Except Failure Proposal :=
  Reads.place ambient report session
    (AsyncDispatchService.observedAt report session ambient.clock)

/-- The session with the point and the event that says so. -/
def located (ambient : Ambient) (point : TrackingPoint) (session : TrackingSession) :
    TrackingSession :=
  (session.withPoint point).recorded ambient .trackingPointRecorded
    (TrackingSession.pointPayload point) (some point.ingestedAt)

/-- A store that leaves known source events alone and otherwise does what placing the point
says, records a report once exactly when it is recordable. -/
theorem recorded_iff {σ : Type} {tracks : σ → Tracks} {before : σ}
    {result : Except Failure Unit × σ} (active : session.status = .active)
    (mapped : Located report) (ordered : Chronological (tracks result.2 (reportKey report)))
    (known : Known (tracks before) report → result = (.ok (), before))
    (refused : ¬Known (tracks before) report → ∀ failure,
      Placed ambient report session = .error failure → result.1 = .error failure)
    (kept : ¬Known (tracks before) report →
      Placed ambient report session = .ok ⟨none, some (session, some session.version)⟩ →
        tracks result.2 = tracks before)
    (added : ¬Known (tracks before) report → ∀ point, Reports report point →
      Placed ambient report session =
          .ok ⟨none, some (located ambient point session, some session.version)⟩ →
        result.1 = .ok () ∧ tracks result.2 = Function.update (tracks before) (reportKey report)
          (tracks before (reportKey report) ++ [point])) :
    RecordedOnce tracks report before result ↔
      Recordable (tracks before) session.points report := by
  by_cases hknown : Known (tracks before) report
  · refine ⟨fun _ => .inl hknown, fun _ => ?_⟩
    have hresult := known hknown
    exact ⟨congrArg Prod.fst hresult, fun _ => congrArg Prod.snd hresult,
      fun h => absurd hknown h, ordered⟩
  · by_cases hstorable : Storable report
    · have hmappable := (mappable_iff mapped).mpr hstorable
      by_cases hmatched : Matched report session.points
      · have hkept := kept hknown (place_repeated hmappable hmatched)
        constructor
        · intro recorded
          obtain ⟨point, -, htracks⟩ := recorded.fresh hknown
          rw [hkept] at htracks
          have hself := congrFun htracks (reportKey report)
          rw [Function.update_self] at hself
          simp at hself
        · rintro (h | ⟨-, h⟩)
          · exact absurd h hknown
          · exact absurd hmatched h
      · obtain ⟨point, hmake, hplace⟩ := @place_new ambient report session _ hmappable
          hmatched active (observedAt_timely report session ambient.clock)
        obtain ⟨hreturns, htracks⟩ := added hknown point (make_reports hmake).1 hplace
        exact ⟨fun _ => .inr ⟨hstorable, hmatched⟩, fun _ => ⟨hreturns,
          fun h => absurd h hknown, fun _ => ⟨point, (make_reports hmake).1, htracks⟩, ordered⟩⟩
    · have hunmappable : ¬Mappable report := fun h => hstorable ((mappable_iff mapped).mp h)
      obtain ⟨failure, hplace⟩ := @place_unmappable ambient report session
        (AsyncDispatchService.observedAt report session ambient.clock) hunmappable
      have hfails := refused hknown failure hplace
      constructor
      · intro recorded
        have hreturns := recorded.returns
        rw [hfails] at hreturns
        contradiction
      · rintro (h | ⟨h, -⟩)
        · exact absurd h hknown
        · exact absurd h hstorable

end shared

/-! ### The in-memory store -/

section memory

variable {ambient : Ambient} {report : LocationReport} {session : TrackingSession}
  {store : AsyncMemoryStore}

theorem seenBefore_iff {records : Records} (valid : Valid records) :
    seenBefore records report = true ↔ Known (tracksOf records) report := by
  unfold seenBefore Known
  cases hevent : report.sourceEventId with
  | none => simp
  | some sourceEventId =>
      simp only [Records.hasSourceEvent, List.any_eq_true, Bool.and_eq_true, decide_eq_true_eq]
      constructor
      · rintro ⟨session, hsession, horganization, point, hpoint, hsource, hsame⟩
        obtain ⟨key, hstored⟩ := (Dict.mem_values _ _).mp hsession
        obtain ⟨hkey, -⟩ := valid.sessionKeyed hstored
        refine ⟨sourceEventId, session.id, rfl, point, ?_, hsource, hsame⟩
        rw [← horganization]
        change point ∈ tracksOf records (sessionKey session)
        rw [hkey, tracksOf_stored hstored]
        exact hpoint
      · rintro ⟨other, sessionId, heq, point, hpoint, hsource, hsame⟩
        cases heq
        unfold tracksOf at hpoint
        cases hstored : records.trackingSessions.get? (report.organizationId, sessionId) with
        | none =>
            rw [hstored] at hpoint
            simp at hpoint
        | some session =>
            rw [hstored] at hpoint
            obtain ⟨hkey, -⟩ := valid.sessionKeyed hstored
            exact ⟨session, (Dict.mem_values _ _).mpr ⟨_, hstored⟩, congrArg Prod.fst hkey, point,
              hpoint, hsource, hsame⟩

/-- A report that is not on record is placed, and what was placed is committed. -/
theorem recordLocation_new {records : Records} {seen : Bool}
    (stored : records.trackingSessions.get? (reportKey report) = some session)
    (owner : session.executorId = report.executorId) (unseen : seen = false) :
    Atomic.recordLocation ambient report seen records =
      Placed ambient report session >>= fun proposal => proposal.work.commit records := by
  rw [recordLocation_propose]
  unfold Reads.locate
  rw [show (readsOfRecords records).getTracking report.organizationId report.sessionId =
    .ok session from getTracking_ok.mpr stored]
  change (if _ then (if _ then _ else _) else _) >>= _ = _
  rw [if_pos owner, if_neg (by simp [unseen])]

theorem memory_recorded_iff (charted : Charted store.toRecords)
    (stored : store.trackingSessions.get? (reportKey report) = some session)
    (active : session.status = .active) (owner : session.executorId = report.executorId)
    (mapped : Located report) :
    RecordedOnce (fun store => tracksOf store.toRecords) report store
        (((Command.recordLocation ambient report).task .live).alone store) ↔
      Recordable (tracksOf store.toRecords) (tracksOf store.toRecords (reportKey report))
        report := by
  have hrun : ((Command.recordLocation ambient report).task .live).alone store =
      settle store (Atomic.recordLocation ambient report (seenBefore store.toRecords report)
        store.toRecords) := alone_live_recordLocation store ambient report
  have hkey : sessionKey session = reportKey report := (charted.valid.sessionKeyed stored).1
  have hcharted : Charted (settle store (Atomic.recordLocation ambient report
      (seenBefore store.toRecords report) store.toRecords)).2.toRecords := by
    cases happly : Atomic.recordLocation ambient report (seenBefore store.toRecords report)
        store.toRecords with
    | ok after =>
        exact charted.apply (show (Command.recordLocation ambient report).apply
          ⟨"", seenBefore store.toRecords report⟩ store.toRecords = .ok after from happly)
    | error failure => exact charted
  have hunseen (h : ¬Known (tracksOf store.toRecords) report) :
      Atomic.recordLocation ambient report (seenBefore store.toRecords report) store.toRecords =
        Placed ambient report session >>= fun proposal =>
          proposal.work.commit store.toRecords := by
    refine recordLocation_new stored owner (Bool.eq_false_iff.mpr fun hseen => ?_)
    exact h ((seenBefore_iff charted.valid).mp hseen)
  rw [hrun, tracksOf_stored stored]
  refine @recorded_iff ambient report session _ _ _ _ active mapped (hcharted.ordered _)
    (fun hknown => ?_) (fun hknown failure hplace => ?_) (fun hknown hplace => ?_)
    fun hknown point hreports hplace => ?_
  · have hseen := (seenBefore_iff charted.valid).mpr hknown
    obtain ⟨sourceEventId, -, hevent, -⟩ := hknown
    have hcommit : Atomic.recordLocation ambient report (seenBefore store.toRecords report)
        store.toRecords = .ok store.toRecords := by
      refine except_bind_ok.mpr ⟨session, getTracking_ok.mpr stored, ?_⟩
      rw [if_pos owner, if_pos (by simp [hevent, hseen])]
      exact (commit_empty _ _).mpr ⟨charted.capacity, rfl⟩
    rw [hcommit]
    rfl
  · rw [hunseen hknown, hplace]
    rfl
  · rw [hunseen hknown, hplace]
    change tracksOf (settle store (((UnitOfWork.empty.stageTracking session
      (some session.version)).stageEvents session.events).commit store.toRecords)).2.toRecords = _
    cases hcommit : ((UnitOfWork.empty.stageTracking session
        (some session.version)).stageEvents session.events).commit store.toRecords with
    | error failure => rfl
    | ok after =>
        obtain ⟨-, -, rfl⟩ := (commit_session session _ _ after).mp hcommit
        change tracksOf (putSession session store.toRecords) = _
        rw [tracksOf_putSession, hkey, ← tracksOf_stored stored, Function.update_eq_self]
  · have hcommit : ((UnitOfWork.empty.stageTracking (located ambient point session)
        (some session.version)).stageEvents (located ambient point session).events).commit
          store.toRecords = .ok (putSession (located ambient point session) store.toRecords) := by
      refine (commit_session _ _ _ _).mpr ⟨?_, charted.capacity, rfl⟩
      change (store.trackingSessions.get? (sessionKey session)).map TrackingSession.version = _
      rw [hkey, stored]
      rfl
    have hsettled : Atomic.recordLocation ambient report (seenBefore store.toRecords report)
        store.toRecords = .ok (putSession (located ambient point session) store.toRecords) := by
      rw [hunseen hknown, hplace]
      exact hcommit
    rw [hsettled]
    refine ⟨rfl, ?_⟩
    change tracksOf (putSession (located ambient point session) store.toRecords) = _
    rw [tracksOf_putSession, tracksOf_stored stored]
    change Function.update _ (sessionKey session) _ = _
    rw [hkey]
    rfl

end memory

/-! ### The tracking tables -/

section database

variable {ambient : Ambient} {report : LocationReport} {tables : TrackingTables}

theorem seenInTables_iff :
    seenInTables tables report = true ↔ Known (tracksOfTables tables) report := by
  unfold seenInTables Known
  cases hevent : report.sourceEventId with
  | none => simp
  | some sourceEventId =>
      simp only [TrackingTables.hasSourceEvent, List.any_eq_true, Bool.and_eq_true,
        decide_eq_true_eq]
      constructor
      · rintro ⟨row, hrow, ⟨horganization, hsource⟩, hsame⟩
        refine ⟨sourceEventId, row.session.2, rfl, row.point, ?_, hsource, hsame⟩
        refine List.mem_map_of_mem (List.mem_filter.mpr ⟨hrow, ?_⟩)
        exact decide_eq_true (Prod.ext horganization rfl)
      · rintro ⟨other, sessionId, heq, point, hpoint, hsource, hsame⟩
        cases heq
        obtain ⟨row, hrow, rfl⟩ := List.mem_map.mp hpoint
        obtain ⟨hmem, hkey⟩ := List.mem_filter.mp hrow
        exact ⟨row, hmem, ⟨congrArg Prod.fst (of_decide_eq_true hkey), hsource⟩, hsame⟩

theorem tables_recordLocation_new {seen : Bool} {loaded : LoadedSession}
    (read : tables.get report.organizationId report.sessionId = .ok loaded)
    (owner : loaded.session.executorId = report.executorId) (unseen : seen = false) :
    TrackingService.recordLocation tables ambient report seen =
      Placed ambient report loaded.session >>= fun proposal =>
        proposal.session.elim (.ok tables) fun saved =>
          tables.save { loaded with session := saved.1 } saved.2 := by
  unfold TrackingService.recordLocation Placed Reads.place
  rw [read]
  change (if _ then (if _ then _ else _) else _) = _
  rw [if_pos owner, if_neg (by simp [unseen])]
  cases TrackingPoint.make report.latitude report.longitude
      (AsyncDispatchService.observedAt report loaded.session ambient.clock) ambient.clock
      report.source report.accuracyM report.sourceEventId with
  | error failure => rfl
  | ok point =>
      change (Atomic.outcome (TrackingSession.addPoint ambient point) loaded.session >>= _) =
        (Atomic.outcome (TrackingSession.addPoint ambient point) loaded.session >>= _) >>= _
      cases Atomic.outcome (TrackingSession.addPoint ambient point) loaded.session <;> rfl

/-- A new point gets the next number, and no point in the table has its source event. -/
theorem insert_new (tabled : Tabled tables) {row : SessionRow} {point : TrackingPoint}
    (stored : tables.sessions.get? (reportKey report) = some row)
    (unknown : ¬Known (tracksOfTables tables) report) (reports : Reports report point)
    (sessions : Dict Key SessionRow) :
    TrackingTables.insertPoint ⟨sessions, tables.points⟩
        ⟨reportKey report, row.pointCount + 1, point⟩ =
      .ok ⟨sessions, tables.points ++ [⟨reportKey report, row.pointCount + 1, point⟩]⟩ := by
  rw [insertPoint_ok]
  refine ⟨?_, rfl⟩
  rintro ⟨other, hother, ⟨hsession, hsequence⟩ | ⟨horganization, hsource, hsome, hevent⟩⟩
  · change reportKey report = other.session at hsession
    change row.pointCount + 1 = other.sequenceNo at hsequence
    have hmem : other.sequenceNo ∈ (tables.pointsOf (reportKey report)).map
        PointRow.sequenceNo := by
      refine List.mem_map_of_mem (List.mem_filter.mpr ⟨hother, ?_⟩)
      exact decide_eq_true hsession.symm
    rw [tabled.numbered, counted_stored stored, List.mem_range'_1] at hmem
    omega
  · change report.organizationId = other.session.1 at horganization
    change point.source = other.point.source at hsource
    change point.sourceEventId ≠ none at hsome
    change point.sourceEventId = other.point.sourceEventId at hevent
    obtain ⟨sourceEventId, hsourceEvent⟩ := Option.ne_none_iff_exists'.mp hsome
    refine unknown ⟨sourceEventId, other.session.2, ?_, other.point, ?_, ?_, ?_⟩
    · rw [← reports.sourceEventId, hsourceEvent]
    · refine List.mem_map_of_mem (List.mem_filter.mpr ⟨hother, ?_⟩)
      exact decide_eq_true (Prod.ext horganization.symm rfl)
    · rw [← hsource, reports.source]
    · rw [← hevent, hsourceEvent]

theorem tables_recorded_iff (tabled : Tabled tables) {row : SessionRow}
    (stored : tables.sessions.get? (reportKey report) = some row) (active : row.status = .active)
    (owner : row.executorId = report.executorId) (mapped : Located report) :
    RecordedOnce tracksOfTables report tables
        (transacted tables
          (TrackingService.recordLocation tables ambient report (seenInTables tables report))) ↔
      Recordable (tracksOfTables tables)
        (tracksOfTables tables (reportKey report)).getLast?.toList report := by
  obtain ⟨loaded, hget, hread, hstatus, hexecutor⟩ := tabled.loads stored
  have hloaded : Loaded tables (reportKey report) row loaded := hread
  have hactive : loaded.session.status = .active := hstatus.trans active
  have howner : loaded.session.executorId = report.executorId := hexecutor.trans owner
  have htabled : Tabled (transacted tables (TrackingService.recordLocation tables ambient report
      (seenInTables tables report))).2 := by
    cases hrun : TrackingService.recordLocation tables ambient report
        (seenInTables tables report) with
    | ok after => exact tabled.run (show (TrackingCall.recordLocation ambient report
        (seenInTables tables report)).run tables = .ok after from hrun)
    | error failure => exact tabled
  have hunseen (h : ¬Known (tracksOfTables tables) report) :
      TrackingService.recordLocation tables ambient report (seenInTables tables report) =
        Placed ambient report loaded.session >>= fun proposal =>
          proposal.session.elim (.ok tables) fun saved =>
            tables.save { loaded with session := saved.1 } saved.2 := by
    refine tables_recordLocation_new hget howner (Bool.eq_false_iff.mpr fun hseen => ?_)
    exact h (seenInTables_iff.mp hseen)
  have hpoints : loaded.session.points =
      (tracksOfTables tables (reportKey report)).getLast?.toList := hloaded.points
  rw [← hpoints]
  refine @recorded_iff ambient report loaded.session _ _ _ _ hactive mapped (htabled.ordered _)
    (fun hknown => ?_) (fun hknown failure hplace => ?_) (fun hknown hplace => ?_)
    fun hknown point hreports hplace => ?_
  · have hseen := seenInTables_iff.mpr hknown
    obtain ⟨sourceEventId, -, hevent, -⟩ := hknown
    have hcommit : TrackingService.recordLocation tables ambient report
        (seenInTables tables report) = .ok tables := by
      refine except_bind_ok.mpr ⟨loaded, hget, ?_⟩
      rw [if_pos howner, if_pos (by simp [hevent, hseen])]
      rfl
    rw [hcommit]
    rfl
  · rw [hunseen hknown, hplace]
    rfl
  · rw [hunseen hknown, hplace]
    change tracksOfTables (transacted tables (tables.save { loaded with session := loaded.session }
      (some loaded.session.version))).2 = _
    rw [hloaded.save_same hloaded.named rfl]
    cases hwrite : tables.writeSession (reportKey report) (updatedRow loaded.session row) with
    | error failure => rfl
    | ok after =>
        obtain ⟨-, rfl⟩ := writeSession_ok.mp hwrite
        rfl
  · have hwrite : tables.writeSession (reportKey report)
        (updatedRow (located ambient point loaded.session) row) =
          .ok ⟨tables.sessions.set (reportKey report)
            (updatedRow (located ambient point loaded.session) row), tables.points⟩ := by
      refine writeSession_ok.mpr ⟨tabled.allowed stored fun held hheld => ?_, rfl⟩
      rw [← hloaded.indexed]
      exact hheld
    have hcommit : TrackingService.recordLocation tables ambient report
        (seenInTables tables report) =
          .ok ⟨tables.sessions.set (reportKey report)
              (updatedRow (located ambient point loaded.session) row),
            tables.points ++ [⟨reportKey report, row.pointCount + 1, point⟩]⟩ := by
      rw [hunseen hknown, hplace]
      change tables.save { loaded with session := located ambient point loaded.session }
        (some loaded.session.version) = _
      rw [@Loaded.save_more tables _ row loaded (located ambient point loaded.session) hloaded
        hloaded.named point rfl rfl]
      refine except_bind_ok.mpr ⟨_, hwrite, ?_⟩
      exact insert_new tabled stored hknown hreports _
    rw [hcommit]
    exact ⟨rfl, tracks_append _ _⟩

end database

/-! ### Both stores -/

/-- An executor under way, who has reported one position from a browser. -/
def sampleJourney : List Command := sampleVisit "a" "ann" "s" "x" ++ [sampleReport "ann" "s"]

def sampleJourneySchedule : List Nat :=
  List.replicate 4 0 ++ List.replicate 4 1 ++ List.replicate 4 2 ++ List.replicate 5 3 ++
    List.replicate 5 4

def sampleFix (source : LocationSource) (sourceEventId : String) : LocationReport :=
  ⟨"acme", "ann", "s", .finite 1, .finite 1, source, none, none, some sourceEventId⟩

/-- The same journey in the tables. -/
def sampleTransactions : List TrackingCall :=
  [.startTravel ⟨⟨⟨0⟩, "e"⟩, ⟨0⟩, "x-000000000000000000000000000000000000000000",
      "x-111111111111111111111111111111111111111111"⟩ "acme" "a" "ann" "s",
    .recordLocation ⟨⟨0⟩, "e"⟩ (sampleFix .web "update-7") false]

theorem sampleFix_located (source : LocationSource) (sourceEventId : String) :
    Located (sampleFix source sourceEventId) :=
  ⟨⟨1, rfl, by decide, by decide⟩, ⟨1, rfl, by decide, by decide⟩⟩

theorem sampleFix_storable {source : LocationSource} {sourceEventId : String}
    (named : Text.strip sourceEventId ≠ "") : Storable (sampleFix source sourceEventId) where
  accurate := fun reading h => by simp [sampleFix] at h
  sourced := fun text h => by
    cases h
    exact named

theorem stored_of_any {ν : Type} {found : Option ν} {check : ν → Bool}
    (h : found.any check = true) : ∃ value, found = some value ∧ check value = true := by
  cases found with
  | none => contradiction
  | some value => exact ⟨value, rfl, h⟩

def sampleStore : AsyncMemoryStore := ((launch sampleJourney).run sampleJourneySchedule).state

def sampleTables : TrackingTables := runTracking .empty sampleTransactions

theorem sampleStore_under_way (source : LocationSource) (sourceEventId : String) :
    ∃ session, sampleStore.trackingSessions.get? (reportKey (sampleFix source sourceEventId)) =
      some session ∧ session.status = .active ∧
        session.executorId = (sampleFix source sourceEventId).executorId := by
  have hfound : (sampleStore.trackingSessions.get? ("acme", "s")).any
      (fun session => session.status = .active && session.executorId = "ann") = true := by
    decide +kernel
  obtain ⟨session, hstored, hcheck⟩ := stored_of_any hfound
  simp only [Bool.and_eq_true, decide_eq_true_eq] at hcheck
  exact ⟨session, hstored, hcheck.1, hcheck.2⟩

theorem sampleTables_under_way (source : LocationSource) (sourceEventId : String) :
    ∃ row, sampleTables.sessions.get? (reportKey (sampleFix source sourceEventId)) = some row ∧
      row.status = .active ∧ row.executorId = (sampleFix source sourceEventId).executorId := by
  have hfound : (sampleTables.sessions.get? ("acme", "s")).any
      (fun row => row.status = .active && row.executorId = "ann") = true := by
    decide +kernel
  obtain ⟨row, hstored, hcheck⟩ := stored_of_any hfound
  simp only [Bool.and_eq_true, decide_eq_true_eq] at hcheck
  exact ⟨row, hstored, hcheck.1, hcheck.2⟩

end DispatchCore.Application
