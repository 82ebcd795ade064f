import DispatchCore.Application.FixTables

/-! The cycles of a tracking session: it is loaded with its latest point, takes
points, is closed, and is saved.  Any number of objects may stand for one
session at a time, each loaded when it was; a save that is refused leaves the
tables as they are. -/
namespace DispatchCore.Application

open DispatchCore.Library DispatchCore.Domain DispatchCore.Infrastructure

/-- An object that stands for a session: the versions at which it was in step with its row, and
the points it accepted since the last of them. -/
structure Handle where
  loaded : LoadedSession
  observed : List Nat
  accepted : List TrackingPoint

namespace Handle

def key (handle : Handle) : Key := sessionKey handle.loaded.session

def withSession (handle : Handle) (session : TrackingSession) : Handle :=
  { handle with loaded := { handle.loaded with session } }

def started (session : TrackingSession) : Handle := ⟨⟨session, 0⟩, [], []⟩

def opened (loaded : LoadedSession) : Handle := ⟨loaded, [loaded.session.version], []⟩

/-- A point that was reported before is not accepted again. -/
def addPoint (ambient : Ambient) (point : TrackingPoint) (handle : Handle) : Handle :=
  match (TrackingSession.addPoint ambient point).run handle.loaded.session with
  | .error _ session => handle.withSession session
  | .ok _ session =>
      { handle.withSession session with
        accepted := handle.accepted ++
          if TrackingSession.Duplicate point handle.loaded.session then [] else [point] }

def close (method : Method Failure TrackingSession Unit) (handle : Handle) : Handle :=
  handle.withSession (method.final handle.loaded.session)

/-- The object after a save that went through. -/
def saved (handle : Handle) : Handle where
  loaded := { handle.loaded with persisted := handle.loaded.session.pointCount }
  observed := handle.loaded.session.version :: handle.observed
  accepted := []

end Handle

inductive TrackingTurn
  | start (ambient : SessionAmbient) (sessionId organizationId workOrderId executorId : String)
      (publicToken locationToken : Option String) (now : Option Instant)
  | load (organizationId sessionId : String)
  | addPoint (index : Nat) (ambient : Ambient) (point : TrackingPoint)
  | complete (index : Nat) (ambient : Ambient) (now : Option Instant)
  | cancel (index : Nat) (ambient : Ambient) (reason : String) (now : Option Instant)
  | save (index : Nat) (expectedVersion : Option Nat)

/-- The tables, the objects, and for every session the points that were accepted and saved. -/
structure TrackingDesk where
  tables : TrackingTables
  handles : List Handle
  history : Key → List TrackingPoint

namespace TrackingDesk

def empty : TrackingDesk := ⟨.empty, [], fun _ => []⟩

/-- An object that was asked for, where there is one. -/
def receive (desk : TrackingDesk) : Except Failure Handle → TrackingDesk
  | .error _ => desk
  | .ok handle => { desk with handles := desk.handles ++ [handle] }

def change (desk : TrackingDesk) (index : Nat) (next : Handle → Handle) : TrackingDesk :=
  match desk.handles[index]? with
  | none => desk
  | some handle => { desk with handles := desk.handles.set index (next handle) }

/-- A caller expects nothing in the table, or a version its object was in step with. -/
def save (desk : TrackingDesk) (index : Nat) (expectedVersion : Option Nat) : TrackingDesk :=
  match desk.handles[index]? with
  | none => desk
  | some handle =>
      if ∀ version ∈ expectedVersion, version ∈ handle.observed then
        match desk.tables.save handle.loaded expectedVersion with
        | .error _ => desk
        | .ok tables =>
            { tables
              handles := desk.handles.set index handle.saved
              history := Function.update desk.history handle.key
                (desk.history handle.key ++ handle.accepted) }
      else desk

def step (desk : TrackingDesk) : TrackingTurn → TrackingDesk
  | .start ambient sessionId organizationId workOrderId executorId publicToken locationToken now =>
      desk.receive ((TrackingSession.start ambient sessionId organizationId workOrderId executorId
        publicToken locationToken now).map Handle.started)
  | .load organizationId sessionId =>
      desk.receive ((desk.tables.get organizationId sessionId).map Handle.opened)
  | .addPoint index ambient point => desk.change index (.addPoint ambient point)
  | .complete index ambient now => desk.change index (.close (TrackingSession.complete ambient now))
  | .cancel index ambient reason now =>
      desk.change index (.close (TrackingSession.cancel ambient reason now))
  | .save index expectedVersion => desk.save index expectedVersion

def run (desk : TrackingDesk) (turns : List TrackingTurn) : TrackingDesk := turns.foldl step desk

end TrackingDesk

/-! ### What an object may rely on -/

section objects

variable {tables after : TrackingTables} {handle : Handle}

/-- The object holds a suffix of the history, the part after `persisted` being the points it
accepted itself; and where its row still is at a version the object was in step with, the row
counts what the object takes to be in the table. -/
structure Handle.Sound (tables : TrackingTables) (handle : Handle) : Prop where
  suffix : handle.accepted <:+ handle.loaded.session.points
  counts : handle.loaded.session.pointCount = handle.loaded.persisted + handle.accepted.length
  reached : ∀ version ∈ handle.observed, version ≤ handle.loaded.session.version
  passed : handle.accepted ≠ [] →
    ∀ version ∈ handle.observed, version < handle.loaded.session.version
  stored : ∀ version ∈ handle.observed, ∃ row, tables.sessions.get? handle.key = some row ∧
    version ≤ row.version ∧ (row.version = version → row.pointCount = handle.loaded.persisted)
  fresh : handle.observed = [] → handle.loaded.persisted = 0

theorem Handle.Sound.pendingPoints (sound : handle.Sound tables) :
    handle.loaded.pendingPoints = .ok handle.accepted := by
  obtain ⟨kept, hkept⟩ := sound.suffix
  unfold LoadedSession.pendingPoints
  rw [sound.counts, ← hkept]
  simp

theorem Handle.started_sound {ambient : SessionAmbient}
    {sessionId organizationId workOrderId executorId : String}
    {publicToken locationToken : Option String} {now : Option Instant} {session : TrackingSession}
    (h : TrackingSession.start ambient sessionId organizationId workOrderId executorId publicToken
      locationToken now = .ok session) : (Handle.started session).Sound tables where
  suffix := List.nil_suffix
  counts := (TrackingSession.start_points h).2
  reached := fun _ h => by contradiction
  passed := fun h => by contradiction
  stored := fun _ h => by contradiction
  fresh := fun _ => rfl

theorem Handle.opened_sound (numbered : Numbered tables) {organizationId sessionId : String}
    {loaded : LoadedSession} (h : tables.get organizationId sessionId = .ok loaded) :
    (Handle.opened loaded).Sound tables := by
  unfold TrackingTables.get at h
  cases hstored : tables.sessions.get? (organizationId, sessionId) with
  | none =>
      rw [hstored] at h
      contradiction
  | some row =>
      rw [hstored] at h
      cases h
      constructor
      · exact List.nil_suffix
      · exact numbered.countPoints hstored
      · simp [Handle.opened]
      · intro h
        contradiction
      · intro version hversion
        rw [List.mem_singleton.mp hversion]
        exact ⟨row, hstored, Nat.le_refl _, fun _ => rfl⟩
      · intro h
        contradiction

/-- A change that records an event and keeps the points. -/
theorem Handle.Sound.withSession (sound : handle.Sound tables) {session : TrackingSession}
    (named : sessionKey session = handle.key)
    (points : session.points = handle.loaded.session.points)
    (counts : session.pointCount = handle.loaded.session.pointCount)
    (version : handle.loaded.session.version ≤ session.version) :
    (handle.withSession session).Sound tables where
  suffix := by
    change handle.accepted <:+ session.points
    rw [points]
    exact sound.suffix
  counts := counts.trans sound.counts
  reached := fun seen hseen => (sound.reached seen hseen).trans version
  passed := fun hsome seen hseen => Nat.lt_of_lt_of_le (sound.passed hsome seen hseen) version
  stored := fun seen hseen => by
    change ∃ row, tables.sessions.get? (sessionKey session) = some row ∧ _
    rw [named]
    exact sound.stored seen hseen
  fresh := sound.fresh

theorem Handle.key_addPoint (ambient : Ambient) (point : TrackingPoint) :
    (handle.addPoint ambient point).key = handle.key := by
  unfold Handle.addPoint
  cases hrun : (TrackingSession.addPoint ambient point).run handle.loaded.session with
  | error failure session =>
      rw [TrackingSession.addPoint_steady _ _ _ _ _ hrun]
      rfl
  | ok done session =>
      rcases TrackingSession.addPoint_ok hrun with ⟨-, rfl⟩ | ⟨-, rfl⟩ <;> rfl

theorem Handle.Sound.addPoint (sound : handle.Sound tables) (ambient : Ambient)
    (point : TrackingPoint) : (handle.addPoint ambient point).Sound tables := by
  unfold Handle.addPoint
  cases hrun : (TrackingSession.addPoint ambient point).run handle.loaded.session with
  | error failure session =>
      rw [TrackingSession.addPoint_steady _ _ _ _ _ hrun]
      exact sound
  | ok done session =>
      rcases TrackingSession.addPoint_ok hrun with ⟨hduplicate, rfl⟩ | ⟨⟨hnew, -⟩, rfl⟩
      · rw [if_pos hduplicate, List.append_nil]
        exact sound
      · rw [if_neg hnew]
        constructor
        · obtain ⟨kept, hkept⟩ := sound.suffix
          refine ⟨kept, ?_⟩
          change kept ++ (handle.accepted ++ [point]) = handle.loaded.session.points ++ [point]
          rw [← hkept, List.append_assoc]
        · change handle.loaded.session.pointCount + 1 = _
          rw [sound.counts, List.length_append]
          rfl
        · exact fun seen hseen => (sound.reached seen hseen).trans (Nat.le_succ _)
        · exact fun _ seen hseen => Nat.lt_succ_of_le (sound.reached seen hseen)
        · exact sound.stored
        · exact sound.fresh

/-- What a method that closes a session changes of what a save relies on. -/
structure Closes (method : Method Failure TrackingSession Unit) : Prop where
  steady : method.Steady
  named : ∀ session closed, method.run session = .ok () closed →
    sessionKey closed = sessionKey session
  points : ∀ session closed, method.run session = .ok () closed → closed.points = session.points
  counts : ∀ session closed, method.run session = .ok () closed →
    closed.pointCount = session.pointCount
  version : ∀ session closed, method.run session = .ok () closed →
    session.version ≤ closed.version

theorem closes_complete (ambient : Ambient) (now : Option Instant) :
    Closes (TrackingSession.complete ambient now) where
  steady := TrackingSession.complete_steady ambient now
  named := fun session closed h => by
    rw [(TrackingSession.complete_ok h).2]
    rfl
  points := fun session closed h => by
    rw [(TrackingSession.complete_ok h).2]
    rfl
  counts := fun session closed h => by
    rw [(TrackingSession.complete_ok h).2]
    rfl
  version := fun session closed h => by
    rw [(TrackingSession.complete_ok h).2]
    exact Nat.le_succ _

theorem closes_cancel (ambient : Ambient) (reason : String) (now : Option Instant) :
    Closes (TrackingSession.cancel ambient reason now) where
  steady := TrackingSession.cancel_steady ambient reason now
  named := fun session closed h => by
    rw [(TrackingSession.cancel_ok h).2]
    rfl
  points := fun session closed h => by
    rw [(TrackingSession.cancel_ok h).2]
    rfl
  counts := fun session closed h => by
    rw [(TrackingSession.cancel_ok h).2]
    rfl
  version := fun session closed h => by
    rw [(TrackingSession.cancel_ok h).2]
    exact Nat.le_succ _

variable {method : Method Failure TrackingSession Unit}

theorem Handle.key_close (closes : Closes method) : (handle.close method).key = handle.key := by
  unfold Handle.close Method.final
  cases hrun : method.run handle.loaded.session with
  | ok done session => exact closes.named _ _ hrun
  | error failure session =>
      rw [closes.steady _ _ _ hrun]
      rfl

theorem Handle.Sound.close (sound : handle.Sound tables) (closes : Closes method) :
    (handle.close method).Sound tables := by
  unfold Handle.close Method.final
  cases hrun : method.run handle.loaded.session with
  | ok done session =>
      exact sound.withSession (closes.named _ _ hrun) (closes.points _ _ hrun)
        (closes.counts _ _ hrun) (closes.version _ _ hrun)
  | error failure session =>
      rw [closes.steady _ _ _ hrun]
      exact sound

/-! ### What a save writes -/

/-- The rows of new points, from the given number on. -/
def numberedRows (key : Key) : Nat → List TrackingPoint → List PointRow
  | _, [] => []
  | sequenceNo, point :: rest => ⟨key, sequenceNo, point⟩ :: numberedRows key (sequenceNo + 1) rest

theorem numberedRows_sequenceNo (key : Key) (sequenceNo : Nat) (points : List TrackingPoint) :
    (numberedRows key sequenceNo points).map PointRow.sequenceNo =
      List.range' sequenceNo points.length := by
  induction points generalizing sequenceNo with
  | nil => rfl
  | cons point rest ih =>
      rw [numberedRows, List.map_cons, ih, List.length_cons, List.range'_succ]

theorem numberedRows_point (key : Key) (sequenceNo : Nat) (points : List TrackingPoint) :
    (numberedRows key sequenceNo points).map PointRow.point = points := by
  induction points generalizing sequenceNo with
  | nil => rfl
  | cons point rest ih => rw [numberedRows, List.map_cons, ih]

theorem filter_numberedRows (key other : Key) (sequenceNo : Nat) (points : List TrackingPoint) :
    (numberedRows key sequenceNo points).filter (fun row => row.session = other) =
      if key = other then numberedRows key sequenceNo points else [] := by
  induction points generalizing sequenceNo with
  | nil => simp [numberedRows]
  | cons point rest ih =>
      rw [numberedRows, List.filter_cons, ih]
      by_cases h : key = other <;> simp [h]

theorem insertPoints_ok {key : Key} {sequenceNo : Nat} {points : List TrackingPoint}
    (h : TrackingTables.insertPoints key sequenceNo points tables = .ok after) :
    after = { tables with points := tables.points ++ numberedRows key sequenceNo points } := by
  induction points generalizing sequenceNo tables with
  | nil =>
      cases h
      simp [numberedRows]
  | cons point rest ih =>
      obtain ⟨middle, hinsert, hrest⟩ := except_bind_ok.mp h
      obtain ⟨-, rfl⟩ := insertPoint_ok.mp hinsert
      rw [ih hrest, numberedRows]
      simp

/-- A row is written with the version and the count of its object. -/
structure RowSaved (tables : TrackingTables) (handle : Handle) (expectedVersion : Option Nat)
    (row : SessionRow) : Prop where
  version : row.version = handle.loaded.session.version
  counts : row.pointCount = handle.loaded.session.pointCount
  expected : (tables.sessions.get? handle.key).map SessionRow.version = expectedVersion

theorem saveRow_ok {expectedVersion : Option Nat}
    (h : tables.saveRow handle.loaded.session expectedVersion = .ok after) :
    ∃ row, RowSaved tables handle expectedVersion row ∧
      after = { tables with sessions := tables.sessions.set handle.key row } := by
  unfold TrackingTables.saveRow at h
  generalize hkey : (handle.loaded.session.organizationId, handle.loaded.session.id) = key at h
  obtain rfl : handle.key = key := hkey
  dsimp only at h
  cases hstored : tables.sessions.get? handle.key with
  | none =>
      rw [hstored] at h
      cases expectedVersion with
      | none =>
          obtain ⟨-, rfl⟩ := writeSession_ok.mp h
          exact ⟨_, ⟨rfl, rfl, by rw [hstored]; rfl⟩, rfl⟩
      | some expected => contradiction
  | some previous =>
      rw [hstored] at h
      cases expectedVersion with
      | none => contradiction
      | some expected =>
          by_cases hversion : previous.version = expected
          · simp only [if_pos hversion] at h
            obtain ⟨-, rfl⟩ := writeSession_ok.mp h
            refine ⟨_, ⟨rfl, rfl, ?_⟩, rfl⟩
            rw [hstored, Option.map_some, hversion]
          · simp only [if_neg hversion] at h
            contradiction

/-- What a save that goes through leaves: the object was in step with its row, and the row and
the points it accepted are written. -/
structure Saves (tables after : TrackingTables) (handle : Handle) (row : SessionRow) : Prop where
  version : row.version = handle.loaded.session.version
  counts : row.pointCount = handle.loaded.session.pointCount
  inStep : counted tables handle.key = handle.loaded.persisted
  previous : ∀ found, tables.sessions.get? handle.key = some found →
    found.version ∈ handle.observed
  after : after = ⟨tables.sessions.set handle.key row, tables.points ++
    numberedRows handle.key (handle.loaded.persisted + 1) handle.accepted⟩

theorem Handle.Sound.save (sound : handle.Sound tables) {expectedVersion : Option Nat}
    (seen : ∀ version ∈ expectedVersion, version ∈ handle.observed)
    (h : tables.save handle.loaded expectedVersion = .ok after) :
    ∃ row, Saves tables after handle row := by
  obtain ⟨middle, hrow, h⟩ := except_bind_ok.mp h
  obtain ⟨pending, hpending, hinsert⟩ := except_bind_ok.mp h
  rw [sound.pendingPoints] at hpending
  cases hpending
  obtain ⟨row, hsaved, rfl⟩ := saveRow_ok hrow
  have hprevious : ∀ found, tables.sessions.get? handle.key = some found →
      found.version ∈ handle.observed := by
    intro found hfound
    refine seen found.version ?_
    rw [← hsaved.expected, hfound]
    rfl
  refine ⟨row, hsaved.version, hsaved.counts, ?_, hprevious, insertPoints_ok hinsert⟩
  cases hstored : tables.sessions.get? handle.key with
  | some found =>
      obtain ⟨same, hsame, -, hcount⟩ := sound.stored _ (hprevious found hstored)
      rw [hstored] at hsame
      cases hsame
      rw [counted_stored hstored, hcount rfl]
  | none =>
      have hfresh : handle.observed = [] := by
        cases hobserved : handle.observed with
        | nil => rfl
        | cons version rest =>
            obtain ⟨same, hsame, -⟩ := sound.stored version (by rw [hobserved]; simp)
            rw [hstored] at hsame
            contradiction
      rw [sound.fresh hfresh]
      unfold counted
      rw [hstored]
      rfl

section saves

variable {row : SessionRow} (saves : Saves tables after handle row)

include saves

theorem Saves.get? (other : Key) : after.sessions.get? other =
    if other = handle.key then some row else tables.sessions.get? other := by
  rw [saves.after]
  exact Dict.get?_set _ _ _ _

theorem Saves.pointsOf (other : Key) : after.pointsOf other = tables.pointsOf other ++
    if handle.key = other then
      numberedRows handle.key (handle.loaded.persisted + 1) handle.accepted else [] := by
  rw [saves.after]
  unfold TrackingTables.pointsOf
  rw [List.filter_append, filter_numberedRows]

theorem Saves.numbered (sound : handle.Sound tables) (numbered : Numbered tables) :
    Numbered after := by
  intro other
  rw [saves.pointsOf, saves.after, counted_set, List.map_append, numbered other]
  by_cases h : other = handle.key
  · subst h
    rw [if_pos rfl, if_pos rfl, numberedRows_sequenceNo, saves.inStep, saves.counts, sound.counts,
      Nat.add_comm handle.loaded.persisted 1, List.range'_append_1]
  · rw [if_neg h, if_neg (Ne.symm h)]
    exact List.append_nil _

theorem Saves.tracks : tracksOfTables after = Function.update (tracksOfTables tables) handle.key
    (tracksOfTables tables handle.key ++ handle.accepted) := by
  funext other
  unfold tracksOfTables
  rw [saves.pointsOf]
  by_cases h : other = handle.key
  · subst h
    rw [if_pos rfl, Function.update_self, List.map_append, numberedRows_point]
  · rw [if_neg (Ne.symm h), Function.update_of_ne h, List.append_nil]

/-- The object that was saved is in step with its row again. -/
theorem Saves.own (sound : handle.Sound tables) : handle.saved.Sound after := by
  have hstored : after.sessions.get? handle.key = some row := by
    rw [saves.get?, if_pos rfl]
  constructor
  · exact List.nil_suffix
  · rfl
  · intro version hversion
    rcases List.mem_cons.mp hversion with rfl | hversion
    · exact Nat.le_refl _
    · exact sound.reached version hversion
  · intro h
    contradiction
  · intro version hversion
    refine ⟨row, hstored, ?_, fun _ => saves.counts⟩
    rw [saves.version]
    rcases List.mem_cons.mp hversion with rfl | hversion
    · exact Nat.le_refl _
    · exact sound.reached version hversion
  · intro h
    contradiction

/-- Every other object keeps what it relies on: a row written over one of its versions has a
later version, unless the row counts the same points. -/
theorem Saves.others (sound : handle.Sound tables) {other : Handle}
    (hother : other.Sound tables) : other.Sound after where
  suffix := hother.suffix
  counts := hother.counts
  reached := hother.reached
  passed := hother.passed
  fresh := hother.fresh
  stored := by
    intro version hversion
    obtain ⟨found, hfound, hreached, hcount⟩ := hother.stored version hversion
    rw [saves.get?]
    by_cases hkey : other.key = handle.key
    · rw [if_pos hkey]
      rw [hkey] at hfound
      have hprevious := saves.previous found hfound
      have hlater := sound.reached _ hprevious
      refine ⟨row, rfl, ?_, fun hsame => ?_⟩
      · rw [saves.version]
        exact hreached.trans hlater
      · rw [saves.version] at hsame
        have hversion : found.version = version := by omega
        have hnothing : handle.accepted = [] := by
          by_contra hsome
          have hpassed := sound.passed hsome _ hprevious
          omega
        rw [saves.counts, sound.counts, hnothing, ← saves.inStep, counted_stored hfound,
          hcount hversion]
        rfl
    · rw [if_neg hkey]
      exact ⟨found, hfound, hreached, hcount⟩

end saves
end objects

/-! ### Runs -/

namespace TrackingDesk

variable {desk : TrackingDesk}

structure Sound (desk : TrackingDesk) : Prop where
  numbered : Numbered desk.tables
  recorded : tracksOfTables desk.tables = desk.history
  handles : ∀ handle ∈ desk.handles, handle.Sound desk.tables

theorem sound_empty : empty.Sound where
  numbered := fun _ => rfl
  recorded := rfl
  handles := fun _ h => by contradiction

theorem Sound.receive (sound : desk.Sound) {result : Except Failure Handle}
    (h : ∀ handle, result = .ok handle → handle.Sound desk.tables) : (desk.receive result).Sound := by
  cases result with
  | error failure => exact sound
  | ok handle =>
      refine ⟨sound.numbered, sound.recorded, fun other hother => ?_⟩
      rcases List.mem_append.mp hother with hother | hother
      · exact sound.handles other hother
      · rw [List.mem_singleton.mp hother]
        exact h handle rfl

theorem Sound.change (sound : desk.Sound) {next : Handle → Handle}
    (kept : ∀ handle, handle.Sound desk.tables → (next handle).Sound desk.tables) (index : Nat) :
    (desk.change index next).Sound := by
  unfold TrackingDesk.change
  cases h : desk.handles[index]? with
  | none => exact sound
  | some handle =>
      refine ⟨sound.numbered, sound.recorded, fun other hother => ?_⟩
      rcases List.mem_or_eq_of_mem_set hother with hother | rfl
      · exact sound.handles other hother
      · exact kept handle (sound.handles handle (List.mem_of_getElem? h))

/-- A save that goes through. -/
structure Saved (desk : TrackingDesk) (index : Nat) (expectedVersion : Option Nat)
    (handle : Handle) (tables : TrackingTables) : Prop where
  found : desk.handles[index]? = some handle
  seen : ∀ version ∈ expectedVersion, version ∈ handle.observed
  saved : desk.tables.save handle.loaded expectedVersion = .ok tables

theorem Saved.save {index : Nat} {expectedVersion : Option Nat} {handle : Handle}
    {tables : TrackingTables} (h : desk.Saved index expectedVersion handle tables) :
    desk.save index expectedVersion =
      { tables
        handles := desk.handles.set index handle.saved
        history := Function.update desk.history handle.key
          (desk.history handle.key ++ handle.accepted) } := by
  unfold TrackingDesk.save
  simp only [h.found, if_pos h.seen, h.saved]

/-- A save goes through, or nothing is changed. -/
theorem save_cases (desk : TrackingDesk) (index : Nat) (expectedVersion : Option Nat) :
    desk.save index expectedVersion = desk ∨
      ∃ handle tables, desk.Saved index expectedVersion handle tables := by
  unfold TrackingDesk.save
  cases hfound : desk.handles[index]? with
  | none => exact .inl rfl
  | some handle =>
      by_cases hseen : ∀ version ∈ expectedVersion, version ∈ handle.observed
      · cases hsave : desk.tables.save handle.loaded expectedVersion with
        | ok tables => exact .inr ⟨handle, tables, hfound, hseen, hsave⟩
        | error failure =>
            left
            simp only [if_pos hseen, hsave]
      · left
        simp only [if_neg hseen]

theorem Sound.save (sound : desk.Sound) (index : Nat) (expectedVersion : Option Nat) :
    (desk.save index expectedVersion).Sound := by
  rcases desk.save_cases index expectedVersion with hsame | ⟨handle, tables, hsaved⟩
  · rw [hsame]
    exact sound
  · have hhandle := sound.handles handle (List.mem_of_getElem? hsaved.found)
    obtain ⟨row, hsaves⟩ := hhandle.save hsaved.seen hsaved.saved
    rw [hsaved.save]
    refine ⟨hsaves.numbered hhandle sound.numbered, ?_, fun other hother => ?_⟩
    · change tracksOfTables tables = _
      rw [hsaves.tracks, sound.recorded]
    · rcases List.mem_or_eq_of_mem_set hother with hother | rfl
      · exact hsaves.others hhandle (sound.handles other hother)
      · exact hsaves.own hhandle

theorem Sound.step (sound : desk.Sound) (turn : TrackingTurn) : (desk.step turn).Sound := by
  cases turn with
  | start ambient sessionId organizationId workOrderId executorId publicToken locationToken now =>
      refine sound.receive fun handle hhandle => ?_
      obtain ⟨session, hstart, rfl⟩ := except_map_ok.mp hhandle
      exact Handle.started_sound hstart
  | load organizationId sessionId =>
      refine sound.receive fun handle hhandle => ?_
      obtain ⟨loaded, hget, rfl⟩ := except_map_ok.mp hhandle
      exact Handle.opened_sound sound.numbered hget
  | addPoint index ambient point =>
      exact sound.change (fun handle hhandle => hhandle.addPoint ambient point) index
  | complete index ambient now =>
      exact sound.change (fun handle hhandle => hhandle.close (closes_complete ambient now)) index
  | cancel index ambient reason now =>
      exact sound.change (fun handle hhandle => hhandle.close (closes_cancel ambient reason now))
        index
  | save index expectedVersion => exact sound.save index expectedVersion

theorem Sound.run (sound : desk.Sound) (turns : List TrackingTurn) : (desk.run turns).Sound := by
  induction turns generalizing desk with
  | nil => exact sound
  | cons turn turns ih => exact ih (sound.step turn)

@[simp] theorem tables_admit (result : Except Failure Handle) :
    (desk.receive result).tables = desk.tables := by
  cases result <;> rfl

@[simp] theorem tables_change (index : Nat) (next : Handle → Handle) :
    (desk.change index next).tables = desk.tables := by
  unfold TrackingDesk.change
  cases desk.handles[index]? <;> rfl

/-- Rows that are in the table stay where they are. -/
theorem Sound.extends (sound : desk.Sound) (turn : TrackingTurn) (key : Key) :
    desk.tables.pointsOf key <+: (desk.step turn).tables.pointsOf key := by
  cases turn with
  | start | load | addPoint | complete | cancel => simp [TrackingDesk.step]
  | save index expectedVersion =>
      change _ <+: (desk.save index expectedVersion).tables.pointsOf key
      rcases desk.save_cases index expectedVersion with hsame | ⟨handle, tables, hsaved⟩
      · simp [hsame]
      · have hhandle := sound.handles handle (List.mem_of_getElem? hsaved.found)
        obtain ⟨row, hsaves⟩ := hhandle.save hsaved.seen hsaved.saved
        rw [hsaved.save, hsaves.pointsOf]
        exact List.prefix_append _ _

/-- The object at that place accepts no point. -/
def Rests (index : Nat) : TrackingTurn → Prop
  | .addPoint other _ _ => other ≠ index
  | _ => True

/-- The object at that place has nothing to append. -/
def Settled (desk : TrackingDesk) (index : Nat) : Prop :=
  ∃ handle, desk.handles[index]? = some handle ∧ handle.accepted = []

theorem Settled.receive {index : Nat} (settled : desk.Settled index)
    (result : Except Failure Handle) : (desk.receive result).Settled index := by
  cases result with
  | error failure => exact settled
  | ok handle =>
      obtain ⟨found, hfound, hnothing⟩ := settled
      refine ⟨found, ?_, hnothing⟩
      obtain ⟨hbound, -⟩ := List.getElem?_eq_some_iff.mp hfound
      rw [← hfound]
      exact List.getElem?_append_left hbound

theorem settled_set {index other : Nat} {handle next : Handle} {tables : TrackingTables}
    {history : Key → List TrackingPoint} (settled : desk.Settled index)
    (found : desk.handles[other]? = some handle)
    (kept : other = index → handle.accepted = [] → next.accepted = []) :
    Settled ⟨tables, desk.handles.set other next, history⟩ index := by
  obtain ⟨mine, hmine, hnothing⟩ := settled
  obtain ⟨hbound, -⟩ := List.getElem?_eq_some_iff.mp found
  by_cases hsame : other = index
  · subst hsame
    rw [found] at hmine
    cases hmine
    exact ⟨next, List.getElem?_set_self hbound, kept rfl hnothing⟩
  · refine ⟨mine, ?_, hnothing⟩
    rw [← hmine]
    exact List.getElem?_set_ne hsame

theorem Settled.change {index : Nat} (settled : desk.Settled index) (other : Nat)
    {next : Handle → Handle}
    (kept : other = index → ∀ handle, handle.accepted = [] → (next handle).accepted = []) :
    (desk.change other next).Settled index := by
  unfold TrackingDesk.change
  cases h : desk.handles[other]? with
  | none => exact settled
  | some handle => exact settled_set settled h fun hsame => kept hsame handle

theorem Settled.step {index : Nat} (settled : desk.Settled index) {turn : TrackingTurn}
    (rests : Rests index turn) : (desk.step turn).Settled index := by
  cases turn with
  | start ambient sessionId organizationId workOrderId executorId publicToken locationToken now =>
      exact settled.receive _
  | load organizationId sessionId => exact settled.receive _
  | addPoint other ambient point => exact settled.change other fun hsame => absurd hsame rests
  | complete other ambient now => exact settled.change other fun _ _ hnothing => hnothing
  | cancel other ambient reason now => exact settled.change other fun _ _ hnothing => hnothing
  | save other expectedVersion =>
      change (desk.save other expectedVersion).Settled index
      rcases desk.save_cases other expectedVersion with hsame | ⟨handle, tables, hsaved⟩
      · rw [hsame]
        exact settled
      · rw [hsaved.save]
        exact settled_set settled hsaved.found fun _ _ => rfl

theorem Settled.run {index : Nat} {turns : List TrackingTurn} (settled : desk.Settled index)
    (rests : ∀ turn ∈ turns, Rests index turn) : (desk.run turns).Settled index := by
  induction turns generalizing desk with
  | nil => exact settled
  | cons turn turns ih =>
      refine ih (settled.step (rests turn (by simp))) fun other hother => rests other ?_
      exact List.mem_cons_of_mem _ hother

theorem Settled.save {index : Nat} (settled : desk.Settled index) (sound : desk.Sound)
    (expectedVersion : Option Nat) (key : Key) :
    (desk.save index expectedVersion).tables.pointsOf key = desk.tables.pointsOf key := by
  rcases desk.save_cases index expectedVersion with hsame | ⟨handle, tables, hsaved⟩
  · rw [hsame]
  · obtain ⟨mine, hmine, hnothing⟩ := settled
    rw [hsaved.found] at hmine
    cases hmine
    have hhandle := sound.handles handle (List.mem_of_getElem? hsaved.found)
    obtain ⟨row, hsaves⟩ := hhandle.save hsaved.seen hsaved.saved
    rw [hsaved.save, hsaves.pointsOf, hnothing]
    by_cases h : handle.key = key <;> simp [h, numberedRows]

/-- In any run of the cycles from empty tables: the rows of every session are numbered from one
to the count its row stores, they are the points that were accepted and saved, in that order, no
turn changes a row that is there, the points an object has yet to save are the ones it accepted
since its last save, and an object that was saved and accepts nothing more appends nothing when
it is saved again. -/
theorem history_append_only (turns : List TrackingTurn) :
    let desk := empty.run turns
    (∀ key, (desk.tables.pointsOf key).map PointRow.sequenceNo =
        List.range' 1 (counted desk.tables key)) ∧
      (∀ key, (desk.tables.pointsOf key).map PointRow.point = desk.history key) ∧
      (∀ turn key, desk.tables.pointsOf key <+: (desk.step turn).tables.pointsOf key) ∧
      (∀ handle ∈ desk.handles, handle.loaded.pendingPoints = .ok handle.accepted) ∧
      ∀ index expectedVersion handle tables, desk.Saved index expectedVersion handle tables →
        ∀ others, (∀ turn ∈ others, Rests index turn) →
          let later := (desk.step (.save index expectedVersion)).run others
          ∀ again key, (later.step (.save index again)).tables.pointsOf key =
            later.tables.pointsOf key := by
  intro desk
  have sound : desk.Sound := sound_empty.run turns
  refine ⟨sound.numbered, fun key => congrFun sound.recorded key, sound.extends,
    fun handle hhandle => (sound.handles handle hhandle).pendingPoints, ?_⟩
  intro index expectedVersion handle tables hsaved others hrests later again key
  have hsettled : (desk.step (.save index expectedVersion)).Settled index := by
    change (desk.save index expectedVersion).Settled index
    obtain ⟨hbound, -⟩ := List.getElem?_eq_some_iff.mp hsaved.found
    rw [hsaved.save]
    exact ⟨handle.saved, List.getElem?_set_self hbound, rfl⟩
  exact (hsettled.run hrests).save ((sound.step _).run others) again key

end TrackingDesk
end DispatchCore.Application
