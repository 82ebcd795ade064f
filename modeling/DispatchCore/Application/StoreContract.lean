import DispatchCore.Application.FixTables
import DispatchCore.Application.StoredRecords

/-! What the transactions of the service promise each other: a commit changes what it has locked,
takes no executor and no visit it has not locked, writes its own events, and does to the records
what its command does in memory. -/
namespace DispatchCore.Application

open DispatchCore.Library DispatchCore.Domain DispatchCore.Infrastructure

/-- The ids that a command draws for its events. -/
def Command.eventIds : Command → List String
  | .createOrder ambient _ _ _ => [ambient.eventId]
  | .createOrderOnce ambient _ _ => [ambient.eventId]
  | .change ambient _ _ _ _ => [ambient.eventId]
  | .startTravel ambient sessionAmbient _ _ _ _ _ => [ambient.eventId, sessionAmbient.eventId]
  | .recordLocation ambient _ => [ambient.eventId]
  | .completeOrder ambient sessionAmbient _ _ _ _ => [ambient.eventId, sessionAmbient.eventId]
  | .cancelOrder ambient sessionAmbient _ _ _ _ => [ambient.eventId, sessionAmbient.eventId]

/-- The session has one more point, as it was reported at that time. -/
structure PointAdded (ambient : Ambient) (report : LocationReport)
    (session changed : TrackingSession) : Prop where
  active : session.status = .active
  point : ∃ capturedAt point, TrackingPoint.make report.latitude report.longitude capturedAt
      ambient.clock report.source report.accuracyM report.sourceEventId = .ok point ∧
    Unpointed ((session.withPoint point).recorded ambient .trackingPointRecorded
      (TrackingSession.pointPayload point) (some point.ingestedAt)) changed

/-- What a location report does to the records: nothing, or one more point for the session.  The
time of the point is left open, since the latest one may be read from before a wait. -/
def Locates (ambient : Ambient) (report : LocationReport) (before after : Records) : Prop :=
  ∃ session, before.trackingSessions.get? (report.organizationId, report.sessionId) =
      some session ∧ session.executorId = report.executorId ∧
    (after = before ∨
      ∃ changed, PointAdded ambient report session changed ∧ after = putSession changed before)

/-- The command does to the records what it does to them in memory. -/
def Refines (command : Command) (before after : Records) : Prop :=
  ∃ middle, Matching middle after ∧
    match command with
    | .recordLocation ambient report => Locates ambient report before middle
    | command => ∃ answers, command.apply answers before = .ok middle

theorem PointAdded.follows {ambient : Ambient} {report : LocationReport}
    {session changed : TrackingSession} (located : PointAdded ambient report session changed)
    (pulled : session.events = []) : sessionAggregate.Follows (some session) changed := by
  obtain ⟨-, capturedAt, point, -, hkey, hrow, -, hevents⟩ := located
  obtain ⟨hnumbered, hcounted, howned, -⟩ := follows_recordedSession
    (session.withPoint point) pulled rfl rfl ambient .trackingPointRecorded
    (TrackingSession.pointPayload point)
    (some point.ingestedAt)
  have hversion : changed.version = session.version + 1 := congrArg SessionRow.version hrow
  refine ⟨?_, ?_, ?_, fun hnone => ?_⟩
  · show Domain.Numbered _ changed.events
    rw [hevents]
    exact hnumbered
  · show changed.version = _ + changed.events.length
    rw [hevents, hversion]
    exact hcounted
  · intro event hmem
    change event ∈ changed.events at hmem
    rw [hevents] at hmem
    show Owned _ (sessionKey changed) event
    rw [hkey]
    exact howned event hmem
  · change changed.events = [] at hnone
    rw [hevents] at hnone
    simp [TrackingSession.recorded] at hnone

theorem Locates.takes {ambient : Ambient} {report : LocationReport} {before after : Records}
    (valid : Valid before) (locates : Locates ambient report before after) :
    Takes none before after := by
  obtain ⟨session, hstored, -, rfl | ⟨changed, hlocated, rfl⟩⟩ := locates
  · exact .nothing
  · obtain ⟨hkey, hpulled⟩ := valid.sessionKeyed hstored
    refine .located (hkey ▸ hstored) (hlocated.follows hpulled) ?_
    obtain ⟨-, capturedAt, point, -, hsame, hrow, -, -⟩ := hlocated
    exact ⟨hsame, congrArg SessionRow.workOrderId hrow, congrArg SessionRow.executorId hrow,
      congrArg SessionRow.status hrow, congrArg SessionRow.publicToken hrow,
      congrArg SessionRow.locationToken hrow⟩

theorem Locates.orders {ambient : Ambient} {report : LocationReport} {before after : Records}
    (locates : Locates ambient report before after) : after.orders = before.orders := by
  obtain ⟨session, -, -, rfl | ⟨changed, -, rfl⟩⟩ := locates
  · rfl
  · rfl

/-- Where a commit that holds the locks may have changed the tables. -/
structure Touches (ids : List String) (held : List StoreLock) (before after : StoreTables) :
    Prop where
  orders : ∀ key, .order key ∉ held → after.orders.get? key = before.orders.get? key ∧
    after.responsesAt key = before.responsesAt key
  sessions : ∀ key, .session key ∉ held →
    after.tracking.sessions.get? key = before.tracking.sessions.get? key ∧
      after.tracking.pointsOf key = before.tracking.pointsOf key
  grows : ∀ key, before.tracking.pointsOf key <+: after.tracking.pointsOf key
  executors : ∀ key row executor, after.orders.get? key = some row →
    UnitOfWork.occupies row = some executor → .executor executor ∉ held →
      ∃ found, before.orders.get? key = some found ∧ UnitOfWork.occupies found = some executor
  visits : ∀ key row, after.tracking.sessions.get? key = some row → row.status = .active →
    .order (key.1, row.workOrderId) ∉ held → ∃ found,
      before.tracking.sessions.get? key = some found ∧ found.status = .active ∧
        found.workOrderId = row.workOrderId
  outbox : ∃ events, after.outbox = before.outbox ++ events ∧
    ∀ event ∈ events, event.eventId ∈ ids

namespace Touches

variable {ids : List String} {held : List StoreLock} {before middle after : StoreTables}

theorem refl (ids : List String) (held : List StoreLock) (tables : StoreTables) :
    Touches ids held tables tables where
  orders _ _ := ⟨rfl, rfl⟩
  sessions _ _ := ⟨rfl, rfl⟩
  grows _ := List.prefix_rfl
  executors _ row _ hrow hoccupies _ := ⟨row, hrow, hoccupies⟩
  visits _ row hrow hactive _ := ⟨row, hrow, hactive, rfl⟩
  outbox := ⟨[], (List.append_nil _).symm, fun _ h => absurd h List.not_mem_nil⟩

theorem trans (first : Touches ids held before middle) (second : Touches ids held middle after) :
    Touches ids held before after where
  orders key hfree := by
    obtain ⟨horder, hresponses⟩ := first.orders key hfree
    obtain ⟨horder', hresponses'⟩ := second.orders key hfree
    exact ⟨horder'.trans horder, hresponses'.trans hresponses⟩
  sessions key hfree := by
    obtain ⟨hsession, hpoints⟩ := first.sessions key hfree
    obtain ⟨hsession', hpoints'⟩ := second.sessions key hfree
    exact ⟨hsession'.trans hsession, hpoints'.trans hpoints⟩
  grows key := (first.grows key).trans (second.grows key)
  executors key row executor hrow hoccupies hfree := by
    obtain ⟨found, hfound, htoo⟩ := second.executors key row executor hrow hoccupies hfree
    exact first.executors key found executor hfound htoo hfree
  visits key row hrow hactive hfree := by
    obtain ⟨found, hfound, hopen, hvisits⟩ := second.visits key row hrow hactive hfree
    obtain ⟨earlier, hearlier, hopened, hvisited⟩ :=
      first.visits key found hfound hopen (hvisits ▸ hfree)
    exact ⟨earlier, hearlier, hopened, hvisited.trans hvisits⟩
  outbox := by
    obtain ⟨events, hevents, hids⟩ := first.outbox
    obtain ⟨later, hlater, hlaterIds⟩ := second.outbox
    refine ⟨events ++ later, by rw [hlater, hevents, List.append_assoc], fun event hmem => ?_⟩
    rcases List.mem_append.mp hmem with h | h
    · exact hids event h
    · exact hlaterIds event h

theorem counter (organizationId : String) (value : Nat) :
    Touches ids held before (before.apply (.counter organizationId value)) :=
  ⟨(refl ids held before).orders, (refl ids held before).sessions, (refl ids held before).grows,
    (refl ids held before).executors, (refl ids held before).visits, (refl ids held before).outbox⟩

/-- The row of an order whose key and executor are locked. -/
theorem order {key : Key} {row : WorkOrder} (locked : .order key ∈ held)
    (occupied : ∀ executor, UnitOfWork.occupies row = some executor → .executor executor ∈ held) :
    Touches ids held before (before.apply (.order key row)) where
  orders other hfree := by
    have hne : other ≠ key := fun h => hfree (h ▸ locked)
    exact ⟨Dict.get?_set_of_ne _ _ hne, rfl⟩
  sessions _ _ := ⟨rfl, rfl⟩
  grows _ := List.prefix_rfl
  executors other found executor hfound hoccupies hfree := by
    change (before.orders.set key row).get? other = some found at hfound
    rw [Dict.get?_set] at hfound
    by_cases hsame : other = key
    · rw [if_pos hsame] at hfound
      cases hfound
      exact absurd (occupied executor hoccupies) hfree
    · rw [if_neg hsame] at hfound
      exact ⟨found, hfound, hoccupies⟩
  visits _ row hrow hactive _ := ⟨row, hrow, hactive, rfl⟩
  outbox := (refl ids held before).outbox

theorem responses {key : Key} (locked : .order key ∈ held) (rows : List PoolResponse) :
    Touches ids held before (before.apply (.responses key rows)) where
  orders other hfree := by
    have hne : other ≠ key := fun h => hfree (h ▸ locked)
    refine ⟨rfl, ?_⟩
    show ((before.responses.set key rows).get? other).getD [] = _
    rw [Dict.get?_set_of_ne _ _ hne]
    rfl
  sessions _ _ := ⟨rfl, rfl⟩
  grows _ := List.prefix_rfl
  executors _ row _ hrow hoccupies _ := ⟨row, hrow, hoccupies⟩
  visits _ row hrow hactive _ := ⟨row, hrow, hactive, rfl⟩
  outbox := (refl ids held before).outbox

/-- The row of a session that is locked, and visits an order that is locked or that it visits
already. -/
theorem session {key : Key} (row : SessionRow) (locked : .session key ∈ held)
    (visits : row.status = .active → .order (key.1, row.workOrderId) ∈ held ∨
      ∃ found, before.tracking.sessions.get? key = some found ∧ found.status = .active ∧
        found.workOrderId = row.workOrderId) :
    Touches ids held before (before.apply (.session key row)) where
  orders _ _ := ⟨rfl, rfl⟩
  sessions other hfree := by
    have hne : other ≠ key := fun h => hfree (h ▸ locked)
    exact ⟨Dict.get?_set_of_ne _ _ hne, rfl⟩
  grows _ := List.prefix_rfl
  executors _ row _ hrow hoccupies _ := ⟨row, hrow, hoccupies⟩
  visits other found hfound hactive hfree := by
    change (before.tracking.sessions.set key row).get? other = some found at hfound
    rw [Dict.get?_set] at hfound
    by_cases hsame : other = key
    · rw [if_pos hsame] at hfound
      cases hfound
      subst hsame
      rcases visits hactive with hlocked | hbefore
      · exact absurd hlocked hfree
      · exact hbefore
    · rw [if_neg hsame] at hfound
      exact ⟨found, hfound, hactive, rfl⟩
  outbox := (refl ids held before).outbox

/-- Points of a session that is locked. -/
theorem points {key : Key} (locked : .session key ∈ held) {rows : List PointRow}
    (within : ∀ row ∈ rows, row.session = key) :
    Touches ids held before (before.apply (.points rows)) where
  orders _ _ := ⟨rfl, rfl⟩
  sessions other hfree := by
    refine ⟨rfl, ?_⟩
    have hnone : rows.filter (fun row => decide (row.session = other)) = [] := by
      refine List.filter_eq_nil_iff.mpr fun row hrow => ?_
      have hne : row.session ≠ other := fun h => hfree (h ▸ within row hrow ▸ locked)
      simpa using hne
    show (before.tracking.points ++ rows).filter _ = _
    rw [List.filter_append, hnone, List.append_nil]
    rfl
  grows other := by
    show _ <+: (before.tracking.points ++ rows).filter _
    rw [List.filter_append]
    exact List.prefix_append ..
  executors _ row _ hrow hoccupies _ := ⟨row, hrow, hoccupies⟩
  visits _ row hrow hactive _ := ⟨row, hrow, hactive, rfl⟩
  outbox := (refl ids held before).outbox

theorem events {events : List DomainEvent} (own : ∀ event ∈ events, event.eventId ∈ ids) :
    Touches ids held before (before.apply (.events events)) where
  orders _ _ := ⟨rfl, rfl⟩
  sessions _ _ := ⟨rfl, rfl⟩
  grows _ := List.prefix_rfl
  executors _ row _ hrow hoccupies _ := ⟨row, hrow, hoccupies⟩
  visits _ row hrow hactive _ := ⟨row, hrow, hactive, rfl⟩
  outbox := ⟨events, rfl, own⟩

end Touches

/-- What holds of the tables after every commit. -/
structure StoreValid (tables : StoreTables) : Prop where
  live : Live (storedRecords tables)
  numbered : Numbered tables.tracking

theorem StoreValid.counted {tables : StoreTables} (valid : StoreValid tables) (key : Key)
    (row : SessionRow) (stored : tables.tracking.sessions.get? key = some row) :
    (tables.tracking.pointsOf key).map PointRow.sequenceNo = List.range' 1 row.pointCount := by
  rw [valid.numbered key, counted_stored stored]

/-- No point stands without its session. -/
theorem StoreValid.owned {tables : StoreTables} (valid : StoreValid tables) (key : Key)
    (absent : tables.tracking.sessions.get? key = none) : tables.tracking.pointsOf key = [] := by
  have hnumbered := valid.numbered key
  rw [Application.counted, absent] at hnumbered
  exact List.map_eq_nil_iff.mp hnumbered

/-- What a commit of a command does that holds the locks. -/
structure StoreEffect (command : Command) (held : List StoreLock) (before after : StoreTables) :
    Prop where
  touches : Touches command.eventIds held before after
  refines : Refines command (storedRecords before) (storedRecords after)

/-- None of the command's events is in the outbox. -/
def Unpublished (command : Command) (tables : StoreTables) : Prop :=
  ∀ event ∈ tables.outbox, event.eventId ∉ command.eventIds

theorem eventIds_disjoint {commands : List Command}
    (distinct : (commands.flatMap Command.eventIds).Nodup) {first second : Nat}
    {left right : Command} (hne : first ≠ second) (hleft : commands[first]? = some left)
    (hright : commands[second]? = some right) : List.Disjoint left.eventIds right.eventIds := by
  have hpairwise := (List.nodup_flatMap.mp distinct).2
  obtain ⟨hfirst, rfl⟩ := List.getElem?_eq_some_iff.mp hleft
  obtain ⟨hsecond, rfl⟩ := List.getElem?_eq_some_iff.mp hright
  rcases Nat.lt_or_gt_of_ne hne with hlt | hgt
  · exact List.pairwise_iff_getElem.mp hpairwise first second hfirst hsecond hlt
  · exact fun eventId hmine hother =>
      List.pairwise_iff_getElem.mp hpairwise second first hsecond hfirst hgt hother hmine

/-- What a commit at a position does. -/
def CommitsAt (commands : List Command) (index : Nat) (held : List StoreLock)
    (before after : StoreTables) : Prop :=
  ∃ command, commands[index]? = some command ∧ StoreEffect command held before after

/-- What the client at a position knows before it commits. -/
def UnpublishedAt (commands : List Command) (index : Nat) (tables : StoreTables) : Prop :=
  ∀ command, commands[index]? = some command → Unpublished command tables

theorem unpublishedAt_kept {commands : List Command}
    (distinct : (commands.flatMap Command.eventIds).Nodup) {index other : Nat}
    {held : List StoreLock} {before after : StoreTables} (hne : other ≠ index)
    (commits : CommitsAt commands other held before after)
    (known : UnpublishedAt commands index before) : UnpublishedAt commands index after := by
  obtain ⟨writer, hwriter, heffect⟩ := commits
  intro command hcommand event hmem hid
  obtain ⟨events, houtbox, hids⟩ := heffect.touches.outbox
  rw [houtbox] at hmem
  rcases List.mem_append.mp hmem with hold | hnew
  · exact known command hcommand event hold hid
  · exact eventIds_disjoint distinct hne hwriter hcommand (hids event hnew) hid

/-- What the transactions of some commands rely on in each other, where no two draw one event
id. -/
def storeIsolation (commands : List Command)
    (distinct : (commands.flatMap Command.eventIds).Nodup) : Isolation StoreTables StoreLock where
  valid := StoreValid
  effect := CommitsAt commands
  known := UnpublishedAt commands
  kept := unpublishedAt_kept distinct

section stable

variable {commands : List Command} {distinct : (commands.flatMap Command.eventIds).Nodup}
  {index : Nat} {locks : List StoreLock}

/-- What is stable under the commits of others is what a commit keeps that holds none of the
locks. -/
theorem stable_of_touches {property : StoreTables → Prop}
    (h : ∀ ids held before after, (∀ lock ∈ locks, lock ∉ held) → Touches ids held before after →
      StoreValid before → property before → property after) :
    (storeIsolation commands distinct).Stable index locks property := by
  rintro before after ⟨other, held, -, hfree, ⟨command, -, heffect⟩, hvalid, -⟩ hproperty
  exact h command.eventIds held before after hfree heffect.touches hvalid hproperty

/-- A locked order stays as it is. -/
theorem stable_order {key : Key} (locked : .order key ∈ locks) (row : Option WorkOrder)
    (responses : List PoolResponse) :
    (storeIsolation commands distinct).Stable index locks fun tables =>
      tables.orders.get? key = row ∧ tables.responsesAt key = responses := by
  refine stable_of_touches fun ids held before after hfree touches _ h => ?_
  obtain ⟨horder, hresponses⟩ := touches.orders key (hfree _ locked)
  exact ⟨horder.trans h.1, hresponses.trans h.2⟩

/-- A locked session stays as it is. -/
theorem stable_session {key : Key} (locked : .session key ∈ locks) (row : Option SessionRow)
    (points : List PointRow) :
    (storeIsolation commands distinct).Stable index locks fun tables =>
      tables.tracking.sessions.get? key = row ∧ tables.tracking.pointsOf key = points := by
  refine stable_of_touches fun ids held before after hfree touches _ h => ?_
  obtain ⟨hsession, hpoints⟩ := touches.sessions key (hfree _ locked)
  exact ⟨hsession.trans h.1, hpoints.trans h.2⟩

theorem stable_row {key : Key} (locked : .session key ∈ locks) (row : Option SessionRow) :
    (storeIsolation commands distinct).Stable index locks fun tables =>
      tables.tracking.sessions.get? key = row :=
  fun before after beside held =>
    (stable_session locked row _ before after beside ⟨held, rfl⟩).1

/-- No order but the one under the key has the executor. -/
def Unoccupied (key executor : Key) (tables : StoreTables) : Prop :=
  ∀ other row, other ≠ key → tables.orders.get? other = some row →
    UnitOfWork.occupies row ≠ some executor

/-- Nobody else takes an executor that is locked. -/
theorem stable_unoccupied {key executor : Key} (locked : .executor executor ∈ locks) :
    (storeIsolation commands distinct).Stable index locks (Unoccupied key executor) := by
  refine stable_of_touches fun ids held before after hfree touches _ h => ?_
  intro other row hne hrow hoccupies
  obtain ⟨found, hfound, htoo⟩ :=
    touches.executors other row executor hrow hoccupies (hfree _ locked)
  exact h other found hne hfound htoo

/-- Nobody is on the way to the order. -/
def Unvisited (key : Key) (tables : StoreTables) : Prop :=
  ∀ other row, tables.tracking.sessions.get? other = some row → row.status = .active →
    (other.1, row.workOrderId) ≠ key

/-- No session is started for an order that is locked. -/
theorem stable_unvisited {key : Key} (locked : .order key ∈ locks) :
    (storeIsolation commands distinct).Stable index locks (Unvisited key) := by
  refine stable_of_touches fun ids held before after hfree touches _ h => ?_
  intro other row hrow hactive hvisits
  obtain ⟨found, hfound, hopen, hsame⟩ :=
    touches.visits other row hrow hactive (hvisits ▸ hfree _ locked)
  exact h other found hfound hopen (by rw [hsame, hvisits])

/-- Points are not taken away. -/
theorem stable_points (key : Key) (points : List PointRow) :
    (storeIsolation commands distinct).Stable index locks fun tables =>
      points <+: tables.tracking.pointsOf key := by
  refine stable_of_touches fun ids held before after _ touches _ h => ?_
  exact h.trans (touches.grows key)

end stable

end DispatchCore.Application
