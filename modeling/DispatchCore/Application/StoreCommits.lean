import DispatchCore.Application.RepositoryPromises

/-! What the writes of a transaction do to the records, and to the locks they need. -/
namespace DispatchCore.Application

open DispatchCore.Library DispatchCore.Domain DispatchCore.Infrastructure Isolation

/-! ### The records after the writes -/

theorem survives_refl {order : WorkOrder} (pulled : order.events = []) : Survives order order := by
  refine ⟨?_, fun _ => rfl⟩
  rw [← pulled]

theorem matching_refl {records : Records} (valid : Valid records) : Matching records records where
  orders key := by
    cases horder : records.orders.get? key with
    | none => exact .none
    | some order => exact .some (survives_refl (valid.orderKeyed horder).2)
  sessions _ := rfl
  outbox := rfl

/-- An order that is put in its place is read back as it is. -/
theorem survives_written {order : WorkOrder} (keyed : Keyed order) :
    Survives order.pullEvents.2 (withResponses (orderRow order)
      (order.poolResponses.values.mergeSort PoolResponse.upTo)) := by
  refine ⟨rfl, fun executorId => ?_⟩
  show (Dict.ofList _).get? executorId = order.poolResponses.get? executorId
  have hentries : order.poolResponses.values.map (fun response => (response.executorId, response)) =
      order.poolResponses.entries := by
    rw [Dict.values, List.map_map]
    refine (List.map_congr_left fun entry hmem => ?_).trans (List.map_id _)
    have hstored := (Dict.get?_eq_some order.poolResponses entry.1 entry.2).mpr hmem
    exact Prod.ext (keyed entry.1 entry.2 hstored) rfl
  have hperm : ((order.poolResponses.values.mergeSort PoolResponse.upTo).map fun response =>
      (response.executorId, response)).Perm order.poolResponses.entries := by
    rw [← hentries]
    exact (List.mergeSort_perm _ _).map _
  rw [Dict.get?_ofList_perm order.poolResponses.distinct hperm]
  have hown : Dict.ofList order.poolResponses.entries = order.poolResponses :=
    Dict.ext_entries (Dict.entries_ofList order.poolResponses.distinct)
  rw [hown]

namespace Matching

variable {records : Records} {tables : StoreTables}

theorem putOrder (matching : Matching records (storedRecords tables)) {order : WorkOrder}
    (keyed : Keyed order) :
    Matching { records with orders := records.orders.set (orderKey order) order.pullEvents.2 }
      (storedRecords (written (orderWrites order) tables)) where
  orders key := by
    have hrows : (written (orderWrites order) tables).orders =
        tables.orders.set (orderKey order) (orderRow order) :=
      congrArg StoreTables.orders (written_orderWrites order tables)
    rw [storedOrder_eq, responsesAt_orderWrites, hrows, Dict.get?_set, Dict.get?_set]
    by_cases hkey : key = orderKey order
    · rw [if_pos hkey, if_pos hkey, if_pos hkey]
      exact .some (survives_written keyed)
    · rw [if_neg hkey, if_neg hkey, if_neg hkey, ← storedOrder_eq]
      exact matching.orders key
  sessions key := by
    rw [storedSession_eq, written_orderWrites, ← storedSession_eq]
    exact matching.sessions key
  outbox := by
    have houtbox : (written (orderWrites order) tables).outbox = tables.outbox := by
      rw [written_orderWrites]
    show (written (orderWrites order) tables).outbox = records.outboxEvents
    rw [houtbox]
    exact matching.outbox

theorem putSession (matching : Matching records (storedRecords tables)) {key : Key}
    {row : SessionRow} {session : TrackingSession}
    (reads : (trackingFromRow key row none).session = session) :
    Matching { records with trackingSessions := records.trackingSessions.set key session }
      (storedRecords (tables.apply (.session key row))) where
  orders := matching.orders
  sessions other := by
    rw [storedSession_eq]
    show ((tables.tracking.sessions.set key row).get? other).map _ = _
    rw [Dict.get?_set, Dict.get?_set]
    by_cases hsame : other = key
    · rw [if_pos hsame, if_pos hsame, hsame, ← reads]
      rfl
    · rw [if_neg hsame, if_neg hsame, ← storedSession_eq]
      exact matching.sessions other
  outbox := matching.outbox

theorem putPoints (matching : Matching records (storedRecords tables)) (key : Key) (start : Nat)
    (points : List TrackingPoint) :
    Matching records (storedRecords (written (pointWrites key start points) tables)) := by
  unfold pointWrites
  by_cases hempty : points ≠ []
  · rw [if_pos hempty]
    exact ⟨matching.orders, matching.sessions, matching.outbox⟩
  · rw [if_neg hempty]
    exact matching

theorem putEvents (matching : Matching records (storedRecords tables)) (events : List DomainEvent) :
    Matching { records with outboxEvents := records.outboxEvents ++ events }
      (storedRecords (written (eventWrites events) tables)) := by
  unfold eventWrites
  by_cases hempty : events ≠ []
  · rw [if_pos hempty]
    refine ⟨matching.orders, matching.sessions, ?_⟩
    show tables.outbox ++ events = records.outboxEvents ++ events
    exact congrArg (· ++ events) matching.outbox
  · rw [if_neg hempty, not_not.mp hempty, List.append_nil]
    exact matching

end Matching

/-! ### What the writes touch -/

section touches

variable {ids : List String} {held : List StoreLock}

theorem touches_orderWrites {order : WorkOrder} (locked : orderLocks order ⊆ held)
    (tables : StoreTables) :
    Touches ids held tables (written (orderWrites order) tables) := by
  have hkey : StoreLock.order (orderKey order) ∈ held := locked (List.mem_cons_self ..)
  have hexecutor (executor : Key) (h : UnitOfWork.occupies (orderRow order) = some executor) :
      StoreLock.executor executor ∈ held := by
    have hoccupies : UnitOfWork.occupies order = some executor := h
    apply locked
    simp [orderLocks, hoccupies]
  have hfirst : Touches ids held tables (written [.order (orderKey order) (orderRow order),
      .responses (orderKey order) []] tables) :=
    (Touches.order hkey hexecutor).trans (Touches.responses hkey [])
  unfold orderWrites
  rw [written_append]
  refine hfirst.trans ?_
  unfold responseWrites
  by_cases hempty : order.poolResponses.entries ≠ []
  · rw [if_pos hempty]
    exact Touches.responses hkey _
  · rw [if_neg hempty]
    exact Touches.refl ids held _

theorem touches_eventWrites {events : List DomainEvent}
    (own : ∀ event ∈ events, event.eventId ∈ ids) (tables : StoreTables) :
    Touches ids held tables (written (eventWrites events) tables) := by
  unfold eventWrites
  by_cases hempty : events ≠ []
  · rw [if_pos hempty]
    exact Touches.events own
  · rw [if_neg hempty]
    exact Touches.refl ids held _

theorem touches_pointWrites {key : Key} (locked : .session key ∈ held) (start : Nat)
    (points : List TrackingPoint) (tables : StoreTables) :
    Touches ids held tables (written (pointWrites key start points) tables) := by
  unfold pointWrites
  by_cases hempty : points ≠ []
  · rw [if_pos hempty]
    refine Touches.points locked fun row hrow => ?_
    obtain ⟨entry, -, rfl⟩ := List.mem_map.mp hrow
    rfl
  · rw [if_neg hempty]
    exact Touches.refl ids held _

end touches

/-! ### What a command may leave -/

/-- What a command does in memory keeps what every reachable store keeps. -/
theorem Refines.live {command : Command} {before after : Records} (live : Live before)
    (refines : Refines command before after) : Live after := by
  obtain ⟨middle, matching, does⟩ := refines
  have hplain (answers : Answers) (happly : command.apply answers before = .ok middle) :
      Live after := matching.live (live.apply happly)
  cases command with
  | recordLocation ambient report =>
      have htakes := does.takes live.valid
      refine matching.live ⟨⟨(htakes.sound live.valid).1, ?_⟩,
        live.coupled.takes live.valid htakes, ?_⟩
      · unfold Capacity
        rw [does.orders]
        exact live.capacity
      · unfold AllSound
        rw [does.orders]
        exact live.sound
  | createOrder | createOrderOnce | change | startTravel | completeOrder | cancelOrder =>
      obtain ⟨answers, happly⟩ := does
      exact hplain answers happly

/-- Where the sessions and their points stay, they are counted as before. -/
theorem StoreValid.of_tracking {before after : StoreTables} (valid : StoreValid before)
    (live : Live (storedRecords after)) (same : after.tracking = before.tracking) :
    StoreValid after := by
  refine ⟨live, ?_⟩
  rw [same]
  exact valid.numbered

section commits

variable {commands : List Command} {distinct : (commands.flatMap Command.eventIds).Nodup}
  {index : Nat} {command : Command} {writes : List StoreWrite} {locks : List StoreLock}
  {tables : StoreTables}

/-- A transaction may commit by what stays as it is under its locks. -/
theorem commits_of_facts (mine : commands[index]? = some command) {facts : StoreTables → Prop}
    (stable : (storeIsolation commands distinct).Stable index locks facts) (held : facts tables)
    (does : ∀ now, StoreValid now → facts now →
      Touches command.eventIds locks now (written writes now) ∧
        Refines command (storedRecords now) (storedRecords (written writes now)) ∧
        (Live (storedRecords (written writes now)) → StoreValid (written writes now))) :
    (storeIsolation commands distinct).Commits StoreTables.apply index writes locks tables := by
  intro now later
  have hvalid : StoreValid now := later.valid
  obtain ⟨touches, refines, counts⟩ := does now hvalid (stable.later later held)
  exact ⟨counts (refines.live hvalid.live), command, mine, touches, refines⟩

theorem stable_reads {key : Key} (locked : .order key ∈ locks) (order : Option WorkOrder) :
    (storeIsolation commands distinct).Stable index locks fun tables =>
      (storedRecords tables).orders.get? key = order := by
  intro before after beside held
  obtain ⟨hrow, hresponses⟩ := stable_order locked _ _ before after beside ⟨rfl, rfl⟩
  rw [storedOrder_eq, hrow, hresponses, ← storedOrder_eq]
  exact held

/-- An executor that no other row has is free. -/
theorem freeBut_of_unoccupied {key executor : Key} (free : Unoccupied key executor tables) :
    FreeBut (storedRecords tables) key executor := by
  intro other order hne hstored hoccupies
  rw [storedOrder_eq] at hstored
  obtain ⟨row, hrow, rfl⟩ := Option.map_eq_some_iff.mp hstored
  exact free other row hne hrow hoccupies

/-- What the domain makes of something, or nothing. -/
theorem keeps_domain {α β : Type} {result : Except Failure α} {next : α → Transaction β}
    {promise : β → List StoreWrite → List StoreLock → StoreTables → Prop}
    (h : ∀ value, result = .ok value →
      StoreKeeps commands distinct index promise (next value) writes locks tables) :
    StoreKeeps commands distinct index promise (Transaction.domain result >>= next) writes locks
      tables := by
  cases result with
  | error failure => exact trivial
  | ok value => exact h value rfl

/-- What a transaction writes before its order: the counter its number is from. -/
def Counting (writes : List StoreWrite) : Prop :=
  writes = [] ∨ ∃ organizationId value, writes = [.counter organizationId value]

theorem Counting.written (counting : Counting writes) (tables : StoreTables) :
    written writes tables = { tables with counters := (written writes tables).counters } := by
  rcases counting with rfl | ⟨organizationId, value, rfl⟩
  · rfl
  · rfl

theorem Counting.touches (counting : Counting writes) (ids : List String)
    (tables : StoreTables) : Touches ids locks tables (Application.written writes tables) := by
  rcases counting with rfl | ⟨organizationId, value, rfl⟩
  · exact Touches.refl ids locks tables
  · exact Touches.counter organizationId value

theorem Counting.storedRecords (counting : Counting writes) (tables : StoreTables) :
    storedRecords (Application.written writes tables) = storedRecords tables := by
  rw [counting.written]
  rfl

end commits

end DispatchCore.Application
