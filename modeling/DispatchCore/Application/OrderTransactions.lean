import DispatchCore.Application.StoreCommits

/-! The transactions of the service that write one order: whatever the others commit in between,
they may be committed. -/
namespace DispatchCore.Application

open DispatchCore.Library DispatchCore.Domain DispatchCore.Infrastructure Isolation

section commands

variable {commands : List Command} {distinct : (commands.flatMap Command.eventIds).Nodup}
  {index : Nat} {command : Command} {writes : List StoreWrite} {locks : List StoreLock}
  {tables : StoreTables}

/-- The promise of every transaction: what it has written may be committed. -/
abbrev MayCommit (commands : List Command) (distinct : (commands.flatMap Command.eventIds).Nodup)
    (index : Nat) (writes : List StoreWrite) (locks : List StoreLock) (tables : StoreTables) :
    Prop :=
  (storeIsolation commands distinct).Commits StoreTables.apply index writes locks tables

/-- What a transaction writes that saves one order and its events. -/
theorem commits_order (mine : commands[index]? = some command) {order : WorkOrder}
    (keyed : Keyed order) (counting : Counting writes) (locked : orderLocks order ⊆ locks)
    (own : ∀ event ∈ order.events, event.eventId ∈ command.eventIds)
    {facts : StoreTables → Prop}
    (stable : (storeIsolation commands distinct).Stable index locks facts) (held : facts tables)
    (plain : ∀ ambient report, command ≠ .recordLocation ambient report)
    (does : ∀ now, StoreValid now → facts now → ∃ answers,
      command.apply answers (storedRecords now) = .ok (putOrder order (storedRecords now))) :
    MayCommit commands distinct index (writes ++ orderWrites order ++ eventWrites order.events)
      locks tables := by
  refine commits_of_facts mine stable held fun now hvalid hfacts => ?_
  obtain ⟨answers, happly⟩ := does now hvalid hfacts
  rw [written_append, written_append]
  refine ⟨?_, ⟨putOrder order (storedRecords now), ?_, ?_⟩, fun live => ?_⟩
  · exact ((counting.touches _ _).trans (touches_orderWrites locked _)).trans
      (touches_eventWrites own _)
  · have hmatching : Matching (storedRecords now) (storedRecords (written writes now)) := by
      rw [counting.storedRecords]
      exact matching_refl hvalid.live.valid
    exact (hmatching.putOrder keyed).putEvents order.events
  · cases command with
    | recordLocation ambient report => exact absurd rfl (plain ambient report)
    | createOrder | createOrderOnce | change | startTravel | completeOrder | cancelOrder =>
        exact ⟨answers, happly⟩
  · refine hvalid.of_tracking live ?_
    unfold eventWrites
    by_cases hempty : order.events ≠ []
    · rw [if_pos hempty]
      show (written (orderWrites order) _).tracking = _
      rw [written_orderWrites, counting.written]
    · rw [if_neg hempty]
      show (written (orderWrites order) _).tracking = _
      rw [written_orderWrites, counting.written]

theorem keyed_stored {key : Key} {order : WorkOrder}
    (stored : (storedRecords tables).orders.get? key = some order) : Keyed order := by
  rw [storedOrder_eq] at stored
  obtain ⟨row, -, rfl⟩ := Option.map_eq_some_iff.mp stored
  intro executorId response h
  rcases Dict.get?_update_cases h with hmem | hempty
  · obtain ⟨found, -, hpair⟩ := List.mem_map.mp hmem
    cases hpair
    rfl
  · contradiction

theorem keyed_change {order : WorkOrder} (keyed : Keyed order) (ambient : Ambient) (call : Call) :
    Keyed (call.change ambient none order) := by
  unfold Call.change
  split
  · exact keyed
  · exact keyed.writes call _

/-- A call on a stored order records one event at most, with the id it draws. -/
theorem events_change {order : WorkOrder} (pulled : order.events = []) (ambient : Ambient)
    (call : Call) :
    (call.change ambient none order).events = [] ∨
      ∃ event, (call.change ambient none order).events = [event] ∧
        event.eventId = ambient.eventId := by
  unfold Call.change
  split
  · exact .inl pulled
  · refine .inr ?_
    simp only [WorkOrder.recorded, Call.writes_events, pulled, List.nil_append]
    exact ⟨_, rfl, rfl⟩

theorem own_change {order : WorkOrder} (pulled : order.events = []) (ambient : Ambient)
    (call : Call) :
    (∀ event ∈ (call.change ambient none order).events, event.eventId = ambient.eventId) ∧
      ((call.change ambient none order).events.map DomainEvent.eventId).Nodup := by
  rcases events_change pulled ambient call with h | ⟨event, h, hid⟩
  · rw [h]
    exact ⟨fun event hmem => absurd hmem List.not_mem_nil, List.nodup_nil⟩
  · rw [h]
    refine ⟨fun found hmem => ?_, List.nodup_singleton _⟩
    rw [List.mem_singleton.mp hmem]
    exact hid

/-! ### Changes of an order that is there -/

/-- The order was read under the key, and what was made of it has been saved. -/
structure Changing (key : Key) (order changed : WorkOrder) (locks : List StoreLock)
    (tables : StoreTables) : Prop where
  locked : .order key ∈ locks
  taken : orderLocks changed ⊆ locks
  stored : (storedRecords tables).orders.get? key = some order
  places : Places changed (some order.version) tables

namespace Changing

variable {key : Key} {order changed : WorkOrder}

theorem more (changing : Changing key order changed locks tables) {taken : List StoreLock}
    (h : locks ⊆ taken) : Changing key order changed taken tables :=
  ⟨h changing.locked, List.Subset.trans changing.taken h, changing.stored, changing.places⟩

theorem stable (changing : Changing key order changed locks tables) :
    (storeIsolation commands distinct).Stable index locks (Changing key order changed locks) :=
  fun before after beside held =>
    ⟨held.locked, held.taken, stable_reads held.locked _ before after beside held.stored,
      stable_places held.taken _ before after beside held.places⟩

theorem free (changing : Changing key order changed locks tables) (same : orderKey changed = key)
    (executor : Key) (occupied : UnitOfWork.occupies changed = some executor) :
    FreeBut (storedRecords tables) key executor := by
  have hfree := changing.places.free executor occupied
  rw [same] at hfree
  exact freeBut_of_unoccupied hfree

end Changing

/-- An order is read and changed by a call, and the transaction goes on. -/
theorem keeps_call {α : Type} {ambient : Ambient} {organizationId orderId : String} (call : Call)
    {next : WorkOrder → WorkOrder → Transaction α}
    {promise : α → List StoreWrite → List StoreLock → StoreTables → Prop}
    (h : ∀ order taken now, order.events = [] → Keyed order → call.Enabled order →
      orderKey order = (organizationId, orderId) →
      ReadsOrder (organizationId, orderId) order taken now →
      StoreKeeps commands distinct index promise (next order (call.change ambient none order)) []
        taken now) :
    StoreKeeps commands distinct index promise
      (PostgresOrderRepository.get organizationId orderId >>= fun order =>
        Transacted.call (call.perform ambient none) order >>= next order) [] [] tables := by
  refine (keeps_getOrder organizationId orderId).bind fun order after taken now hread => ?_
  obtain ⟨rfl, hreads⟩ := hread
  obtain ⟨hkey, hpulled⟩ := hreads.valid.live.valid.orderKeyed hreads.stored
  refine keeps_domain fun changed hchanged => ?_
  obtain ⟨enabled, rfl⟩ := (Call.perform_ok ambient none call).mp (outcome_ok.mp hchanged)
  exact h order taken now hpulled (keyed_stored hreads.stored) enabled hkey hreads

theorem keeps_saveChanged {key : Key} {order : WorkOrder}
    (reads : ReadsOrder key order locks tables) (changed : WorkOrder) :
    StoreKeeps commands distinct index
      (fun _ after taken now => after = orderWrites changed ∧ Changing key order changed taken now)
      (PostgresOrderRepository.save changed (some order.version)) [] locks tables := by
  refine ((keeps_saveOrder _ _ fun _ => rfl).frame (stable_reads reads.locked _)
    reads.stored).weaken fun _ after more later h => ?_
  obtain ⟨⟨rfl, hlocks, hplaces⟩, hmore, hkept⟩ := h
  exact ⟨rfl, hmore reads.locked, hlocks, hkept, hplaces⟩

theorem keeps_changeOrder {ambient : Ambient} {organizationId orderId : String} {call : Call}
    {plain : Plain call}
    (mine : commands[index]? = some (.change ambient organizationId orderId call plain)) :
    StoreKeeps commands distinct index
      (fun _ writes locks tables => MayCommit commands distinct index writes locks tables)
      (Transacted.changeOrder organizationId orderId (call.perform ambient none)) [] [] tables := by
  refine keeps_call call fun order taken now hpulled hkeyed enabled hkey hreads => ?_
  refine (keeps_saveChanged hreads _).bind fun _ after taken now h => ?_
  obtain ⟨rfl, hchanging⟩ := h
  have hsame : orderKey (call.change ambient none order) = (organizationId, orderId) :=
    (orderKey_change ambient none call order).trans hkey
  obtain ⟨hown, hnodup⟩ := own_change hpulled ambient call
  have hmine : ∀ event ∈ (call.change ambient none order).events, event.eventId ∈
      (Command.change ambient organizationId orderId call plain).eventIds := by
    intro event hmem
    rw [hown event hmem]
    exact List.mem_singleton_self _
  refine ((keeps_addEvents mine hmine hnodup fun found => ?_).frame hchanging.stable
    hchanging).bind fun _ after last final h => ?_
  · rw [written_orderWrites]
  obtain ⟨rfl, hmost, hchanging⟩ := h
  have hlast := hchanging.more hmost
  refine commits_order mine (keyed_change hkeyed ambient call) (.inl rfl) hlast.taken hmine
    hlast.stable hlast (fun _ _ h => by contradiction) fun now hnow hchanging => ?_
  exact ⟨⟨"", false⟩, hnow.live.change hchanging.stored call plain enabled ambient _
    (hchanging.free hsame)⟩

/-! ### Submissions -/

theorem events_created {ambient : Ambient} {orderId publicNumber : String} {creation : Creation}
    {order : WorkOrder} (h : creation.order ambient orderId publicNumber = .ok order) :
    ∃ event, order.events = [event] ∧ event.eventId = ambient.eventId := by
  unfold Creation.order WorkOrder.create at h
  simp only at h
  split at h
  · cases h
    exact ⟨_, rfl, rfl⟩
  · contradiction

/-- A new order goes into records without it. -/
theorem createNewOrder_ok {records : Records} (live : Live records) {ambient : Ambient}
    {orderId publicNumber : String} {creation : Creation} {order : WorkOrder}
    (made : creation.order ambient orderId publicNumber = .ok order)
    (absent : records.orders.get? (orderKey order) = none) :
    Atomic.createNewOrder ambient orderId creation publicNumber records =
      .ok (putOrder order records) := by
  apply except_bind_ok.mpr
  refine ⟨order, made, (commit_order order none records _).mpr ⟨?_, ?_, rfl⟩⟩
  · rw [absent]
    rfl
  · have hidle : UnitOfWork.occupies order = none := by
      unfold UnitOfWork.occupies
      rw [(creation_ok made).unassigned]
    rw [capacity_put live.capacity, hidle]
    simp

theorem keeps_creation (mine : commands[index]? = some command) {ambient : Ambient}
    {orderId : String} {creation : Creation} (own : ambient.eventId ∈ command.eventIds)
    (plain : ∀ ambient report, command ≠ .recordLocation ambient report)
    (does : ∀ answers records after, Atomic.createNewOrder ambient orderId creation
      answers.publicNumber records = .ok after → command.apply answers records = .ok after) :
    StoreKeeps commands distinct index
      (fun _ writes locks tables => MayCommit commands distinct index writes locks tables)
      (Transacted.createNewOrder ambient orderId creation) [] [] tables := by
  refine (keeps_allocatePublicNumber creation.organizationId).bind
    fun publicNumber after taken now h => ?_
  obtain ⟨value, rfl⟩ := h
  refine keeps_domain fun order hmade => ?_
  obtain ⟨event, hevents, hid⟩ := events_created hmade
  have hmine : ∀ event ∈ order.events, event.eventId ∈ command.eventIds := by
    intro found hmem
    rw [hevents] at hmem
    rw [List.mem_singleton.mp hmem, hid]
    exact own
  have hnodup : (order.events.map DomainEvent.eventId).Nodup := by
    rw [hevents]
    exact List.nodup_singleton _
  refine (keeps_saveOrder order none fun _ => rfl).bind fun _ after more later h => ?_
  obtain ⟨rfl, hlocks, hplaces⟩ := h
  refine ((keeps_addEvents mine hmine hnodup fun found => ?_).frame (stable_places hlocks _)
    hplaces).bind fun _ after last final h => ?_
  · rw [written_append, written_orderWrites]
    rfl
  · obtain ⟨rfl, hmost, hfits⟩ := h
    refine commits_order mine (keyed_create hmade) (.inr ⟨_, _, rfl⟩)
      (List.Subset.trans hlocks hmost) hmine
      (stable_places (List.Subset.trans hlocks hmost) _) hfits plain fun now hnow hfits => ?_
    refine ⟨⟨publicNumber, false⟩, does _ _ _ (createNewOrder_ok hnow.live hmade ?_)⟩
    rw [storedOrder_eq, Option.map_eq_none_iff]
    exact Option.map_eq_none_iff.mp hfits.version

theorem keeps_confirmation {ambient : Ambient} {orderId : String} {creation : Creation}
    (mine : commands[index]? = some (.createOrderOnce ambient orderId creation)) :
    StoreKeeps commands distinct index
      (fun _ writes locks tables => MayCommit commands distinct index writes locks tables)
      (Transacted.confirmSubmission ambient orderId creation) [] [] tables := by
  refine (keeps_getOrder creation.organizationId orderId).bind fun existing after taken now h => ?_
  obtain ⟨rfl, hlocked, hstored, -⟩ := h
  refine keeps_domain fun candidate hmade => ?_
  by_cases hsame : sameSubmission existing candidate = true
  · simp only [hsame]
    refine commits_of_facts mine (stable_reads hlocked _) hstored fun now hnow hstored =>
      ⟨Touches.refl _ _ _, ⟨storedRecords now, matching_refl hnow.live.valid,
        ⟨existing.publicNumber, false⟩, ?_⟩, fun _ => hnow⟩
    obtain ⟨failure, hconflict, htaken⟩ := createNewOrder_taken hmade hstored
    show Atomic.createOrderOnce ambient orderId creation existing.publicNumber _ = _
    unfold Atomic.createOrderOnce
    rw [htaken]
    show (if failure.isConcurrencyConflict = true then _ else _) = _
    rw [if_pos hconflict]
    apply except_bind_ok.mpr
    refine ⟨existing, getOrder_ok.mpr hstored, except_bind_ok.mpr ⟨candidate, hmade, ?_⟩⟩
    rw [if_pos hsame]
    exact (commit_empty _ _).mpr ⟨hnow.live.capacity, rfl⟩
  · simp only [hsame]
    exact trivial

end commands

end DispatchCore.Application
