import DispatchCore.Application.StoreContract

/-! What a transaction knows after each call of a repository: what it has read under its locks,
and what it has written. -/
namespace DispatchCore.Application

open DispatchCore.Library DispatchCore.Domain DispatchCore.Infrastructure Isolation

/-- What a transaction has written, on the tables that have been committed. -/
def written (writes : List StoreWrite) (tables : StoreTables) : StoreTables :=
  writes.foldl StoreTables.apply tables

theorem written_append (first second : List StoreWrite) (tables : StoreTables) :
    written (first ++ second) tables = written second (written first tables) :=
  List.foldl_append

/-- The order as it is read, under its lock. -/
structure ReadsOrder (key : Key) (order : WorkOrder) (locks : List StoreLock)
    (tables : StoreTables) : Prop where
  locked : .order key ∈ locks
  stored : (storedRecords tables).orders.get? key = some order
  valid : StoreValid tables

/-- The responses that go in after the old ones were deleted. -/
def responseWrites (order : WorkOrder) : List StoreWrite :=
  if order.poolResponses.entries ≠ [] then
    [.responses (orderKey order) order.poolResponses.values]
  else []

/-- The writes that put an order in its place. -/
def orderWrites (order : WorkOrder) : List StoreWrite :=
  [.order (orderKey order) (orderRow order), .responses (orderKey order) []] ++
    responseWrites order

def eventWrites (events : List DomainEvent) : List StoreWrite :=
  if events ≠ [] then [.events events] else []

section order

variable (order : WorkOrder) (tables : StoreTables)

theorem written_orderWrites : written (orderWrites order) tables =
    { tables with
      orders := tables.orders.set (orderKey order) (orderRow order)
      responses := (written (orderWrites order) tables).responses } := by
  unfold orderWrites responseWrites
  by_cases hempty : order.poolResponses.entries ≠ []
  · rw [if_pos hempty]
    rfl
  · rw [if_neg hempty]
    rfl

theorem responsesAt_orderWrites (key : Key) :
    (written (orderWrites order) tables).responsesAt key =
      if key = orderKey order then order.poolResponses.values else tables.responsesAt key := by
  unfold orderWrites responseWrites
  by_cases hempty : order.poolResponses.entries ≠ []
  · rw [if_pos hempty]
    show (((tables.responses.set _ _).set (orderKey order) _).get? key).getD [] = _
    rw [Dict.get?_set]
    by_cases hkey : key = orderKey order
    · rw [if_pos hkey, if_pos hkey]
      rfl
    · rw [if_neg hkey, if_neg hkey, Dict.get?_set_of_ne _ _ hkey]
      rfl
  · rw [if_neg hempty]
    have hvalues : order.poolResponses.values = [] := by
      rw [Dict.values, not_not.mp hempty]
      rfl
    show ((tables.responses.set (orderKey order) []).get? key).getD [] = _
    rw [Dict.get?_set, hvalues]
    by_cases hkey : key = orderKey order
    · rw [if_pos hkey, if_pos hkey]
      rfl
    · rw [if_neg hkey, if_neg hkey]
      rfl

end order

section promises

variable {commands : List Command} {distinct : (commands.flatMap Command.eventIds).Nodup}
  {index : Nat} {writes : List StoreWrite} {locks : List StoreLock} {tables : StoreTables}

/-- What the program promises on the store, whatever the others commit. -/
abbrev StoreKeeps {α : Type} (commands : List Command)
    (distinct : (commands.flatMap Command.eventIds).Nodup) (index : Nat)
    (promise : α → List StoreWrite → List StoreLock → StoreTables → Prop)
    (program : Transaction α) (writes : List StoreWrite) (locks : List StoreLock)
    (tables : StoreTables) : Prop :=
  (storeIsolation commands distinct).Keeps StoreStatement.execute StoreTables.apply index promise
    program writes locks tables

/-- A row that is selected for update, if there is one. -/
theorem keeps_selectOrder (key : Key) :
    StoreKeeps commands distinct index
      (fun row after taken now => after = [] ∧ ∀ value, row = some value →
        .order key ∈ taken ∧ now.orders.get? key = some value)
      (Transaction.ask (.selectOrder key)) [] locks tables := by
  refine keeps_asked fun now hlater found hfound => ?_
  change StoreStatement.execute (.selectOrder key) now = .ok found at hfound
  cases hrow : now.orders.get? key with
  | none =>
      simp only [StoreStatement.execute, hrow] at hfound
      cases hfound
      exact ⟨rfl, fun value h => by contradiction⟩
  | some row =>
      simp only [StoreStatement.execute, hrow] at hfound
      cases hfound
      exact ⟨rfl, fun value h => ⟨List.mem_append_right _ (List.mem_singleton_self _), h⟩⟩

theorem keeps_selectResponses (key : Key) :
    StoreKeeps commands distinct index
      (fun responses after _ now => after = [] ∧
        responses = (now.responsesAt key).mergeSort PoolResponse.upTo ∧ StoreValid now)
      (Transaction.ask (.selectResponses key)) [] locks tables := by
  refine keeps_asked fun now hlater found hfound => ?_
  cases hfound
  exact ⟨rfl, rfl, hlater.valid⟩

theorem keeps_getOrder (organizationId orderId : String) :
    StoreKeeps commands distinct index
      (fun order after taken now => after = [] ∧
        ReadsOrder (organizationId, orderId) order taken now)
      (PostgresOrderRepository.get organizationId orderId) [] locks tables := by
  refine (keeps_selectOrder (organizationId, orderId)).bind fun row after _ now h => ?_
  obtain ⟨rfl, hrow⟩ := h
  cases row with
  | none => exact trivial
  | some row =>
      obtain ⟨hlocked, hstored⟩ := hrow row rfl
      refine ((keeps_selectResponses (organizationId, orderId)).frame
        (stable_order hlocked (some row) _) ⟨hstored, rfl⟩).bind
          fun responses after more later h => ?_
      obtain ⟨⟨rfl, rfl, hvalid⟩, hmore, hkept, -⟩ := h
      refine ⟨rfl, hmore hlocked, ?_, hvalid⟩
      rw [storedOrder_eq, hkept]
      rfl

/-! ### Saving an order -/

/-- The order fits where it goes: what stands there has the expected version, and nobody else has
its executor. -/
structure Places (order : WorkOrder) (expectedVersion : Option Nat) (tables : StoreTables) :
    Prop where
  version : (tables.orders.get? (orderKey order)).map WorkOrder.version = expectedVersion
  free : ∀ executor, UnitOfWork.occupies order = some executor →
    Unoccupied (orderKey order) executor tables

theorem stable_places {order : WorkOrder} (locked : orderLocks order ⊆ locks)
    (expectedVersion : Option Nat) :
    (storeIsolation commands distinct).Stable index locks (Places order expectedVersion) := by
  intro before after beside places
  have hkey : StoreLock.order (orderKey order) ∈ locks := locked (List.mem_cons_self ..)
  constructor
  · obtain ⟨hsame, -⟩ := stable_order hkey _ _ before after beside ⟨rfl, rfl⟩
    rw [hsame]
    exact places.version
  · intro executor hoccupies
    have hexecutor : StoreLock.executor executor ∈ locks := by
      apply locked
      simp [orderLocks, hoccupies]
    exact stable_unoccupied hexecutor before after beside (places.free executor hoccupies)

theorem places_of_checked {order : WorkOrder} {expectedVersion : Option Nat}
    (version : (tables.orders.get? (orderKey order)).map WorkOrder.version = expectedVersion)
    (checked : ¬tables.violates order) : Places order expectedVersion tables := by
  refine ⟨version, fun executor hoccupies other row hne hrow htoo => checked ?_⟩
  refine List.any_eq_true.mpr ⟨(other, row), (Dict.get?_eq_some _ _ _).mp hrow, ?_⟩
  have hother : other ≠ (order.organizationId, order.id) := hne
  simp [hother, hoccupies, htoo]

theorem violates_congr {left right : StoreTables} (h : left.orders = right.orders)
    (order : WorkOrder) : left.violates order = right.violates order := by
  unfold StoreTables.violates
  rw [h]

section save

variable (order : WorkOrder) (plain : ∀ tables, (written writes tables).orders = tables.orders)

/-- What a statement that puts the row of an order promises where it succeeds. -/
def PutsRow (order : WorkOrder) (expectedVersion : Option Nat) (writes : List StoreWrite)
    (succeeded : Bool) (after : List StoreWrite) (taken : List StoreLock) (now : StoreTables) :
    Prop :=
  succeeded = true → after = writes ++ [.order (orderKey order) (orderRow order)] ∧
    orderLocks order ⊆ taken ∧ Places order expectedVersion now

include plain in
theorem keeps_insertOrder :
    StoreKeeps commands distinct index (PutsRow order none writes)
      (Transaction.ask (.insertOrder order)) writes locks tables := by
  refine keeps_asked fun now _ found hfound hsucceeded => ?_
  change StoreStatement.execute (.insertOrder order) (written writes now) = .ok found at hfound
  simp only [StoreStatement.execute, violates_congr (plain now), plain] at hfound
  by_cases hthere : now.orders.contains (order.organizationId, order.id) = true
  · rw [if_pos hthere] at hfound
    cases hfound
    contradiction
  · rw [if_neg hthere] at hfound
    by_cases hviolates : now.violates order = true
    · rw [if_pos hviolates] at hfound
      contradiction
    · rw [if_neg hviolates] at hfound
      cases hfound
      refine ⟨rfl, List.subset_append_right .., places_of_checked ?_ hviolates⟩
      have hnone : now.orders.get? (orderKey order) = none :=
        Option.not_isSome_iff_eq_none.mp hthere
      rw [hnone]
      rfl

include plain in
theorem keeps_updateOrder (expectedVersion : Nat) :
    StoreKeeps commands distinct index (PutsRow order (some expectedVersion) writes)
      (Transaction.ask (.updateOrder order expectedVersion)) writes locks tables := by
  refine keeps_asked fun now _ found hfound hsucceeded => ?_
  change StoreStatement.execute (.updateOrder order expectedVersion) (written writes now) =
    .ok found at hfound
  simp only [StoreStatement.execute, violates_congr (plain now), plain] at hfound
  by_cases hversion : ((now.orders.get? (order.organizationId, order.id)).any fun row =>
      row.version = expectedVersion) = true
  · rw [if_pos hversion] at hfound
    by_cases hviolates : now.violates order = true
    · rw [if_pos hviolates] at hfound
      contradiction
    · rw [if_neg hviolates] at hfound
      cases hfound
      refine ⟨rfl, List.subset_append_right .., places_of_checked ?_ hviolates⟩
      change ((now.orders.get? (orderKey order)).any _) = true at hversion
      cases hrow : now.orders.get? (orderKey order) with
      | none =>
          rw [hrow] at hversion
          contradiction
      | some row =>
          rw [hrow] at hversion
          exact congrArg some (of_decide_eq_true hversion)
  · rw [if_neg hversion] at hfound
    cases hfound
    contradiction

end save

theorem responsesAt_deleted (writes : List StoreWrite) (key : Key) (tables : StoreTables) :
    (written (writes ++ [.responses key []]) tables).responsesAt key = [] := by
  rw [written_append]
  show (((written writes tables).responses.set key []).get? key).getD [] = []
  rw [Dict.get?_set_self]
  rfl

theorem keeps_replaceResponses (order : WorkOrder) :
    StoreKeeps commands distinct index
      (fun _ after _ _ => after = writes ++ ([.responses (orderKey order) []] ++
        responseWrites order))
      (PostgresOrderRepository.replaceResponses order) writes locks tables := by
  intro now hlater found hfound
  cases hfound
  unfold responseWrites
  by_cases hempty : order.poolResponses.entries ≠ []
  · simp only [if_pos hempty]
    refine keeps_asked fun last _ found hfound => ?_
    change StoreStatement.execute (.insertResponses (orderKey order) order.poolResponses.values)
      (written (writes ++ [.responses (orderKey order) []]) last) = .ok found at hfound
    simp only [StoreStatement.execute, responsesAt_deleted, List.nil_append] at hfound
    split at hfound
    · cases hfound
      exact List.append_assoc ..
    · contradiction
  · simp only [if_neg hempty]
    exact (List.append_nil _).symm ▸ rfl

theorem keeps_saveOrder (order : WorkOrder) (expectedVersion : Option Nat)
    (plain : ∀ tables, (written writes tables).orders = tables.orders) :
    StoreKeeps commands distinct index
      (fun _ after taken now => after = writes ++ orderWrites order ∧ orderLocks order ⊆ taken ∧
        Places order expectedVersion now)
      (PostgresOrderRepository.save order expectedVersion) writes locks tables := by
  have hrest (after taken now)
      (puts : PutsRow order expectedVersion writes true after taken now) :
      StoreKeeps commands distinct index
        (fun _ after taken now => after = writes ++ orderWrites order ∧
          orderLocks order ⊆ taken ∧ Places order expectedVersion now)
        (PostgresOrderRepository.replaceResponses order) after taken now := by
    obtain ⟨rfl, hlocked, hplaces⟩ := puts rfl
    refine ((keeps_replaceResponses order).frame (stable_places hlocked _) hplaces).weaken ?_
    rintro value after more later ⟨rfl, hmore, hplaces⟩
    exact ⟨List.append_assoc .., List.Subset.trans hlocked hmore, hplaces⟩
  cases expectedVersion with
  | none =>
      refine (keeps_insertOrder order plain).bind fun succeeded after taken now h => ?_
      cases succeeded with
      | false => exact trivial
      | true => exact hrest after taken now h
  | some version =>
      refine (keeps_updateOrder order plain version).bind fun succeeded after taken now h => ?_
      cases succeeded with
      | false => exact trivial
      | true => exact hrest after taken now h

/-! ### Numbers and events -/

theorem keeps_allocatePublicNumber (organizationId : String) :
    StoreKeeps commands distinct index
      (fun _ after _ _ => ∃ value, after = writes ++ [.counter organizationId value])
      (PostgresOrderRepository.allocatePublicNumber organizationId) writes locks tables := by
  intro now _ found hfound
  change StoreStatement.execute (.allocateNumber organizationId) _ = .ok found at hfound
  simp only [StoreStatement.execute] at hfound
  split at hfound
  · cases hfound
    exact keeps_attempt fun number _ => ⟨_, rfl⟩
  · contradiction

/-- Where no id is in the outbox already, every event goes in. -/
theorem insertedEvents_fresh {outbox events inserted : List DomainEvent}
    (fresh : ∀ event ∈ events, ∀ other ∈ outbox, other.eventId ≠ event.eventId)
    (nodup : (events.map DomainEvent.eventId).Nodup)
    (h : insertedEvents outbox events = .ok inserted) : inserted = events := by
  induction events generalizing outbox inserted with
  | nil =>
      cases h
      rfl
  | cons event rest ih =>
      have hnone : ¬(outbox.any fun other => other.eventId = event.eventId) = true := by
        simpa using fresh event (List.mem_cons_self ..)
      rw [insertedEvents, if_neg hnone] at h
      split at h
      · contradiction
      · obtain ⟨later, hlater, rfl⟩ := except_map_ok.mp h
        rw [List.map_cons, List.nodup_cons] at nodup
        rw [ih (fun other hother before hbefore => ?_) nodup.2 hlater]
        rcases List.mem_append.mp hbefore with hold | hnew
        · exact fresh other (List.mem_cons_of_mem _ hother) before hold
        · rw [List.mem_singleton.mp hnew]
          exact fun hsame => nodup.1 (hsame ▸ List.mem_map_of_mem hother)

theorem keeps_addEvents {command : Command} (mine : commands[index]? = some command)
    {events : List DomainEvent} (own : ∀ event ∈ events, event.eventId ∈ command.eventIds)
    (nodup : (events.map DomainEvent.eventId).Nodup)
    (plain : ∀ tables, (written writes tables).outbox = tables.outbox) :
    StoreKeeps commands distinct index
      (fun _ after _ _ => after = writes ++ eventWrites events)
      (PostgresOutbox.add events) writes locks tables := by
  unfold PostgresOutbox.add eventWrites
  by_cases hempty : events ≠ []
  · simp only [if_pos hempty]
    refine keeps_asked fun now hlater found hfound => ?_
    change StoreStatement.execute (.insertEvents events) (written writes now) = .ok found at hfound
    simp only [StoreStatement.execute, plain] at hfound
    split at hfound
    · contradiction
    · rename_i inserted hinserted
      have hfresh : inserted = events := by
        refine insertedEvents_fresh (fun event hmem other hother hsame => ?_) nodup hinserted
        exact hlater.known command mine other hother (hsame ▸ own event hmem)
      cases hfound
      rw [hfresh]
  · simp only [if_neg hempty]
    exact (List.append_nil _).symm

/-! ### Sessions -/

/-- A session as it is read under its lock, with a latest point that may be an older one. -/
structure ReadsSession (key : Key) (loaded : LoadedSession) (row : SessionRow)
    (locks : List StoreLock) (tables : StoreTables) : Prop where
  locked : .session key ∈ locks
  stored : tables.tracking.sessions.get? key = some row
  loads : ∃ latest, loaded = trackingFromRow key row latest
  counted : loaded.session.pointCount = row.pointCount

theorem pointsOf_of_latest {tracking : TrackingTables} {key : Key} {latest : PointRow}
    (h : tracking.latest key = some latest) : tracking.pointsOf key ≠ [] := by
  intro hnone
  unfold TrackingTables.latest at h
  rw [hnone] at h
  contradiction

/-- The point that a statement sees when it begins. -/
theorem keeps_beginSelectSession (key : Key)
    (plain : ∀ tables, (written writes tables).tracking = tables.tracking) :
    StoreKeeps commands distinct index
      (fun seen after _ now => after = writes ∧ ∀ latest, seen = some (some latest) →
        now.tracking.pointsOf key ≠ [])
      (Transaction.ask (.beginSelectSession key)) writes locks tables := by
  refine keeps_asked fun now _ found hfound => ?_
  change StoreStatement.execute (.beginSelectSession key) (written writes now) = .ok found at hfound
  simp only [StoreStatement.execute, plain] at hfound
  cases hfound
  refine ⟨List.append_nil _, fun latest hseen => ?_⟩
  simp only at hseen
  split at hseen
  · obtain ⟨point, hpoint, -⟩ := Option.map_eq_some_iff.mp (Option.some.inj hseen)
    exact pointsOf_of_latest hpoint
  · contradiction

theorem keeps_selectSession (key : Key)
    (plain : ∀ tables, (written writes tables).tracking = tables.tracking) :
    StoreKeeps commands distinct index
      (fun row after taken now => after = writes ∧ .session key ∈ taken ∧
        row = now.tracking.sessions.get? key ∧ StoreValid now)
      (Transaction.ask (.selectSession key)) writes locks tables := by
  refine keeps_asked fun now hlater found hfound => ?_
  change StoreStatement.execute (.selectSession key) (written writes now) = .ok found at hfound
  simp only [StoreStatement.execute, plain] at hfound
  cases hfound
  exact ⟨List.append_nil _, List.mem_append_right _ (List.mem_singleton_self _), rfl,
    hlater.valid⟩

theorem keeps_getSession (organizationId sessionId : String)
    (plain : ∀ tables, (written writes tables).tracking = tables.tracking) :
    StoreKeeps commands distinct index
      (fun loaded after taken now => after = writes ∧
        ∃ row, ReadsSession (organizationId, sessionId) loaded row taken now)
      (PostgresTrackingRepository.get organizationId sessionId) writes locks tables := by
  refine (keeps_beginSelectSession (organizationId, sessionId) plain).bind
    fun seen after taken now h => ?_
  obtain ⟨rfl, hseen⟩ := h
  cases seen with
  | none => exact trivial
  | some latest =>
      refine ((keeps_selectSession (organizationId, sessionId) plain).frame
        (stable_points (organizationId, sessionId) _) List.prefix_rfl).bind
          fun row after more later h => ?_
      obtain ⟨⟨rfl, hlocked, hrow, hvalid⟩, -, hgrows⟩ := h
      cases row with
      | none => exact trivial
      | some row =>
          refine ⟨rfl, row, hlocked, hrow.symm, ⟨latest, rfl⟩, ?_⟩
          show countPoints latest row.pointCount = row.pointCount
          apply if_neg
          rintro ⟨hsome, hzero⟩
          obtain ⟨point, rfl⟩ := Option.isSome_iff_exists.mp hsome
          have hcounted := hvalid.counted _ row hrow.symm
          rw [hzero] at hcounted
          have hnone := List.map_eq_nil_iff.mp hcounted
          rw [hnone] at hgrows
          exact hseen point rfl (List.prefix_nil.mp hgrows)

theorem keeps_selectActive (organizationId orderId : String)
    (plain : ∀ tables, (written writes tables).tracking = tables.tracking) :
    StoreKeeps commands distinct index
      (fun seen after taken now => after = writes ∧
        match seen with
        | none => Unvisited (organizationId, orderId) now
        | some sessionId => .session (organizationId, sessionId) ∈ taken ∧ ∃ row,
            now.tracking.sessions.get? (organizationId, sessionId) = some row ∧
              row.status = .active ∧ row.workOrderId = orderId)
      (Transaction.ask (.selectActive organizationId orderId)) writes locks tables := by
  refine keeps_asked fun now _ found hfound => ?_
  change StoreStatement.execute (.selectActive organizationId orderId) (written writes now) =
    .ok found at hfound
  simp only [StoreStatement.execute, plain] at hfound
  split at hfound
  · rename_i hnone
    cases hfound
    refine ⟨List.append_nil _, fun other row hrow hactive hvisits => ?_⟩
    have hrefused := List.find?_eq_none.mp hnone (other, row) ((Dict.get?_eq_some _ _ _).mp hrow)
    simp only [Prod.mk.injEq] at hvisits
    simp [hvisits.1, hvisits.2, hactive] at hrefused
  · rename_i entry hsome
    cases hfound
    have hfits := List.find?_some hsome
    simp only [Bool.and_eq_true, decide_eq_true_eq] at hfits
    obtain ⟨⟨horganization, horder⟩, hactive⟩ := hfits
    have hkey : entry.1 = (organizationId, entry.1.2) := Prod.ext horganization rfl
    refine ⟨List.append_nil _, List.mem_append_right _ ?_, entry.2, ?_, hactive, horder⟩
    · rw [← hkey]
      exact List.mem_singleton_self _
    · rw [← hkey]
      exact (Dict.get?_eq_some _ _ _).mpr (List.mem_of_find?_eq_some hsome)

/-- What the search for the active session of a locked order finds. -/
def FindsActive (key : Key) (found : Option LoadedSession) (locks : List StoreLock)
    (tables : StoreTables) : Prop :=
  match found with
  | none => Unvisited key tables
  | some loaded => ∃ sessionId row, ReadsSession (key.1, sessionId) loaded row locks tables ∧
      row.status = .active ∧ row.workOrderId = key.2

theorem keeps_findActive (organizationId orderId : String)
    (plain : ∀ tables, (written writes tables).tracking = tables.tracking) :
    StoreKeeps commands distinct index
      (fun found after taken now => after = writes ∧
        FindsActive (organizationId, orderId) found taken now)
      (PostgresTrackingRepository.findActiveForOrder organizationId orderId) writes locks
      tables := by
  refine (keeps_selectActive organizationId orderId plain).bind fun seen after taken now h => ?_
  obtain ⟨rfl, hseen⟩ := h
  cases seen with
  | none => exact ⟨rfl, hseen⟩
  | some sessionId =>
      obtain ⟨hlocked, row, hrow, hactive, hvisits⟩ := hseen
      refine ((keeps_getSession organizationId sessionId plain).frame
        (stable_session hlocked (some row) _) ⟨hrow, rfl⟩).bind fun loaded after more later h => ?_
      obtain ⟨⟨rfl, found, hreads⟩, -, hsame, -⟩ := h
      have hfound : found = row := Option.some.inj (hreads.stored.symm.trans hsame)
      subst hfound
      exact ⟨rfl, sessionId, found, hreads, hactive, hvisits⟩

/-! ### Saving a session -/

def loadedKey (loaded : LoadedSession) : Key :=
  (loaded.session.organizationId, loaded.session.id)

def pointWrites (key : Key) (start : Nat) (points : List TrackingPoint) : List StoreWrite :=
  if points ≠ [] then [.points (PostgresTrackingRepository.numberedPoints key start points)] else []

/-- The row that a session is saved in, where the expected one was found. -/
def SavedRow (session : TrackingSession) (row : SessionRow) (stored : Option SessionRow) :
    (expectedVersion : Option Nat) → Prop
  | none => stored = none ∧ row = .ofSession session
  | some version => ∃ found, stored = some found ∧ found.version = version ∧
      row = { SessionRow.ofSession session with createdAt := found.createdAt }

theorem keeps_insertSession (key : Key) (session : TrackingSession)
    (plain : ∀ tables, (written writes tables).tracking = tables.tracking) :
    StoreKeeps commands distinct index
      (fun succeeded after taken now => succeeded = true → .session key ∈ taken ∧
        ∃ row, after = writes ++ [.session key row] ∧
          SavedRow session row (now.tracking.sessions.get? key) none)
      (Transaction.ask (.insertSession key (.ofSession session))) writes locks tables := by
  refine keeps_asked fun now _ found hfound hsucceeded => ?_
  change StoreStatement.execute (.insertSession key (.ofSession session)) (written writes now) =
    .ok found at hfound
  simp only [StoreStatement.execute, plain] at hfound
  by_cases hthere : now.tracking.sessions.contains key = true
  · rw [if_pos hthere] at hfound
    cases hfound
    contradiction
  · rw [if_neg hthere] at hfound
    split at hfound
    · contradiction
    · cases hfound
      refine ⟨List.mem_append_right _ (List.mem_cons_self ..), _, rfl, ?_, rfl⟩
      exact Option.not_isSome_iff_eq_none.mp hthere

theorem keeps_updateSession (key : Key) (session : TrackingSession) (expectedVersion : Nat)
    (plain : ∀ tables, (written writes tables).tracking = tables.tracking) :
    StoreKeeps commands distinct index
      (fun succeeded after taken now => succeeded = true → .session key ∈ taken ∧
        ∃ row, after = writes ++ [.session key row] ∧
          SavedRow session row (now.tracking.sessions.get? key) (some expectedVersion))
      (Transaction.ask (.updateSession key (.ofSession session) expectedVersion)) writes locks
      tables := by
  refine keeps_asked fun now _ found hfound hsucceeded => ?_
  change StoreStatement.execute (.updateSession key (.ofSession session) expectedVersion)
    (written writes now) = .ok found at hfound
  simp only [StoreStatement.execute, plain] at hfound
  cases hrow : now.tracking.sessions.get? key with
  | none =>
      rw [hrow] at hfound
      cases hfound
      contradiction
  | some row =>
      simp only [hrow] at hfound
      by_cases hversion : row.version = expectedVersion
      · rw [if_pos hversion] at hfound
        split at hfound
        · contradiction
        · cases hfound
          exact ⟨List.mem_append_right _ (List.mem_cons_self ..), _, rfl, row, rfl, hversion, rfl⟩
      · rw [if_neg hversion] at hfound
        cases hfound
        contradiction

theorem keeps_appendNewPoints (loaded : LoadedSession) :
    StoreKeeps commands distinct index
      (fun _ after _ _ => ∃ points, loaded.pendingPoints = .ok points ∧
        after = writes ++ pointWrites (loadedKey loaded) (loaded.persisted + 1) points)
      (PostgresTrackingRepository.appendNewPoints loaded) writes locks tables := by
  cases hpending : loaded.pendingPoints with
  | error failure =>
      simp only [PostgresTrackingRepository.appendNewPoints, hpending]
      exact trivial
  | ok points =>
      simp only [PostgresTrackingRepository.appendNewPoints, hpending, pointWrites]
      show StoreKeeps commands distinct index _ (if points ≠ [] then _ else _) writes locks tables
      by_cases hempty : points ≠ []
      · simp only [if_pos hempty]
        refine keeps_asked fun now _ found hfound => ⟨points, rfl, ?_⟩
        change StoreStatement.execute (.insertPoints _) (written writes now) = .ok found at hfound
        simp only [StoreStatement.execute] at hfound
        split at hfound
        · contradiction
        · cases hfound
          exact congrArg (writes ++ ·) (if_pos hempty).symm
      · simp only [if_neg hempty]
        exact ⟨points, rfl, by rw [if_neg hempty, List.append_nil]⟩

/-- What saving a session has written. -/
def PutsSession (loaded : LoadedSession) (expectedVersion : Option Nat)
    (writes after : List StoreWrite) (taken : List StoreLock) (now : StoreTables) : Prop :=
  .session (loadedKey loaded) ∈ taken ∧ ∃ row points,
    loaded.pendingPoints = .ok points ∧
      after = writes ++ (.session (loadedKey loaded) row ::
        pointWrites (loadedKey loaded) (loaded.persisted + 1) points) ∧
      SavedRow loaded.session row (now.tracking.sessions.get? (loadedKey loaded))
        expectedVersion

theorem keeps_saveSession (loaded : LoadedSession) (expectedVersion : Option Nat)
    (plain : ∀ tables, (written writes tables).tracking = tables.tracking) :
    StoreKeeps commands distinct index
      (fun _ after taken now => PutsSession loaded expectedVersion writes after taken now)
      (PostgresTrackingRepository.save loaded expectedVersion) writes locks tables := by
  have hrest (after taken now) (locked : .session (loadedKey loaded) ∈ taken)
      (puts : ∃ row, after = writes ++ [.session (loadedKey loaded) row] ∧
        SavedRow loaded.session row (now.tracking.sessions.get? (loadedKey loaded))
          expectedVersion) :
      StoreKeeps commands distinct index
        (fun _ after taken now => PutsSession loaded expectedVersion writes after taken now)
        (PostgresTrackingRepository.appendNewPoints loaded) after taken now := by
    obtain ⟨row, rfl, hsaved⟩ := puts
    refine ((keeps_appendNewPoints loaded).frame (stable_session locked _ _) ⟨rfl, rfl⟩).weaken ?_
    rintro value after more later ⟨⟨points, hpending, rfl⟩, hmore, hsame, -⟩
    refine ⟨hmore locked, row, points, hpending, List.append_assoc .., ?_⟩
    rw [hsame]
    exact hsaved
  cases expectedVersion with
  | none =>
      refine (keeps_insertSession (loadedKey loaded) loaded.session plain).bind
        fun succeeded after taken now h => ?_
      cases succeeded with
      | false => exact trivial
      | true => exact hrest after taken now (h rfl).1 (h rfl).2
  | some version =>
      refine (keeps_updateSession (loadedKey loaded) loaded.session version plain).bind
        fun succeeded after taken now h => ?_
      cases succeeded with
      | false => exact trivial
      | true => exact hrest after taken now (h rfl).1 (h rfl).2

end promises

end DispatchCore.Application
