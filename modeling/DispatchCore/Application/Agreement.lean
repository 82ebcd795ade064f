import DispatchCore.Application.Placing
import DispatchCore.Application.Submissions
import DispatchCore.Library.Runs

/-! Two services kept by hand.  As long as their stores hold the same, a shared
command proposes the same to both; the commits then part where an identifier or
a spelling reaches across organizations, and the services themselves part over
source events and late points. -/
namespace DispatchCore.Application

open DispatchCore.Library DispatchCore.Domain DispatchCore.Infrastructure

/-- The executor an order occupies, as the synchronous commit spells it. -/
def spelledOccupant (order : WorkOrder) : Option String :=
  (UnitOfWork.occupies order).map InMemoryUnitOfWork.joined

namespace Proposal

/-- The synchronous store with what is proposed written into it. -/
def put (proposal : Proposal) (store : MemoryStore) : MemoryStore :=
  { store with
    orders := proposal.order.elim store.orders fun saved =>
      store.orders.set saved.1.id saved.1.pullEvents.2
    trackingSessions := proposal.session.elim store.trackingSessions fun saved =>
      store.trackingSessions.set (sessionKey saved.1) saved.1.pullEvents.2
    outboxEvents := store.outboxEvents ++ proposal.events }

/-- The records with what is proposed written into them. -/
def post (proposal : Proposal) (records : Records) : Records :=
  { orders := proposal.order.elim records.orders fun saved =>
      records.orders.set (orderKey saved.1) saved.1.pullEvents.2
    trackingSessions := proposal.session.elim records.trackingSessions fun saved =>
      records.trackingSessions.set (sessionKey saved.1) saved.1.pullEvents.2
    outboxEvents := records.outboxEvents ++ proposal.events }

/-- What the proposal replaces is stored as its reader saw it. -/
def Current (proposal : Proposal) (records : Records) : Prop :=
  (∀ saved, proposal.order = some saved →
    (records.orders.get? (orderKey saved.1)).map WorkOrder.version = saved.2) ∧
  ∀ saved, proposal.session = some saved →
    (records.trackingSessions.get? (sessionKey saved.1)).map TrackingSession.version = saved.2

/-- No other organization uses the identifier of the order that is proposed. -/
def Alone (proposal : Proposal) (records : Records) : Prop :=
  ∀ saved, proposal.order = some saved → ∀ key order,
    records.orders.get? key = some order → key.2 = saved.1.id → key = orderKey saved.1

end Proposal

section commit

variable {proposal : Proposal}

theorem memory_checkVersion_ok {κ α : Type} [DecidableEq κ] (shown : κ → String)
    (version : α → Nat) (stored : Dict κ α) (aggregateId : κ) (expectedVersion : Option Nat) :
    InMemoryUnitOfWork.checkVersion shown version stored aggregateId expectedVersion = .ok () ↔
      (stored.get? aggregateId).map version = expectedVersion := by
  unfold InMemoryUnitOfWork.checkVersion
  cases expectedVersion with
  | none => cases stored.get? aggregateId <;> simp
  | some expected =>
      cases stored.get? aggregateId with
      | none => simp
      | some current =>
          by_cases h : version current = expected <;> simp [h]

theorem memory_checkCollectionVersions_ok {κ α : Type} [DecidableEq κ] (shown : κ → String)
    (version : α → Nat) (stored : Dict κ α) (staged : List (κ × α × Option Nat)) :
    InMemoryUnitOfWork.checkCollectionVersions shown version stored staged = .ok () ↔
      ∀ entry ∈ staged, (stored.get? entry.1).map version = entry.2.2 := by
  induction staged with
  | nil => simp [InMemoryUnitOfWork.checkCollectionVersions]
  | cons entry rest ih =>
      simp only [InMemoryUnitOfWork.checkCollectionVersions, except_bind_ok, List.forall_mem_cons]
      constructor
      · rintro ⟨_, hfirst, hrest⟩
        exact ⟨(memory_checkVersion_ok _ _ _ _ _).mp hfirst, ih.mp hrest⟩
      · rintro ⟨hfirst, hrest⟩
        exact ⟨(), (memory_checkVersion_ok _ _ _ _ _).mpr hfirst, ih.mpr hrest⟩

/-- When a proposal is accepted by the synchronous store, and what it leaves. -/
theorem submit_ok {store after : MemoryStore} :
    proposal.submit store = .ok after ↔
      (∀ saved, proposal.order = some saved →
        (store.orders.get? saved.1.id).map WorkOrder.version = saved.2) ∧
      (∀ saved, proposal.session = some saved →
        (store.trackingSessions.get? (sessionKey saved.1)).map TrackingSession.version =
          saved.2) ∧
      (proposal.put store).orders.Exclusive spelledOccupant ∧ after = proposal.put store := by
  have hstored : proposal.staged.stored store = proposal.put store := by
    obtain ⟨_ | order, _ | session⟩ := proposal <;> rfl
  have hcapacity : proposal.staged.checkExecutorCapacity store = .ok () ↔
      (proposal.put store).orders.Exclusive spelledOccupant := by
    rw [← hstored]
    refine (proposal.staged.checkExecutorCapacity_ok store).trans ?_
    rw [InMemoryUnitOfWork.merged_eq]
    rfl
  have horders : (∀ entry ∈ proposal.staged.stagedOrders.entries,
      (store.orders.get? entry.1).map WorkOrder.version = entry.2.2) ↔
        ∀ saved, proposal.order = some saved →
          (store.orders.get? saved.1.id).map WorkOrder.version = saved.2 := by
    obtain ⟨_ | order, _ | session⟩ := proposal <;>
      simp [Proposal.staged, InMemoryUnitOfWork.stageOrder, InMemoryUnitOfWork.stageTracking,
        InMemoryUnitOfWork.stageEvents, InMemoryUnitOfWork.empty, Dict.set, Dict.assign,
        Dict.empty]
  have hsessions : (∀ entry ∈ proposal.staged.stagedTracking.entries,
      (store.trackingSessions.get? entry.1).map TrackingSession.version = entry.2.2) ↔
        ∀ saved, proposal.session = some saved →
          (store.trackingSessions.get? (sessionKey saved.1)).map TrackingSession.version =
            saved.2 := by
    obtain ⟨_ | order, _ | session⟩ := proposal <;>
      simp [Proposal.staged, InMemoryUnitOfWork.stageOrder, InMemoryUnitOfWork.stageTracking,
        InMemoryUnitOfWork.stageEvents, InMemoryUnitOfWork.empty, Dict.set, Dict.assign,
        Dict.empty, sessionKey]
  unfold Proposal.submit InMemoryUnitOfWork.checkVersions
  rw [← horders, ← hsessions, ← hcapacity, ← hstored]
  constructor
  · intro h
    obtain ⟨_, hversions, h⟩ := except_bind_ok.mp h
    obtain ⟨_, hfirst, hrest⟩ := except_bind_ok.mp hversions
    obtain ⟨_, hfits, hafter⟩ := except_bind_ok.mp h
    cases hafter
    exact ⟨(memory_checkCollectionVersions_ok _ _ _ _).mp hfirst,
      (memory_checkCollectionVersions_ok _ _ _ _).mp hrest, hfits, rfl⟩
  · rintro ⟨hfirst, hrest, hfits, rfl⟩
    refine except_bind_ok.mpr ⟨(), except_bind_ok.mpr ⟨(), ?_, ?_⟩, except_bind_ok.mpr
      ⟨(), hfits, rfl⟩⟩
    · exact (memory_checkCollectionVersions_ok _ _ _ _).mpr hfirst
    · exact (memory_checkCollectionVersions_ok _ _ _ _).mpr hrest

/-- When a proposal is accepted by the asynchronous store, and what it leaves. -/
theorem work_commit_ok {records after : Records} :
    proposal.work.commit records = .ok after ↔
      (∀ saved, proposal.order = some saved →
        (records.orders.get? (orderKey saved.1)).map WorkOrder.version = saved.2) ∧
      (∀ saved, proposal.session = some saved →
        (records.trackingSessions.get? (sessionKey saved.1)).map TrackingSession.version =
          saved.2) ∧
      Capacity (proposal.post records) ∧ after = proposal.post records := by
  have hpost : ({
      orders := records.orders.update proposal.work.orderWrites
      trackingSessions := records.trackingSessions.update proposal.work.trackingWrites
      outboxEvents := records.outboxEvents ++ proposal.work.stagedEvents } : Records) =
        proposal.post records := by
    obtain ⟨_ | order, _ | session⟩ := proposal <;> rfl
  have horders : (∀ entry ∈ proposal.work.stagedOrders.entries,
      (records.orders.get? entry.1).map WorkOrder.version = entry.2.2) ↔
        ∀ saved, proposal.order = some saved →
          (records.orders.get? (orderKey saved.1)).map WorkOrder.version = saved.2 := by
    obtain ⟨_ | order, _ | session⟩ := proposal <;>
      simp [Proposal.work, UnitOfWork.empty, UnitOfWork.stageOrder, UnitOfWork.stageTracking,
        UnitOfWork.stageEvents, Dict.empty, Dict.set, Dict.assign, orderKey]
  have hsessions : (∀ entry ∈ proposal.work.stagedTracking.entries,
      (records.trackingSessions.get? entry.1).map TrackingSession.version = entry.2.2) ↔
        ∀ saved, proposal.session = some saved →
          (records.trackingSessions.get? (sessionKey saved.1)).map TrackingSession.version =
            saved.2 := by
    obtain ⟨_ | order, _ | session⟩ := proposal <;>
      simp [Proposal.work, UnitOfWork.empty, UnitOfWork.stageOrder, UnitOfWork.stageTracking,
        UnitOfWork.stageEvents, Dict.empty, Dict.set, Dict.assign, sessionKey]
  rw [commit_ok, horders, hsessions, hpost]
  constructor
  · rintro ⟨horder, hsession, hcapacity, rfl⟩
    exact ⟨horder, hsession, hcapacity, rfl⟩
  · rintro ⟨horder, hsession, hcapacity, rfl⟩
    exact ⟨horder, hsession, hcapacity, rfl⟩

end commit
/-! ### Stores that hold the same -/

/-- The two stores hold the same orders, sessions and events. -/
structure Same (memory : MemoryStore) (records : Records) : Prop where
  orders : memory.orders.values = records.orders.values
  sessions : memory.trackingSessions = records.trackingSessions
  events : memory.outboxEvents = records.outboxEvents

/-- What holds of the synchronous store whatever was asked of it. -/
structure Kept (memory : MemoryStore) : Prop where
  keyed : ∀ id order, memory.orders.get? id = some order → order.id = id
  spelled : memory.orders.Exclusive spelledOccupant

theorem kept_empty : Kept .empty :=
  ⟨fun id order h => by contradiction, Dict.exclusive_empty _⟩

section same

variable {memory : MemoryStore} {records : Records}

/-- Where both hold the same, the entries are the same but for the organization in the key. -/
theorem Same.entries (same : Same memory records) (kept : Kept memory) (valid : Valid records) :
    memory.orders.entries = records.orders.entries.map fun entry => (entry.1.2, entry.2) := by
  have hrecords := @Dict.entries_of_values _ _ _ records.orders orderKey
    fun key order h => (valid.orderKeyed h).1
  rw [Dict.entries_of_values kept.keyed, same.orders, hrecords, List.map_map]
  rfl

theorem Same.stored_iff (same : Same memory records) (kept : Kept memory) (valid : Valid records)
    {orderId : String} {order : WorkOrder} :
    memory.orders.get? orderId = some order ↔
      records.orders.get? (order.organizationId, orderId) = some order := by
  rw [Dict.get?_eq_some, same.entries kept valid, List.mem_map]
  constructor
  · rintro ⟨⟨key, found⟩, hmem, heq⟩
    obtain ⟨rfl, rfl⟩ := Prod.mk.inj heq
    have hstored := (Dict.get?_eq_some _ _ _).mpr hmem
    have hkey := (valid.orderKeyed hstored).1
    rw [← hstored, ← hkey]
    rfl
  · intro hstored
    exact ⟨_, (Dict.get?_eq_some _ _ _).mp hstored, rfl⟩

theorem Same.stored (same : Same memory records) (kept : Kept memory) (valid : Valid records)
    {key : Key} {order : WorkOrder} (h : records.orders.get? key = some order) :
    memory.orders.get? key.2 = some order := by
  have hwithin : order.organizationId = key.1 := congrArg Prod.fst (valid.orderKeyed h).1
  rw [same.stored_iff kept valid, hwithin]
  exact h

/-- No two organizations have an order under one identifier. -/
theorem Same.one_organization (same : Same memory records) (kept : Kept memory)
    (valid : Valid records) {first second : Key} {left right : WorkOrder}
    (hfirst : records.orders.get? first = some left)
    (hsecond : records.orders.get? second = some right) (h : first.2 = second.2) :
    first = second := by
  have hleft := same.stored kept valid hfirst
  have hright := same.stored kept valid hsecond
  rw [h, hright, Option.some.injEq] at hleft
  rw [← (valid.orderKeyed hfirst).1, ← (valid.orderKeyed hsecond).1, hleft]

theorem Same.reads (same : Same memory records) (kept : Kept memory) (valid : Valid records) :
    readsOfStore memory = readsOfRecords records := by
  have horders : memory.getOrder = records.getOrder := by
    funext organizationId orderId
    unfold MemoryStore.getOrder Records.getOrder
    cases hmemory : memory.orders.get? orderId with
    | none =>
        cases hrecords : records.orders.get? (organizationId, orderId) with
        | none => rfl
        | some order =>
            have hstored := same.stored kept valid hrecords
            rw [hmemory] at hstored
            contradiction
    | some order =>
        have hstored := (same.stored_iff kept valid).mp hmemory
        by_cases hsame : order.organizationId = organizationId
        · rw [← hsame, hstored]
          simp
        · have hrecords : records.orders.get? (organizationId, orderId) = none := by
            cases hother : records.orders.get? (organizationId, orderId) with
            | none => rfl
            | some other =>
                have hkey := same.one_organization kept valid hstored hother rfl
                exact absurd (congrArg Prod.fst hkey) hsame
          rw [hrecords]
          simp [hsame]
  have htracking : memory.getTracking = records.getTracking := by
    funext organizationId sessionId
    unfold MemoryStore.getTracking Records.getTracking
    cases hstored : records.trackingSessions.get? (organizationId, sessionId) <;>
      simp only [same.sessions, hstored]
  have hactive : memory.findActiveForOrder = records.findActiveForOrder := by
    funext organizationId orderId
    unfold MemoryStore.findActiveForOrder Records.findActiveForOrder Records.activeEntries
    rcases hactive : records.trackingSessions.entries.filter _ with _ | ⟨entry, _ | ⟨other, rest⟩⟩ <;>
      simp only [same.sessions, hactive]
  unfold readsOfStore readsOfRecords
  rw [horders, htracking, hactive]

/-- Assigning under the identifier alone does what assigning under the pair does, where no other
organization uses the identifier. -/
theorem assign_rekeyed {key : Key} {order : WorkOrder} {entries : List (Key × WorkOrder)}
    (alone : ∀ entry ∈ entries, entry.1.2 = key.2 → entry.1 = key) :
    Dict.assign key.2 order (entries.map fun entry => (entry.1.2, entry.2)) =
      (Dict.assign key order entries).map fun entry => (entry.1.2, entry.2) := by
  induction entries with
  | nil => rfl
  | cons entry rest ih =>
      have hrest := ih fun other hmem => alone other (List.mem_cons_of_mem _ hmem)
      by_cases h : entry.1 = key
      · simp [Dict.assign, h]
      · have hid : entry.1.2 ≠ key.2 := fun heq => h (alone entry (by simp) heq)
        simp [Dict.assign, h, hid, hrest]

theorem Same.put (same : Same memory records) (kept : Kept memory) (valid : Valid records)
    {proposal : Proposal} (alone : proposal.Alone records) :
    Same (proposal.put memory) (proposal.post records) := by
  obtain ⟨order, session⟩ := proposal
  refine ⟨?_, ?_, ?_⟩
  · cases order with
    | none => exact same.orders
    | some saved =>
        have hentries : (memory.orders.set saved.1.id saved.1.pullEvents.2).entries =
            (records.orders.set (orderKey saved.1) saved.1.pullEvents.2).entries.map
              fun entry => (entry.1.2, entry.2) := by
          change Dict.assign saved.1.id _ memory.orders.entries = _
          rw [same.entries kept valid]
          exact @assign_rekeyed (orderKey saved.1) saved.1.pullEvents.2 records.orders.entries
            fun entry hmem hid =>
              alone saved rfl entry.1 entry.2 ((Dict.get?_eq_some _ _ _).mpr hmem) hid
        change (memory.orders.set saved.1.id saved.1.pullEvents.2).entries.map Prod.snd = _
        rw [hentries, List.map_map]
        rfl
  · cases session with
    | none => exact same.sessions
    | some saved =>
        change memory.trackingSessions.set _ _ = records.trackingSessions.set _ _
        rw [same.sessions]
  · change memory.outboxEvents ++ _ = records.outboxEvents ++ _
    rw [same.events]

theorem Kept.submit (kept : Kept memory) {proposal : Proposal} {after : MemoryStore}
    (h : proposal.submit memory = .ok after) : Kept after := by
  obtain ⟨-, -, hspelled, rfl⟩ := submit_ok.mp h
  refine ⟨fun id order hstored => ?_, hspelled⟩
  obtain ⟨saved, session⟩ := proposal
  cases saved with
  | none => exact kept.keyed id order hstored
  | some saved =>
      change (memory.orders.set saved.1.id saved.1.pullEvents.2).get? id = some order at hstored
      rw [Dict.get?_set] at hstored
      split at hstored
      · rename_i hid
        cases hstored
        exact hid.symm
      · exact kept.keyed id order hstored

end same
/-! ### Where the two part -/

/-- The executor a call puts to work. -/
def taking : Call → Option String
  | .claimFirst executorId => some executorId
  | .assign executorId _ => some executorId
  | _ => none

theorem occupies_taken {call : Call} {order : WorkOrder} {executorId : String}
    (h : taking call = some executorId) (enabled : call.Enabled order) (ambient : Ambient) :
    UnitOfWork.occupies (call.change ambient none order) =
      some (order.organizationId, executorId) := by
  cases call with
  | claimFirst chosen =>
      cases h
      rfl
  | assign chosen actorId =>
      cases h
      have hidle : ¬Call.Idle order (.assign executorId actorId) := fun h => h
      unfold Call.change
      rw [if_neg hidle]
      simp only [Call.writes]
      split <;> rfl
  | _ => contradiction

theorem occupies_of_active {order : WorkOrder} (h : order.status ∈ UnitOfWork.activeStatuses) :
    UnitOfWork.occupies order =
      order.assigneeId.map fun assigneeId => (order.organizationId, assigneeId) := by
  unfold UnitOfWork.occupies
  cases order.assigneeId with
  | none => rfl
  | some assigneeId => simp [h]

theorem occupies_of_idle {order : WorkOrder} (h : order.status ∉ UnitOfWork.activeStatuses) :
    UnitOfWork.occupies order = none := by
  unfold UnitOfWork.occupies
  cases order.assigneeId with
  | none => rfl
  | some assigneeId => simp [h]

theorem occupies_between {order after : WorkOrder}
    (before : order.status ∈ UnitOfWork.activeStatuses)
    (later : after.status ∈ UnitOfWork.activeStatuses)
    (assignee : after.assigneeId = order.assigneeId)
    (within : after.organizationId = order.organizationId) :
    UnitOfWork.occupies after = UnitOfWork.occupies order := by
  rw [occupies_of_active before, occupies_of_active later, assignee, within]

/-- Any other call leaves its executor at work, or nobody. -/
theorem occupies_kept {call : Call} {order : WorkOrder} (h : taking call = none)
    (enabled : call.Enabled order) (ambient : Ambient) :
    UnitOfWork.occupies (call.change ambient none order) = none ∨
      UnitOfWork.occupies (call.change ambient none order) = UnitOfWork.occupies order := by
  cases call with
  | claimFirst chosen => contradiction
  | assign chosen actorId => contradiction
  | claimCoordination coordinatorId =>
      right
      unfold Call.change
      split <;> rfl
  | expressInterest executorId =>
      right
      unfold Call.change
      split <;> rfl
  | withdrawInterest executorId => exact .inr rfl
  | publishPool mode actorId =>
      left
      apply occupies_of_idle
      change WorkOrderStatus.poolOpen ∉ UnitOfWork.activeStatuses
      decide
  | rejectAssignment executorId => exact .inl rfl
  | accept executorId =>
      right
      exact occupies_between (by simp [enabled.1, UnitOfWork.activeStatuses])
        (show WorkOrderStatus.accepted ∈ UnitOfWork.activeStatuses by decide) rfl rfl
  | startTravel executorId =>
      right
      exact occupies_between (by simp [enabled.2, UnitOfWork.activeStatuses])
        (show WorkOrderStatus.enRoute ∈ UnitOfWork.activeStatuses by decide) rfl rfl
  | startWork executorId =>
      right
      have hactive : order.status ∈ UnitOfWork.activeStatuses := by
        have hstatus := enabled.2
        simp only [List.mem_cons, List.not_mem_nil, or_false] at hstatus
        rcases hstatus with h | h <;> simp [h, UnitOfWork.activeStatuses]
      exact occupies_between hactive
        (show WorkOrderStatus.inProgress ∈ UnitOfWork.activeStatuses by decide) rfl rfl
  | complete executorId report =>
      left
      apply occupies_of_idle
      change WorkOrderStatus.completed ∉ UnitOfWork.activeStatuses
      decide
  | cancel reason actorId =>
      left
      apply occupies_of_idle
      change WorkOrderStatus.cancelled ∉ UnitOfWork.activeStatuses
      decide

/-- Both accept and hold the same after it, or both refuse. -/
def Alike (served : Except Failure MemoryStore) (committed : Except Failure Records) : Prop :=
  match served, committed with
  | .ok after, .ok later => Same after later
  | .error _, .error _ => True
  | _, _ => False

section alike

variable {memory : MemoryStore} {records : Records}

theorem Same.lookup (same : Same memory records) (kept : Kept memory) (valid : Valid records)
    {proposal : Proposal} (alone : proposal.Alone records) {saved : WorkOrder × Option Nat}
    (h : proposal.order = some saved) :
    memory.orders.get? saved.1.id = records.orders.get? (orderKey saved.1) := by
  cases hmemory : memory.orders.get? saved.1.id with
  | some order =>
      have hstored := (same.stored_iff kept valid).mp hmemory
      rw [← alone saved h _ _ hstored rfl, hstored]
  | none =>
      cases hrecords : records.orders.get? (orderKey saved.1) with
      | none => rfl
      | some order =>
          have hstored := same.stored kept valid hrecords
          change memory.orders.get? saved.1.id = _ at hstored
          rw [hmemory] at hstored
          contradiction

/-- One proposal put to both, where no other organization uses the identifier of its order. -/
theorem alike_iff (same : Same memory records) (kept : Kept memory) (valid : Valid records)
    {proposal : Proposal} (alone : proposal.Alone records) :
    Alike (proposal.submit memory) (proposal.work.commit records) ↔
      (proposal.Current records → Capacity (proposal.post records) →
        (proposal.put memory).orders.Exclusive spelledOccupant) := by
  have hafter := same.put kept valid alone
  have hserved : (∃ after, proposal.submit memory = .ok after) ↔
      proposal.Current records ∧ (proposal.put memory).orders.Exclusive spelledOccupant := by
    simp only [submit_ok, same.sessions, Proposal.Current]
    constructor
    · rintro ⟨after, horder, hsession, hspelled, -⟩
      refine ⟨⟨fun saved h => ?_, hsession⟩, hspelled⟩
      rw [← same.lookup kept valid alone h]
      exact horder saved h
    · rintro ⟨⟨horder, hsession⟩, hspelled⟩
      refine ⟨_, fun saved h => ?_, hsession, hspelled, rfl⟩
      rw [same.lookup kept valid alone h]
      exact horder saved h
  have hcommitted : (∃ later, proposal.work.commit records = .ok later) ↔
      proposal.Current records ∧ Capacity (proposal.post records) := by
    simp only [work_commit_ok, Proposal.Current]
    constructor
    · rintro ⟨later, horder, hsession, hcapacity, -⟩
      exact ⟨⟨horder, hsession⟩, hcapacity⟩
    · rintro ⟨⟨horder, hsession⟩, hcapacity⟩
      exact ⟨_, horder, hsession, hcapacity, rfl⟩
  -- Executors that are told apart by their spelling are told apart.
  have hfits : (proposal.put memory).orders.Exclusive spelledOccupant →
      Capacity (proposal.post records) := by
    intro hspelled
    rw [capacity_iff]
    exact Dict.Exclusive.of_spelled ((Dict.exclusive_congr hafter.orders _).mp hspelled)
  cases hsubmit : proposal.submit memory with
  | ok after =>
      obtain ⟨hcurrent, hspelled⟩ := hserved.mp ⟨after, hsubmit⟩
      obtain ⟨later, hcommit⟩ := hcommitted.mpr ⟨hcurrent, hfits hspelled⟩
      rw [hcommit]
      obtain ⟨-, -, -, rfl⟩ := submit_ok.mp hsubmit
      obtain ⟨-, -, -, rfl⟩ := work_commit_ok.mp hcommit
      exact iff_of_true hafter fun _ _ => hspelled
  | error failure =>
      have hrefused (hcurrent : proposal.Current records) :
          ¬(proposal.put memory).orders.Exclusive spelledOccupant := by
        intro hspelled
        obtain ⟨after, h⟩ := hserved.mpr ⟨hcurrent, hspelled⟩
        rw [hsubmit] at h
        contradiction
      cases hcommit : proposal.work.commit records with
      | ok later =>
          obtain ⟨hcurrent, hcapacity⟩ := hcommitted.mp ⟨later, hcommit⟩
          exact iff_of_false id fun h => hrefused hcurrent (h hcurrent hcapacity)
      | error other =>
          refine iff_of_true trivial fun hcurrent hcapacity => ?_
          obtain ⟨later, h⟩ := hcommitted.mpr ⟨hcurrent, hcapacity⟩
          rw [hcommit] at h
          contradiction

/-- A proposal that puts nobody to work is taken alike. -/
theorem alike_of_kept (same : Same memory records) (kept : Kept memory) (valid : Valid records)
    {proposal : Proposal}
    (replaces : ∀ saved, proposal.order = some saved →
      ∃ order, records.orders.get? (orderKey saved.1) = some order ∧
        (UnitOfWork.occupies saved.1 = none ∨
          UnitOfWork.occupies saved.1 = UnitOfWork.occupies order)) :
    Alike (proposal.submit memory) (proposal.work.commit records) := by
  have alone : proposal.Alone records := by
    intro saved h key order hstored hid
    obtain ⟨previous, hprevious, -⟩ := replaces saved h
    exact same.one_organization kept valid hstored hprevious hid
  rw [alike_iff same kept valid alone]
  intro _ _
  obtain ⟨saved, session⟩ := proposal
  cases saved with
  | none => exact kept.spelled
  | some saved =>
      obtain ⟨order, hstored, hoccupies⟩ := replaces saved rfl
      refine kept.spelled.set_same ?_
      rcases hoccupies with hnone | hsame
      · left
        change (UnitOfWork.occupies saved.1).map InMemoryUnitOfWork.joined = none
        rw [hnone]
        rfl
      · right
        refine ⟨order, same.stored kept valid hstored, ?_⟩
        change (UnitOfWork.occupies saved.1).map InMemoryUnitOfWork.joined = _
        rw [hsame]
        rfl

theorem Same.heldBut (same : Same memory records) (kept : Kept memory) (valid : Valid records)
    {key : Key} {order : WorkOrder} (hstored : records.orders.get? key = some order)
    (spelling : String) :
    memory.orders.HeldBut spelledOccupant key.2 spelling ↔
      records.orders.HeldBut spelledOccupant key spelling := by
  constructor
  · rintro ⟨other, found, hne, hfound, hspelled⟩
    have hother := (same.stored_iff kept valid).mp hfound
    exact ⟨_, found, fun heq => hne (congrArg Prod.snd heq), hother, hspelled⟩
  · rintro ⟨other, found, hne, hfound, hspelled⟩
    refine ⟨other.2, found, fun heq => hne ?_, same.stored kept valid hfound, hspelled⟩
    exact same.one_organization kept valid hfound hstored heq

/-- Whoever the call puts to work is spelled unlike everybody at work elsewhere. -/
def Distinguished (records : Records) (key : Key) (call : Call) : Prop :=
  ∀ executorId order, taking call = some executorId → records.orders.get? key = some order →
    call.Enabled order →
    ¬records.orders.HeldBut UnitOfWork.occupies key (key.1, executorId) →
      ¬records.orders.HeldBut spelledOccupant key (InMemoryUnitOfWork.joined (key.1, executorId))

theorem alike_change (same : Same memory records) (kept : Kept memory)
    (consistent : Consistent records) (ambient : Ambient) (organizationId orderId : String)
    (call : Call) :
    Alike
        ((readsOfRecords records).change organizationId orderId (call.perform ambient none) >>=
          fun proposal => proposal.submit memory)
        ((readsOfRecords records).change organizationId orderId (call.perform ambient none) >>=
          fun proposal => proposal.work.commit records) ↔
      Distinguished records (organizationId, orderId) call := by
  have valid := consistent.valid
  cases hpropose : (readsOfRecords records).change organizationId orderId
      (call.perform ambient none) with
  | error failure =>
      refine iff_of_true trivial fun executorId order _ hstored enabled => ?_
      exfalso
      have hok : (readsOfRecords records).change organizationId orderId
          (call.perform ambient none) = .ok _ :=
        except_bind_ok.mpr ⟨order, getOrder_ok.mpr hstored, except_bind_ok.mpr ⟨_, outcome_ok.mpr
          ((Call.perform_ok ambient none call).mpr ⟨enabled, rfl⟩), rfl⟩⟩
      rw [hpropose] at hok
      contradiction
  | ok proposal =>
      obtain ⟨order, hget, h⟩ := except_bind_ok.mp hpropose
      obtain ⟨changed, houtcome, h⟩ := except_bind_ok.mp h
      cases h
      have hstored := getOrder_ok.mp hget
      obtain ⟨enabled, rfl⟩ := (Call.perform_ok ambient none call).mp (outcome_ok.mp houtcome)
      have hnamed : orderKey (call.change ambient none order) = (organizationId, orderId) := by
        rw [orderKey_change]
        exact (valid.orderKeyed hstored).1
      cases htaking : taking call with
      | none =>
          refine iff_of_true (alike_of_kept same kept valid fun saved h => ?_)
            fun executorId _ h => ?_
          · cases h
            exact ⟨order, by rw [hnamed]; exact hstored, occupies_kept htaking enabled ambient⟩
          · rw [htaking] at h
            contradiction
      | some executorId =>
          have hoccupies := occupies_taken htaking enabled ambient
          have hwithin : order.organizationId = organizationId :=
            congrArg Prod.fst (valid.orderKeyed hstored).1
          have hspelled : spelledOccupant (call.change ambient none order) =
              some (InMemoryUnitOfWork.joined (organizationId, executorId)) := by
            unfold spelledOccupant
            rw [hoccupies, hwithin]
            rfl
          have alone : Proposal.Alone
              ⟨some (call.change ambient none order, some order.version), none⟩ records := by
            intro saved h key other hother hid
            cases h
            exact same.one_organization kept valid hother (by rw [hnamed]; exact hstored) hid
          have hcurrent : Proposal.Current
              ⟨some (call.change ambient none order, some order.version), none⟩ records := by
            refine ⟨fun saved h => ?_, fun saved h => by contradiction⟩
            cases h
            rw [hnamed, hstored]
            rfl
          refine (alike_iff same kept valid alone).trans ?_
          have hid : (call.change ambient none order).id = orderId := congrArg Prod.snd hnamed
          have hfits : Capacity (putOrder (call.change ambient none order) records) ↔
              ¬records.orders.HeldBut UnitOfWork.occupies (organizationId, orderId)
                (organizationId, executorId) := by
            have hexclusive := (capacity_iff records).mp consistent.capacity
            rw [capacity_iff]
            refine (Dict.exclusive_set_iff hexclusive).trans ?_
            rw [hnamed]
            constructor
            · intro h
              exact h _ (hoccupies.trans (by rw [hwithin]))
            · intro h held hheld
              have hsame : some held = some (order.organizationId, executorId) :=
                hheld.symm.trans hoccupies
              rw [Option.some.inj hsame, hwithin]
              exact h
          have hserved : (memory.orders.set (call.change ambient none order).id
              (call.change ambient none order).pullEvents.2).Exclusive spelledOccupant ↔
                ¬records.orders.HeldBut spelledOccupant (organizationId, orderId)
                  (InMemoryUnitOfWork.joined (organizationId, executorId)) := by
            rw [Dict.exclusive_set_iff kept.spelled, hid, ← same.heldBut kept valid hstored]
            constructor
            · intro h
              exact h _ hspelled
            · intro h held hheld
              have hsame : some held = some _ := hheld.symm.trans hspelled
              rw [Option.some.inj hsame]
              exact h
          constructor
          · intro h other _ hother _ _ hfree
            cases htaking.symm.trans hother
            exact hserved.mp (h hcurrent (hfits.mpr hfree))
          · intro h _ hcapacity
            exact hserved.mpr (h executorId order htaking hstored enabled (hfits.mp hcapacity))

/-- Nobody else uses the identifier of a creation that could go through. -/
def Unclaimed (records : Records) (orderId : String) (creation : Creation) : Prop :=
  creation.Complete orderId → ∀ key order, records.orders.get? key = some order →
    key.2 = orderId → key.1 = creation.organizationId

theorem nextNumber_ok (counters : Dict String Nat) (organizationId : String) :
    ∃ number, nextNumber counters organizationId = .ok number ∧ number ≠ "" := by
  have hok := @formatOrderNumber_eq ((counters.get? organizationId).getD 0 + 1) (by omega)
  exact ⟨_, hok, formatOrderNumber_ne_empty hok⟩

theorem alike_create (same : Same memory records) (kept : Kept memory)
    (consistent : Consistent records) (ambient : Ambient) (orderId : String) (creation : Creation)
    (counters : Dict String Nat) :
    Alike
        (creation.propose ambient orderId (nextNumber counters creation.organizationId) >>=
          fun proposal => proposal.submit memory)
        (creation.propose ambient orderId (nextNumber counters creation.organizationId) >>=
          fun proposal => proposal.work.commit records) ↔
      Unclaimed records orderId creation := by
  have valid := consistent.valid
  obtain ⟨number, hnumber, hne⟩ := nextNumber_ok counters creation.organizationId
  have hcomplete := @creation_complete creation ambient orderId number hne
  rw [hnumber]
  cases hmade : creation.order ambient orderId number with
  | error failure =>
      have hpropose : creation.propose ambient orderId (.ok number) = .error failure := by
        simp only [Creation.propose]
        change (creation.order ambient orderId number >>= _) = _
        rw [hmade]
        rfl
      rw [hpropose]
      refine iff_of_true trivial fun complete => ?_
      obtain ⟨order, hother⟩ := hcomplete.mpr complete
      rw [hmade] at hother
      contradiction
  | ok order =>
      have hpropose : creation.propose ambient orderId (.ok number) =
          .ok ⟨some (order, none), none⟩ := by
        simp only [Creation.propose]
        change (creation.order ambient orderId number >>= _) = _
        rw [hmade]
        rfl
      rw [hpropose]
      obtain ⟨hnamed, hsubmitted, hunassigned, -⟩ := creation_ok hmade
      have hidle : UnitOfWork.occupies order = none :=
        occupies_of_idle (by simp [hsubmitted, UnitOfWork.activeStatuses])
      change Alike (Proposal.submit ⟨some (order, none), none⟩ memory)
        ((Proposal.work ⟨some (order, none), none⟩).commit records) ↔ _
      by_cases hunclaimed : Unclaimed records orderId creation
      · refine iff_of_true ?_ hunclaimed
        have alone : Proposal.Alone ⟨some (order, none), none⟩ records := by
          intro saved h key other hother hid
          cases h
          have hkey : key.2 = orderId := hid.trans (congrArg Prod.snd hnamed)
          have hwithin := hunclaimed (hcomplete.mp ⟨order, hmade⟩) key other hother hkey
          rw [hnamed]
          exact Prod.ext hwithin hkey
        rw [alike_iff same kept valid alone]
        intro _ _
        refine kept.spelled.set_same (.inl ?_)
        change (UnitOfWork.occupies order).map InMemoryUnitOfWork.joined = none
        rw [hidle]
        rfl
      · refine iff_of_false (fun halike => ?_) hunclaimed
        unfold Unclaimed at hunclaimed
        push Not at hunclaimed
        obtain ⟨-, key, other, hother, hid, hwithin⟩ := hunclaimed
        have hkey : key.2 = order.id := hid.trans (congrArg Prod.snd hnamed).symm
        have htaken := same.stored kept valid hother
        -- The asynchronous store has room for the order, and takes it.
        have habsent : records.orders.get? (orderKey order) = none := by
          cases hpresent : records.orders.get? (orderKey order) with
          | none => rfl
          | some present =>
              have hsame := same.one_organization kept valid hother hpresent hkey
              rw [hsame, hnamed] at hwithin
              exact absurd rfl hwithin
        have hcapacity : Capacity (putOrder order records) := by
          rw [capacity_iff]
          exact Dict.Exclusive.set_same ((capacity_iff records).mp consistent.capacity) (.inl hidle)
        have hcommit : (Proposal.work ⟨some (order, none), none⟩).commit records =
            .ok (Proposal.post ⟨some (order, none), none⟩ records) := by
          refine work_commit_ok.mpr ⟨fun saved h => ?_, fun saved h => by contradiction,
            hcapacity, rfl⟩
          cases h
          simp [habsent]
        cases hsubmit : Proposal.submit ⟨some (order, none), none⟩ memory with
        | ok after =>
            have hversion := (submit_ok.mp hsubmit).1 (order, none) rfl
            change (memory.orders.get? order.id).map WorkOrder.version = none at hversion
            rw [← hkey, htaken] at hversion
            contradiction
        | error failure =>
            rw [hsubmit, hcommit] at halike
            exact halike

theorem alike_bind {proposed : Except Failure Proposal}
    (h : ∀ proposal, proposed = .ok proposal →
      Alike (proposal.submit memory) (proposal.work.commit records)) :
    Alike (proposed >>= fun proposal => proposal.submit memory)
      (proposed >>= fun proposal => proposal.work.commit records) := by
  cases proposed with
  | error failure => exact trivial
  | ok proposal => exact h proposal rfl

/-- What a call that puts nobody to work replaces. -/
theorem replaces_of_kept (valid : Valid records) {organizationId orderId : String}
    {call : Call} {order changed : WorkOrder} {ambient : Ambient} (htaking : taking call = none)
    (hget : records.getOrder organizationId orderId = .ok order)
    (houtcome : Atomic.outcome (call.perform ambient none) order = .ok changed) :
    ∃ stored, records.orders.get? (orderKey changed) = some stored ∧
      (UnitOfWork.occupies changed = none ∨
        UnitOfWork.occupies changed = UnitOfWork.occupies stored) := by
  have hstored := getOrder_ok.mp hget
  obtain ⟨enabled, rfl⟩ := (Call.perform_ok ambient none call).mp (outcome_ok.mp houtcome)
  refine ⟨order, ?_, occupies_kept htaking enabled ambient⟩
  rw [orderKey_change, (valid.orderKeyed hstored).1, hstored]

theorem alike_startTravel (same : Same memory records) (kept : Kept memory) (valid : Valid records)
    (ambient : Ambient) (sessionAmbient : SessionAmbient)
    (organizationId orderId executorId sessionId : String) :
    Alike
      ((readsOfRecords records).startTravel ambient sessionAmbient organizationId orderId executorId
        sessionId >>= fun proposal => proposal.submit memory)
      ((readsOfRecords records).startTravel ambient sessionAmbient organizationId orderId executorId
        sessionId >>= fun proposal => proposal.work.commit records) := by
  refine alike_bind fun proposal hpropose => ?_
  obtain ⟨order, hget, h⟩ := except_bind_ok.mp hpropose
  obtain ⟨changed, houtcome, h⟩ := except_bind_ok.mp h
  obtain ⟨session, hstarted, h⟩ := except_bind_ok.mp h
  cases h
  refine alike_of_kept same kept valid fun saved h => ?_
  cases h
  exact @replaces_of_kept _ valid organizationId orderId (.startTravel executorId) order changed
    ambient rfl hget houtcome

theorem alike_close (same : Same memory records) (kept : Kept memory) (valid : Valid records)
    {ambient : Ambient} (organizationId orderId : String) {call : Call}
    (htaking : taking call = none) (close : Method Failure TrackingSession Unit) :
    Alike
      ((readsOfRecords records).close organizationId orderId (call.perform ambient none) close >>=
        fun proposal => proposal.submit memory)
      ((readsOfRecords records).close organizationId orderId (call.perform ambient none) close >>=
        fun proposal => proposal.work.commit records) := by
  refine alike_bind fun proposal hpropose => ?_
  obtain ⟨order, hget, h⟩ := except_bind_ok.mp hpropose
  obtain ⟨changed, houtcome, h⟩ := except_bind_ok.mp h
  obtain ⟨session, hfound, h⟩ := except_bind_ok.mp h
  have hreplaces := replaces_of_kept valid htaking hget houtcome
  cases session with
  | none =>
      cases h
      refine alike_of_kept same kept valid fun saved h => ?_
      cases h
      exact hreplaces
  | some session =>
      obtain ⟨closed, -, h⟩ := except_bind_ok.mp h
      cases h
      refine alike_of_kept same kept valid fun saved h => ?_
      cases h
      exact hreplaces

/-- Where a report of a known session is taken alike: an event that is on record is on record in
this very session, under readings that make a point; and a new one is not dated back behind a
point of the future. -/
def Placeable (records : Records) (ambient : Ambient) (report : LocationReport) : Prop :=
  ∀ session, records.trackingSessions.get? (report.organizationId, report.sessionId) =
      some session → session.executorId = report.executorId →
    if seenBefore records report then Mappable report ∧ Repeated report session
    else Mappable report → ¬Repeated report session → session.status = .active →
      TooEarly (report.capturedAt.getD ambient.clock) session → ¬TooEarly ambient.clock session

/-- A proposal about a session alone is taken alike. -/
theorem alike_session (same : Same memory records) (kept : Kept memory) (valid : Valid records)
    (session : Option (TrackingSession × Option Nat)) :
    Alike (Proposal.submit ⟨none, session⟩ memory)
      ((Proposal.work ⟨none, session⟩).commit records) :=
  alike_of_kept same kept valid fun _ h => by contradiction

/-- Nothing is proposed, and nothing happens. -/
theorem commit_nothing (capacity : Capacity records) :
    (Proposal.work ⟨none, none⟩).commit records = .ok records := by
  refine work_commit_ok.mpr ⟨fun saved h => by contradiction, fun saved h => by contradiction,
    capacity, ?_⟩
  simp [Proposal.post, Proposal.events]

/-- A session saved as it was found. -/
theorem submit_found (same : Same memory records) (kept : Kept memory) (valid : Valid records)
    {key : Key} {session : TrackingSession}
    (h : records.trackingSessions.get? key = some session) :
    Proposal.submit ⟨none, some (session, some session.version)⟩ memory = .ok memory := by
  obtain ⟨hkey, hpulled⟩ := valid.sessionKeyed h
  have hstored : memory.trackingSessions.get? (sessionKey session) = some session := by
    rw [same.sessions, hkey]
    exact h
  refine submit_ok.mpr ⟨fun saved h => by contradiction, fun saved h => ?_, kept.spelled, ?_⟩
  · cases h
    rw [hstored]
    rfl
  · have hsame : session.pullEvents.2 = session := by
      simp only [TrackingSession.pullEvents, ← hpulled]
    simp only [Proposal.put, Proposal.events, Option.elim, hsame, hpulled,
      Dict.set_of_get? _ hstored, List.append_nil]

theorem observedAt_agree {report : LocationReport} {session : TrackingSession} {now : Instant}
    (h : TooEarly (report.capturedAt.getD now) session → ¬TooEarly now session) :
    DispatchService.observedAt report session now =
      AsyncDispatchService.observedAt report session now := by
  unfold DispatchService.observedAt AsyncDispatchService.observedAt
  cases hlatest : session.latestPoint with
  | none => rfl
  | some latest =>
      simp only
      split
      · rename_i hearly
        have hnow : ¬now < latest.capturedAt := fun hlate =>
          h ⟨latest, hlatest, hearly⟩ ⟨latest, hlatest, hlate⟩
        rw [Instant.latest, if_neg hnow]
      · rfl

/-- Behind a point of the future, one service dates a late report now, the other at that point. -/
theorem observedAt_part {report : LocationReport} {session : TrackingSession} {now : Instant}
    (hearly : TooEarly (report.capturedAt.getD now) session) (hnow : TooEarly now session) :
    TooEarly (DispatchService.observedAt report session now) session ∧
      ¬TooEarly (AsyncDispatchService.observedAt report session now) session := by
  obtain ⟨latest, hlatest, hearly⟩ := hearly
  obtain ⟨other, hother, hnow⟩ := hnow
  cases hlatest.symm.trans hother
  unfold DispatchService.observedAt AsyncDispatchService.observedAt
  simp only [hlatest, if_pos hearly, Instant.latest, if_pos hnow]
  refine ⟨⟨latest, hlatest, hnow⟩, ?_⟩
  rintro ⟨found, hfound, hlate⟩
  cases hlatest.symm.trans hfound
  exact absurd hlate (by simp)

/-- Where the event of a report is on record, the asynchronous service does nothing more. -/
theorem alike_seen (same : Same memory records) (kept : Kept memory)
    (consistent : Consistent records) {ambient : Ambient} {report : LocationReport} {key : Key}
    {session : TrackingSession} (h : records.trackingSessions.get? key = some session)
    (instant : Instant) :
    Alike (Reads.place ambient report session instant >>= fun proposal => proposal.submit memory)
        (.ok records) ↔
      Mappable report ∧ Repeated report session := by
  by_cases mappable : Mappable report
  · by_cases repeated : Repeated report session
    · refine iff_of_true ?_ ⟨mappable, repeated⟩
      rw [place_repeated mappable repeated]
      change Alike (Proposal.submit _ memory) _
      rw [submit_found same kept consistent.valid h]
      exact same
    · refine iff_of_false (fun alike => ?_) fun both => repeated both.2
      by_cases hrefused : session.status ≠ .active ∨ TooEarly instant session
      · obtain ⟨failure, hplace⟩ := @place_refused ambient _ _ _ repeated hrefused
        rw [hplace] at alike
        exact alike
      · rw [not_or, not_not] at hrefused
        obtain ⟨point, -, hplace⟩ := @place_new ambient _ _ _ mappable repeated hrefused.1
          hrefused.2
        rw [hplace] at alike
        change Alike (Proposal.submit _ memory) _ at alike
        cases hsubmit : Proposal.submit ⟨none, some ((session.withPoint point).recorded ambient
            .trackingPointRecorded (TrackingSession.pointPayload point) (some point.ingestedAt),
            some session.version)⟩ memory with
        | error failure =>
            rw [hsubmit] at alike
            exact alike
        | ok after =>
            rw [hsubmit] at alike
            obtain ⟨-, -, -, rfl⟩ := submit_ok.mp hsubmit
            -- The new point has announced itself to one outbox only.
            have hevents := congrArg List.length (Same.events alike)
            rw [← same.events] at hevents
            simp [Proposal.put, Proposal.events, TrackingSession.recorded] at hevents
  · refine iff_of_false (fun alike => ?_) fun both => mappable both.1
    obtain ⟨failure, hplace⟩ := @place_unmappable ambient _ session instant mappable
    rw [hplace] at alike
    exact alike

/-- Where it is not, the two services differ in how they date the point. -/
theorem alike_unseen (same : Same memory records) (kept : Kept memory)
    (consistent : Consistent records) {ambient : Ambient} {report : LocationReport} {key : Key}
    {session : TrackingSession} (h : records.trackingSessions.get? key = some session) :
    Alike
        (Reads.place ambient report session
            (DispatchService.observedAt report session ambient.clock) >>=
          fun proposal => proposal.submit memory)
        (Reads.place ambient report session
            (AsyncDispatchService.observedAt report session ambient.clock) >>=
          fun proposal => proposal.work.commit records) ↔
      (Mappable report → ¬Repeated report session → session.status = .active →
        TooEarly (report.capturedAt.getD ambient.clock) session →
          ¬TooEarly ambient.clock session) := by
  have valid := consistent.valid
  by_cases hlate : TooEarly (report.capturedAt.getD ambient.clock) session →
      ¬TooEarly ambient.clock session
  · refine iff_of_true ?_ fun _ _ _ => hlate
    rw [observedAt_agree hlate]
    refine alike_bind fun proposal hplace => ?_
    obtain ⟨point, -, hplace⟩ := except_bind_ok.mp hplace
    obtain ⟨changed, -, hplace⟩ := except_bind_ok.mp hplace
    cases hplace
    exact alike_session same kept valid _
  · rw [Classical.not_imp, not_not] at hlate
    obtain ⟨hserved, hcommitted⟩ := observedAt_part hlate.1 hlate.2
    by_cases mappable : Mappable report
    · by_cases repeated : Repeated report session
      · refine iff_of_true ?_ fun _ h => absurd repeated h
        rw [place_repeated mappable repeated, place_repeated mappable repeated]
        exact alike_session same kept valid _
      · obtain ⟨failure, hrefused⟩ := @place_refused ambient _ _ _ repeated (.inr hserved)
        rw [hrefused]
        by_cases active : session.status = .active
        · refine iff_of_false (fun alike => ?_)
            fun all => all mappable repeated active hlate.1 hlate.2
          obtain ⟨point, -, hplace⟩ := @place_new ambient _ _ _ mappable repeated active hcommitted
          rw [hplace] at alike
          obtain ⟨later, hcommit⟩ : ∃ later, (Proposal.work ⟨none, some ((session.withPoint
              point).recorded ambient .trackingPointRecorded (TrackingSession.pointPayload point)
              (some point.ingestedAt), some session.version)⟩).commit records = .ok later := by
            refine ⟨_, work_commit_ok.mpr ⟨fun saved h => by contradiction, fun saved hsaved => ?_,
              consistent.capacity, rfl⟩⟩
            cases hsaved
            change (records.trackingSessions.get? (sessionKey session)).map _ = _
            rw [(valid.sessionKeyed h).1, h]
            rfl
          change Alike _ ((Proposal.work _).commit records) at alike
          rw [hcommit] at alike
          exact alike
        · refine iff_of_true ?_ fun _ _ h => absurd h active
          obtain ⟨other, hother⟩ := @place_refused ambient _ _
            (AsyncDispatchService.observedAt report session ambient.clock) repeated (.inl active)
          rw [hother]
          exact trivial
    · refine iff_of_true ?_ fun h => absurd h mappable
      obtain ⟨failure, hrefused⟩ := @place_unmappable ambient _ session
        (DispatchService.observedAt report session ambient.clock) mappable
      obtain ⟨other, hother⟩ := @place_unmappable ambient _ session
        (AsyncDispatchService.observedAt report session ambient.clock) mappable
      rw [hrefused, hother]
      exact trivial

theorem alike_locate (same : Same memory records) (kept : Kept memory)
    (consistent : Consistent records) (ambient : Ambient) (report : LocationReport) :
    Alike
        ((readsOfRecords records).locate ambient report false
            (fun session => DispatchService.observedAt report session ambient.clock) >>=
          fun proposal => proposal.submit memory)
        ((readsOfRecords records).locate ambient report (seenBefore records report)
            (fun session => AsyncDispatchService.observedAt report session ambient.clock) >>=
          fun proposal => proposal.work.commit records) ↔
      Placeable records ambient report := by
  unfold Reads.locate Placeable
  change Alike ((records.getTracking report.organizationId report.sessionId >>= _) >>= _)
    ((records.getTracking report.organizationId report.sessionId >>= _) >>= _) ↔ _
  cases hget : records.getTracking report.organizationId report.sessionId with
  | error failure =>
      refine iff_of_true trivial fun session hstored => ?_
      rw [getTracking_ok.mpr hstored] at hget
      contradiction
  | ok session =>
      have hstored := getTracking_ok.mp hget
      by_cases howner : session.executorId = report.executorId
      · have hbody : (∀ found, records.trackingSessions.get? (report.organizationId,
            report.sessionId) = some found → found.executorId = report.executorId →
              if seenBefore records report then Mappable report ∧ Repeated report found
              else Mappable report → ¬Repeated report found → found.status = .active →
                TooEarly (report.capturedAt.getD ambient.clock) found →
                  ¬TooEarly ambient.clock found) ↔
            if seenBefore records report then Mappable report ∧ Repeated report session
            else Mappable report → ¬Repeated report session → session.status = .active →
              TooEarly (report.capturedAt.getD ambient.clock) session →
                ¬TooEarly ambient.clock session := by
          constructor
          · intro all
            exact all session hstored howner
          · intro h found hfound _
            cases hstored.symm.trans hfound
            exact h
        rw [hbody]
        change Alike ((if _ then (if _ then _ else _) else _) >>= _)
          ((if _ then (if _ then _ else _) else _) >>= _) ↔ _
        rw [if_pos howner, if_pos howner, Bool.and_false]
        by_cases hseen : seenBefore records report
        · have hsource : report.sourceEventId.isSome && seenBefore records report := by
            rw [hseen, Bool.and_true]
            unfold seenBefore at hseen
            cases hsource : report.sourceEventId with
            | none =>
                rw [hsource] at hseen
                contradiction
            | some sourceEventId => rfl
          rw [if_pos hsource, if_pos hseen]
          change Alike _ ((Proposal.work ⟨none, none⟩).commit records) ↔ _
          rw [commit_nothing consistent.capacity]
          exact alike_seen same kept consistent hstored _
        · have hsource : ¬(report.sourceEventId.isSome && seenBefore records report) := by
            simp [hseen]
          rw [if_neg hsource, if_neg hseen]
          exact alike_unseen same kept consistent hstored
      · refine iff_of_true ?_ fun found hfound hsame => ?_
        · change Alike ((if _ then (if _ then _ else _) else _) >>= _)
            ((if _ then (if _ then _ else _) else _) >>= _)
          rw [if_neg howner, if_neg howner]
          exact trivial
        · cases hstored.symm.trans hfound
          exact absurd hsame howner

end alike
/-! ### Runs of both services -/

abbrev SharedCommand := { command : Command // command.Shared }

/-- The store of the synchronous service, and which of its commands were accepted. -/
def serveNext (state : MemoryStore × List Bool) (command : SharedCommand) :
    MemoryStore × List Bool :=
  match (command.1.serve command.2).run state.1 with
  | .ok _ after => (after, state.2 ++ [true])
  | .error _ after => (after, state.2 ++ [false])

/-- The store of the asynchronous service, and which of its commands were accepted. -/
def performNext (state : AsyncMemoryStore × List Bool) (command : SharedCommand) :
    AsyncMemoryStore × List Bool :=
  match (command.1.task .live).alone state.1 with
  | (.ok _, after) => (after, state.2 ++ [true])
  | (.error _, after) => (after, state.2 ++ [false])

def serveAll (commands : List SharedCommand) : MemoryStore × List Bool :=
  commands.foldl serveNext (.empty, [])

def performAll (commands : List SharedCommand) : AsyncMemoryStore × List Bool :=
  commands.foldl performNext (.empty, [])

/-- Where the two services do the same with a command. -/
def Undivided (records : Records) : Command → Prop
  | .createOrder _ freshId orderId creation =>
      Unclaimed records (AsyncDispatchService.orFresh orderId freshId) creation
  | .change _ organizationId orderId call _ => Distinguished records (organizationId, orderId) call
  | .recordLocation ambient report => Placeable records ambient report
  | _ => True

section twins

variable {memory : MemoryStore} {store : AsyncMemoryStore}

/-- What the synchronous service makes of a command. -/
def served (memory : MemoryStore) (command : SharedCommand) : Except Failure MemoryStore :=
  command.1.propose (readsOfStore memory) memory.orderNumberCounters (fun _ => false)
      DispatchService.observedAt command.2 >>=
    fun proposal => proposal.submit
      { memory with orderNumberCounters := command.1.draw memory.orderNumberCounters }

/-- What the asynchronous service makes of it. -/
def committed (store : AsyncMemoryStore) (command : SharedCommand) : Except Failure Records :=
  command.1.propose (readsOfRecords store.toRecords) store.orderNumberCounters
      (seenBefore store.toRecords) AsyncDispatchService.observedAt command.2 >>=
    fun proposal => proposal.work.commit store.toRecords

theorem serveNext_eq (accepted : List Bool) (command : SharedCommand) :
    serveNext (memory, accepted) command =
      match served memory command with
      | .ok after => (after, accepted ++ [true])
      | .error _ => ({ memory with
          orderNumberCounters := command.1.draw memory.orderNumberCounters },
            accepted ++ [false]) := by
  unfold serveNext
  simp only [serve_run]
  change (match concluded _ (served memory command) with
    | .ok _ after => (after, accepted ++ [true])
    | .error _ after => (after, accepted ++ [false])) = _
  cases served memory command <;> rfl

theorem performNext_eq (accepted : List Bool) (command : SharedCommand) :
    performNext (store, accepted) command =
      match committed store command with
      | .ok records => (⟨records, command.1.draw store.orderNumberCounters⟩, accepted ++ [true])
      | .error _ => (⟨store.toRecords, command.1.draw store.orderNumberCounters⟩,
          accepted ++ [false]) := by
  unfold performNext
  rw [task_alone store command.1 command.2]
  change (match settle _ (committed store command) with
    | (.ok _, after) => (after, accepted ++ [true])
    | (.error _, after) => (after, accepted ++ [false])) = _
  cases committed store command <;> rfl

/-- The two make the same of a command exactly where it is undivided. -/
theorem alike_command (same : Same memory store.toRecords) (kept : Kept memory)
    (consistent : Consistent store.toRecords)
    (counted : memory.orderNumberCounters = store.orderNumberCounters) (command : SharedCommand) :
    Alike (served memory command) (committed store command) ↔
      Undivided store.toRecords command.1 := by
  have hreads := same.reads kept consistent.valid
  have same' : Same { memory with
      orderNumberCounters := command.1.draw memory.orderNumberCounters } store.toRecords :=
    ⟨same.orders, same.sessions, same.events⟩
  have kept' : Kept { memory with
      orderNumberCounters := command.1.draw memory.orderNumberCounters } :=
    ⟨kept.keyed, kept.spelled⟩
  unfold served committed
  rw [hreads, ← counted]
  obtain ⟨command, shared⟩ := command
  cases command with
  | createOrder ambient freshId orderId creation =>
      exact alike_create same' kept' consistent ambient _ creation _
  | createOrderOnce ambient orderId creation => exact shared.elim
  | change ambient organizationId orderId call plain =>
      exact alike_change same' kept' consistent ambient organizationId orderId call
  | startTravel ambient sessionAmbient organizationId orderId freshId executorId sessionId =>
      exact iff_of_true (alike_startTravel same' kept' consistent.valid _ _ _ _ _ _) trivial
  | recordLocation ambient report => exact alike_locate same' kept' consistent ambient report
  | completeOrder ambient sessionAmbient organizationId orderId executorId report =>
      exact iff_of_true (@alike_close _ _ same' kept' consistent.valid ambient organizationId
        orderId (.complete executorId report) rfl _) trivial
  | cancelOrder ambient sessionAmbient organizationId orderId reason actorId =>
      exact iff_of_true (@alike_close _ _ same' kept' consistent.valid ambient organizationId
        orderId (.cancel reason actorId) rfl _) trivial

theorem apply_of_committed {command : SharedCommand} {after : Records}
    (h : committed store command = .ok after) :
    ∃ answers, command.1.apply answers store.toRecords = .ok after := by
  obtain ⟨command, shared⟩ := command
  unfold committed at h
  cases command with
  | createOrder ambient freshId orderId creation =>
      obtain ⟨proposal, hpropose, hcommit⟩ := except_bind_ok.mp h
      obtain ⟨number, -, hpropose⟩ := except_bind_ok.mp hpropose
      obtain ⟨order, hmade, hpropose⟩ := except_bind_ok.mp hpropose
      cases hpropose
      exact ⟨⟨number, false⟩, except_bind_ok.mpr ⟨order, hmade, hcommit⟩⟩
  | createOrderOnce ambient orderId creation => exact shared.elim
  | change ambient organizationId orderId call plain =>
      exact ⟨⟨"", false⟩, (changeOrder_propose store.toRecords organizationId orderId _).trans h⟩
  | startTravel ambient sessionAmbient organizationId orderId freshId executorId sessionId =>
      exact ⟨⟨"", false⟩, (startTravel_propose store.toRecords ambient sessionAmbient organizationId
        orderId executorId _).trans h⟩
  | recordLocation ambient report =>
      exact ⟨⟨"", seenBefore store.toRecords report⟩,
        (recordLocation_propose store.toRecords ambient report _).trans h⟩
  | completeOrder ambient sessionAmbient organizationId orderId executorId report =>
      exact ⟨⟨"", false⟩, (closeOrder_propose store.toRecords organizationId orderId _ _).trans h⟩
  | cancelOrder ambient sessionAmbient organizationId orderId reason actorId =>
      exact ⟨⟨"", false⟩, (closeOrder_propose store.toRecords organizationId orderId _ _).trans h⟩

/-- What holds of the two stores in every run, alike or not. -/
structure Books (memory : MemoryStore) (store : AsyncMemoryStore) : Prop where
  kept : Kept memory
  consistent : Consistent store.toRecords
  counted : memory.orderNumberCounters = store.orderNumberCounters

theorem Books.next (books : Books memory store) (left right : List Bool)
    (command : SharedCommand) :
    Books (serveNext (memory, left) command).1 (performNext (store, right) command).1 := by
  obtain ⟨kept, consistent, counted⟩ := books
  rw [serveNext_eq, performNext_eq]
  have hkept : ∀ after, served memory command = .ok after → Kept after ∧
      after.orderNumberCounters = command.1.draw memory.orderNumberCounters := by
    intro after h
    obtain ⟨proposal, -, hsubmit⟩ := except_bind_ok.mp h
    have kept' : Kept { memory with
        orderNumberCounters := command.1.draw memory.orderNumberCounters } :=
      ⟨kept.keyed, kept.spelled⟩
    refine ⟨kept'.submit hsubmit, ?_⟩
    obtain ⟨-, -, -, rfl⟩ := submit_ok.mp hsubmit
    rfl
  have hconsistent : ∀ after, committed store command = .ok after → Consistent after := by
    intro after h
    obtain ⟨answers, happly⟩ := apply_of_committed h
    exact ⟨((apply_takes consistent.valid happly).sound consistent.valid).1,
      (apply_orders consistent.valid happly).2⟩
  constructor
  · cases hserved : served memory command with
    | ok after => exact (hkept after hserved).1
    | error failure => exact ⟨kept.keyed, kept.spelled⟩
  · cases hcommitted : committed store command with
    | ok after => exact hconsistent after hcommitted
    | error failure => exact consistent
  · have hleft : (match served memory command with
        | .ok after => (after, left ++ [true])
        | .error _ => ({ memory with
            orderNumberCounters := command.1.draw memory.orderNumberCounters },
              left ++ [false])).1.orderNumberCounters =
          command.1.draw memory.orderNumberCounters := by
      cases hserved : served memory command with
      | ok after => exact (hkept after hserved).2
      | error failure => rfl
    rw [hleft, counted]
    cases committed store command <;> rfl

/-- One command more: the answers and the stores stay the same exactly where it is undivided. -/
theorem same_next_iff (books : Books memory store) (same : Same memory store.toRecords)
    (accepted : List Bool) (command : SharedCommand) :
    ((serveNext (memory, accepted) command).2 = (performNext (store, accepted) command).2 ∧
        Same (serveNext (memory, accepted) command).1
          (performNext (store, accepted) command).1.toRecords) ↔
      Undivided store.toRecords command.1 := by
  rw [← alike_command same books.kept books.consistent books.counted command, serveNext_eq,
    performNext_eq]
  cases served memory command with
  | ok after =>
      cases committed store command with
      | ok later => exact and_iff_right rfl
      | error failure => exact iff_of_false (fun h => by simpa using h.1) id
  | error failure =>
      cases committed store command with
      | ok later => exact iff_of_false (fun h => by simpa using h.1) id
      | error other => exact iff_of_true ⟨rfl, same.orders, same.sessions, same.events⟩ trivial

end twins

theorem performNext_store (state : AsyncMemoryStore × List Bool) (command : SharedCommand) :
    (performNext state command).1 = ((command.1.task .live).alone state.1).2 := by
  unfold performNext
  rcases (command.1.task .live).alone state.1 with ⟨_ | done, after⟩ <;> rfl

abbrev Twins := (MemoryStore × List Bool) × (AsyncMemoryStore × List Bool)

def bothNext (twins : Twins) (command : SharedCommand) : Twins :=
  (serveNext twins.1 command, performNext twins.2 command)

theorem foldl_bothNext (commands : List SharedCommand) :
    commands.foldl bothNext ((MemoryStore.empty, []), (AsyncMemoryStore.empty, [])) =
      (serveAll commands, performAll commands) := by
  apply Prod.ext
  · exact (List.foldl_hom Prod.fst fun _ _ => rfl).symm
  · exact (List.foldl_hom Prod.snd fun _ _ => rfl).symm

/-- Both accepted the same so far, and hold the same. -/
def InStep (twins : Twins) : Prop :=
  twins.1.2 = twins.2.2 ∧ Same twins.1.1 twins.2.1.toRecords

theorem inStep_next_iff {twins : Twins} (books : Books twins.1.1 twins.2.1) (same : InStep twins)
    (command : SharedCommand) :
    InStep (bothNext twins command) ↔ Undivided twins.2.1.toRecords command.1 := by
  obtain ⟨⟨memory, accepted⟩, store, other⟩ := twins
  obtain ⟨haccepted, same⟩ := same
  change accepted = other at haccepted
  subst haccepted
  exact same_next_iff books same accepted command

/-- Whatever shared commands the two services are given, one after the other: they accept the
same ones and hold the same orders, sessions and events all along exactly when every command is
undivided where it comes. -/
theorem services_agree_iff (commands : List SharedCommand) :
    (∀ before, before <+: commands →
        (serveAll before).2 = (performAll before).2 ∧
          Same (serveAll before).1 (performAll before).1.toRecords) ↔
      Throughout (fun store command => ((command.1.task .live).alone store).2)
        (fun store command => Undivided store.toRecords command.1) .empty commands := by
  have hruns := @Throughout.iff_good _ _ bothNext
    (fun twins command => Undivided twins.2.1.toRecords command.1)
    ((MemoryStore.empty, []), (AsyncMemoryStore.empty, [])) commands
    (fun twins => Books twins.1.1 twins.2.1) InStep
    (fun twins command books => books.next twins.1.2 twins.2.2 command)
    (fun twins command books same => inStep_next_iff books same command)
    ⟨kept_empty, consistent_empty, rfl⟩ ⟨rfl, rfl, rfl, rfl⟩
  simp only [foldl_bothNext] at hruns
  refine hruns.trans ?_
  exact @Throughout.along Twins SharedCommand bothNext _ commands _
    (fun store command => ((command.1.task .live).alone store).2)
    (fun store command => Undivided store.toRecords command.1) (fun twins => twins.2.1)
    fun twins command => performNext_store twins.2 command

/-- The same order identifier, used by two organizations. -/
def neighbours : List SharedCommand :=
  ["north", "south"].map fun organizationId =>
    ⟨.createOrder ⟨⟨0⟩, "e"⟩ "fresh" (some "o1")
      ⟨organizationId, "repair", "telegram", .empty, none, none⟩, trivial⟩

/-- One service accepts both creations, the other refuses the second. -/
theorem neighbours_disagree :
    (performAll neighbours).2 = [true, true] ∧ (serveAll neighbours).2 = [true, false] := by
  decide +kernel

end DispatchCore.Application
