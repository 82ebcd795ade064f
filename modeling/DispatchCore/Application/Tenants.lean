import DispatchCore.Application.Histories
import DispatchCore.Library.Separation

/-! Organizations that share a store.  Each sees its own orders, sessions, number
counter and events, and a commit staged for one of them reads and writes what
that one sees: keys carry the organization, and so does what an executor
occupies. -/
namespace DispatchCore.Application

open DispatchCore.Library DispatchCore.Domain DispatchCore.Infrastructure

/-- The part of the store that belongs to one organization. -/
structure Tenant where
  orders : Dict Key WorkOrder
  trackingSessions : Dict Key TrackingSession
  orderNumberCounter : Option Nat
  outboxEvents : List DomainEvent

def ofOrganization (organizationId : String) (key : Key) : Bool := key.1 = organizationId

def tenant (organizationId : String) (store : AsyncMemoryStore) : Tenant where
  orders := store.orders.restrict fun key _ => ofOrganization organizationId key
  trackingSessions := store.trackingSessions.restrict fun key _ => ofOrganization organizationId key
  orderNumberCounter := store.orderNumberCounters.get? organizationId
  outboxEvents := store.outboxEvents.filter fun event => event.organizationId = organizationId

/-- Stored copies sit under their keys with nothing pending, and no executor is held twice. -/
structure Tidy (records : Records) : Prop where
  orders : ∀ key order, records.orders.get? key = some order →
    orderKey order = key ∧ order.events = []
  sessions : ∀ key session, records.trackingSessions.get? key = some session →
    sessionKey session = key ∧ session.events = []
  capacity : Capacity records

theorem tidy_empty : Tidy .empty where
  orders := fun key order h => by simp [Records.empty] at h
  sessions := fun key session h => by simp [Records.empty] at h
  capacity := rfl

def tenancy : Coroutine.Shares AsyncMemoryStore String Tenant where
  view := tenant
  valid := fun store => Tidy store.toRecords

/-- Everything staged belongs to one organization. -/
structure Staged (organizationId : String) (work : UnitOfWork) : Prop where
  orders : ∀ entry ∈ work.orderWrites, entry.1.1 = organizationId ∧
    orderKey entry.2 = entry.1 ∧ entry.2.events = []
  sessions : ∀ entry ∈ work.trackingWrites, entry.1.1 = organizationId ∧
    sessionKey entry.2 = entry.1 ∧ entry.2.events = []
  events : ∀ event ∈ work.stagedEvents, event.organizationId = organizationId

namespace Staged

variable {organizationId : String} {work : UnitOfWork}

theorem empty : Staged organizationId .empty where
  orders := fun _ h => by simp [UnitOfWork.empty, UnitOfWork.orderWrites, Dict.empty] at h
  sessions := fun _ h => by simp [UnitOfWork.empty, UnitOfWork.trackingWrites, Dict.empty] at h
  events := fun _ h => by simp [UnitOfWork.empty] at h

theorem stageOrder (staged : Staged organizationId work) {order : WorkOrder}
    (own : order.organizationId = organizationId) (expectedVersion : Option Nat) :
    Staged organizationId (work.stageOrder order expectedVersion) where
  orders := fun entry hentry => by
    obtain ⟨written, hwritten, rfl⟩ := List.mem_map.mp hentry
    rcases Dict.mem_entries_set hwritten with rfl | hold
    · exact ⟨own, rfl, rfl⟩
    · exact staged.orders _ (List.mem_map_of_mem hold)
  sessions := staged.sessions
  events := staged.events

theorem stageTracking (staged : Staged organizationId work) {session : TrackingSession}
    (own : session.organizationId = organizationId) (expectedVersion : Option Nat) :
    Staged organizationId (work.stageTracking session expectedVersion) where
  orders := staged.orders
  sessions := fun entry hentry => by
    obtain ⟨written, hwritten, rfl⟩ := List.mem_map.mp hentry
    rcases Dict.mem_entries_set hwritten with rfl | hold
    · exact ⟨own, rfl, rfl⟩
    · exact staged.sessions _ (List.mem_map_of_mem hold)
  events := staged.events

theorem stageEvents (staged : Staged organizationId work) {events : List DomainEvent}
    (own : ∀ event ∈ events, event.organizationId = organizationId) :
    Staged organizationId (work.stageEvents events) where
  orders := staged.orders
  sessions := staged.sessions
  events := fun event hevent => by
    rcases List.mem_append.mp hevent with hold | hnew
    · exact staged.events event hold
    · exact own event hnew

end Staged

section commit

variable {organizationId other : String} {work : UnitOfWork} {records twin after : Records}

theorem commit_tidy (tidy : Tidy records) (staged : Staged organizationId work)
    (h : work.commit records = .ok after) : Tidy after := by
  obtain ⟨-, -, hcapacity, rfl⟩ := (commit_ok work records after).mp h
  refine ⟨fun key order hstored => ?_, fun key session hstored => ?_, hcapacity⟩
  · rcases Dict.get?_update_cases hstored with hwritten | hkept
    · exact (staged.orders _ hwritten).2
    · exact tidy.orders key order hkept
  · rcases Dict.get?_update_cases hstored with hwritten | hkept
    · exact (staged.sessions _ hwritten).2
    · exact tidy.sessions key session hkept

theorem filter_own {α : Type} {pairs : List (Key × α)}
    (own : ∀ pair ∈ pairs, pair.1.1 = organizationId) :
    pairs.filter (fun pair => ofOrganization organizationId pair.1) = pairs := by
  rw [List.filter_eq_self]
  intro pair hpair
  exact decide_eq_true (own pair hpair)

theorem filter_foreign {α : Type} {pairs : List (Key × α)}
    (own : ∀ pair ∈ pairs, pair.1.1 = organizationId) (apart : other ≠ organizationId) :
    pairs.filter (fun pair => ofOrganization other pair.1) = [] := by
  rw [List.filter_eq_nil_iff]
  intro pair hpair hsame
  exact apart ((of_decide_eq_true hsame).symm.trans (own pair hpair))

/-- A commit is not seen by the other organizations. -/
theorem commit_foreign {counters : Dict String Nat} (staged : Staged organizationId work)
    (apart : other ≠ organizationId) (h : work.commit records = .ok after) :
    tenant other ⟨after, counters⟩ = tenant other ⟨records, counters⟩ := by
  obtain ⟨-, -, -, rfl⟩ := (commit_ok work records after).mp h
  have hevents : work.stagedEvents.filter (fun event => event.organizationId = other) = [] := by
    rw [List.filter_eq_nil_iff]
    intro event hevent hsame
    exact apart ((of_decide_eq_true hsame).symm.trans (staged.events event hevent))
  unfold tenant
  simp only [Dict.restrict_update, List.filter_append]
  rw [filter_foreign (fun pair hpair => (staged.orders pair hpair).1) apart,
    filter_foreign (fun pair hpair => (staged.sessions pair hpair).1) apart, hevents]
  simp

/-- What the organization sees of a commit. -/
theorem commit_own {counters : Dict String Nat} (staged : Staged organizationId work)
    (h : work.commit records = .ok after) :
    tenant organizationId ⟨after, counters⟩ =
      { orders := (tenant organizationId ⟨records, counters⟩).orders.update work.orderWrites
        trackingSessions :=
          (tenant organizationId ⟨records, counters⟩).trackingSessions.update work.trackingWrites
        orderNumberCounter := counters.get? organizationId
        outboxEvents :=
          (tenant organizationId ⟨records, counters⟩).outboxEvents ++ work.stagedEvents } := by
  obtain ⟨-, -, -, rfl⟩ := (commit_ok work records after).mp h
  have hevents : work.stagedEvents.filter (fun event => event.organizationId = organizationId) =
      work.stagedEvents := by
    rw [List.filter_eq_self]
    intro event hevent
    exact decide_eq_true (staged.events event hevent)
  unfold tenant
  simp only [Dict.restrict_update, List.filter_append]
  rw [filter_own (fun pair hpair => (staged.orders pair hpair).1),
    filter_own (fun pair hpair => (staged.sessions pair hpair).1), hevents]

/-- A lookup of the organization's in its part of a dictionary. -/
theorem get?_part {α : Type} (dict : Dict Key α) {key : Key} (own : key.1 = organizationId) :
    (dict.restrict fun name _ => ofOrganization organizationId name).get? key =
      dict.get? key := by
  rw [Dict.get?_restrict]
  apply Option.ext
  intro value
  rw [Option.filter_eq_some_iff]
  simp [ofOrganization, own]

theorem checkCollectionVersions_congr {α : Type} (version : α → Nat) {left right : Dict Key α}
    {staged : List (Key × α × Option Nat)}
    (same : ∀ entry ∈ staged, left.get? entry.1 = right.get? entry.1) :
    UnitOfWork.checkCollectionVersions version left staged =
      UnitOfWork.checkCollectionVersions version right staged := by
  induction staged with
  | nil => rfl
  | cons entry rest ih =>
      obtain ⟨key, value, expectedVersion⟩ := entry
      unfold UnitOfWork.checkCollectionVersions
      rw [ih fun entry hentry => same entry (List.mem_cons_of_mem _ hentry)]
      unfold UnitOfWork.checkVersion
      rw [same _ List.mem_cons_self]

/-- The executors of an organization are held in its part of the orders alone. -/
theorem exclusive_part (tidy : Tidy records) (staged : Staged organizationId work) :
    (records.orders.update work.orderWrites).Exclusive UnitOfWork.occupies ↔
      ((records.orders.restrict fun key _ => ofOrganization organizationId key).update
        work.orderWrites).Exclusive UnitOfWork.occupies := by
  have hpart := Dict.restrict_update records.orders (ofOrganization organizationId)
    work.orderWrites
  rw [filter_own (fun pair hpair => (staged.orders pair hpair).1)] at hpart
  rw [← hpart]
  have hkeyed (key : Key) (order : WorkOrder)
      (h : (records.orders.update work.orderWrites).get? key = some order) :
      order.organizationId = key.1 := by
    rcases Dict.get?_update_cases h with hwritten | hkept
    · exact congrArg Prod.fst (staged.orders _ hwritten).2.1
    · exact congrArg Prod.fst (tidy.orders key order hkept).1
  have hoccupies (order : WorkOrder) (held : Key)
      (h : UnitOfWork.occupies order = some held) : held.1 = order.organizationId := by
    unfold UnitOfWork.occupies at h
    cases hassignee : order.assigneeId with
    | none =>
        rw [hassignee] at h
        contradiction
    | some assigneeId =>
        rw [hassignee] at h
        by_cases hactive : order.status ∈ UnitOfWork.activeStatuses
        · simp only [hactive, if_true, Option.some.injEq] at h
          rw [← h]
        · simp [hactive] at h
  constructor
  · intro exclusive first second left right held hfirst hsecond
    rw [Dict.get?_restrict, Option.filter_eq_some_iff] at hfirst hsecond
    exact exclusive first second left right held hfirst.1 hsecond.1
  · intro exclusive first second left right held hfirst hsecond hleft hright
    have horganization : first.1 = second.1 := by
      rw [← hkeyed first left hfirst, ← hkeyed second right hsecond, ← hoccupies left held hleft,
        ← hoccupies right held hright]
    by_cases hown : first.1 = organizationId
    · refine exclusive first second left right held ?_ ?_ hleft hright
      · rw [get?_part _ hown, hfirst]
      · rw [get?_part _ (horganization ▸ hown), hsecond]
    · have hkept (key : Key) (order : WorkOrder) (hne : key.1 ≠ organizationId)
          (h : (records.orders.update work.orderWrites).get? key = some order) :
          records.orders.get? key = some order := by
        rcases Dict.get?_update_cases h with hwritten | hkept
        · exact absurd (staged.orders _ hwritten).1 hne
        · exact hkept
      exact (capacity_iff records).mp tidy.capacity first second left right held
        (hkept first left hown hfirst) (hkept second right (horganization ▸ hown) hsecond)
        hleft hright

theorem checkExecutorCapacity_congr (tidy : Tidy records) (twinTidy : Tidy twin)
    (staged : Staged organizationId work)
    (same : (records.orders.restrict fun key _ => ofOrganization organizationId key) =
      twin.orders.restrict fun key _ => ofOrganization organizationId key) :
    work.checkExecutorCapacity records = work.checkExecutorCapacity twin := by
  unfold UnitOfWork.checkExecutorCapacity
  rw [UnitOfWork.checkOccupied_eq, UnitOfWork.checkOccupied_eq]
  have hboth : (records.orders.update work.orderWrites).Exclusive UnitOfWork.occupies ↔
      (twin.orders.update work.orderWrites).Exclusive UnitOfWork.occupies := by
    rw [exclusive_part tidy staged, exclusive_part twinTidy staged, same]
  rw [← Dict.holdAll_values_ok _ _
    (Failure.concurrencyConflict "executor already has another active work order"),
    ← Dict.holdAll_values_ok _ _
    (Failure.concurrencyConflict "executor already has another active work order")] at hboth
  rcases holdAll_cases UnitOfWork.occupies
    (Failure.concurrencyConflict "executor already has another active work order") []
    (records.orders.update work.orderWrites).values with hleft | hleft
  · rw [hleft, hboth.mp hleft]
  · rcases holdAll_cases UnitOfWork.occupies
      (Failure.concurrencyConflict "executor already has another active work order") []
      (twin.orders.update work.orderWrites).values with hright | hright
    · rw [hboth.mpr hright] at hleft
      contradiction
    · rw [hleft, hright]

theorem checkVersions_congr {counters twinCounters : Dict String Nat}
    (staged : Staged organizationId work)
    (same : tenant organizationId ⟨records, counters⟩ = tenant organizationId ⟨twin, twinCounters⟩) :
    work.checkVersions records = work.checkVersions twin := by
  have horders := congrArg Tenant.orders same
  have hsessions := congrArg Tenant.trackingSessions same
  simp only [tenant] at horders hsessions
  have hfound (entry : Key × WorkOrder × Option Nat) (h : entry ∈ work.stagedOrders.entries) :
      records.orders.get? entry.1 = twin.orders.get? entry.1 := by
    have hown := (staged.orders _ (List.mem_map_of_mem h)).1
    rw [← get?_part records.orders hown, ← get?_part twin.orders hown, horders]
  have hsession (entry : Key × TrackingSession × Option Nat)
      (h : entry ∈ work.stagedTracking.entries) :
      records.trackingSessions.get? entry.1 = twin.trackingSessions.get? entry.1 := by
    have hown := (staged.sessions _ (List.mem_map_of_mem h)).1
    rw [← get?_part records.trackingSessions hown, ← get?_part twin.trackingSessions hown,
      hsessions]
  unfold UnitOfWork.checkVersions
  rw [checkCollectionVersions_congr WorkOrder.version hfound,
    checkCollectionVersions_congr TrackingSession.version hsession]

end commit
end DispatchCore.Application
