import DispatchCore.Infrastructure.Memory

/-! When a commit finds an executor busy.  The asynchronous commit tells executors
apart by organization and identifier, the synchronous one by the two joined with
a colon; both let at most one active order per executor into the store. -/
namespace DispatchCore.Infrastructure

open DispatchCore.Library DispatchCore.Domain

namespace UnitOfWork

/-- The stored orders under the staged ones. -/
def merged (work : UnitOfWork) (records : Records) : Dict Key WorkOrder :=
  records.orders.update work.orderWrites

/-- `commit`, one statement after the other. -/
def commitInPlace (work : UnitOfWork) : Method Failure Records Unit := do
  let records ← get
  Method.attempt (work.checkVersions records)
  Method.attempt (work.checkExecutorCapacity records)
  modify fun records => { records with orders := records.orders.update work.orderWrites }
  modify fun records =>
    { records with trackingSessions := records.trackingSessions.update work.trackingWrites }
  modify fun records => { records with outboxEvents := records.outboxEvents ++ work.stagedEvents }

/-- The statements do what `commit` says, and a commit that raises has stored nothing. -/
theorem run_commitInPlace (work : UnitOfWork) (records : Records) :
    work.commitInPlace.run records =
      match work.commit records with
      | .ok after => .ok () after
      | .error failure => .error failure records := by
  change (Method.attempt (work.checkVersions records) >>= fun _ => _).run records = _
  rw [Method.run_attempt_bind]
  unfold commit
  cases work.checkVersions records with
  | error failure => rfl
  | ok done =>
      change (Method.attempt (work.checkExecutorCapacity records) >>= fun _ => _).run records = _
      rw [Method.run_attempt_bind]
      cases work.checkExecutorCapacity records with
      | error failure => rfl
      | ok done => rfl

theorem checkExecutorCapacity_ok (work : UnitOfWork) (records : Records) :
    work.checkExecutorCapacity records = .ok () ↔ (work.merged records).Exclusive occupies := by
  unfold checkExecutorCapacity
  rw [checkOccupied_eq]
  exact Dict.holdAll_values_ok _ _ _

theorem checkExecutorCapacity_error (work : UnitOfWork) (records : Records) :
    work.checkExecutorCapacity records = .error executorOccupied ↔
      (work.merged records).Contested occupies := by
  unfold checkExecutorCapacity
  rw [checkOccupied_eq]
  exact Dict.holdAll_values_error _ _ _

end UnitOfWork

namespace InMemoryUnitOfWork

theorem merged_eq (work : InMemoryUnitOfWork) (store : MemoryStore) :
    work.merged store = store.orders.update work.orderWrites := by
  unfold merged orderWrites Dict.values
  rw [List.map_map]
  congr 1
  apply List.map_congr_left
  intro entry hmem
  simp [work.keyed entry hmem]

/-- The store after a commit that passed its checks. -/
def stored (work : InMemoryUnitOfWork) (store : MemoryStore) : MemoryStore :=
  { store with
    orders := store.orders.update work.orderWrites
    trackingSessions := store.trackingSessions.update work.trackingWrites
    outboxEvents := store.outboxEvents ++ work.stagedEvents }

theorem checkExecutorCapacity_ok (work : InMemoryUnitOfWork) (store : MemoryStore) :
    work.checkExecutorCapacity store = .ok () ↔
      (work.merged store).Exclusive fun order => (UnitOfWork.occupies order).map joined :=
  Dict.holdAll_values_ok _ _ _

theorem checkExecutorCapacity_error (work : InMemoryUnitOfWork) (store : MemoryStore) :
    work.checkExecutorCapacity store = .error executorOccupied ↔
      (work.merged store).Contested fun order => (UnitOfWork.occupies order).map joined :=
  Dict.holdAll_values_error _ _ _

end InMemoryUnitOfWork

/-- A commit of the synchronous store checks, then writes everything or nothing. -/
theorem MemoryWork.run_commit (work : InMemoryUnitOfWork) (store : MemoryStore) :
    (MemoryWork.commit.run work).run store =
      match work.checkVersions store >>= fun _ => work.checkExecutorCapacity store with
      | .ok _ => .ok ((), .empty) (work.stored store)
      | .error failure => .error failure store := by
  simp only [commit, StateT.run_bind, StateT.run_get, StateT.run_monadLift, pure_bind, bind_assoc]
  change (Method.attempt (work.checkVersions store) >>= fun _ => _).run store = _
  rw [Method.run_attempt_bind]
  cases work.checkVersions store with
  | error failure => rfl
  | ok done =>
      change (Method.attempt (work.checkExecutorCapacity store) >>= fun _ => _).run store = _
      rw [Method.run_attempt_bind]
      cases work.checkExecutorCapacity store with
      | error failure => rfl
      | ok done => rfl

/-- The commit raises for a busy executor exactly when two of the merged orders have the same
one, and whatever it raises, nothing is stored. -/
def DecidesCapacity {κ σ α : Type} [DecidableEq κ] (commit : Method Failure σ α) (store : σ)
    (merged : Dict κ WorkOrder) : Prop :=
  ((∃ after, commit.run store = .error executorOccupied after) ↔
      merged.Contested UnitOfWork.occupies) ∧
    ∀ failure after, commit.run store = .error failure after → after = store

/-- A commit that has come to its second check raises what that check finds, and has stored
nothing by then. -/
theorem raises_iff {σ α : Type} {commit : Method Failure σ α} {store after : σ} {value : α}
    {check : Except Failure Unit}
    (hrun : commit.run store =
      match check with
      | .ok _ => .ok value after
      | .error failure => .error failure store) :
    (∀ failure, (∃ left, commit.run store = .error failure left) ↔ check = .error failure) ∧
      ∀ failure left, commit.run store = .error failure left → left = store := by
  rw [hrun]
  cases check with
  | ok done =>
      refine ⟨fun failure => ⟨?_, fun h => ?_⟩, fun failure left h => ?_⟩
      · rintro ⟨left, h⟩
        contradiction
      · contradiction
      · contradiction
  | error found =>
      refine ⟨fun failure => ⟨?_, fun h => ?_⟩, fun failure left h => ?_⟩
      · rintro ⟨left, h⟩
        cases h
        rfl
      · cases h
        exact ⟨store, rfl⟩
      · cases h
        rfl

/-- The asynchronous commit decides every merge exactly. -/
theorem UnitOfWork.decidesCapacity {work : UnitOfWork} {records : Records}
    (passed : work.checkVersions records = .ok ()) :
    DecidesCapacity work.commitInPlace records (work.merged records) := by
  have hrun := work.run_commitInPlace records
  unfold UnitOfWork.commit at hrun
  rw [passed] at hrun
  obtain ⟨raises, quiet⟩ := @raises_iff _ _ work.commitInPlace records _ ()
    (work.checkExecutorCapacity records) (by
      rw [hrun]
      cases work.checkExecutorCapacity records <;> rfl)
  exact ⟨(raises executorOccupied).trans (work.checkExecutorCapacity_error records), quiet⟩

/-- The synchronous commit decides a merge exactly when no two executors in it are spelled
alike, or one is busy twice anyway. -/
theorem InMemoryUnitOfWork.decidesCapacity_iff {work : InMemoryUnitOfWork} {store : MemoryStore}
    (passed : work.checkVersions store = .ok ()) :
    DecidesCapacity (MemoryWork.commit.run work) store (work.merged store) ↔
      (work.merged store).Misread UnitOfWork.occupies joined →
        (work.merged store).Contested UnitOfWork.occupies := by
  have hrun := MemoryWork.run_commit work store
  rw [passed] at hrun
  obtain ⟨raises, quiet⟩ := raises_iff hrun
  have hspelled := (raises executorOccupied).trans ((work.checkExecutorCapacity_error store).trans
    (Dict.contested_spelled_iff (work.merged store) UnitOfWork.occupies joined))
  unfold DecidesCapacity
  rw [hspelled]
  constructor
  · rintro ⟨exact, -⟩ misread
    exact exact.mp (.inr misread)
  · intro h
    exact ⟨⟨fun found => found.elim id h, .inl⟩, quiet⟩

/-- A commit lets no executor into a second active order of the organization. -/
theorem UnitOfWork.exclusive_commit {records : Records}
    (exclusive : records.orders.Exclusive UnitOfWork.occupies) (work : UnitOfWork) :
    (work.commitInPlace.final records).orders.Exclusive UnitOfWork.occupies := by
  unfold Method.final
  rw [work.run_commitInPlace]
  cases hcommit : work.commit records with
  | error failure => exact exclusive
  | ok after =>
      simp only [UnitOfWork.commit, except_bind_ok] at hcommit
      obtain ⟨_, -, _, hcapacity, hafter⟩ := hcommit
      cases hafter
      exact (work.checkExecutorCapacity_ok records).mp hcapacity

theorem InMemoryUnitOfWork.exclusive_commit {store : MemoryStore}
    (exclusive : store.orders.Exclusive UnitOfWork.occupies) (work : InMemoryUnitOfWork) :
    ((MemoryWork.commit.run work).final store).orders.Exclusive UnitOfWork.occupies := by
  unfold Method.final
  rw [MemoryWork.run_commit]
  cases hcheck : work.checkVersions store >>= fun _ => work.checkExecutorCapacity store with
  | error failure => exact exclusive
  | ok done =>
      obtain ⟨_, -, hcapacity⟩ := except_bind_ok.mp hcheck
      have hspelled := (work.checkExecutorCapacity_ok store).mp hcapacity
      rw [work.merged_eq] at hspelled
      exact hspelled.of_spelled

/-- The records after a series of commits, some of which may have raised. -/
def commitAll (records : Records) (works : List UnitOfWork) : Records :=
  works.foldl (fun current work => work.commitInPlace.final current) records

def MemoryStore.commitAll (store : MemoryStore) (works : List InMemoryUnitOfWork) : MemoryStore :=
  works.foldl (fun current work => (MemoryWork.commit.run work).final current) store

theorem exclusive_commitAll {records : Records}
    (exclusive : records.orders.Exclusive UnitOfWork.occupies) (works : List UnitOfWork) :
    (commitAll records works).orders.Exclusive UnitOfWork.occupies := by
  induction works generalizing records with
  | nil => exact exclusive
  | cons work rest ih => exact ih (UnitOfWork.exclusive_commit exclusive work)

theorem MemoryStore.exclusive_commitAll {store : MemoryStore}
    (exclusive : store.orders.Exclusive UnitOfWork.occupies) (works : List InMemoryUnitOfWork) :
    (store.commitAll works).orders.Exclusive UnitOfWork.occupies := by
  induction works generalizing store with
  | nil => exact exclusive
  | cons work rest ih => exact ih (InMemoryUnitOfWork.exclusive_commit exclusive work)

/-- Whatever is stored and staged, once the versions agree: both commits decide the capacity of
executors exactly if and only if no two active orders of the merged store are held by different
executors with one spelling, or two have the same executor anyway.  And in every store that
commits lead to, each executor has at most one active order in an organization. -/
theorem capacity_decided_iff {work : UnitOfWork} {records : Records}
    (passed : work.checkVersions records = .ok ()) {staged : InMemoryUnitOfWork}
    {store : MemoryStore} (agreed : staged.checkVersions store = .ok ()) :
    (DecidesCapacity work.commitInPlace records (work.merged records) ∧
        DecidesCapacity (MemoryWork.commit.run staged) store (staged.merged store) ↔
      (staged.merged store).Misread UnitOfWork.occupies InMemoryUnitOfWork.joined →
        (staged.merged store).Contested UnitOfWork.occupies) ∧
      (∀ works, (commitAll .empty works).orders.Exclusive UnitOfWork.occupies) ∧
      ∀ works, (MemoryStore.empty.commitAll works).orders.Exclusive UnitOfWork.occupies := by
  refine ⟨?_, exclusive_commitAll (Dict.exclusive_empty _),
    MemoryStore.exclusive_commitAll (Dict.exclusive_empty _)⟩
  rw [InMemoryUnitOfWork.decidesCapacity_iff agreed]
  exact and_iff_right (UnitOfWork.decidesCapacity passed)

/-- An order that the executor is assigned to. -/
def assignedOrder (organizationId orderId executorId : String) (named : orderId ≠ "")
    (within : organizationId ≠ "") : WorkOrder :=
  { id := orderId
    publicNumber := "A000"
    organizationId
    workType := "repair"
    source := "telegram"
    details := .empty
    requesterId := none
    coordinatorId := none
    evidenceRequirements := .default
    status := .assigned
    poolMode := none
    assigneeId := some executorId
    poolResponses := .empty
    report := none
    version := 2
    createdAt := ⟨0⟩
    updatedAt := ⟨0⟩
    events := []
    required := ⟨named, by decide, within, by decide⟩ }

/-- An executor of one organization is busy, an executor of another one takes an order. -/
def northStore : MemoryStore :=
  { MemoryStore.empty with
    orders := Dict.empty.set "o1" (assignedOrder "acme:north" "o1" "7" (by decide) (by decide)) }

def northStaged : InMemoryUnitOfWork :=
  InMemoryUnitOfWork.empty.stageOrder
    (assignedOrder "acme" "o2" "north:7" (by decide) (by decide)) none

theorem capacity_decided_south :
    let work := UnitOfWork.empty.stageOrder
      (assignedOrder "acme" "o2" "south" (by decide) (by decide)) none
    let staged := InMemoryUnitOfWork.empty.stageOrder
      (assignedOrder "acme" "o2" "south" (by decide) (by decide)) none
    work.checkVersions Records.empty = .ok () ∧ staged.checkVersions northStore = .ok () ∧
      DecidesCapacity work.commitInPlace .empty (work.merged .empty) ∧
        DecidesCapacity (MemoryWork.commit.run staged) northStore (staged.merged northStore) := by
  intro work staged
  refine ⟨rfl, rfl, (capacity_decided_iff rfl rfl).1.mpr fun misread => ?_⟩
  have hspelled := (Dict.contested_spelled_iff _ _ InMemoryUnitOfWork.joined).mpr (.inr misread)
  have hpasses : staged.checkExecutorCapacity northStore = .ok () := rfl
  rw [(staged.checkExecutorCapacity_error northStore).mpr hspelled] at hpasses
  contradiction

/-- The two are spelled alike, and the commit of the second raises, though nobody is busy twice. -/
theorem busy_elsewhere :
    northStaged.checkVersions northStore = .ok () ∧
      (∃ after, (MemoryWork.commit.run northStaged).run northStore =
        .error executorOccupied after) ∧
      ¬(northStaged.merged northStore).Contested UnitOfWork.occupies := by
  refine ⟨rfl, ⟨northStore, rfl⟩, fun contested => ?_⟩
  have hpasses : holdAll UnitOfWork.occupies executorOccupied []
      (northStaged.merged northStore).values = .ok () := rfl
  rw [(Dict.holdAll_values_error _ _ executorOccupied).mpr contested] at hpasses
  contradiction

end DispatchCore.Infrastructure
