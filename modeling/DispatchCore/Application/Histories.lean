import Mathlib.Data.List.Pairwise
import DispatchCore.Application.Growth

/-! Commands one after the other, and what a single one does to the orders.  Every
commit checks the executors, so that no two orders ever occupy one. -/
namespace DispatchCore.Application

open DispatchCore.Library DispatchCore.Domain DispatchCore.Infrastructure

/-- The records after a command, refused or not. -/
def Command.settled (entry : Command × Answers) (records : Records) : Records :=
  match entry.1.apply entry.2 records with
  | .ok after => after
  | .error _ => records

def runCommands (records : Records) (history : List (Command × Answers)) : Records :=
  history.foldl (fun current entry => Command.settled entry current) records

section capacity

theorem capacity_iff (records : Records) :
    Capacity records ↔ ∀ first second left right executor,
      records.orders.get? first = some left → records.orders.get? second = some right →
      UnitOfWork.occupies left = some executor → UnitOfWork.occupies right = some executor →
      first = second := by
  unfold Capacity
  rw [UnitOfWork.checkOccupied_eq]
  exact Dict.holdAll_values_ok _ _ _

theorem commit_capacity {work : UnitOfWork} {records after : Records}
    (h : work.commit records = .ok after) : Capacity after :=
  ((commit_ok work records after).mp h).2.2.1

end capacity

/-- The order a command calls a method on, and the call. -/
def Command.call? : Command → Option (Key × Call)
  | .change _ organizationId orderId call _ => some ((organizationId, orderId), call)
  | .startTravel _ _ organizationId orderId _ executorId _ =>
      some ((organizationId, orderId), .startTravel executorId)
  | .completeOrder _ _ organizationId orderId executorId report =>
      some ((organizationId, orderId), .complete executorId report)
  | .cancelOrder _ _ organizationId orderId reason actorId =>
      some ((organizationId, orderId), .cancel reason actorId)
  | _ => none

/-- What a command that commits does to the orders. -/
inductive OrderEffect (called : Option (Key × Call)) (orders : Dict Key WorkOrder) :
    Dict Key WorkOrder → Prop
  | kept : OrderEffect called orders orders
  | created {order : WorkOrder} (absent : orders.get? (orderKey order) = none)
      (submitted : order.status = .submitted) :
      OrderEffect called orders (orders.set (orderKey order) order.pullEvents.2)
  | changed {order : WorkOrder} {call : Call} (ambient : Ambient)
      (asked : called = some (orderKey order, call))
      (stored : orders.get? (orderKey order) = some order) (enabled : call.Enabled order) :
      OrderEffect called orders
        (orders.set (orderKey order) (call.change ambient none order).pullEvents.2)

section effect

variable {records after : Records}

theorem orders_createNewOrder {called : Option (Key × Call)} {ambient : Ambient}
    {orderId publicNumber : String} {creation : Creation}
    (h : Atomic.createNewOrder ambient orderId creation publicNumber records = .ok after) :
    OrderEffect called records.orders after.orders ∧ Capacity after := by
  obtain ⟨order, hmade, hcommit⟩ := except_bind_ok.mp h
  obtain ⟨habsent, hcapacity, rfl⟩ := (commit_order order none records after).mp hcommit
  exact ⟨.created (Option.map_eq_none_iff.mp habsent) (creation_ok hmade).submitted, hcapacity⟩

theorem orders_confirmSubmission {called : Option (Key × Call)} {ambient : Ambient}
    {orderId : String} {creation : Creation}
    (h : Atomic.confirmSubmission ambient orderId creation records = .ok after) :
    OrderEffect called records.orders after.orders ∧ Capacity after := by
  obtain ⟨existing, -, h⟩ := except_bind_ok.mp h
  obtain ⟨candidate, -, h⟩ := except_bind_ok.mp h
  split at h
  · obtain ⟨hcapacity, rfl⟩ := (commit_empty records after).mp h
    exact ⟨.kept, hcapacity⟩
  · contradiction

/-- A call on the stored order, and the order put back. -/
def Performed (key : Key) (call : Call) (orders later : Dict Key WorkOrder) : Prop :=
  ∃ order ambient, orders.get? key = some order ∧ call.Enabled order ∧
    later = orders.set key (call.change ambient none order).pullEvents.2

theorem performed_put (valid : Valid records) {ambient : Ambient}
    {organizationId orderId : String} {call : Call} {order changed : WorkOrder}
    (hget : records.getOrder organizationId orderId = .ok order)
    (houtcome : Atomic.outcome (call.perform ambient none) order = .ok changed) :
    Performed (organizationId, orderId) call records.orders
      (records.orders.set (orderKey changed) changed.pullEvents.2) := by
  have hstored := getOrder_ok.mp hget
  obtain ⟨hkey, -⟩ := valid.orderKeyed hstored
  obtain ⟨enabled, rfl⟩ := (Call.perform_ok ambient none call).mp (outcome_ok.mp houtcome)
  rw [orderKey_change, hkey]
  exact ⟨order, ambient, hstored, enabled, rfl⟩

theorem performed_closeOrder (valid : Valid records) {ambient : Ambient}
    {organizationId orderId : String} {call : Call} {close : Method Failure TrackingSession Unit}
    (h : Atomic.closeOrder organizationId orderId (call.perform ambient none) close records =
      .ok after) :
    Performed (organizationId, orderId) call records.orders after.orders ∧ Capacity after := by
  obtain ⟨order, hget, h⟩ := except_bind_ok.mp h
  obtain ⟨changed, houtcome, h⟩ := except_bind_ok.mp h
  obtain ⟨active, -, hcommit⟩ := except_bind_ok.mp h
  cases active with
  | none =>
      obtain ⟨-, hcapacity, rfl⟩ := (commit_order _ _ records after).mp hcommit
      exact ⟨performed_put valid hget houtcome, hcapacity⟩
  | some session =>
      obtain ⟨closed, -, hcommit⟩ := except_bind_ok.mp hcommit
      obtain ⟨-, -, hcapacity, rfl⟩ := (commit_both _ _ _ _ records after).mp hcommit
      exact ⟨performed_put valid hget houtcome, hcapacity⟩

/-- A command that calls a method on an order commits only if the call is enabled. -/
theorem apply_call (valid : Valid records) {answers : Answers} {command : Command} {key : Key}
    {call : Call} (asked : command.call? = some (key, call))
    (h : command.apply answers records = .ok after) :
    Performed key call records.orders after.orders ∧ Capacity after := by
  cases command with
  | change ambient organizationId orderId call plain =>
      cases asked
      obtain ⟨order, hget, h⟩ := except_bind_ok.mp h
      obtain ⟨changed, houtcome, hcommit⟩ := except_bind_ok.mp h
      obtain ⟨-, hcapacity, rfl⟩ := (commit_order _ _ records after).mp hcommit
      exact ⟨performed_put valid hget houtcome, hcapacity⟩
  | startTravel ambient sessionAmbient organizationId orderId freshId executorId sessionId =>
      cases asked
      obtain ⟨order, hget, h⟩ := except_bind_ok.mp h
      obtain ⟨changed, houtcome, h⟩ := except_bind_ok.mp h
      obtain ⟨session, -, hcommit⟩ := except_bind_ok.mp h
      obtain ⟨-, -, hcapacity, rfl⟩ := (commit_both _ _ _ _ records after).mp hcommit
      exact ⟨performed_put valid hget (show Atomic.outcome
        ((Call.startTravel executorId).perform ambient none) order = _ from houtcome), hcapacity⟩
  | completeOrder ambient sessionAmbient organizationId orderId executorId report =>
      cases asked
      exact performed_closeOrder valid (show Atomic.closeOrder organizationId orderId
        ((Call.complete executorId report).perform ambient none) _ _ = _ from h)
  | cancelOrder ambient sessionAmbient organizationId orderId reason actorId =>
      cases asked
      exact performed_closeOrder valid (show Atomic.closeOrder organizationId orderId
        ((Call.cancel reason actorId).perform ambient none) _ _ = _ from h)
  | createOrder ambient freshId orderId creation => cases asked
  | createOrderOnce ambient orderId creation => cases asked
  | recordLocation ambient report => cases asked

theorem orders_recordLocation {called : Option (Key × Call)} {ambient : Ambient}
    {report : LocationReport} {seen : Bool}
    (h : Atomic.recordLocation ambient report seen records = .ok after) :
    OrderEffect called records.orders after.orders ∧ Capacity after := by
  obtain ⟨session, -, h⟩ := except_bind_ok.mp h
  split at h
  · split at h
    · obtain ⟨hcapacity, rfl⟩ := (commit_empty records after).mp h
      exact ⟨.kept, hcapacity⟩
    · obtain ⟨point, -, h⟩ := except_bind_ok.mp h
      obtain ⟨changed, -, hcommit⟩ := except_bind_ok.mp h
      obtain ⟨-, hcapacity, rfl⟩ := (commit_session _ _ records after).mp hcommit
      exact ⟨.kept, hcapacity⟩
  · contradiction

/-- One command: one order at most, by the command's own call, and the capacity of
every executor checked. -/
theorem apply_orders (valid : Valid records) {answers : Answers} {command : Command}
    (h : command.apply answers records = .ok after) :
    OrderEffect command.call? records.orders after.orders ∧ Capacity after := by
  have hcalls : ∀ key call, command.call? = some (key, call) →
      OrderEffect command.call? records.orders after.orders ∧ Capacity after := by
    intro key call hasked
    obtain ⟨⟨order, ambient, hstored, henabled, horders⟩, hcapacity⟩ :=
      apply_call valid hasked h
    obtain ⟨hkey, -⟩ := valid.orderKeyed hstored
    subst hkey
    rw [horders]
    exact ⟨.changed ambient hasked hstored henabled, hcapacity⟩
  cases command with
  | createOrder ambient freshId orderId creation => exact orders_createNewOrder h
  | createOrderOnce ambient orderId creation =>
      change Atomic.createOrderOnce _ _ _ _ _ = _ at h
      unfold Atomic.createOrderOnce at h
      split at h
      · rename_i found hcreate
        cases h
        exact orders_createNewOrder hcreate
      · split at h
        · exact orders_confirmSubmission h
        · contradiction
  | recordLocation ambient report => exact orders_recordLocation h
  | _ => exact hcalls _ _ rfl

/-- When a plain call commits, and what it leaves. -/
theorem change_ok (valid : Valid records) {answers : Answers} {ambient : Ambient}
    {organizationId orderId : String} {call : Call} {plain : Plain call} :
    (Command.change ambient organizationId orderId call plain).apply answers records =
        .ok after ↔
      ∃ order, records.orders.get? (organizationId, orderId) = some order ∧
        call.Enabled order ∧ Capacity after ∧
        after = putOrder (call.change ambient none order) records := by
  constructor
  · intro h
    obtain ⟨order, hget, h⟩ := except_bind_ok.mp h
    obtain ⟨changed, houtcome, hcommit⟩ := except_bind_ok.mp h
    obtain ⟨enabled, rfl⟩ := (Call.perform_ok ambient none call).mp (outcome_ok.mp houtcome)
    obtain ⟨-, hcapacity, rfl⟩ := (commit_order _ _ records after).mp hcommit
    exact ⟨order, getOrder_ok.mp hget, enabled, hcapacity, rfl⟩
  · rintro ⟨order, hstored, enabled, hcapacity, rfl⟩
    obtain ⟨hkey, -⟩ := valid.orderKeyed hstored
    apply except_bind_ok.mpr
    refine ⟨order, getOrder_ok.mpr hstored, except_bind_ok.mpr ⟨_, outcome_ok.mpr
      ((Call.perform_ok ambient none call).mpr ⟨enabled, rfl⟩), ?_⟩⟩
    apply (commit_order _ _ _ _).mpr
    refine ⟨?_, hcapacity, rfl⟩
    rw [orderKey_change, hkey, hstored]
    rfl

end effect

/-- The records a run of commands can leave. -/
structure Consistent (records : Records) : Prop where
  valid : Valid records
  capacity : Capacity records

theorem consistent_empty : Consistent .empty :=
  ⟨valid_empty, rfl⟩

theorem Consistent.settled {records : Records} (consistent : Consistent records)
    (entry : Command × Answers) : Consistent (Command.settled entry records) := by
  unfold Command.settled
  split
  · rename_i after happly
    exact ⟨((apply_takes consistent.valid happly).sound consistent.valid).1,
      (apply_orders consistent.valid happly).2⟩
  · exact consistent

theorem Consistent.runCommands {records : Records} (consistent : Consistent records)
    (history : List (Command × Answers)) : Consistent (runCommands records history) := by
  induction history generalizing records with
  | nil => exact consistent
  | cons entry rest ih => exact ih (consistent.settled entry)

/-- No order but possibly the one under the key occupies the executor. -/
def FreeBut (records : Records) (key executor : Key) : Prop :=
  ∀ other order, other ≠ key → records.orders.get? other = some order →
    UnitOfWork.occupies order ≠ some executor

theorem capacity_put {records : Records} (capacity : Capacity records) {next : WorkOrder} :
    Capacity (putOrder next records) ↔
      ∀ executor, UnitOfWork.occupies next = some executor →
        FreeBut records (orderKey next) executor := by
  have hexclusive := (capacity_iff records).mp capacity
  have hfree (executor : Key) : FreeBut records (orderKey next) executor ↔
      ¬records.orders.HeldBut UnitOfWork.occupies (orderKey next) executor := by
    constructor
    · rintro free ⟨other, order, hne, hstored, hother⟩
      exact free other order hne hstored hother
    · intro free other order hne hstored hother
      exact free ⟨other, order, hne, hstored, hother⟩
  simp only [hfree]
  rw [capacity_iff]
  exact Dict.exclusive_set_iff hexclusive

/-- When a plain call commits and changes its order. -/
theorem change_effective {records : Records} (consistent : Consistent records)
    {answers : Answers} {ambient : Ambient} {organizationId orderId : String} {call : Call}
    {plain : Plain call} :
    (∃ after, (Command.change ambient organizationId orderId call plain).apply answers records =
        .ok after ∧ after.orders ≠ records.orders) ↔
      ∃ order, records.orders.get? (organizationId, orderId) = some order ∧
        call.Enabled order ∧ ¬call.Idle order ∧
        ∀ executor, UnitOfWork.occupies (call.change ambient none order) = some executor →
          FreeBut records (organizationId, orderId) executor := by
  constructor
  · rintro ⟨after, happly, hchanged⟩
    obtain ⟨order, hstored, enabled, hcapacity, rfl⟩ :=
      (change_ok consistent.valid).mp happly
    obtain ⟨hkey, hpulled⟩ := consistent.valid.orderKeyed hstored
    refine ⟨order, hstored, enabled, fun idle => hchanged ?_, ?_⟩
    · have hsame : (call.change ambient none order).pullEvents.2 = order := by
        simp only [Call.change, if_pos idle, WorkOrder.pullEvents, ← hpulled]
      show records.orders.set _ _ = records.orders
      rw [hsame, orderKey_change, hkey, Dict.set_of_get? _ hstored]
    · have hfits := (capacity_put consistent.capacity).mp hcapacity
      rwa [orderKey_change, hkey] at hfits
  · rintro ⟨order, hstored, enabled, busy, hfits⟩
    obtain ⟨hkey, -⟩ := consistent.valid.orderKeyed hstored
    refine ⟨_, (change_ok consistent.valid).mpr ⟨order, hstored, enabled, ?_, rfl⟩,
      fun hsame => ?_⟩
    · rw [capacity_put consistent.capacity, orderKey_change, hkey]
      exact hfits
    · have hget := congrArg (fun orders => (orders.get? (organizationId, orderId)).map
        WorkOrder.version) hsame
      have hversion := change_version busy ambient
      simp only [putOrder, orderKey_change, hkey, Dict.get?_set_self, hstored, Option.map_some,
        Option.some.injEq] at hget
      have hpulled : (call.change ambient none order).pullEvents.2.version =
        (call.change ambient none order).version := rfl
      omega

end DispatchCore.Application
