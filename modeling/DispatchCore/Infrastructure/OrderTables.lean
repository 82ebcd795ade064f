import DispatchCore.Infrastructure.AsyncMemory
import DispatchCore.Infrastructure.JsonbOrders
import DispatchCore.Infrastructure.OrderNumbering

/-! The tables of a database that orders are created, changed and read in. -/
namespace DispatchCore.Infrastructure

open DispatchCore.Library DispatchCore.Domain

/-! ### What can be stored -/

/-- PostgreSQL has no text with this letter. -/
def withoutNul (text : String) : Bool := '\x00' ∉ text.toList

def Column.storable : Column → Bool
  | text value => withoutNul value
  | jsonb value => value.document.allTexts withoutNul
  | _ => true

def storable (order : WorkOrder) : Bool :=
  (orderValues order).all Column.storable &&
    (responseRows order).all fun row => withoutNul row.executorId

/-! ### The tables -/

/-- The primary key of `work_orders`. -/
def rowKey (order : WorkOrder) : Key := (order.organizationId, order.id)

structure OrderTables where
  orders : Dict Key OrderRow
  identified : ∀ key row, orders.get? key = some row →
    row.get? "organization_id" = some (.text key.1) ∧ row.get? "id" = some (.text key.2)
  responses : List ResponseRow
  keyed : (responses.map ResponseRow.key).Nodup
  counters : Dict String Nat
  outbox : Dict String DomainEvent

/-- What is raised in a transaction. -/
inductive OrderError
  | raised (failure : Failure)
  | unreadable (reason : Unreadable)
  | dataError

def NumberingError.orderError : NumberingError → OrderError
  | valueError failure => .raised failure
  | _ => .dataError

def rowText (row : OrderRow) (name : String) : Option String :=
  match row.get? name with
  | some (.text value) => some value
  | _ => none

def rowVersion (row : OrderRow) : Option Nat :=
  match row.get? "version" with
  | some (.integer value) => some value
  | _ => none

/-- The executor in the index on active orders. -/
def activeAssignee (row : OrderRow) : Option String :=
  match rowText row "status" with
  | none => none
  | some status =>
      if status ∈ UnitOfWork.activeStatuses.map WorkOrderStatus.value then
        rowText row "assignee_id"
      else none

theorem WrittenRow.identified {order : WorkOrder} {row : OrderRow} (written : WrittenRow order row) :
    row.get? "organization_id" = some (.text order.organizationId) ∧
      row.get? "id" = some (.text order.id) :=
  ⟨written.get? (List.mem_of_getElem? (i := 0) rfl), written.get? (List.mem_of_getElem? (i := 1) rfl)⟩

namespace OrderTables

section save

variable (tables : OrderTables) (order : WorkOrder)

/-- Another row has the public number, or the executor of an active order. -/
def violates (row : OrderRow) : Bool :=
  tables.orders.entries.any fun entry =>
    entry.1 ≠ rowKey order && entry.1.1 = order.organizationId &&
      (rowText entry.2 "public_number" = rowText row "public_number" ||
        (activeAssignee row).isSome && activeAssignee entry.2 = activeAssignee row)

def uniqueViolation : OrderError :=
  .raised (.concurrencyConflict "database uniqueness constraint rejected concurrent assignment")

/-- The row is put in its place, and the responses in theirs. -/
def place (row : OrderRow) (written : WrittenRow order row) : Except OrderError OrderTables :=
  if tables.violates order row then .error uniqueViolation
  else
    match h : replaceResponses tables.responses order with
    | .error failure => .error (.raised failure)
    | .ok responses => .ok
        { tables with
          orders := tables.orders.set (rowKey order) row
          identified := by
            intro key found hfound
            rw [Dict.get?_set] at hfound
            by_cases hkey : key = rowKey order
            · rw [if_pos hkey] at hfound
              rw [hkey, ← Option.some.inj hfound]
              exact written.identified
            · rw [if_neg hkey] at hfound
              exact tables.identified key found hfound
          responses := responses
          keyed := (replaceResponses_eq h).2 }

def saveOrder (expectedVersion : Option Nat) : Except OrderError OrderTables :=
  if storable order then
    match h : tables.orders.get? (rowKey order), expectedVersion with
    | none, none => tables.place order (insertedRow order) .inserted
    | some _, none =>
        .error (.raised (.concurrencyConflict s!"work order {Text.repr order.id} already exists"))
    | some row, some version =>
        if rowVersion row = some version then
          tables.place order (updatedRow row order)
            (.updated (tables.identified _ _ h).1 (tables.identified _ _ h).2)
        else .error (.raised (.concurrencyConflict
          s!"work order {Text.repr order.id} changed concurrently"))
    | none, some _ => .error (.raised (.concurrencyConflict
        s!"work order {Text.repr order.id} changed concurrently"))
  else .error .dataError

end save

/-- `ON CONFLICT (event_id) DO NOTHING` -/
def insertEvent (outbox : Dict String DomainEvent) (event : DomainEvent) :
    Dict String DomainEvent :=
  if outbox.contains event.eventId then outbox else outbox.set event.eventId event

def addEvents (tables : OrderTables) (events : List DomainEvent) : Except OrderError OrderTables :=
  if events.all fun event => (Column.jsonb (.obj event.payload.entries)).storable then
    .ok { tables with outbox := events.foldl insertEvent tables.outbox }
  else .error .dataError

/-- The rows of an order's responses, in the order in which they are read. -/
def responsesAt (tables : OrderTables) (key : Key) : List ResponseRow :=
  (tables.responses.filter fun row => row.organizationId = key.1 ∧ row.workOrderId = key.2).mergeSort
    ResponseRow.upTo

def getOrder (jsonb : Json → Json) (tables : OrderTables) (key : Key) :
    Except OrderError WorkOrder :=
  match tables.orders.get? key with
  | none => .error (.raised (.notFound s!"work order {Text.repr key.2} was not found"))
  | some row => (orderFromRows jsonb row (tables.responsesAt key)).mapError .unreadable

/-! ### What is left after a transaction -/

section spec

variable {tables after : OrderTables} {order : WorkOrder}

theorem place_ok {row : OrderRow} {written : WrittenRow order row}
    (h : tables.place order row written = .ok after) :
    after.orders = tables.orders.set (rowKey order) row ∧
      replaceResponses tables.responses order = .ok after.responses := by
  unfold place at h
  by_cases hviolates : tables.violates order row
  · rw [if_pos hviolates] at h
    contradiction
  · rw [if_neg hviolates] at h
    split at h
    · contradiction
    · rename_i responses hreplaced
      cases h
      exact ⟨rfl, hreplaced⟩

/-- Where saving succeeds, the order has a row and its responses, and nothing else changed. -/
theorem saveOrder_ok {expectedVersion : Option Nat}
    (h : tables.saveOrder order expectedVersion = .ok after) :
    storable order = true ∧
      (∃ row, WrittenRow order row ∧ after.orders = tables.orders.set (rowKey order) row) ∧
      replaceResponses tables.responses order = .ok after.responses ∧
      (expectedVersion = none → tables.orders.get? (rowKey order) = none) := by
  unfold saveOrder at h
  by_cases hstorable : storable order = true
  · rw [if_pos hstorable] at h
    split at h
    · rename_i hfree
      obtain ⟨horders, hresponses⟩ := place_ok h
      exact ⟨hstorable, ⟨_, .inserted, horders⟩, hresponses, fun _ => hfree⟩
    · contradiction
    · rename_i row version hrow
      split at h
      · obtain ⟨horders, hresponses⟩ := place_ok h
        obtain ⟨horganization, hid⟩ := tables.identified _ _ hrow
        exact ⟨hstorable, ⟨_, .updated horganization hid, horders⟩, hresponses,
          fun hnone => by contradiction⟩
      · contradiction
    · contradiction
  · rw [if_neg hstorable] at h
    contradiction

theorem addEvents_ok {events : List DomainEvent} (h : tables.addEvents events = .ok after) :
    after.orders = tables.orders ∧ after.responses = tables.responses := by
  unfold addEvents at h
  split at h
  · cases h
    exact ⟨rfl, rfl⟩
  · contradiction

/-- An order that there is already is not saved as a new one. -/
theorem saveOrder_taken (stored : storable order = true) {row : OrderRow}
    (taken : tables.orders.get? (rowKey order) = some row) :
    tables.saveOrder order none = .error (.raised
      (.concurrencyConflict s!"work order {Text.repr order.id} already exists")) := by
  unfold saveOrder
  rw [if_pos stored]
  split
  · rename_i hfree _
    rw [taken] at hfree
    contradiction
  · rfl
  · contradiction
  · contradiction

theorem saveOrder_unstorable (h : ¬storable order = true) (expectedVersion : Option Nat) :
    tables.saveOrder order expectedVersion = .error .dataError := by
  unfold saveOrder
  rw [if_neg h]

end spec

end OrderTables
end DispatchCore.Infrastructure
