import DispatchCore.Application.Effects
import DispatchCore.Infrastructure.OrderTables

/-! Orders created and changed in the tables of a database, and what every order keeps,
whatever becomes of it. -/
namespace DispatchCore.Application

open DispatchCore.Library DispatchCore.Domain DispatchCore.Infrastructure

namespace PostgresService

/-- `_create_new_order`, in a transaction. -/
def createNewOrder (ambient : Ambient) (orderId : String) (creation : Creation)
    (tables : OrderTables) : Except OrderError (WorkOrder × OrderTables) := do
  let (publicNumber, counters) ←
    (NumberingTables.allocatePublicNumber creation.organizationId tables.counters).mapError
      NumberingError.orderError
  let order ← (creation.order ambient orderId publicNumber).mapError .raised
  let saved ← ({ tables with counters := counters } : OrderTables).saveOrder order none
  let after ← saved.addEvents order.pullEvents.1
  return (order.pullEvents.2, after)

/-- `_change_order`, in a transaction. -/
def changeOrder (jsonb : Json → Json) (ambient : Ambient) (key : Key) (call : Call)
    (tables : OrderTables) : Except OrderError OrderTables := do
  let order ← tables.getOrder jsonb key
  match (call.perform ambient none).run order with
  | .error failure _ => throw (.raised failure)
  | .ok _ changed =>
      let saved ← tables.saveOrder changed (some order.version)
      saved.addEvents changed.pullEvents.1

end PostgresService

/-- What is committed while time passes: another order, a call on one, or events alone, as the
other commands and the relay leave them. -/
inductive Progress
  | created (ambient : Ambient) (orderId : String) (creation : Creation)
  | changed (ambient : Ambient) (key : Key) (call : Call)
  | published (outbox : Dict String DomainEvent)

/-- A transaction that fails leaves nothing behind. -/
def Progress.next (jsonb : Json → Json) (tables : OrderTables) : Progress → OrderTables
  | created ambient orderId creation =>
      match PostgresService.createNewOrder ambient orderId creation tables with
      | .ok (_, after) => after
      | .error _ => tables
  | changed ambient key call =>
      match PostgresService.changeOrder jsonb ambient key call tables with
      | .ok after => after
      | .error _ => tables
  | published outbox => { tables with outbox := outbox }

/-! ### Reading one order -/

/-- An order is read with the names of its row. -/
theorem orderFromRows_key {jsonb : Json → Json} {row : OrderRow} {rows : List ResponseRow}
    {order : WorkOrder} {key : Key} (h : orderFromRows jsonb row rows = .ok order)
    (organization : row.get? "organization_id" = some (.text key.1))
    (identity : row.get? "id" = some (.text key.2)) : rowKey order = key := by
  have hid : column row "id" = .ok (.text key.2) := by
    unfold column
    rw [identity]
  have horganization : column row "organization_id" = .ok (.text key.1) := by
    unfold column
    rw [organization]
  simp only [orderFromRows, except_bind_ok] at h
  obtain ⟨_, _, _, _, _, _, _, _, _, _, _, _, idColumn, hfirst, id, hread, _, _, _, _,
    organizationColumn, hsecond, organizationId, hother, h⟩ := h
  rw [hid] at hfirst
  rw [horganization] at hsecond
  obtain rfl := Except.ok.inj hfirst
  obtain rfl := Except.ok.inj hsecond
  obtain rfl := Except.ok.inj hread
  obtain rfl := Except.ok.inj hother
  -- The columns after the names do not matter.
  repeat obtain ⟨_, -, h⟩ := h
  split at h
  · cases h
    rfl
  · contradiction

theorem getOrder_key {jsonb : Json → Json} {tables : OrderTables} {key : Key} {order : WorkOrder}
    (h : tables.getOrder jsonb key = .ok order) : rowKey order = key := by
  unfold OrderTables.getOrder at h
  cases hrow : tables.orders.get? key with
  | none =>
      rw [hrow] at h
      contradiction
  | some row =>
      obtain ⟨horganization, hidentity⟩ := tables.identified key row hrow
      simp only [hrow] at h
      cases hread : orderFromRows jsonb row (tables.responsesAt key) with
      | error reason =>
          rw [hread] at h
          contradiction
      | ok found =>
          rw [hread] at h
          obtain rfl := Except.ok.inj h
          exact orderFromRows_key hread horganization hidentity

/-- What the rows of one key are does not depend on the responses to other orders. -/
theorem responsesAt_elsewhere {tables after : OrderTables} {order : WorkOrder} {key : Key}
    (h : replaceResponses tables.responses order = .ok after.responses)
    (elsewhere : key ≠ rowKey order) : after.responsesAt key = tables.responsesAt key := by
  obtain ⟨hafter, -⟩ := replaceResponses_eq h
  have hother {row : ResponseRow} (hwithin : row.Within order) :
      ¬(row.organizationId = key.1 ∧ row.workOrderId = key.2) := by
    rintro ⟨horganization, hid⟩
    exact elsewhere (Prod.ext (horganization.symm.trans hwithin.1) (hid.symm.trans hwithin.2))
  unfold OrderTables.responsesAt
  rw [hafter, List.filter_append, List.filter_filter]
  have hmine : (responseRows order).filter
      (fun row => row.organizationId = key.1 ∧ row.workOrderId = key.2) = [] := by
    rw [List.filter_eq_nil_iff]
    intro row hrow
    exact fun hkey => hother (within_responseRows hrow) (of_decide_eq_true hkey)
  rw [hmine, List.append_nil]
  congr 1
  apply List.filter_congr
  intro row hrow
  rw [Bool.eq_iff_iff, Bool.and_eq_true, decide_eq_true_eq, decide_eq_true_eq]
  exact ⟨fun hboth => hboth.1, fun hkey => ⟨hkey, fun hwithin => hother hwithin hkey⟩⟩

/-! ### What an order keeps -/

/-- A later state of an order: the same names and the same intent, where numbers in the details
may have been settled. -/
structure LaterOf (created order : WorkOrder) : Prop where
  origin : originOf order = { originOf created with details := order.details }
  details : ((detailsDocument order.details).map JsonNumber.settled).alike
    ((detailsDocument created.details).map JsonNumber.settled)

theorem LaterOf.rowKey {created order : WorkOrder} (continues : LaterOf created order) :
    rowKey order = rowKey created :=
  Prod.ext (congrArg Origin.organizationId continues.origin) (congrArg Origin.id continues.origin)

theorem LaterOf.distinct {created order : WorkOrder} (continues : LaterOf created order)
    (separate : (detailsDocument created.details).distinct = true) :
    (detailsDocument order.details).distinct = true := by
  have h := continues.details.distinct
  rwa [Document.distinct_map, Document.distinct_map, separate] at h

/-- The tables hold a later state of the order. -/
structure Holds (created : WorkOrder) (tables : OrderTables) (order : WorkOrder) : Prop where
  row : ∃ row, tables.orders.get? (rowKey created) = some row ∧ WrittenRow order row
  responses : (tables.responsesAt (rowKey created)).Perm (responseRows order)
  keyed : Keyed order
  continues : LaterOf created order

section Holds

variable {jsonb : Json → Json} {created : WorkOrder} {tables after : OrderTables}
  {order other : WorkOrder}

theorem Holds.elsewhere (holds : Holds created tables order) {expectedVersion : Option Nat}
    (saved : tables.saveOrder other expectedVersion = .ok after)
    (elsewhere : rowKey created ≠ rowKey other) : Holds created after order := by
  obtain ⟨-, ⟨written, -, horders⟩, hresponses, -⟩ := OrderTables.saveOrder_ok saved
  obtain ⟨row, hrow, hwritten⟩ := holds.row
  refine ⟨⟨row, ?_, hwritten⟩, ?_, holds.keyed, holds.continues⟩
  · rw [horders, Dict.get?_set_of_ne _ _ elsewhere, hrow]
  · rw [responsesAt_elsewhere hresponses elsewhere]
    exact holds.responses

theorem holds_saved {expectedVersion : Option Nat}
    (saved : tables.saveOrder order expectedVersion = .ok after) (keyed : Keyed order)
    (continues : LaterOf created order) : Holds created after order := by
  obtain ⟨-, ⟨row, hwritten, horders⟩, hresponses, -⟩ := OrderTables.saveOrder_ok saved
  refine ⟨⟨row, ?_, hwritten⟩, ?_, keyed, continues⟩
  · rw [horders, ← continues.rowKey, Dict.get?_set, if_pos rfl]
  · rw [← continues.rowKey]
    exact selectResponses_replaced hresponses

theorem Holds.addEvents (holds : Holds created tables order) {events : List DomainEvent}
    (h : tables.addEvents events = .ok after) : Holds created after order := by
  obtain ⟨horders, hresponses⟩ := OrderTables.addEvents_ok h
  obtain ⟨hrow, hrows, hkeyed, hcontinues⟩ := holds
  refine ⟨?_, ?_, hkeyed, hcontinues⟩
  · rw [horders]
    exact hrow
  · unfold OrderTables.responsesAt at hrows ⊢
    rw [hresponses]
    exact hrows

/-- What is read is a later state, too, with numbers as the column gives them back. -/
theorem Holds.getOrder (returns : ReturnsValues jsonb)
    (separate : (detailsDocument created.details).distinct = true)
    (holds : Holds created tables order) :
    ∃ loaded, tables.getOrder jsonb (rowKey created) = .ok loaded ∧ Keyed loaded ∧
      LaterOf created loaded ∧
      (detailsDocument loaded.details).alike
        ((detailsDocument created.details).map JsonNumber.settled) := by
  obtain ⟨row, hrow, hwritten⟩ := holds.row
  obtain ⟨loaded, hloaded, hsurvives, hdetails⟩ := orderFromRows_returned returns hwritten
    holds.keyed holds.responses (holds.continues.distinct separate)
  have hsettled := hdetails.map JsonNumber.settled
  rw [Document.map_settled_settled] at hsettled
  refine ⟨loaded, ?_, ?_, ⟨?_, hsettled.trans holds.continues.details⟩,
    hdetails.trans holds.continues.details⟩
  · unfold OrderTables.getOrder
    simp only [hrow, hloaded]
    rfl
  · have hkeyed : Keyed { order with details := loaded.details } := holds.keyed
    exact hkeyed.survives hsurvives
  · have horigin := holds.continues.origin
    rw [hsurvives.fields]
    simp only [originOf, Origin.mk.injEq] at horigin ⊢
    tauto

theorem LaterOf.change (continues : LaterOf created order) (ambient : Ambient) (call : Call) :
    LaterOf created (call.change ambient none order) := by
  have horigin := originOf_change ambient none call order
  have hdetails : (call.change ambient none order).details = order.details :=
    congrArg Origin.details horigin
  refine ⟨?_, ?_⟩
  · rw [horigin, continues.origin, hdetails]
  · rw [hdetails]
    exact continues.details

end Holds

/-! ### Whatever follows -/

section next

variable {jsonb : Json → Json} {created : WorkOrder} {tables after : OrderTables}
  {order : WorkOrder}

theorem Holds.createNewOrder (holds : Holds created tables order) {ambient : Ambient}
    {orderId : String} {creation : Creation} {other : WorkOrder}
    (h : PostgresService.createNewOrder ambient orderId creation tables = .ok (other, after)) :
    Holds created after order := by
  unfold PostgresService.createNewOrder at h
  obtain ⟨⟨number, counters⟩, -, h⟩ := except_bind_ok.mp h
  obtain ⟨fresh, -, h⟩ := except_bind_ok.mp h
  obtain ⟨saved, hsaved, h⟩ := except_bind_ok.mp h
  obtain ⟨found, hadded, h⟩ := except_bind_ok.mp h
  obtain ⟨-, rfl⟩ := Prod.mk.inj (Except.ok.inj h)
  -- Another order has another key, since this one's is taken.
  have helsewhere : rowKey created ≠ rowKey fresh := by
    intro hsame
    obtain ⟨-, -, -, hfree⟩ := OrderTables.saveOrder_ok hsaved
    obtain ⟨row, hrow, -⟩ := holds.row
    have hnone := hfree rfl
    rw [← hsame, hrow] at hnone
    contradiction
  have hcounted : Holds created { tables with counters := counters } order :=
    ⟨holds.row, holds.responses, holds.keyed, holds.continues⟩
  exact (hcounted.elsewhere hsaved helsewhere).addEvents hadded

theorem Holds.changeOrder (returns : ReturnsValues jsonb)
    (separate : (detailsDocument created.details).distinct = true)
    (holds : Holds created tables order) {ambient : Ambient} {key : Key} {call : Call}
    (h : PostgresService.changeOrder jsonb ambient key call tables = .ok after) :
    ∃ order, Holds created after order := by
  unfold PostgresService.changeOrder at h
  obtain ⟨read, hread, h⟩ := except_bind_ok.mp h
  cases hrun : (call.perform ambient none).run read with
  | error failure unchanged =>
      rw [hrun] at h
      contradiction
  | ok done changed =>
      simp only [hrun] at h
      obtain ⟨saved, hsaved, hadded⟩ := except_bind_ok.mp h
      obtain ⟨-, rfl⟩ := (Call.perform_ok ambient none call).mp hrun
      by_cases hkey : rowKey created = key
      · obtain ⟨loaded, hloaded, hkeyed, hcontinues, -⟩ := holds.getOrder returns separate
        rw [hkey, hread] at hloaded
        obtain rfl := Except.ok.inj hloaded
        have hchanged := hkeyed.perform ambient none call
        unfold Method.final at hchanged
        rw [hrun] at hchanged
        exact ⟨_, (holds_saved hsaved hchanged (hcontinues.change ambient call)).addEvents hadded⟩
      · have helsewhere : rowKey created ≠ rowKey (call.change ambient none read) := by
          have hsame : rowKey (call.change ambient none read) = rowKey read :=
            orderKey_change ambient none call read
          rw [hsame, getOrder_key hread]
          exact hkey
        exact ⟨order, (holds.elsewhere hsaved helsewhere).addEvents hadded⟩

/-- An order that the tables hold they hold after whatever is committed next. -/
theorem holds_next (returns : ReturnsValues jsonb)
    (separate : (detailsDocument created.details).distinct = true)
    (holds : ∃ order, Holds created tables order) (progress : Progress) :
    ∃ order, Holds created (progress.next jsonb tables) order := by
  obtain ⟨order, holds⟩ := holds
  cases progress with
  | created ambient orderId creation =>
      simp only [Progress.next]
      cases hcreate : PostgresService.createNewOrder ambient orderId creation tables with
      | error => exact ⟨order, holds⟩
      | ok result => exact ⟨order, holds.createNewOrder hcreate⟩
  | changed ambient key call =>
      simp only [Progress.next]
      cases hchange : PostgresService.changeOrder jsonb ambient key call tables with
      | error => exact ⟨order, holds⟩
      | ok after => exact holds.changeOrder returns separate hchange
  | published outbox => exact ⟨order, holds.row, holds.responses, holds.keyed, holds.continues⟩

theorem holds_run (returns : ReturnsValues jsonb)
    (separate : (detailsDocument created.details).distinct = true)
    (holds : ∃ order, Holds created tables order) (later : List Progress) :
    ∃ order, Holds created (later.foldl (Progress.next jsonb) tables) order := by
  induction later generalizing tables with
  | nil => exact holds
  | cons progress rest ih => exact ih (holds_next returns separate holds progress)

end next

/-! ### Creating an order, and creating it again -/

theorem withoutNul_padLeft {width : Nat} {text : String} (h : '\x00' ∉ text.toList) :
    '\x00' ∉ (Text.padLeft width '0' text).toList := by
  rw [toList_padLeft, List.mem_append]
  rintro (hzero | hletter)
  · exact absurd (List.eq_of_mem_replicate hzero) (by decide)
  · exact h hletter

theorem withoutNul_base36 (value : Nat) : '\x00' ∉ base36 value := by
  induction value using Nat.strong_induction_on with
  | h value ih =>
      rcases Nat.eq_zero_or_pos value with rfl | hpositive
      · rw [base36_zero]
        exact List.not_mem_nil
      · have hdigit : ∀ digit : Fin 36, alphabet.getD digit '0' ≠ '\x00' := by decide
        rw [base36_of_pos hpositive, List.mem_append, List.mem_singleton]
        rintro (h | h)
        · exact ih (value / 36) (by omega) h
        · exact hdigit ⟨value % 36, Nat.mod_lt _ (by decide)⟩ h.symm

/-- A public number is a text that can be stored. -/
theorem formatOrderNumber_text {sequence : Nat} {number : String} (positive : 1 ≤ sequence)
    (h : formatOrderNumber sequence = .ok number) : number ≠ "" ∧ withoutNul number = true := by
  rw [formatOrderNumber_eq positive] at h
  obtain rfl := Except.ok.inj h
  unfold withoutNul
  rw [decide_eq_true_eq]
  by_cases hshort : sequence - 1 < shortCapacity
  · have hsize := size_shortNumber (sequence - 1)
    rw [if_pos hshort]
    refine ⟨?_, ?_⟩
    · intro hempty
      rw [hempty] at hsize
      contradiction
    · have hcapacity : shortCapacity = 26000 := rfl
      have hletter : ∀ block : Fin 26, Char.ofNat ('A'.toNat + block) ≠ '\x00' := by decide
      have hblock : (sequence - 1) / shortBlockSize < 26 := by
        rw [shortBlockSize]
        omega
      rw [shortNumber, String.toList_append, String.toList_ofList, List.mem_append,
        List.mem_singleton]
      rintro (h | h)
      · exact hletter ⟨_, hblock⟩ h.symm
      · refine withoutNul_padLeft ?_ h
        exact fun hmem => (FloatText.digits_toString _).ne (by decide) _ hmem rfl
  · have hsize := size_longNumber sequence
    rw [if_neg hshort]
    refine ⟨?_, ?_⟩
    · intro hempty
      rw [hempty] at hsize
      exact absurd hsize (by decide)
    · rw [longNumber, String.toList_append, List.mem_append]
      rintro (h | h)
      · exact absurd h (by decide)
      · refine withoutNul_padLeft ?_ h
        rw [String.toList_ofList]
        exact withoutNul_base36 sequence

/-- What is given of an order are texts that can be stored. -/
def Creation.storable (creation : Creation) : Bool :=
  withoutNul creation.workType && withoutNul creation.source &&
    (detailsDocument creation.details).allTexts withoutNul && creation.requesterId.all withoutNul

theorem storable_requirements (rules : EvidenceRequirements) :
    (Column.jsonb (requirementsJson rules)).storable = true := by
  show (requirementsJson rules).document.allTexts withoutNul = true
  rw [requirementsJson, Json.document_obj, Document.allTexts_obj]
  simp only [List.map_cons, List.map_nil, List.forall_mem_cons]
  exact ⟨⟨by decide, rfl⟩, ⟨by decide, rfl⟩, ⟨by decide, rfl⟩, ⟨by decide, rfl⟩, by simp⟩

theorem storable_nullable (text : Option String) :
    (nullable text).storable = text.all withoutNul := by
  cases text <;> rfl

section creation

variable {ambient : Ambient} {orderId publicNumber : String} {creation : Creation}
  {order : WorkOrder}

theorem order_ok (h : creation.order ambient orderId publicNumber = .ok order) :
    originOf order = ⟨orderId, publicNumber, creation.organizationId, creation.workType,
      creation.source, creation.details, creation.requesterId,
      creation.evidenceRequirements.getD .default⟩ ∧
    storable order = (withoutNul creation.organizationId && withoutNul orderId &&
      withoutNul publicNumber && creation.storable) := by
  unfold Creation.order WorkOrder.create at h
  simp only at h
  split at h
  · cases h
    refine ⟨rfl, ?_⟩
    have hstatus : withoutNul WorkOrderStatus.submitted.value = true := by decide
    rw [Bool.eq_iff_iff]
    simp only [Infrastructure.storable, Creation.storable, orderValues, responseRows,
      WorkOrder.recorded, List.all_cons, List.all_nil, storable_requirements, storable_nullable,
      Bool.and_eq_true, Option.map_none, Option.elim_none, Option.all_none]
    simp only [Column.storable, hstatus, Dict.values, Dict.empty, List.map_nil, List.all_nil,
      and_true, detailsDocument, and_assoc]
  · contradiction

theorem order_eq_ok (named : orderId ≠ "" ∧ publicNumber ≠ "" ∧ creation.organizationId ≠ "" ∧
    creation.workType ≠ "") :
    ∃ order, creation.order ambient orderId publicNumber = .ok order := by
  unfold Creation.order WorkOrder.create
  exact ⟨_, dif_pos named⟩

theorem order_named (h : creation.order ambient orderId publicNumber = .ok order) :
    orderId ≠ "" ∧ publicNumber ≠ "" ∧ creation.organizationId ≠ "" ∧ creation.workType ≠ "" := by
  unfold Creation.order WorkOrder.create at h
  by_contra hnamed
  rw [dif_neg hnamed] at h
  contradiction

end creation

section createNewOrder

variable {ambient : Ambient} {orderId : String} {creation : Creation} {tables after : OrderTables}

/-- What a successful creation says of the order and leaves in the tables. -/
theorem PostgresService.createNewOrder_ok {created : WorkOrder}
    (h : PostgresService.createNewOrder ambient orderId creation tables = .ok (created, after)) :
    (∃ publicNumber, originOf created = ⟨orderId, publicNumber, creation.organizationId,
      creation.workType, creation.source, creation.details, creation.requesterId,
      creation.evidenceRequirements.getD .default⟩) ∧
    orderId ≠ "" ∧ creation.organizationId ≠ "" ∧
    withoutNul creation.organizationId = true ∧ withoutNul orderId = true ∧
    creation.storable = true ∧ ∃ order, Holds created after order := by
  unfold PostgresService.createNewOrder at h
  obtain ⟨⟨number, counters⟩, -, h⟩ := except_bind_ok.mp h
  obtain ⟨fresh, hfresh, h⟩ := except_bind_ok.mp h
  obtain ⟨saved, hsaved, h⟩ := except_bind_ok.mp h
  obtain ⟨found, hadded, h⟩ := except_bind_ok.mp h
  obtain ⟨rfl, rfl⟩ := Prod.mk.inj (Except.ok.inj h)
  cases horder : creation.order ambient orderId number with
  | error failure =>
      rw [horder] at hfresh
      contradiction
  | ok order =>
      rw [horder] at hfresh
      obtain rfl := Except.ok.inj hfresh
      obtain ⟨horigin, hstorable⟩ := order_ok horder
      obtain ⟨hid, -, horganization, -⟩ := order_named horder
      have hstored := (OrderTables.saveOrder_ok hsaved).1
      rw [hstorable] at hstored
      simp only [Bool.and_eq_true] at hstored
      obtain ⟨⟨⟨hnul, hidNul⟩, -⟩, htexts⟩ := hstored
      have hkeyed : Keyed order := keyed_create horder
      have hcontinues : LaterOf order.pullEvents.2 order := ⟨rfl, rfl⟩
      exact ⟨⟨number, horigin⟩, hid, horganization, hnul, hidNul, htexts, order,
        (holds_saved hsaved hkeyed hcontinues).addEvents hadded⟩

/-- Where an order has the key already, creating it raises, whatever else it is. -/
theorem PostgresService.createNewOrder_taken
    (named : orderId ≠ "" ∧ creation.organizationId ≠ "" ∧ creation.workType ≠ "")
    (organization : withoutNul creation.organizationId = true) (identity : withoutNul orderId = true)
    {row : OrderRow} (taken : tables.orders.get? (creation.organizationId, orderId) = some row) :
    PostgresService.createNewOrder ambient orderId creation tables = .error
      (if (tables.counters.get? creation.organizationId).getD 0 + 1 < NumberingTables.bigintLimit ∧
          creation.storable = true then
        .raised (.concurrencyConflict s!"work order {Text.repr orderId} already exists")
      else .dataError) := by
  have hsequence : ((tables.counters.get? creation.organizationId).map (· + 1)).getD 1 =
      (tables.counters.get? creation.organizationId).getD 0 + 1 := by
    cases tables.counters.get? creation.organizationId <;> rfl
  unfold PostgresService.createNewOrder NumberingTables.allocatePublicNumber
  simp only [hsequence]
  by_cases hroom : (tables.counters.get? creation.organizationId).getD 0 + 1 <
      NumberingTables.bigintLimit
  · have hformat := @formatOrderNumber_eq
      ((tables.counters.get? creation.organizationId).getD 0 + 1) (Nat.le_add_left ..)
    obtain ⟨hnumber, hnumberNul⟩ := formatOrderNumber_text (Nat.le_add_left ..) hformat
    obtain ⟨order, horder⟩ := @order_eq_ok ambient orderId _ creation
      ⟨named.1, hnumber, named.2.1, named.2.2⟩
    obtain ⟨horigin, hstorable⟩ := order_ok horder
    have hkey : rowKey order = (creation.organizationId, orderId) :=
      Prod.ext (congrArg Origin.organizationId horigin) (congrArg Origin.id horigin)
    have hid : order.id = orderId := congrArg Origin.id horigin
    rw [organization, identity, hnumberNul, Bool.and_true, Bool.and_true, Bool.true_and]
      at hstorable
    rw [if_pos hroom, hformat]
    simp only [Except.mapError, except_ok_bind]
    rw [horder]
    simp only [except_ok_bind]
    by_cases hstored : creation.storable = true
    · rw [if_pos ⟨hroom, hstored⟩, OrderTables.saveOrder_taken (hstorable.trans hstored)
        (by rw [hkey]; exact taken), hid]
      rfl
    · rw [if_neg fun h => hstored h.2,
        OrderTables.saveOrder_unstorable (by rw [hstorable]; exact hstored)]
      rfl
  · rw [if_neg hroom, if_neg fun h => hroom h.1]
    rfl

end createNewOrder

end DispatchCore.Application
