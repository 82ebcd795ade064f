import Mathlib.Data.List.Perm.Basic
import DispatchCore.Infrastructure.PostgresOrders
import DispatchCore.Domain.Lifecycle

/-! Reading back what was written: every column, every nested value and every
response of an order comes out of the rows as it went in. -/
namespace DispatchCore.Infrastructure

open DispatchCore.Library DispatchCore.Domain

/-! ### The nested values -/

theorem statusOf_value (status : WorkOrderStatus) : statusOf status.value = .ok status := by
  cases status <;> rfl

theorem responseStatusOf_value (status : PoolResponseStatus) :
    responseStatusOf status.value = .ok status := by
  cases status <;> rfl

theorem optionalPoolMode_value (mode : Option PoolMode) :
    optionalPoolMode (mode.map PoolMode.value) = .ok mode := by
  cases mode with
  | none => rfl
  | some mode => cases mode <;> rfl

theorem asNullable_nullable (text : Option String) : (nullable text).asNullable = .ok text := by
  cases text <;> rfl

theorem asTextOrNone_nullableJson (text : Option String) :
    asTextOrNone (nullableJson text) = .ok text := by
  cases text <;> rfl

theorem asTexts_str (texts : List String) : asTexts (texts.map .str) = .ok texts := by
  induction texts with
  | nil => rfl
  | cons text rest ih =>
      rw [List.map_cons, asTexts, ih]
      rfl

theorem asMapping_entries (mapping : Dict String Json) :
    asMapping (.obj mapping.entries) = .ok mapping :=
  congrArg Except.ok (Dict.ofList_entries mapping)

theorem reportFromJson_reportJson (report : CompletionReport) :
    reportFromJson (reportJson report) = .ok (some report) := by
  obtain ⟨photos, comment, signature, code⟩ := report
  have hphotos : photoRefs (Dict.ofList [("photo_refs", .arr (photos.map .str)),
      ("comment", nullableJson comment), ("signature_ref", nullableJson signature),
      ("customer_code", nullableJson code)]) = .ok photos := asTexts_str photos
  have hcomment := asTextOrNone_nullableJson comment
  have hsignature := asTextOrNone_nullableJson signature
  have hcode := asTextOrNone_nullableJson code
  unfold reportJson reportFromJson
  simp only [asMapping]
  change (photoRefs _ >>= fun found => asTextOrNone (nullableJson comment) >>= fun first =>
    asTextOrNone (nullableJson signature) >>= fun second =>
    asTextOrNone (nullableJson code) >>= fun third =>
      Except.ok (some (CompletionReport.mk found first second third))) = _
  rw [hphotos, hcomment, hsignature, hcode]
  rfl

/-- An absent report is a null column, which is read as no report. -/
theorem reportFromJson_column (report : Option CompletionReport) :
    ∃ value, ((report.map reportJson).elim Column.null .jsonb).asJson id = .ok value ∧
      reportFromJson value = .ok report := by
  cases report with
  | none => exact ⟨.null, rfl, rfl⟩
  | some report => exact ⟨reportJson report, rfl, reportFromJson_reportJson report⟩

theorem requirementsFromJson_requirementsJson (rules : EvidenceRequirements) :
    requirementsFromJson (requirementsJson rules) = .ok rules := by
  obtain ⟨photos, comment, signature, code, nonNegative⟩ := rules
  -- Every name in the object is a parameter of the constructor.
  exact dif_pos nonNegative

/-! ### The columns -/

theorem zip_inserted (order : WorkOrder) : insertedColumns.zip (orderValues order) =
    [("organization_id", .text order.organizationId), ("id", .text order.id)] ++
      updatedColumns.zip ((orderValues order).drop 2) := rfl

theorem names_inserted (order : WorkOrder) :
    (insertedColumns.zip (orderValues order)).map Prod.fst = insertedColumns := rfl

theorem names_updated (order : WorkOrder) :
    (updatedColumns.zip ((orderValues order).drop 2)).map Prod.fst = updatedColumns := rfl

theorem WrittenRow.get? {order : WorkOrder} {row : OrderRow} (written : WrittenRow order row)
    {name : String} {value : Column}
    (h : (name, value) ∈ insertedColumns.zip (orderValues order)) :
    row.get? name = some value := by
  cases written with
  | inserted =>
      refine Dict.get?_update_of_mem _ _ _ _ ?_ h
      rw [names_inserted]
      decide
  | @updated previous organization identity =>
      rw [zip_inserted, List.mem_append] at h
      unfold updatedRow
      rcases h with hkey | hrest
      · simp only [List.mem_cons, List.not_mem_nil, or_false, Prod.mk.injEq] at hkey
        rw [Dict.get?_update_of_notMem]
        · rcases hkey with ⟨rfl, rfl⟩ | ⟨rfl, rfl⟩
          · exact organization
          · exact identity
        · rw [names_updated]
          rcases hkey with ⟨rfl, rfl⟩ | ⟨rfl, rfl⟩ <;> decide
      · refine Dict.get?_update_of_mem _ _ _ _ ?_ hrest
        rw [names_updated]
        decide

theorem WrittenRow.column {order : WorkOrder} {row : OrderRow} (written : WrittenRow order row)
    {name : String} {value : Column}
    (h : (name, value) ∈ insertedColumns.zip (orderValues order)) :
    column row name = .ok value := by
  unfold Infrastructure.column
  rw [written.get? h]

/-! ### The responses -/

/-- Every response is filed under the executor who gave it. -/
def Keyed (order : WorkOrder) : Prop :=
  ∀ executorId response, order.poolResponses.get? executorId = some response →
    response.executorId = executorId

theorem responseFromRow_responseRow (order : WorkOrder) (response : PoolResponse) :
    responseFromRow (responseRow order response) = .ok (response.executorId, response) := by
  unfold responseFromRow responseRow
  rw [responseStatusOf_value]
  rfl

theorem mapM_responseRow (order : WorkOrder) (responses : List PoolResponse) :
    (responses.map (responseRow order)).mapM responseFromRow =
      .ok (responses.map fun response => (response.executorId, response)) := by
  induction responses with
  | nil => rfl
  | cons response rest ih =>
      rw [List.map_cons, List.mapM_cons, ih, responseFromRow_responseRow]
      rfl

/-- In whatever order the rows come, they make the mapping they were written from. -/
theorem responsesFromRows_perm {order : WorkOrder} (keyed : Keyed order)
    {rows : List ResponseRow} (same : rows.Perm (responseRows order)) :
    ∃ responses, responsesFromRows rows = .ok responses ∧
      ∀ executorId, responses.get? executorId = order.poolResponses.get? executorId := by
  obtain ⟨found, rfl, hfound⟩ : ∃ found : List PoolResponse,
      rows = found.map (responseRow order) ∧ found.Perm order.poolResponses.values := by
    have h := congrFun (congrFun (List.eq_map_comp_perm (responseRow order)) rows)
      order.poolResponses.values
    exact h.mpr same
  have hentries := Dict.entries_of_values keyed
  have hperm : (found.map fun response => (response.executorId, response)).Perm
      order.poolResponses.entries := by
    rw [hentries]
    exact hfound.map _
  refine ⟨Dict.ofList (found.map fun response => (response.executorId, response)), ?_, ?_⟩
  · unfold responsesFromRows
    rw [mapM_responseRow]
    rfl
  · intro executorId
    have hdistinct : ((found.map fun response => (response.executorId, response)).map
        Prod.fst).Nodup := (hperm.map Prod.fst).nodup_iff.mpr order.poolResponses.distinct
    cases h : order.poolResponses.get? executorId with
    | some response =>
        have hmem := (Dict.get?_eq_some _ _ _).mp h
        exact Dict.get?_update_of_mem _ _ _ _ hdistinct (hperm.mem_iff.mpr hmem)
    | none =>
        have hnot := (Dict.get?_eq_none _ _).mp h
        refine Dict.get?_update_of_notMem _ _ _ fun hmem => hnot ?_
        exact (hperm.map Prod.fst).mem_iff.mp hmem

theorem within_responseRows {order : WorkOrder} {row : ResponseRow}
    (h : row ∈ responseRows order) : row.Within order := by
  obtain ⟨response, -, rfl⟩ := List.mem_map.mp h
  exact ⟨rfl, rfl⟩

/-- The rows of the other orders do not stand in the way. -/
theorem replaceResponses_ok {order : WorkOrder} (keyed : Keyed order)
    {table : List ResponseRow} (distinct : (table.map ResponseRow.key).Nodup) :
    ∃ after, replaceResponses table order = .ok after := by
  refine ⟨_, if_pos ?_⟩
  rw [List.map_append, List.nodup_append]
  refine ⟨distinct.sublist (List.filter_sublist.map _), ?_, ?_⟩
  · have hkeys : (responseRows order).map ResponseRow.key =
        order.poolResponses.keys.map fun executorId =>
          (order.organizationId, order.id, executorId) := by
      unfold responseRows Dict.keys
      rw [Dict.entries_of_values keyed]
      simp [ResponseRow.key, responseRow]
    rw [hkeys]
    exact order.poolResponses.distinct.map fun first second h => by simpa using h
  · intro key hother other hmine heq
    obtain ⟨row, hrow, rfl⟩ := List.mem_map.mp hother
    obtain ⟨written, hwritten, rfl⟩ := List.mem_map.mp hmine
    have hwithin := within_responseRows hwritten
    have hforeign := (List.mem_filter.mp hrow).2
    simp only [ResponseRow.key, Prod.mk.injEq] at heq
    simp only [ResponseRow.Within, heq.1, heq.2.1, hwithin.1, hwithin.2] at hforeign
    simp at hforeign

theorem replaceResponses_eq {order : WorkOrder} {table after : List ResponseRow}
    (h : replaceResponses table order = .ok after) :
    after = table.filter (fun row => ¬row.Within order) ++ responseRows order ∧
      (after.map ResponseRow.key).Nodup := by
  unfold replaceResponses at h
  by_cases hdistinct : ((table.filter (fun row => ¬row.Within order) ++ responseRows order).map
      ResponseRow.key).Nodup
  · obtain rfl := Except.ok.inj ((if_pos hdistinct).symm.trans h)
    exact ⟨rfl, hdistinct⟩
  · exact absurd ((if_neg hdistinct).symm.trans h) (by simp)

/-- Selecting gives back the rows that were written. -/
theorem selectResponses_replaced {order : WorkOrder} {table after : List ResponseRow}
    (h : replaceResponses table order = .ok after) :
    (selectResponses after order).Perm (responseRows order) := by
  obtain ⟨rfl, -⟩ := replaceResponses_eq h
  unfold selectResponses
  refine (List.mergeSort_perm _ _).trans ?_
  rw [List.filter_append]
  have hforeign : (table.filter fun row => ¬row.Within order).filter
      (fun row => row.Within order) = [] := by
    rw [List.filter_filter, List.filter_eq_nil_iff]
    intro row hrow
    simp
  rw [hforeign, List.nil_append, List.filter_eq_self.mpr]
  intro row hrow
  exact decide_eq_true (within_responseRows hrow)

/-! ### The order -/

/-- The loaded order is the order in every field, with nothing left to publish; two mappings are
equal when they map every key to the same. -/
structure Survives (order loaded : WorkOrder) : Prop where
  fields : loaded = { order with events := [], poolResponses := loaded.poolResponses }
  responses : ∀ executorId,
    loaded.poolResponses.get? executorId = order.poolResponses.get? executorId

/-- Where the columns that hold JSON are read as the order's own values, except for the details,
the loaded order is the order with these details. -/
theorem orderFromRows_columns {jsonb : Json → Json} {order : WorkOrder} {row : OrderRow}
    {rows : List ResponseRow} {details : Dict String Json} (written : WrittenRow order row)
    (keyed : Keyed order) (same : rows.Perm (responseRows order))
    (hdetails : asMapping (jsonb (.obj order.details.entries)) = .ok details)
    (hrequirements : requirementsFromJson (jsonb (requirementsJson order.evidenceRequirements)) =
      .ok order.evidenceRequirements)
    (hreport : ∃ value, ((order.report.map reportJson).elim Column.null .jsonb).asJson jsonb =
      .ok value ∧ reportFromJson value = .ok order.report) :
    ∃ loaded, orderFromRows jsonb row rows = .ok loaded ∧
      Survives { order with details := details } loaded := by
  obtain ⟨responses, hresponses, hsame⟩ := responsesFromRows_perm keyed same
  obtain ⟨value, hvalue, hreport⟩ := hreport
  refine ⟨{ order with events := [], poolResponses := responses, details := details }, ?_, rfl,
    hsame⟩
  have hcolumn (index : Nat) (name : String) (found : Column)
      (h : (insertedColumns.zip (orderValues order))[index]? = some (name, found)) :
      column row name = .ok found := written.column (List.mem_of_getElem? h)
  have hjsonb (value : Json) : (Column.jsonb value).asJson jsonb = .ok (jsonb value) := rfl
  unfold orderFromRows
  rw [hcolumn 0 "organization_id" _ rfl, hcolumn 1 "id" _ rfl, hcolumn 2 "public_number" _ rfl,
    hcolumn 3 "work_type" _ rfl, hcolumn 4 "source" _ rfl, hcolumn 5 "details" _ rfl,
    hcolumn 6 "requester_id" _ rfl, hcolumn 7 "coordinator_id" _ rfl,
    hcolumn 8 "evidence_requirements" _ rfl, hcolumn 9 "status" _ rfl,
    hcolumn 10 "pool_mode" _ rfl, hcolumn 11 "assignee_id" _ rfl, hcolumn 12 "report" _ rfl,
    hcolumn 13 "version" _ rfl, hcolumn 14 "created_at" _ rfl, hcolumn 15 "updated_at" _ rfl]
  simp only [except_ok_bind, Column.asText, Column.asInteger, Column.asTimestamp, hvalue, hreport,
    hresponses, hjsonb, hdetails, hrequirements, asNullable_nullable, statusOf_value,
    optionalPoolMode_value, dif_pos order.required]
  rfl

theorem orderFromRows_written {order : WorkOrder} {row : OrderRow} {rows : List ResponseRow}
    (written : WrittenRow order row) (keyed : Keyed order)
    (same : rows.Perm (responseRows order)) :
    ∃ loaded, orderFromRows id row rows = .ok loaded ∧ Survives order loaded :=
  orderFromRows_columns written keyed same (asMapping_entries order.details)
    (requirementsFromJson_requirementsJson order.evidenceRequirements)
    (reportFromJson_column order.report)

/-! ### Every order that comes about -/

theorem Keyed.respond {order : WorkOrder} (keyed : Keyed order) (executorId : String)
    (status : PoolResponseStatus) (instant : Instant) :
    Keyed (order.respond executorId status instant) := by
  intro other response h
  unfold WorkOrder.respond at h
  rw [Dict.get?_set] at h
  by_cases hsame : other = executorId
  · rw [if_pos hsame] at h
    cases h
    exact hsame.symm
  · rw [if_neg hsame] at h
    exact keyed other response h

theorem Keyed.resolveCuratedResponses {order : WorkOrder} (keyed : Keyed order)
    (executorId : String) (instant : Instant) :
    Keyed (order.resolveCuratedResponses executorId instant) := by
  intro other response h
  unfold WorkOrder.resolveCuratedResponses at h
  rw [Dict.get?_mapValues] at h
  obtain ⟨found, hfound, rfl⟩ := Option.map_eq_some_iff.mp h
  by_cases hinterested : found.status = .interested
  · rw [if_pos hinterested]
  · rw [if_neg hinterested]
    exact keyed other found hfound

theorem Keyed.writes {order : WorkOrder} (keyed : Keyed order) (call : Call) (instant : Instant) :
    Keyed (call.writes instant order) := by
  cases call with
  | expressInterest executorId => exact keyed.respond executorId _ _
  | withdrawInterest executorId => exact keyed.respond executorId _ _
  | claimFirst executorId => exact Keyed.respond (fun other => keyed other) executorId _ _
  | assign executorId actorId =>
      simp only [Call.writes]
      by_cases hcurated : order.poolMode = some .curated
      · rw [if_pos hcurated]
        exact Keyed.resolveCuratedResponses (fun other => keyed other) executorId _
      · rw [if_neg hcurated]
        exact keyed
  | rejectAssignment executorId =>
      simp only [Call.writes]
      by_cases hcontains : order.poolResponses.contains executorId = true
      · rw [if_pos hcontains]
        exact keyed.respond executorId _ _
      · rw [if_neg hcontains]
        exact keyed
  | claimCoordination | publishPool | accept | startTravel | startWork | complete | cancel =>
      exact keyed

theorem Keyed.perform {order : WorkOrder} (keyed : Keyed order) (ambient : Ambient)
    (now : Option Instant) (call : Call) : Keyed ((call.perform ambient now).final order) := by
  unfold Method.final
  cases hrun : (call.perform ambient now).run order with
  | error failure after =>
      rw [Call.perform_steady ambient now call order failure after hrun]
      exact keyed
  | ok done after =>
      obtain ⟨-, rfl⟩ := (Call.perform_ok ambient now call).mp hrun
      unfold Call.change
      by_cases hidle : call.Idle order
      · rw [if_pos hidle]
        exact keyed
      · rw [if_neg hidle]
        exact keyed.writes call _

theorem keyed_create {ambient : Ambient} {orderId publicNumber organizationId workType source : String}
    {details : Dict String Json} {requesterId : Option String}
    {evidenceRequirements : Option EvidenceRequirements} {now : Option Instant} {order : WorkOrder}
    (h : WorkOrder.create ambient orderId publicNumber organizationId workType source details
      requesterId evidenceRequirements now = .ok order) : Keyed order := by
  unfold WorkOrder.create at h
  by_cases hrequired : orderId ≠ "" ∧ publicNumber ≠ "" ∧ organizationId ≠ "" ∧ workType ≠ ""
  · simp only [dif_pos hrequired] at h
    cases h
    intro executorId response hresponse
    contradiction
  · simp only [dif_neg hrequired] at h
    contradiction

/-- An order that was created, put through any calls, whether they returned or raised, emptied of
its events, and stored and loaded again, any number of times. -/
inductive Lived (jsonb : Json → Json) : WorkOrder → Prop
  | created {ambient : Ambient} {orderId publicNumber organizationId workType source : String}
      {details : Dict String Json} {requesterId : Option String}
      {evidenceRequirements : Option EvidenceRequirements} {now : Option Instant}
      {order : WorkOrder}
      (h : WorkOrder.create ambient orderId publicNumber organizationId workType source details
        requesterId evidenceRequirements now = .ok order) : Lived jsonb order
  | performed {order : WorkOrder} (ambient : Ambient) (now : Option Instant) (call : Call)
      (before : Lived jsonb order) : Lived jsonb ((call.perform ambient now).final order)
  | pulled {order : WorkOrder} (before : Lived jsonb order) : Lived jsonb order.pullEvents.2
  | reloaded {order loaded : WorkOrder} {row : OrderRow} {table after : List ResponseRow}
      (before : Lived jsonb order) (written : WrittenRow order row)
      (replaced : replaceResponses table order = .ok after)
      (h : orderFromRows jsonb row (selectResponses after order) = .ok loaded) :
      Lived jsonb loaded

theorem Keyed.survives {order loaded : WorkOrder} (keyed : Keyed order)
    (survives : Survives order loaded) : Keyed loaded := by
  intro executorId response h
  rw [survives.responses] at h
  exact keyed executorId response h

theorem Lived.keyed {order : WorkOrder} (lived : Lived id order) : Keyed order := by
  induction lived with
  | created h => exact keyed_create h
  | performed ambient now call _ keyed => exact keyed.perform ambient now call
  | pulled _ keyed => exact keyed
  | reloaded _ written replaced h keyed =>
      obtain ⟨found, hfound, hsurvives⟩ :=
        orderFromRows_written written keyed (selectResponses_replaced replaced)
      rw [hfound] at h
      cases h
      exact keyed.survives hsurvives

/-- Where `jsonb` columns return the values they were given, an order that was written, inserted
or updated, with its responses replaced in a table with a primary key, is read back equal in
every field, and without pending events. -/
theorem orders_survive_storage (jsonb : Json → Json) (returned : ∀ value, jsonb value = value)
    (order : WorkOrder) (lived : Lived jsonb order) (row : OrderRow)
    (written : WrittenRow order row) (table : List ResponseRow)
    (distinct : (table.map ResponseRow.key).Nodup) :
    ∃ after loaded, replaceResponses table order = .ok after ∧
      orderFromRows jsonb row (selectResponses after order) = .ok loaded ∧
      Survives order loaded := by
  obtain rfl : jsonb = id := funext returned
  obtain ⟨after, hafter⟩ := replaceResponses_ok lived.keyed distinct
  obtain ⟨loaded, hloaded, hsurvives⟩ :=
    orderFromRows_written written lived.keyed (selectResponses_replaced hafter)
  exact ⟨after, loaded, hafter, hloaded, hsurvives⟩

theorem Lived.runCalls {jsonb : Json → Json} {order : WorkOrder} (lived : Lived jsonb order)
    (requests : List Request) : Lived jsonb (runCalls order requests) := by
  induction requests generalizing order with
  | nil => exact lived
  | cons request requests ih =>
      exact ih (lived.performed request.ambient request.now request.call)

theorem visit_survives_storage :
    ∃ order, WorkOrder.create ⟨⟨0⟩, "e1"⟩ "o1" "A000" "acme" "repair" "telegram"
        (Dict.ofList [("address", .str "Main Street 1"), ("entrance", .null)]) (some "client") none
        none = .ok order ∧
      let reached := runCalls order
        ([.publishPool .curated none, .expressInterest "ann", .expressInterest "bob",
          .assign "ann" none, .accept "ann", .startWork "ann",
          .complete "ann" ⟨["photo"], none, some "", none⟩].map (Request.mk ⟨⟨1⟩, "e2"⟩ none))
      ∃ after loaded, replaceResponses [⟨"acme", "o2", "ann", "interested", ⟨0⟩⟩] reached =
          .ok after ∧
        orderFromRows id (insertedRow reached) (selectResponses after reached) = .ok loaded ∧
        Survives reached loaded := by
  have created : WorkOrder.create ⟨⟨0⟩, "e1"⟩ "o1" "A000" "acme" "repair" "telegram"
      (Dict.ofList [("address", .str "Main Street 1"), ("entrance", .null)]) (some "client") none
      none = .ok _ := rfl
  exact ⟨_, created, orders_survive_storage id (fun _ => rfl) _ ((Lived.created created).runCalls _)
    _ .inserted _ (by decide)⟩

end DispatchCore.Infrastructure
