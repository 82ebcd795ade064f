import DispatchCore.Infrastructure.StoredOrders
import DispatchCore.Library.JsonDocument

/-! Orders in `jsonb` columns that give back the members of a document in an order of their
own, and the value of a number but not how it was written. -/
namespace DispatchCore.Infrastructure

open DispatchCore.Library DispatchCore.Domain

/-- What comes out of a `jsonb` column is what went in, with the numbers settled. -/
def ReturnsValues (jsonb : Json → Json) : Prop :=
  ∀ value, value.document.distinct = true →
    (jsonb value).document.alike (value.document.map JsonNumber.settled)

/-- A value that no column changes. -/
def Unchanging (value : Json) : Prop :=
  value.document.flat = true ∧ value.document.map JsonNumber.settled = value.document

theorem unchanging_nullableJson (text : Option String) : Unchanging (nullableJson text) := by
  cases text <;> exact ⟨rfl, rfl⟩

theorem unchanging_texts (texts : List String) : Unchanging (.arr (texts.map .str)) := by
  unfold Unchanging
  rw [Json.document_arr, Document.flat_arr, Document.map_arr, Document.list_map_eq_self.mpr]
  · simp [Json.document, Document.flat, Document.fold]
  · simp only [List.map_map, List.forall_mem_map]
    exact fun text _ => rfl

section ReturnsValues

variable {jsonb : Json → Json} (returns : ReturnsValues jsonb) {fields : List (String × Json)}
include returns

/-- Every object is an object again, with the same members but for their numbers. -/
theorem ReturnsValues.obj (distinct : (Json.obj fields).document.distinct = true) :
    ∃ found, jsonb (.obj fields) = .obj found ∧
      (found.map fun field => (field.1, field.2.document.sorted byName)).Perm
        (fields.map fun field =>
          (field.1, (field.2.document.map JsonNumber.settled).sorted byName)) := by
  have halike := returns _ distinct
  rw [Json.document_obj, Document.map_obj, Document.alike, Document.sorted_obj, List.map_map,
    List.map_map] at halike
  cases hfound : jsonb (.obj fields) with
  | null | bool | int | num | str =>
      rw [hfound] at halike
      cases halike
  | arr items =>
      rw [hfound, Json.document_arr, Document.sorted_arr] at halike
      cases halike
  | obj found =>
      rw [hfound, Json.document_obj, Document.sorted_obj, List.map_map] at halike
      have hsorted := Document.obj.inj halike
      refine ⟨found, rfl, ?_⟩
      have hperm := (List.mergeSort_perm _ _).symm.trans
        (hsorted ▸ List.mergeSort_perm _ _)
      exact hperm.symm

/-- Members that no column changes come back, in whatever order. -/
theorem ReturnsValues.members (names : (fields.map Prod.fst).Nodup)
    (unchanging : ∀ field ∈ fields, Unchanging field.2) :
    ∃ found, jsonb (.obj fields) = .obj found ∧ found.Perm fields := by
  have hdistinct : (Json.obj fields).document.distinct = true := by
    rw [Json.document_obj, Document.distinct_obj, List.map_map, List.forall_mem_map]
    exact ⟨names, fun field hfield => Document.distinct_of_flat (unchanging field hfield).1⟩
  obtain ⟨found, hfound, hperm⟩ := returns.obj hdistinct
  have hfields : (fields.map fun field =>
      (field.1, (field.2.document.map JsonNumber.settled).sorted byName)) =
        fields.map fun field => (field.1, field.2.document) := by
    apply List.map_congr_left
    intro field hfield
    obtain ⟨hflat, hsettled⟩ := unchanging field hfield
    rw [hsettled, Document.sorted_of_flat hflat]
  rw [hfields] at hperm
  have hsame : (found.map fun field => (field.1, field.2.document.sorted byName)) =
      found.map fun field => (field.1, field.2.document) := by
    apply List.map_congr_left
    intro field hfield
    obtain ⟨other, hother, heq⟩ := List.mem_map.mp (hperm.mem_iff.mp (List.mem_map_of_mem hfield))
    have hflat := (unchanging other hother).1
    rw [(Prod.mk.inj heq).2, Document.flat_sorted] at hflat
    rw [Document.sorted_of_flat hflat]
  rw [hsame] at hperm
  have hjson := hperm.map fun field => (field.1, field.2.json)
  simp only [List.map_map, Function.comp_def, Json.json_document, List.map_id'] at hjson
  exact ⟨found, hfound, hjson⟩

end ReturnsValues

/-! ### Reading the columns of an order -/

def reportNames : List String := ["photo_refs", "comment", "signature_ref", "customer_code"]

theorem requirementNames_nodup : requirementNames.Nodup := by decide

theorem reportNames_nodup : reportNames.Nodup := by decide

theorem requirementsFromJson_perm {rules : EvidenceRequirements} {found : List (String × Json)}
    (same : found.Perm [("minimum_photos", .int rules.minimumPhotos),
      ("comment_required", .bool rules.commentRequired),
      ("signature_required", .bool rules.signatureRequired),
      ("customer_code_required", .bool rules.customerCodeRequired)]) :
    requirementsFromJson (.obj found) = .ok rules := by
  have hget := Dict.get?_ofList_perm (by exact requirementNames_nodup) same
  have hkeys : ∀ name ∈ (Dict.ofList found).keys, name ∈ requirementNames := by
    intro name hname
    have hfound : (Dict.ofList found).get? name ≠ none := fun hnone =>
      (Dict.get?_eq_none _ _).mp hnone hname
    rw [hget] at hfound
    by_contra habsent
    exact hfound ((Dict.get?_eq_none _ _).mpr habsent)
  have hphotos : minimumPhotos (Dict.ofList found) = .ok rules.minimumPhotos := by
    unfold minimumPhotos
    rw [hget]
    rfl
  have hcomment : flag (Dict.ofList found) "comment_required" = .ok rules.commentRequired := by
    unfold flag
    rw [hget]
    rfl
  have hsignature : flag (Dict.ofList found) "signature_required" =
      .ok rules.signatureRequired := by
    unfold flag
    rw [hget]
    rfl
  have hcode : flag (Dict.ofList found) "customer_code_required" =
      .ok rules.customerCodeRequired := by
    unfold flag
    rw [hget]
    rfl
  unfold requirementsFromJson
  simp only [asMapping, except_ok_bind]
  rw [if_pos hkeys, hphotos, hcomment, hsignature, hcode]
  exact dif_pos rules.nonNegative

theorem reportFromJson_perm {report : CompletionReport} {found : List (String × Json)}
    (same : found.Perm [("photo_refs", .arr (report.photoRefs.map .str)),
      ("comment", nullableJson report.comment), ("signature_ref", nullableJson report.signatureRef),
      ("customer_code", nullableJson report.customerCode)]) :
    reportFromJson (.obj found) = .ok (some report) := by
  have hget := Dict.get?_ofList_perm (by exact reportNames_nodup) same
  have hphotos : photoRefs (Dict.ofList found) = .ok report.photoRefs := by
    unfold photoRefs
    rw [hget]
    exact asTexts_str report.photoRefs
  have htext (name : String) (text : Option String)
      (h : (Dict.ofList [("photo_refs", Json.arr (report.photoRefs.map .str)),
        ("comment", nullableJson report.comment),
        ("signature_ref", nullableJson report.signatureRef),
        ("customer_code", nullableJson report.customerCode)]).get? name =
          some (nullableJson text)) :
      asTextOrNone (((Dict.ofList found).get? name).getD .null) = .ok text := by
    rw [hget, h]
    exact asTextOrNone_nullableJson text
  unfold reportFromJson
  simp only [asMapping, except_ok_bind]
  rw [hphotos, htext "comment" report.comment rfl, htext "signature_ref" report.signatureRef rfl,
    htext "customer_code" report.customerCode rfl]
  rfl

section order

variable {jsonb : Json → Json} (returns : ReturnsValues jsonb) {order : WorkOrder}
include returns

theorem requirementsFromJson_jsonb (rules : EvidenceRequirements) :
    requirementsFromJson (jsonb (requirementsJson rules)) = .ok rules := by
  have hunchanging : ∀ field ∈ [("minimum_photos", Json.int rules.minimumPhotos),
      ("comment_required", .bool rules.commentRequired),
      ("signature_required", .bool rules.signatureRequired),
      ("customer_code_required", .bool rules.customerCodeRequired)], Unchanging field.2 := by
    simp only [List.forall_mem_cons]
    exact ⟨⟨rfl, rfl⟩, ⟨rfl, rfl⟩, ⟨rfl, rfl⟩, ⟨rfl, rfl⟩, by simp⟩
  obtain ⟨found, hfound, hperm⟩ := returns.members (by exact requirementNames_nodup) hunchanging
  rw [requirementsJson, hfound]
  exact requirementsFromJson_perm hperm

theorem reportFromJson_jsonb (report : Option CompletionReport) :
    ∃ value, ((report.map reportJson).elim Column.null .jsonb).asJson jsonb = .ok value ∧
      reportFromJson value = .ok report := by
  cases report with
  | none => exact ⟨.null, rfl, rfl⟩
  | some report =>
      have hunchanging : ∀ field ∈ [("photo_refs", Json.arr (report.photoRefs.map .str)),
          ("comment", nullableJson report.comment),
          ("signature_ref", nullableJson report.signatureRef),
          ("customer_code", nullableJson report.customerCode)], Unchanging field.2 := by
        simp only [List.forall_mem_cons]
        exact ⟨unchanging_texts _, unchanging_nullableJson _, unchanging_nullableJson _,
          unchanging_nullableJson _, by simp⟩
      obtain ⟨found, hfound, hperm⟩ := returns.members (by exact reportNames_nodup) hunchanging
      exact ⟨jsonb (reportJson report), rfl, by
        rw [reportJson, hfound]
        exact reportFromJson_perm hperm⟩

/-- The details as a document. -/
def detailsDocument (details : Dict String Json) : Document JsonNumber :=
  (Json.obj details.entries).document

/-- An order is read as it was written, but for the details, whose numbers are settled. -/
theorem orderFromRows_returned {row : OrderRow} {rows : List ResponseRow}
    (written : WrittenRow order row) (keyed : Keyed order)
    (same : rows.Perm (responseRows order))
    (separate : (detailsDocument order.details).distinct = true) :
    ∃ loaded, orderFromRows jsonb row rows = .ok loaded ∧
      Survives { order with details := loaded.details } loaded ∧
      (detailsDocument loaded.details).alike
        ((detailsDocument order.details).map JsonNumber.settled) := by
  obtain ⟨found, hfound, hperm⟩ := returns.obj separate
  have halike := returns _ separate
  have hnames : (found.map Prod.fst).Nodup := by
    have hfields := hperm.map Prod.fst
    simp only [List.map_map] at hfields
    exact hfields.nodup_iff.mpr order.details.distinct
  obtain ⟨loaded, hloaded, hsurvives⟩ := orderFromRows_columns written keyed same
    (by rw [hfound]; rfl : asMapping (jsonb (.obj order.details.entries)) = .ok (Dict.ofList found))
    (requirementsFromJson_jsonb returns _) (reportFromJson_jsonb returns _)
  have hdetails : loaded.details = Dict.ofList found := by
    rw [hsurvives.fields]
  refine ⟨loaded, hloaded, ?_, ?_⟩
  · rw [hdetails]
    exact hsurvives
  · rw [hdetails, detailsDocument, Dict.entries_ofList hnames, ← hfound]
    exact halike

end order

end DispatchCore.Infrastructure
