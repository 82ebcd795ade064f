import Mathlib.Data.String.Basic
import DispatchCore.Library.FloatText
import DispatchCore.Library.Json

/-! A JSON document and the value that Python makes of it, and the other way round. -/
namespace DispatchCore.Library

namespace JsonNumber

/-- The value of a number; zero has no sign in it.  Numbers that JSON does not have have none. -/
def json : JsonNumber → Json
  | int value => .int value
  | float value => .num value
  | negativeZero => .num 0
  | infinity _ => .null
  | nan => .null

def unsigned : JsonNumber → JsonNumber
  | negativeZero => float 0
  | value => value

theorem settled_zero : (float 0).settled = float 0 := by
  have htext : ¬((0 : Rat).den = 1 ∧ 'e' ∈ FloatText.floatText 0) := by decide
  rw [settled, if_neg htext]

theorem settled_unsigned : settled ∘ unsigned = settled := by
  funext number
  cases number with
  | negativeZero => exact settled_zero
  | int | float | infinity | nan => rfl

theorem unsigned_settled : unsigned ∘ settled = settled := by
  funext number
  cases number with
  | float value =>
      by_cases hwhole : value.den = 1 ∧ 'e' ∈ FloatText.floatText value
      · rw [Function.comp_apply, settled, if_pos hwhole]
        rfl
      · rw [Function.comp_apply, settled, if_neg hwhole]
        rfl
  | int | negativeZero | infinity | nan => rfl

theorem finite_settled : finite ∘ settled = finite := by
  funext number
  cases number with
  | float value =>
      by_cases hwhole : value.den = 1 ∧ 'e' ∈ FloatText.floatText value
      · rw [Function.comp_apply, settled, if_pos hwhole]
        rfl
      · rw [Function.comp_apply, settled, if_neg hwhole]
  | int | negativeZero | infinity | nan => rfl

/-- A number that comes back as it was written. -/
def plain : JsonNumber → Bool
  | float value => !(value.den = 1 && 'e' ∈ FloatText.floatText value)
  | negativeZero => false
  | _ => true

theorem settled_eq_self_iff (number : JsonNumber) :
    number.settled = number ↔ number.plain = true := by
  cases number with
  | float value =>
      by_cases hwhole : value.den = 1 ∧ 'e' ∈ FloatText.floatText value
      · rw [settled, if_pos hwhole]
        simp [plain, hwhole]
      · rw [settled, if_neg hwhole]
        rw [Classical.not_and_iff_not_or_not] at hwhole
        simpa [plain] using hwhole
  | negativeZero => simp [settled, plain]
  | int | infinity | nan => simp [settled, plain]

theorem settled_settled (number : JsonNumber) : number.settled.settled = number.settled := by
  cases number with
  | float value =>
      by_cases hwhole : value.den = 1 ∧ 'e' ∈ FloatText.floatText value
      · rw [settled, if_pos hwhole]
        rfl
      · rw [settled, if_neg hwhole, settled, if_neg hwhole]
  | negativeZero => exact settled_zero
  | int | infinity | nan => rfl

end JsonNumber

open Document

namespace Document

def json : Document JsonNumber → Json :=
  fold ⟨.null, .bool, JsonNumber.json, .str, .arr, .obj⟩

theorem json_arr (items : List (Document JsonNumber)) :
    (arr items).json = .arr (items.map json) := fold_arr items

theorem json_obj (fields : List (String × Document JsonNumber)) :
    (obj fields).json = .obj (fields.map fun field => (field.1, field.2.json)) := fold_obj fields

end Document

namespace Json

theorem induct {holds : Json → Prop} (null : holds .null) (bool : ∀ value, holds (.bool value))
    (int : ∀ value, holds (.int value)) (num : ∀ value, holds (.num value))
    (str : ∀ value, holds (.str value))
    (arr : ∀ items, (∀ item ∈ items, holds item) → holds (.arr items))
    (obj : ∀ fields, (∀ field ∈ fields, holds field.2) → holds (.obj fields))
    (value : Json) : holds value :=
  @Json.rec holds (fun items => ∀ item ∈ items, holds item)
    (fun fields => ∀ field ∈ fields, holds field.2) (fun field => holds field.2)
    null bool int num str arr obj (by simp)
    (fun _ _ hfirst hrest => List.forall_mem_cons.mpr ⟨hfirst, hrest⟩) (by simp)
    (fun _ _ hfirst hrest => List.forall_mem_cons.mpr ⟨hfirst, hrest⟩) (fun _ _ h => h) value

mutual

def document : Json → Document JsonNumber
  | null => .null
  | bool value => .bool value
  | int value => .number (.int value)
  | num value => .number (.float value)
  | str value => .str value
  | arr items => .arr (documentItems items)
  | obj fields => .obj (documentFields fields)

def documentItems : List Json → List (Document JsonNumber)
  | [] => []
  | item :: rest => document item :: documentItems rest

def documentFields : List (String × Json) → List (String × Document JsonNumber)
  | [] => []
  | (name, value) :: rest => (name, document value) :: documentFields rest

end

theorem document_arr (items : List Json) :
    (arr items).document = .arr (items.map document) := by
  have hitems : documentItems items = items.map document := by
    induction items with
    | nil => rfl
    | cons item rest ih => rw [documentItems, ih, List.map_cons]
  rw [document, hitems]

theorem document_obj (fields : List (String × Json)) :
    (obj fields).document = .obj (fields.map fun field => (field.1, field.2.document)) := by
  have hfields : documentFields fields =
      fields.map fun field => (field.1, field.2.document) := by
    induction fields with
    | nil => rfl
    | cons field rest ih =>
        obtain ⟨name, value⟩ := field
        rw [documentFields, ih, List.map_cons]
  rw [document, hfields]

theorem json_document (value : Json) : value.document.json = value := by
  induction value using induct with
  | null | bool | int | num | str => rfl
  | arr items ih =>
      rw [document_arr, json_arr, List.map_map]
      congr 1
      exact list_map_eq_self.mpr ih
  | obj fields ih =>
      rw [document_obj, json_obj, List.map_map]
      congr 1
      exact list_map_eq_self.mpr fun field hfield => Prod.ext rfl (ih field hfield)

/-- Every number of a value is one that JSON has, and none is a zero with a sign. -/
theorem finite_document (value : Json) :
    value.document.all JsonNumber.finite = true := by
  induction value using induct with
  | null | bool | int | num | str => rfl
  | arr items ih =>
      rw [document_arr, Document.all_arr, List.forall_mem_map]
      exact ih
  | obj fields ih =>
      rw [document_obj, Document.all_obj, List.forall_mem_map]
      exact ih

end Json

/-- The value of a document with the numbers that JSON has is the document, but for the sign of
zeros. -/
theorem Document.document_json {document : Document JsonNumber}
    (finite : document.all JsonNumber.finite = true) :
    document.json.document = document.map JsonNumber.unsigned := by
  induction document using Document.induct with
  | null | bool | str => rfl
  | number value =>
      cases value with
      | int | float | negativeZero => rfl
      | infinity | nan => contradiction
  | arr items ih =>
      rw [json_arr, Json.document_arr, map_arr, List.map_map]
      congr 1
      exact List.map_congr_left fun item hitem => ih item hitem (all_arr.mp finite item hitem)
  | obj fields ih =>
      rw [json_obj, Json.document_obj, map_obj, List.map_map]
      congr 1
      apply List.map_congr_left
      intro field hfield
      exact Prod.ext rfl (ih field hfield (all_obj.mp finite field hfield))

/-! ### Members in the order of their names -/

/-- `sort_keys=True` -/
def byName (left right : String) : Bool := left ≤ right

theorem byName_order : NameOrder byName where
  total left right := by
    unfold byName
    rw [Bool.or_eq_true, decide_eq_true_eq, decide_eq_true_eq]
    exact le_total left right
  trans first second third hfirst hsecond :=
    decide_eq_true (le_trans (of_decide_eq_true hfirst) (of_decide_eq_true hsecond))
  antisymm left right hleft hright :=
    le_antisymm (of_decide_eq_true hleft) (of_decide_eq_true hright)

namespace Document

variable {ν μ : Type}

/-- Two documents with the same members, in whatever order. -/
def alike (left right : Document ν) : Prop := left.sorted byName = right.sorted byName

section alike

variable {left right : Document ν}

theorem alike.map (alike : left.alike right) (change : ν → μ) :
    (left.map change).alike (right.map change) := by
  unfold Document.alike at alike ⊢
  rw [← map_sorted, ← map_sorted, alike]

theorem alike.distinct (alike : left.alike right) : left.distinct = right.distinct := by
  unfold Document.alike at alike
  rw [← @distinct_sorted _ byName left, ← @distinct_sorted _ byName right, alike]

theorem alike.allTexts (alike : left.alike right) (test : String → Bool) :
    left.allTexts test = right.allTexts test := by
  unfold Document.alike at alike
  rw [← @allTexts_sorted _ byName test left, ← @allTexts_sorted _ byName test right, alike]

theorem alike.all (alike : left.alike right) (test : ν → Bool) :
    left.all test = right.all test := by
  unfold Document.alike at alike
  rw [← @all_sorted _ byName test left, ← @all_sorted _ byName test right, alike]

end alike

theorem map_settled_settled (document : Document JsonNumber) :
    (document.map JsonNumber.settled).map JsonNumber.settled =
      document.map JsonNumber.settled := by
  rw [map_map]
  congr 1
  exact funext JsonNumber.settled_settled

end Document
end DispatchCore.Library
