import Mathlib.Data.List.Sort
import DispatchCore.Library.Text

/-! JSON documents over any kind of numbers: walking them, ordering their members, and writing
them out in such a way that what is written stands for one document only. -/
namespace DispatchCore.Library

inductive Document (ν : Type) where
  | null
  | bool (value : Bool)
  | number (value : ν)
  | str (value : String)
  | arr (items : List (Document ν))
  | obj (fields : List (String × Document ν))

namespace Document

variable {ν μ α : Type}

instance : Inhabited (Document ν) := ⟨null⟩

/-- By a document's parts: what holds of all items, or of all values of the members, holds of
the whole. -/
theorem induct {holds : Document ν → Prop} (null : holds .null)
    (bool : ∀ value, holds (.bool value)) (number : ∀ value, holds (.number value))
    (str : ∀ value, holds (.str value))
    (arr : ∀ items, (∀ item ∈ items, holds item) → holds (.arr items))
    (obj : ∀ fields, (∀ field ∈ fields, holds field.2) → holds (.obj fields))
    (document : Document ν) : holds document :=
  @Document.rec ν holds (fun items => ∀ item ∈ items, holds item)
    (fun fields => ∀ field ∈ fields, holds field.2) (fun field => holds field.2)
    null bool number str arr obj (by simp)
    (fun _ _ hfirst hrest => List.forall_mem_cons.mpr ⟨hfirst, hrest⟩) (by simp)
    (fun _ _ hfirst hrest => List.forall_mem_cons.mpr ⟨hfirst, hrest⟩) (fun _ _ h => h) document

/-! ### Walking a document -/

/-- What to make of each kind of document, from what was made of its parts. -/
structure Walk (ν α : Type) where
  null : α
  bool : Bool → α
  number : ν → α
  str : String → α
  arr : List α → α
  obj : List (String × α) → α

mutual

def fold (walk : Walk ν α) : Document ν → α
  | null => walk.null
  | bool value => walk.bool value
  | number value => walk.number value
  | str value => walk.str value
  | arr items => walk.arr (foldItems walk items)
  | obj fields => walk.obj (foldFields walk fields)

def foldItems (walk : Walk ν α) : List (Document ν) → List α
  | [] => []
  | item :: rest => fold walk item :: foldItems walk rest

def foldFields (walk : Walk ν α) : List (String × Document ν) → List (String × α)
  | [] => []
  | (name, value) :: rest => (name, fold walk value) :: foldFields walk rest

end

variable {walk : Walk ν α}

theorem fold_arr (items : List (Document ν)) :
    fold walk (arr items) = walk.arr (items.map (fold walk)) := by
  have hitems : foldItems walk items = items.map (fold walk) := by
    induction items with
    | nil => rfl
    | cons item rest ih => rw [foldItems, ih, List.map_cons]
  rw [fold, hitems]

theorem fold_obj (fields : List (String × Document ν)) :
    fold walk (obj fields) = walk.obj (fields.map fun field => (field.1, fold walk field.2)) := by
  have hfields : foldFields walk fields =
      fields.map fun field => (field.1, fold walk field.2) := by
    induction fields with
    | nil => rfl
    | cons field rest ih =>
        obtain ⟨name, value⟩ := field
        rw [foldFields, ih, List.map_cons]
  rw [fold, hfields]

/-! ### Changing the numbers -/

/-- The document with every number changed. -/
def map (change : ν → μ) : Document ν → Document μ :=
  fold ⟨null, bool, fun value => number (change value), str, arr, obj⟩

section map

variable {change : ν → μ}

theorem map_arr (items : List (Document ν)) :
    (arr items).map change = arr (items.map (map change)) := fold_arr items

theorem map_obj (fields : List (String × Document ν)) :
    (obj fields).map change = obj (fields.map fun field => (field.1, field.2.map change)) :=
  fold_obj fields

theorem map_map {κ : Type} (after : μ → κ) (document : Document ν) :
    (document.map change).map after = document.map (after ∘ change) := by
  induction document using induct with
  | null | bool | number | str => rfl
  | arr items ih =>
      rw [map_arr, map_arr, map_arr, List.map_map]
      congr 1
      exact List.map_congr_left ih
  | obj fields ih =>
      rw [map_obj, map_obj, map_obj, List.map_map]
      congr 1
      apply List.map_congr_left
      intro field hfield
      exact Prod.ext rfl (ih field hfield)

end map

/-- Every number of the document passes the test. -/
def all (test : ν → Bool) : Document ν → Bool :=
  fold ⟨true, fun _ => true, test, fun _ => true, fun items => items.all id,
    fun fields => fields.all Prod.snd⟩

theorem all_arr {test : ν → Bool} {items : List (Document ν)} :
    (arr items).all test = true ↔ ∀ item ∈ items, item.all test = true := by
  unfold all
  rw [fold_arr]
  simp

theorem all_obj {test : ν → Bool} {fields : List (String × Document ν)} :
    (obj fields).all test = true ↔ ∀ field ∈ fields, field.2.all test = true := by
  unfold all
  rw [fold_obj]
  simp

theorem all_map {change : ν → μ} {test : μ → Bool} (document : Document ν) :
    (document.map change).all test = document.all (test ∘ change) := by
  rw [Bool.eq_iff_iff]
  induction document using induct with
  | null | bool | number | str => rfl
  | arr items ih =>
      rw [map_arr, all_arr, all_arr, List.forall_mem_map]
      exact forall₂_congr ih
  | obj fields ih =>
      rw [map_obj, all_obj, all_obj, List.forall_mem_map]
      exact forall₂_congr ih

/-- Every text of the document passes the test, names among them. -/
def allTexts (test : String → Bool) : Document ν → Bool :=
  fold ⟨true, fun _ => true, fun _ => true, test, fun items => items.all id,
    fun fields => fields.all fun field => test field.1 && field.2⟩

section allTexts

variable {test : String → Bool}

theorem allTexts_arr {items : List (Document ν)} :
    (arr items).allTexts test = true ↔ ∀ item ∈ items, item.allTexts test = true := by
  unfold allTexts
  rw [fold_arr]
  simp

theorem allTexts_obj {fields : List (String × Document ν)} :
    (obj fields).allTexts test = true ↔
      ∀ field ∈ fields, test field.1 = true ∧ field.2.allTexts test = true := by
  unfold allTexts
  rw [fold_obj]
  simp

theorem allTexts_map (change : ν → μ) (document : Document ν) :
    (document.map change).allTexts test = document.allTexts test := by
  rw [Bool.eq_iff_iff]
  induction document using induct with
  | null | bool | number | str => rfl
  | arr items ih =>
      rw [map_arr, allTexts_arr, allTexts_arr, List.forall_mem_map]
      exact forall₂_congr ih
  | obj fields ih =>
      rw [map_obj, allTexts_obj, allTexts_obj, List.forall_mem_map]
      exact forall₂_congr fun field hfield => and_congr_right' (ih field hfield)

end allTexts

theorem list_map_eq_self {change : α → α} {items : List α} :
    items.map change = items ↔ ∀ item ∈ items, change item = item := by
  have h := @List.map_inj_left α α items change id
  rwa [List.map_id] at h

/-- A change leaves a document as it is exactly when it leaves all its numbers. -/
theorem map_eq_self_iff [DecidableEq ν] {change : ν → ν} {document : Document ν} :
    document.map change = document ↔
      (document.all fun value => change value = value) = true := by
  induction document using induct with
  | null | bool | str => exact iff_of_true rfl rfl
  | number value =>
      show number (change value) = number value ↔ decide (change value = value) = true
      rw [number.injEq, decide_eq_true_eq]
  | arr items ih =>
      rw [map_arr, arr.injEq, all_arr, list_map_eq_self]
      exact forall₂_congr ih
  | obj fields ih =>
      rw [map_obj, obj.injEq, all_obj, list_map_eq_self]
      refine forall₂_congr fun field hfield => ?_
      rw [← ih field hfield]
      exact ⟨fun h => congrArg Prod.snd h, fun h => Prod.ext rfl h⟩

/-! ### Ordering the members -/

/-- The document with the members of every object in the order of their names. -/
def sorted (before : String → String → Bool) : Document ν → Document ν :=
  fold ⟨null, bool, number, str, arr,
    fun fields => obj (fields.mergeSort fun left right => before left.1 right.1)⟩

/-- No object has two members of one name. -/
def distinct : Document ν → Bool :=
  fold ⟨true, fun _ => true, fun _ => true, fun _ => true, fun items => items.all id,
    fun fields => decide (fields.map Prod.fst).Nodup && fields.all Prod.snd⟩

section sorted

variable {before other : String → String → Bool}

theorem sorted_arr (items : List (Document ν)) :
    (arr items).sorted before = arr (items.map (sorted before)) := fold_arr items

theorem sorted_obj (fields : List (String × Document ν)) :
    (obj fields).sorted before =
      obj ((fields.map fun field => (field.1, field.2.sorted before)).mergeSort
        fun left right => before left.1 right.1) :=
  fold_obj fields

theorem distinct_arr {items : List (Document ν)} :
    (arr items).distinct = true ↔ ∀ item ∈ items, item.distinct = true := by
  unfold distinct
  rw [fold_arr]
  simp

theorem distinct_obj {fields : List (String × Document ν)} :
    (obj fields).distinct = true ↔
      (fields.map Prod.fst).Nodup ∧ ∀ field ∈ fields, field.2.distinct = true := by
  unfold distinct
  rw [fold_obj]
  simp [Function.comp_def]

theorem map_sorted (change : ν → μ) (document : Document ν) :
    (document.sorted before).map change = (document.map change).sorted before := by
  induction document using induct with
  | null | bool | number | str => rfl
  | arr items ih =>
      rw [sorted_arr, map_arr, map_arr, sorted_arr, List.map_map, List.map_map]
      congr 1
      exact List.map_congr_left ih
  | obj fields ih =>
      rw [sorted_obj, map_obj, map_obj, sorted_obj, List.map_map]
      congr 1
      have hsame : ((fields.map fun field => (field.1, field.2.sorted before)).map
          fun field => (field.1, field.2.map change)) =
          fields.map fun field => (field.1, (field.2.map change).sorted before) := by
        rw [List.map_map]
        exact List.map_congr_left fun field hfield => Prod.ext rfl (ih field hfield)
      refine Eq.trans ?_ (congrArg (List.mergeSort · fun left right => before left.1 right.1) hsame)
      exact List.map_mergeSort fun left _ right _ => rfl

theorem all_sorted (test : ν → Bool) (document : Document ν) :
    (document.sorted before).all test = document.all test := by
  rw [Bool.eq_iff_iff]
  induction document using induct with
  | null | bool | number | str => rfl
  | arr items ih =>
      rw [sorted_arr, all_arr, all_arr, List.forall_mem_map]
      exact forall₂_congr ih
  | obj fields ih =>
      rw [sorted_obj, all_obj, all_obj]
      simp only [List.mem_mergeSort, List.forall_mem_map]
      exact forall₂_congr ih

theorem allTexts_sorted (test : String → Bool) (document : Document ν) :
    (document.sorted before).allTexts test = document.allTexts test := by
  rw [Bool.eq_iff_iff]
  induction document using induct with
  | null | bool | number | str => rfl
  | arr items ih =>
      rw [sorted_arr, allTexts_arr, allTexts_arr, List.forall_mem_map]
      exact forall₂_congr ih
  | obj fields ih =>
      rw [sorted_obj, allTexts_obj, allTexts_obj]
      simp only [List.mem_mergeSort, List.forall_mem_map]
      exact forall₂_congr fun field hfield => and_congr_right' (ih field hfield)

theorem distinct_map (change : ν → μ) (document : Document ν) :
    (document.map change).distinct = document.distinct := by
  rw [Bool.eq_iff_iff]
  induction document using induct with
  | null | bool | number | str => rfl
  | arr items ih =>
      rw [map_arr, distinct_arr, distinct_arr, List.forall_mem_map]
      exact forall₂_congr ih
  | obj fields ih =>
      rw [map_obj, distinct_obj, distinct_obj, List.map_map, List.forall_mem_map]
      exact and_congr Iff.rfl (forall₂_congr ih)

theorem distinct_sorted (document : Document ν) :
    (document.sorted before).distinct = document.distinct := by
  rw [Bool.eq_iff_iff]
  induction document using induct with
  | null | bool | number | str => rfl
  | arr items ih =>
      rw [sorted_arr, distinct_arr, distinct_arr, List.forall_mem_map]
      exact forall₂_congr ih
  | obj fields ih =>
      rw [sorted_obj, distinct_obj, distinct_obj,
        ((List.mergeSort_perm ..).map Prod.fst).nodup_iff, List.map_map]
      simp only [List.mem_mergeSort, List.forall_mem_map]
      exact and_congr Iff.rfl (forall₂_congr ih)

/-- How names are ordered: any two, transitively, and no two alike. -/
structure NameOrder (before : String → String → Bool) : Prop where
  total : ∀ left right, (before left right || before right left) = true
  trans : ∀ first second third, before first second = true → before second third = true →
    before first third = true
  antisymm : ∀ left right, before left right = true → before right left = true → left = right

/-- Members in one order or another are the same once they are sorted. -/
theorem mergeSort_eq_of_perm (order : NameOrder before) {left right : List (String × α)}
    (distinct : (left.map Prod.fst).Nodup) (perm : left.Perm right) :
    (left.mergeSort fun first second => before first.1 second.1) =
      right.mergeSort fun first second => before first.1 second.1 := by
  have hsorted : ∀ fields : List (String × α),
      (fields.mergeSort fun first second => before first.1 second.1).Pairwise
        fun first second => before first.1 second.1 = true := by
    intro fields
    apply List.pairwise_mergeSort
    · exact fun first second third => order.trans first.1 second.1 third.1
    · exact fun first second => order.total first.1 second.1
  refine List.Perm.eq_of_pairwise ?_ (hsorted left) (hsorted right)
    ((List.mergeSort_perm ..).trans (perm.trans (List.mergeSort_perm ..).symm))
  intro first second hfirst hsecond hle hge
  have hname := order.antisymm _ _ hle hge
  have hinj := List.inj_on_of_nodup_map distinct
  exact hinj (List.mem_mergeSort.mp hfirst)
    (perm.mem_iff.mpr (List.mem_mergeSort.mp hsecond)) hname

/-- An order that the members were in before does not show once they are sorted. -/
theorem sorted_sorted (order : NameOrder before) {document : Document ν}
    (separate : document.distinct = true) :
    (document.sorted other).sorted before = document.sorted before := by
  induction document using induct with
  | null | bool | number | str => rfl
  | arr items ih =>
      rw [distinct_arr] at separate
      rw [sorted_arr, sorted_arr, sorted_arr, List.map_map]
      congr 1
      exact List.map_congr_left fun item hitem => ih item hitem (separate item hitem)
  | obj fields ih =>
      obtain ⟨hnames, hvalues⟩ := distinct_obj.mp separate
      rw [sorted_obj, sorted_obj, sorted_obj]
      congr 1
      have hsame : (fields.map fun field => (field.1, (field.2.sorted other).sorted before)) =
          fields.map fun field => (field.1, field.2.sorted before) :=
        List.map_congr_left fun field hfield =>
          Prod.ext rfl (ih field hfield (hvalues field hfield))
      have hperm := ((List.mergeSort_perm (fields.map fun field => (field.1, field.2.sorted other))
        fun left right => other left.1 right.1).map
          fun field => (field.1, field.2.sorted before))
      rw [List.map_map] at hperm
      rw [← hsame]
      refine mergeSort_eq_of_perm order ?_ hperm
      rw [(hperm.map Prod.fst).nodup_iff, List.map_map]
      exact hnames

end sorted

/-- No object is part of the document. -/
def flat : Document ν → Bool :=
  fold ⟨true, fun _ => true, fun _ => true, fun _ => true, fun items => items.all id,
    fun _ => false⟩

theorem flat_arr {items : List (Document ν)} :
    (arr items).flat = true ↔ ∀ item ∈ items, item.flat = true := by
  unfold flat
  rw [fold_arr]
  simp

theorem flat_obj (fields : List (String × Document ν)) : (obj fields).flat = false := fold_obj fields

section flat

variable {before : String → String → Bool}

theorem flat_sorted (document : Document ν) : (document.sorted before).flat = document.flat := by
  rw [Bool.eq_iff_iff]
  induction document using induct with
  | null | bool | number | str => rfl
  | arr items ih =>
      rw [sorted_arr, flat_arr, flat_arr, List.forall_mem_map]
      exact forall₂_congr ih
  | obj fields => rw [sorted_obj, flat_obj, flat_obj]

/-- There is nothing to order where there are no members. -/
theorem sorted_of_flat {document : Document ν} (flat : document.flat = true) :
    document.sorted before = document := by
  induction document using induct with
  | null | bool | number | str => rfl
  | arr items ih =>
      rw [sorted_arr]
      congr 1
      exact list_map_eq_self.mpr fun item hitem => ih item hitem (flat_arr.mp flat item hitem)
  | obj fields =>
      rw [flat_obj] at flat
      contradiction

theorem distinct_of_flat {document : Document ν} (flat : document.flat = true) :
    document.distinct = true := by
  induction document using induct with
  | null | bool | number | str => rfl
  | arr items ih =>
      exact distinct_arr.mpr fun item hitem => ih item hitem (flat_arr.mp flat item hitem)
  | obj fields =>
      rw [flat_obj] at flat
      contradiction

end flat

end Document
end DispatchCore.Library
