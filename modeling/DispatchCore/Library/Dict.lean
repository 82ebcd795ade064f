import Mathlib.Data.List.Nodup

/-! Insertion-ordered dictionaries.  Assigning to a key that is present keeps
its position, a new key goes to the end, and iteration follows that order.
The key list carries its own distinctness, so lookups and iteration agree. -/
namespace DispatchCore.Library

/-- A finite map whose entries are listed in the order of first insertion. -/
structure Dict (κ ν : Type) where
  entries : List (κ × ν)
  distinct : (entries.map Prod.fst).Nodup

namespace Dict

variable {κ ν : Type} [DecidableEq κ]

/-- The first value stored under a key in an entry list. -/
def lookup (key : κ) : List (κ × ν) → Option ν
  | [] => none
  | (other, value) :: rest => if other = key then some value else lookup key rest

/-- Overwrite the value in place, or append a new entry. -/
def assign (key : κ) (value : ν) : List (κ × ν) → List (κ × ν)
  | [] => [(key, value)]
  | (other, previous) :: rest =>
      if other = key then (key, value) :: rest
      else (other, previous) :: assign key value rest

theorem mem_keys_assign (key other : κ) (value : ν) (entries : List (κ × ν)) :
    other ∈ (assign key value entries).map Prod.fst ↔
      other = key ∨ other ∈ entries.map Prod.fst := by
  induction entries with
  | nil => simp [assign]
  | cons entry rest ih =>
      obtain ⟨head, previous⟩ := entry
      unfold assign
      split
      · rename_i heq
        simp [heq]
      · simp only [List.map_cons, List.mem_cons, ih]
        tauto

theorem nodup_assign (key : κ) (value : ν) (entries : List (κ × ν))
    (distinct : (entries.map Prod.fst).Nodup) :
    ((assign key value entries).map Prod.fst).Nodup := by
  induction entries with
  | nil => simp [assign]
  | cons entry rest ih =>
      obtain ⟨head, previous⟩ := entry
      rw [List.map_cons, List.nodup_cons] at distinct
      unfold assign
      split
      · rename_i heq
        subst heq
        simpa using distinct
      · rename_i hne
        rw [List.map_cons, List.nodup_cons, mem_keys_assign]
        exact ⟨fun h => h.elim hne distinct.1, ih distinct.2⟩

def empty : Dict κ ν := ⟨[], List.nodup_nil⟩

instance : Inhabited (Dict κ ν) := ⟨empty⟩

instance [DecidableEq ν] : DecidableEq (Dict κ ν) := fun left right =>
  decidable_of_iff (left.entries = right.entries) (by
    cases left
    cases right
    simp)

def get? (dict : Dict κ ν) (key : κ) : Option ν := lookup key dict.entries

def set (dict : Dict κ ν) (key : κ) (value : ν) : Dict κ ν :=
  ⟨assign key value dict.entries, nodup_assign key value dict.entries dict.distinct⟩

def erase (dict : Dict κ ν) (key : κ) : Dict κ ν :=
  ⟨dict.entries.filter fun entry => entry.1 ≠ key,
    dict.distinct.sublist (List.Sublist.map _ List.filter_sublist)⟩

/-- Keep the pairs that a test lets through. -/
def restrict (dict : Dict κ ν) (keeps : κ → ν → Bool) : Dict κ ν :=
  ⟨dict.entries.filter fun entry => keeps entry.1 entry.2,
    dict.distinct.sublist (List.Sublist.map _ List.filter_sublist)⟩

def contains (dict : Dict κ ν) (key : κ) : Bool := (dict.get? key).isSome

/-- Assign every pair in turn, as a dictionary update does. -/
def update (dict : Dict κ ν) (pairs : List (κ × ν)) : Dict κ ν :=
  pairs.foldl (fun current pair => current.set pair.1 pair.2) dict

def ofList (pairs : List (κ × ν)) : Dict κ ν := empty.update pairs

def keys (dict : Dict κ ν) : List κ := dict.entries.map Prod.fst

def values (dict : Dict κ ν) : List ν := dict.entries.map Prod.snd

/-- Rewrite every value in place. -/
def mapValues {ω : Type} (dict : Dict κ ν) (change : κ → ν → ω) : Dict κ ω :=
  ⟨dict.entries.map fun entry => (entry.1, change entry.1 entry.2), by
    simpa [List.map_map, Function.comp_def] using dict.distinct⟩

theorem lookup_eq_none {key : κ} {entries : List (κ × ν)} :
    lookup key entries = none ↔ key ∉ entries.map Prod.fst := by
  induction entries with
  | nil => simp [lookup]
  | cons entry rest ih =>
      obtain ⟨head, previous⟩ := entry
      by_cases h : head = key
      · simp [lookup, h]
      · simp [lookup, h, ih, eq_comm (a := key)]

theorem lookup_eq_some {key : κ} {value : ν} {entries : List (κ × ν)}
    (distinct : (entries.map Prod.fst).Nodup) :
    lookup key entries = some value ↔ (key, value) ∈ entries := by
  induction entries with
  | nil => simp [lookup]
  | cons entry rest ih =>
      obtain ⟨head, previous⟩ := entry
      rw [List.map_cons, List.nodup_cons] at distinct
      by_cases h : head = key
      · subst h
        have hrest : (head, value) ∉ rest := fun hmem =>
          distinct.1 (List.mem_map.mpr ⟨(head, value), hmem, rfl⟩)
        simp [lookup, hrest, eq_comm]
      · have hne : ¬ (key, value) = (head, previous) := by
          intro heq
          exact h (congrArg Prod.fst heq).symm
        simp [lookup, h, ih distinct.2, hne]

theorem get?_eq_some (dict : Dict κ ν) (key : κ) (value : ν) :
    dict.get? key = some value ↔ (key, value) ∈ dict.entries :=
  lookup_eq_some dict.distinct

theorem get?_eq_none (dict : Dict κ ν) (key : κ) :
    dict.get? key = none ↔ key ∉ dict.keys :=
  lookup_eq_none

@[simp] theorem get?_empty (key : κ) : (empty : Dict κ ν).get? key = none := rfl

theorem lookup_assign (key other : κ) (value : ν) (entries : List (κ × ν)) :
    lookup other (assign key value entries) =
      if other = key then some value else lookup other entries := by
  induction entries with
  | nil => simp [assign, lookup, eq_comm (a := other)]
  | cons entry rest ih =>
      obtain ⟨head, previous⟩ := entry
      by_cases h : head = key
      · subst h
        by_cases hother : head = other <;> simp [assign, lookup, hother, eq_comm (a := other)]
      · by_cases hother : head = other
        · subst hother
          simp [assign, lookup, h]
        · simp [assign, lookup, h, hother, ih]

theorem get?_set (dict : Dict κ ν) (key other : κ) (value : ν) :
    (dict.set key value).get? other =
      if other = key then some value else dict.get? other :=
  lookup_assign key other value dict.entries

@[simp] theorem get?_set_self (dict : Dict κ ν) (key : κ) (value : ν) :
    (dict.set key value).get? key = some value := by
  simp [get?_set]

theorem get?_set_of_ne (dict : Dict κ ν) {key other : κ} (value : ν) (h : other ≠ key) :
    (dict.set key value).get? other = dict.get? other := by
  simp [get?_set, h]

/-- An entry after an assignment is the assigned one, or was there. -/
theorem mem_entries_set {dict : Dict κ ν} {key : κ} {value : ν} {entry : κ × ν}
    (h : entry ∈ (dict.set key value).entries) :
    entry = (key, value) ∨ entry ∈ dict.entries := by
  obtain ⟨other, found⟩ := entry
  rw [← get?_eq_some, get?_set] at h
  split at h
  · rename_i hsame
    rw [hsame, Option.some.inj h]
    exact .inl rfl
  · exact .inr ((get?_eq_some _ _ _).mp h)

theorem assign_of_lookup {key : κ} {value : ν} {entries : List (κ × ν)}
    (h : lookup key entries = some value) : assign key value entries = entries := by
  induction entries with
  | nil => simp [lookup] at h
  | cons entry rest ih =>
      obtain ⟨head, previous⟩ := entry
      by_cases hkey : head = key
      · subst hkey
        have hvalue : previous = value := by simpa [lookup] using h
        simp [assign, hvalue]
      · have htail : lookup key rest = some value := by simpa [lookup, hkey] using h
        simp [assign, hkey, ih htail]

/-- Writing back the value that is already stored changes nothing. -/
theorem set_of_get? (dict : Dict κ ν) {key : κ} {value : ν}
    (h : dict.get? key = some value) : dict.set key value = dict := by
  cases dict
  simp only [set, mk.injEq]
  exact assign_of_lookup h

theorem length_set_le (dict : Dict κ ν) (key : κ) (value : ν) :
    (dict.set key value).entries.length ≤ dict.entries.length + 1 := by
  have hassign : ∀ entries : List (κ × ν),
      (assign key value entries).length ≤ entries.length + 1 := by
    intro entries
    induction entries with
    | nil => exact Nat.le_refl _
    | cons entry rest ih =>
        unfold assign
        split
        · exact Nat.le_succ _
        · exact Nat.succ_le_succ ih
  exact hassign dict.entries

theorem get?_erase (dict : Dict κ ν) (key other : κ) :
    (dict.erase key).get? other = if other = key then none else dict.get? other := by
  apply Option.ext
  intro value
  rw [get?_eq_some]
  by_cases h : other = key
  · simp [erase, h]
  · rw [if_neg h, get?_eq_some]
    simp [erase, h]

theorem get?_restrict (dict : Dict κ ν) (keeps : κ → ν → Bool) (key : κ) :
    (dict.restrict keeps).get? key = (dict.get? key).filter (keeps key) := by
  apply Option.ext
  intro value
  rw [get?_eq_some, Option.filter_eq_some_iff, get?_eq_some]
  exact List.mem_filter

@[simp] theorem get?_erase_self (dict : Dict κ ν) (key : κ) :
    (dict.erase key).get? key = none := by
  simp [get?_erase]

theorem mem_keys (dict : Dict κ ν) (key : κ) :
    key ∈ dict.keys ↔ ∃ value, dict.get? key = some value := by
  simp only [keys, List.mem_map, get?_eq_some, Prod.exists]
  constructor
  · rintro ⟨found, value, hmem, rfl⟩
    exact ⟨value, hmem⟩
  · rintro ⟨value, hmem⟩
    exact ⟨key, value, hmem, rfl⟩

theorem mem_values (dict : Dict κ ν) (value : ν) :
    value ∈ dict.values ↔ ∃ key, dict.get? key = some value := by
  simp only [values, List.mem_map, get?_eq_some, Prod.exists]
  constructor
  · rintro ⟨key, found, hmem, rfl⟩
    exact ⟨key, hmem⟩
  · rintro ⟨key, hmem⟩
    exact ⟨key, value, hmem, rfl⟩

theorem lookup_map_entries {ω : Type} (change : κ → ν → ω) (key : κ)
    (entries : List (κ × ν)) :
    lookup key (entries.map fun entry => (entry.1, change entry.1 entry.2)) =
      (lookup key entries).map (change key) := by
  induction entries with
  | nil => rfl
  | cons entry rest ih =>
      by_cases h : entry.1 = key
      · simp [lookup, h]
      · simp [lookup, h, ih]

@[simp] theorem get?_mapValues {ω : Type} (dict : Dict κ ν) (change : κ → ν → ω) (key : κ) :
    (dict.mapValues change).get? key = (dict.get? key).map (change key) :=
  lookup_map_entries change key dict.entries

@[simp] theorem update_nil (dict : Dict κ ν) : dict.update [] = dict := rfl

@[simp] theorem update_cons (dict : Dict κ ν) (pair : κ × ν) (pairs : List (κ × ν)) :
    dict.update (pair :: pairs) = (dict.set pair.1 pair.2).update pairs := rfl

/-- A key is found after an update exactly where the pairs last assigned it,
and otherwise where it was. -/
theorem get?_update_of_notMem (dict : Dict κ ν) (pairs : List (κ × ν)) (key : κ)
    (h : key ∉ pairs.map Prod.fst) : (dict.update pairs).get? key = dict.get? key := by
  induction pairs generalizing dict with
  | nil => rfl
  | cons pair pairs ih =>
      rw [List.map_cons, List.mem_cons, not_or] at h
      rw [update_cons, ih _ h.2, get?_set_of_ne _ _ h.1]

theorem get?_update_of_mem (dict : Dict κ ν) (pairs : List (κ × ν)) (key : κ) (value : ν)
    (distinct : (pairs.map Prod.fst).Nodup) (h : (key, value) ∈ pairs) :
    (dict.update pairs).get? key = some value := by
  induction pairs generalizing dict with
  | nil => simp at h
  | cons pair pairs ih =>
      rw [List.map_cons, List.nodup_cons] at distinct
      rw [update_cons]
      rcases List.mem_cons.mp h with heq | hmem
      · subst heq
        rw [get?_update_of_notMem _ _ _ distinct.1, get?_set_self]
      · exact ih _ distinct.2 hmem

theorem keys_filter_assign {selects : κ × ν → Prop} [DecidablePred selects] {key : κ} {value : ν}
    {entries : List (κ × ν)} (distinct : (entries.map Prod.fst).Nodup)
    (present : ∀ old, (key, old) ∈ entries → (selects (key, value) ↔ selects (key, old)))
    (absent : key ∉ entries.map Prod.fst → ¬selects (key, value)) :
    ((assign key value entries).filter fun entry => selects entry).map Prod.fst =
      (entries.filter fun entry => selects entry).map Prod.fst := by
  induction entries with
  | nil => simp [assign, absent]
  | cons entry rest ih =>
      obtain ⟨head, previous⟩ := entry
      rw [List.map_cons, List.nodup_cons] at distinct
      by_cases h : head = key
      · subst h
        have hsame := present previous (by simp)
        by_cases hselects : selects (head, previous) <;>
          simp [assign, hsame, hselects]
      · have htail := ih distinct.2
          (fun old hmem => present old (List.mem_cons_of_mem _ hmem))
          (fun hnot => absent fun hmem => (List.mem_cons.mp hmem).elim (fun heq => h heq.symm) hnot)
        by_cases hselects : selects (head, previous) <;>
          simp [assign, h, hselects, htail]

/-- Assigning a value that is selected exactly when the old one was leaves the
selected keys as they were, in their order. -/
theorem keys_filter_set {selects : κ × ν → Prop} [DecidablePred selects] {dict : Dict κ ν}
    {key : κ} {value : ν}
    (present : ∀ old, dict.get? key = some old → (selects (key, value) ↔ selects (key, old)))
    (absent : dict.get? key = none → ¬selects (key, value)) :
    ((dict.set key value).entries.filter fun entry => selects entry).map Prod.fst =
      (dict.entries.filter fun entry => selects entry).map Prod.fst :=
  keys_filter_assign dict.distinct
    (fun old hmem => present old ((dict.get?_eq_some key old).mpr hmem))
    (fun hnot => absent ((dict.get?_eq_none key).mpr hnot))

/-- The entries of a dictionary whose values know their keys. -/
theorem entries_of_values {dict : Dict κ ν} {name : ν → κ}
    (keyed : ∀ key value, dict.get? key = some value → name value = key) :
    dict.entries = dict.values.map fun value => (name value, value) := by
  unfold values
  rw [List.map_map]
  conv_lhs => rw [← List.map_id dict.entries]
  apply List.map_congr_left
  intro entry hmem
  have hname := keyed entry.1 entry.2 ((get?_eq_some _ _ _).mpr hmem)
  simp [hname]

omit [DecidableEq κ] in
/-- Equal entry lists make equal dictionaries. -/
theorem ext_entries {left right : Dict κ ν} (h : left.entries = right.entries) :
    left = right := by
  cases left
  cases right
  simpa using h

/-- Assigning to a key that is absent appends. -/
theorem assign_of_notMem {key : κ} {value : ν} {entries : List (κ × ν)}
    (absent : key ∉ entries.map Prod.fst) : assign key value entries = entries ++ [(key, value)] := by
  induction entries with
  | nil => rfl
  | cons entry rest ih =>
      obtain ⟨head, previous⟩ := entry
      rw [List.map_cons, List.mem_cons, not_or] at absent
      rw [assign, if_neg (fun h => absent.1 h.symm), ih absent.2, List.cons_append]

theorem entries_update (dict : Dict κ ν) (pairs : List (κ × ν))
    (distinct : ((dict.entries ++ pairs).map Prod.fst).Nodup) :
    (dict.update pairs).entries = dict.entries ++ pairs := by
  induction pairs generalizing dict with
  | nil => simp
  | cons pair pairs ih =>
      have hset : (dict.set pair.1 pair.2).entries = dict.entries ++ [pair] := by
        apply assign_of_notMem
        rw [List.map_append, List.nodup_append] at distinct
        exact fun h => distinct.2.2 pair.1 h pair.1 (by simp) rfl
      rw [update_cons, ih, hset, List.append_assoc, List.singleton_append]
      rw [hset, List.append_assoc, List.singleton_append]
      exact distinct

theorem entries_ofList {pairs : List (κ × ν)} (distinct : (pairs.map Prod.fst).Nodup) :
    (ofList pairs).entries = pairs := entries_update empty pairs distinct

/-- A mapping is made again from its own entries. -/
@[simp] theorem ofList_entries (dict : Dict κ ν) : ofList dict.entries = dict :=
  ext_entries (entries_ofList dict.distinct)

/-- Pairs in one order or another make the same mapping. -/
theorem get?_ofList_perm {pairs others : List (κ × ν)} (distinct : (others.map Prod.fst).Nodup)
    (perm : pairs.Perm others) (key : κ) : (ofList pairs).get? key = (ofList others).get? key := by
  have hpairs := (perm.map Prod.fst).nodup_iff.mpr distinct
  apply Option.ext
  intro value
  rw [get?_eq_some, get?_eq_some, entries_ofList hpairs, entries_ofList distinct, perm.mem_iff]

/-! ### The part under some of the keys -/

theorem filter_assign (selects : κ → Bool) (key : κ) (value : ν) (entries : List (κ × ν)) :
    (assign key value entries).filter (fun entry => selects entry.1) =
      if selects key then assign key value (entries.filter fun entry => selects entry.1)
      else entries.filter fun entry => selects entry.1 := by
  induction entries with
  | nil => by_cases hkey : selects key <;> simp [assign, hkey]
  | cons entry rest ih =>
      obtain ⟨head, previous⟩ := entry
      by_cases h : head = key
      · subst h
        by_cases hkey : selects head <;> simp [assign, hkey]
      · by_cases hhead : selects head
        · by_cases hkey : selects key <;> simp [assign, h, hhead, hkey, ih]
        · by_cases hkey : selects key <;> simp [assign, h, hhead, hkey, ih]

theorem restrict_set (dict : Dict κ ν) (selects : κ → Bool) (key : κ) (value : ν) :
    (dict.set key value).restrict (fun name _ => selects name) =
      if selects key then (dict.restrict fun name _ => selects name).set key value
      else dict.restrict fun name _ => selects name := by
  apply ext_entries
  have hfilter := filter_assign selects key value dict.entries
  by_cases hkey : selects key
  · rw [if_pos hkey] at hfilter ⊢
    exact hfilter
  · rw [if_neg hkey] at hfilter ⊢
    exact hfilter

theorem restrict_update (dict : Dict κ ν) (selects : κ → Bool) (pairs : List (κ × ν)) :
    (dict.update pairs).restrict (fun name _ => selects name) =
      (dict.restrict fun name _ => selects name).update
        (pairs.filter fun pair => selects pair.1) := by
  induction pairs generalizing dict with
  | nil => rfl
  | cons pair pairs ih =>
      rw [update_cons, ih, restrict_set]
      by_cases hkey : selects pair.1
      · simp [hkey]
      · simp [hkey]

theorem get?_update_cases {dict : Dict κ ν} {pairs : List (κ × ν)} {key : κ} {value : ν}
    (h : (dict.update pairs).get? key = some value) :
    (key, value) ∈ pairs ∨ dict.get? key = some value := by
  induction pairs generalizing dict with
  | nil => exact .inr h
  | cons pair pairs ih =>
      rw [update_cons] at h
      rcases ih h with hlater | hset
      · exact .inl (List.mem_cons_of_mem _ hlater)
      · rw [get?_set] at hset
        by_cases hkey : key = pair.1
        · rw [if_pos hkey] at hset
          cases hset
          exact .inl (by simp [hkey])
        · rw [if_neg hkey] at hset
          exact .inr hset

/-! ### Keys in their order -/

theorem update_append (dict : Dict κ ν) (first second : List (κ × ν)) :
    dict.update (first ++ second) = (dict.update first).update second :=
  List.foldl_append

theorem keys_prefix_set (dict : Dict κ ν) (key : κ) (value : ν) :
    dict.keys <+: (dict.set key value).keys := by
  change dict.entries.map Prod.fst <+: (assign key value dict.entries).map Prod.fst
  generalize dict.entries = entries
  induction entries with
  | nil => exact List.nil_prefix
  | cons entry rest ih =>
      obtain ⟨head, previous⟩ := entry
      by_cases h : head = key
      · simp [assign, h]
      · simpa [assign, h] using ih

theorem keys_prefix_update (dict : Dict κ ν) (pairs : List (κ × ν)) :
    dict.keys <+: (dict.update pairs).keys := by
  induction pairs generalizing dict with
  | nil => exact List.prefix_refl _
  | cons pair pairs ih => exact (dict.keys_prefix_set pair.1 pair.2).trans (ih _)

theorem assign_append {key : κ} {value : ν} {front : List (κ × ν)} (rest : List (κ × ν))
    (absent : key ∉ front.map Prod.fst) :
    assign key value (front ++ rest) = front ++ assign key value rest := by
  induction front with
  | nil => rfl
  | cons entry front ih =>
      obtain ⟨head, previous⟩ := entry
      rw [List.map_cons, List.mem_cons, not_or] at absent
      rw [List.cons_append, assign, if_neg (fun h => absent.1 h.symm), ih absent.2,
        List.cons_append]

/-- Giving every remaining key its new value, in the order they have. -/
theorem entries_update_over {front old fresh : List (κ × ν)}
    (distinct : ((front ++ old).map Prod.fst).Nodup)
    (keyed : old.map Prod.fst = fresh.map Prod.fst) :
    ((mk (front ++ old) distinct).update fresh).entries = front ++ fresh := by
  induction fresh generalizing front old with
  | nil =>
      have hold : old = [] := List.map_eq_nil_iff.mp keyed
      subst hold
      rfl
  | cons entry fresh ih =>
      obtain ⟨key, value⟩ := entry
      cases old with
      | nil => simp at keyed
      | cons entry old =>
          obtain ⟨head, previous⟩ := entry
          rw [List.map_cons, List.map_cons, List.cons.injEq] at keyed
          obtain ⟨rfl, hkeyed⟩ := keyed
          have habsent : head ∉ front.map Prod.fst := by
            rw [List.map_append, List.nodup_append] at distinct
            exact fun h => distinct.2.2 head h head (by simp) rfl
          have hassign : assign head value (front ++ (head, previous) :: old) =
              (front ++ [(head, value)]) ++ old := by
            rw [assign_append _ habsent, assign, if_pos rfl, List.append_assoc,
              List.singleton_append]
          have hdistinct : (((front ++ [(head, value)]) ++ old).map Prod.fst).Nodup := by
            simpa using distinct
          have hset : (mk (front ++ (head, previous) :: old) distinct).set head value =
              mk ((front ++ [(head, value)]) ++ old) hdistinct := ext_entries hassign
          rw [update_cons, hset, ih hdistinct hkeyed, List.append_assoc, List.singleton_append]

/-- A mapping whose first keys are those of another is made from that other by its own pairs. -/
theorem update_own {base dict : Dict κ ν} (h : base.keys <+: dict.keys) :
    base.update dict.entries = dict := by
  obtain ⟨rest, hrest⟩ := h
  obtain ⟨front, back, hsplit, hfront, -⟩ := List.map_eq_append_iff.mp hrest.symm
  have hover : (base.update front).entries = front :=
    @entries_update_over κ ν _ [] base.entries front base.distinct hfront.symm
  apply ext_entries
  rw [hsplit, update_append, entries_update, hover]
  rw [hover, ← hsplit]
  exact dict.distinct

theorem mapValues_set {ω : Type} (dict : Dict κ ν) (change : κ → ν → ω) (key : κ) (value : ν) :
    (dict.set key value).mapValues change = (dict.mapValues change).set key (change key value) := by
  apply ext_entries
  change (assign key value dict.entries).map _ = assign key (change key value) (dict.entries.map _)
  generalize dict.entries = entries
  induction entries with
  | nil => rfl
  | cons entry rest ih =>
      obtain ⟨head, previous⟩ := entry
      by_cases h : head = key
      · simp [assign, h]
      · simpa [assign, h] using ih

theorem mapValues_update {ω : Type} (dict : Dict κ ν) (change : κ → ν → ω)
    (pairs : List (κ × ν)) :
    (dict.update pairs).mapValues change =
      (dict.mapValues change).update (pairs.map fun pair => (pair.1, change pair.1 pair.2)) := by
  induction pairs generalizing dict with
  | nil => rfl
  | cons pair pairs ih => rw [update_cons, ih, mapValues_set, List.map_cons, update_cons]

end Dict
end DispatchCore.Library
