import Mathlib.Data.List.Pairwise
import DispatchCore.Library.Dict

/-! Exclusive holding.  Some values of a dictionary hold something; a scan with
a set of what is taken refuses the second holder, and it passes exactly when no
two keys hold the same. -/
namespace DispatchCore.Library

variable {κ ν η θ ε : Type}

/-- Go through the values, and fail at the first that holds what an earlier one holds. -/
def holdAll [DecidableEq η] (holds : ν → Option η) (failure : ε) (taken : List η) :
    List ν → Except ε Unit
  | [] => .ok ()
  | value :: rest =>
      match holds value with
      | none => holdAll holds failure taken rest
      | some held =>
          if held ∈ taken then .error failure
          else holdAll holds failure (held :: taken) rest

theorem holdAll_ok [DecidableEq η] (holds : ν → Option η) (failure : ε) (taken : List η)
    (values : List ν) :
    holdAll holds failure taken values = .ok () ↔
      (values.filterMap holds).Nodup ∧ ∀ held ∈ values.filterMap holds, held ∉ taken := by
  induction values generalizing taken with
  | nil => simp [holdAll]
  | cons value rest ih =>
      unfold holdAll
      cases hholds : holds value with
      | none => simpa [hholds] using ih taken
      | some held =>
          by_cases hmem : held ∈ taken
          · simp [hholds, hmem]
          · rw [List.filterMap_cons_some hholds, List.nodup_cons, List.forall_mem_cons]
            simp only [hmem, if_false, ih, List.mem_cons, not_or]
            constructor
            · rintro ⟨hnodup, hfree⟩
              exact ⟨⟨fun h => (hfree held h).1 rfl, hnodup⟩, not_false,
                fun other h => (hfree other h).2⟩
            · rintro ⟨⟨hnew, hnodup⟩, -, hfree⟩
              exact ⟨hnodup, fun other h => ⟨fun heq => hnew (heq ▸ h), hfree other h⟩⟩

/-- The scan has one way to fail. -/
theorem holdAll_error [DecidableEq η] {holds : ν → Option η} {failure found : ε}
    {taken : List η} {values : List ν}
    (h : holdAll holds failure taken values = .error found) : found = failure := by
  induction values generalizing taken with
  | nil => contradiction
  | cons value rest ih =>
      unfold holdAll at h
      split at h
      · exact ih h
      · split at h
        · cases h
          rfl
        · exact ih h

theorem holdAll_cases [DecidableEq η] (holds : ν → Option η) (failure : ε) (taken : List η)
    (values : List ν) :
    holdAll holds failure taken values = .ok () ∨
      holdAll holds failure taken values = .error failure := by
  cases h : holdAll holds failure taken values with
  | ok done => exact .inl rfl
  | error found => exact .inr (congrArg _ (holdAll_error h))

namespace Dict

/-- What is held is held under one key only. -/
def Exclusive [DecidableEq κ] (dict : Dict κ ν) (holds : ν → Option η) : Prop :=
  ∀ first second left right held, dict.get? first = some left → dict.get? second = some right →
    holds left = some held → holds right = some held → first = second

/-- Two keys hold the same. -/
def Contested [DecidableEq κ] (dict : Dict κ ν) (holds : ν → Option η) : Prop :=
  ∃ first second left right held, first ≠ second ∧ dict.get? first = some left ∧
    dict.get? second = some right ∧ holds left = some held ∧ holds right = some held

variable [DecidableEq κ]

theorem not_exclusive_iff (dict : Dict κ ν) (holds : ν → Option η) :
    ¬dict.Exclusive holds ↔ dict.Contested holds := by
  constructor
  · intro h
    by_contra hfree
    refine h fun first second left right held hfirst hsecond hleft hright => ?_
    by_contra hne
    exact hfree ⟨first, second, left, right, held, hne, hfirst, hsecond, hleft, hright⟩
  · rintro ⟨first, second, left, right, held, hne, hfirst, hsecond, hleft, hright⟩ exclusive
    exact hne (exclusive first second left right held hfirst hsecond hleft hright)

theorem nodup_held_iff (dict : Dict κ ν) (holds : ν → Option η) :
    (dict.values.filterMap holds).Nodup ↔ dict.Exclusive holds := by
  have hpairs : (dict.values.filterMap holds).Nodup ↔ dict.entries.Pairwise fun left right =>
      ∀ held, holds left.2 = some held → ∀ other, holds right.2 = some other → held ≠ other := by
    simp only [Dict.values, List.filterMap_map, List.Nodup, List.pairwise_filterMap,
      Function.comp_def]
  rw [hpairs]
  constructor
  · intro hpairwise first second left right held hfirst hsecond hleft hright
    by_contra hne
    have : Std.Symm fun (left right : κ × ν) =>
        ∀ held, holds left.2 = some held → ∀ other, holds right.2 = some other → held ≠ other :=
      ⟨fun _ _ h held hheld other hother heq => h other hother held hheld heq.symm⟩
    have hapart := hpairwise.forall ((get?_eq_some _ _ _).mp hfirst)
      ((get?_eq_some _ _ _).mp hsecond) (fun heq => hne (congrArg Prod.fst heq))
    exact hapart held hleft held hright rfl
  · intro exclusive
    have hdistinct : dict.entries.Nodup := List.Nodup.of_map Prod.fst dict.distinct
    apply hdistinct.pairwise_of_forall_ne
    intro left hleft right hright hne held hheld other hother heq
    subst heq
    have hkey := exclusive left.1 right.1 left.2 right.2 held
      ((get?_eq_some _ _ _).mpr hleft) ((get?_eq_some _ _ _).mpr hright) hheld hother
    have hsame := (get?_eq_some _ _ _).mpr hleft
    rw [hkey, (get?_eq_some _ _ _).mpr hright] at hsame
    exact hne (Prod.ext hkey (Option.some.inj hsame).symm)

/-- The scan passes exactly when nothing is held twice. -/
theorem holdAll_values_ok [DecidableEq η] (dict : Dict κ ν) (holds : ν → Option η) (failure : ε) :
    holdAll holds failure [] dict.values = .ok () ↔ dict.Exclusive holds := by
  rw [holdAll_ok, nodup_held_iff]
  simp

theorem holdAll_values_error [DecidableEq η] (dict : Dict κ ν) (holds : ν → Option η)
    (failure : ε) :
    holdAll holds failure [] dict.values = .error failure ↔ dict.Contested holds := by
  rw [← not_exclusive_iff, ← holdAll_values_ok dict holds failure]
  rcases holdAll_cases holds failure [] dict.values with h | h <;> simp [h]

/-- Only the values count. -/
theorem exclusive_congr {κ' : Type} [DecidableEq κ'] {dict : Dict κ ν} {other : Dict κ' ν}
    (h : dict.values = other.values) (holds : ν → Option η) :
    dict.Exclusive holds ↔ other.Exclusive holds := by
  rw [← nodup_held_iff, ← nodup_held_iff, h]

theorem exclusive_empty (holds : ν → Option η) : (empty : Dict κ ν).Exclusive holds :=
  fun first second left right held hfirst => by simp at hfirst

/-- Nothing but possibly what is under the key holds it. -/
def HeldBut (dict : Dict κ ν) (holds : ν → Option η) (key : κ) (held : η) : Prop :=
  ∃ other found, other ≠ key ∧ dict.get? other = some found ∧ holds found = some held

/-- A value may be assigned exactly when what it holds is not held elsewhere. -/
theorem exclusive_set_iff {dict : Dict κ ν} {holds : ν → Option η}
    (exclusive : dict.Exclusive holds) {key : κ} {value : ν} :
    (dict.set key value).Exclusive holds ↔
      ∀ held, holds value = some held → ¬dict.HeldBut holds key held := by
  constructor
  · rintro h held hheld ⟨other, found, hne, hfound, hother⟩
    apply hne
    apply h other key found value held
    · rw [get?_set, if_neg hne, hfound]
    · exact get?_set_self _ _ _
    · exact hother
    · exact hheld
  · intro h first second left right held hfirst hsecond hleft hright
    rw [get?_set] at hfirst hsecond
    split at hfirst <;> split at hsecond
    · simp [*]
    · rename_i hkey hne
      cases hfirst
      exact absurd ⟨second, right, hne, hsecond, hright⟩ (h held hleft)
    · rename_i hne hkey
      cases hsecond
      exact absurd ⟨first, left, hne, hfirst, hleft⟩ (h held hright)
    · exact exclusive first second left right held hfirst hsecond hleft hright

/-- A value that holds nothing, or what the one it replaces held, may always be assigned. -/
theorem Exclusive.set_same {dict : Dict κ ν} {holds : ν → Option η}
    (exclusive : dict.Exclusive holds) {key : κ} {value : ν}
    (h : holds value = none ∨
      ∃ previous, dict.get? key = some previous ∧ holds value = holds previous) :
    (dict.set key value).Exclusive holds := by
  rw [exclusive_set_iff exclusive]
  rintro held hheld ⟨other, found, hne, hfound, hother⟩
  rcases h with hnone | ⟨previous, hprevious, hsame⟩
  · rw [hnone] at hheld
    contradiction
  · rw [hheld] at hsame
    exact hne (exclusive other key found previous held hfound hprevious hother hsame.symm)

/-- What two keys hold alike, they spell alike. -/
theorem Contested.spelled {dict : Dict κ ν} {holds : ν → Option η} (spell : η → θ)
    (contested : dict.Contested holds) :
    dict.Contested fun value => (holds value).map spell := by
  obtain ⟨first, second, left, right, held, hne, hfirst, hsecond, hleft, hright⟩ := contested
  refine ⟨first, second, left, right, spell held, hne, hfirst, hsecond, ?_, ?_⟩
  · simp [hleft]
  · simp [hright]

theorem Exclusive.of_spelled {dict : Dict κ ν} {holds : ν → Option η} {spell : η → θ}
    (exclusive : dict.Exclusive fun value => (holds value).map spell) : dict.Exclusive holds := by
  by_contra h
  rw [not_exclusive_iff] at h
  exact (not_exclusive_iff _ _).mpr (h.spelled spell) exclusive

/-- Two keys whose holdings differ and are spelled alike. -/
def Misread (dict : Dict κ ν) (holds : ν → Option η) (spell : η → θ) : Prop :=
  ∃ first second left right held other, dict.get? first = some left ∧
    dict.get? second = some right ∧ holds left = some held ∧ holds right = some other ∧
    held ≠ other ∧ spell held = spell other

/-- A contest over spellings is one over what is held, or a misreading. -/
theorem contested_spelled_iff (dict : Dict κ ν) (holds : ν → Option η) (spell : η → θ) :
    (dict.Contested fun value => (holds value).map spell) ↔
      dict.Contested holds ∨ dict.Misread holds spell := by
  constructor
  · rintro ⟨first, second, left, right, spelling, hne, hfirst, hsecond, hleft, hright⟩
    obtain ⟨held, hheld, hspell⟩ := Option.map_eq_some_iff.mp hleft
    obtain ⟨other, hother, hsame⟩ := Option.map_eq_some_iff.mp hright
    by_cases heq : held = other
    · rw [← heq] at hother
      exact .inl ⟨first, second, left, right, held, hne, hfirst, hsecond, hheld, hother⟩
    · exact .inr ⟨first, second, left, right, held, other, hfirst, hsecond, hheld, hother, heq,
        hspell.trans hsame.symm⟩
  · rintro (contested | ⟨first, second, left, right, held, other, hfirst, hsecond, hleft, hright,
      hne, hspell⟩)
    · exact contested.spelled spell
    · refine ⟨first, second, left, right, spell held, fun heq => hne ?_, hfirst, hsecond, ?_, ?_⟩
      · rw [heq, hsecond] at hfirst
        rw [← Option.some.inj hfirst, hright] at hleft
        exact (Option.some.inj hleft).symm
      · simp [hleft]
      · simp [hright, hspell]

end Dict
end DispatchCore.Library
