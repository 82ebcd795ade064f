import DispatchCore.Library.Reliance

/-! Owners that share a state.  A coroutine confined to its owner reads and
writes the owner's view only; take the coroutines of everybody else out of a
run, and the owner's see the same views, return the same and raise the same. -/
namespace DispatchCore.Library

namespace Coroutine

variable {σ ε α β κ ρ : Type}

/-- What each owner sees of a state, and what every segment keeps. -/
structure Shares (σ κ ρ : Type) where
  view : κ → σ → ρ
  valid : σ → Prop

/-- Every segment keeps the state valid and leaves the views of the others alone; what follows
it and what the owner sees then depend on nothing but what the owner saw. -/
def Confined (shares : Shares σ κ ρ) (owner : κ) (returned : α → Prop) :
    Coroutine σ ε α → Prop
  | done value => returned value
  | raise _ => True
  | await effect resume =>
      (∀ state, shares.valid state → shares.valid (effect state) ∧
        (∀ other, other ≠ owner → shares.view other (effect state) = shares.view other state) ∧
        Confined shares owner returned (resume state)) ∧
      ∀ state twin, shares.valid state → shares.valid twin →
        shares.view owner state = shares.view owner twin →
        shares.view owner (effect state) = shares.view owner (effect twin) ∧
          resume state = resume twin

namespace Confined

variable {shares : Shares σ κ ρ} {owner : κ} {returned : α → Prop} {middle : β → Prop}

theorem bind {task : Coroutine σ ε β} {next : β → Coroutine σ ε α}
    (first : Confined shares owner middle task)
    (rest : ∀ value, middle value → Confined shares owner returned (next value)) :
    Confined shares owner returned (task >>= next) := by
  induction task with
  | done value => exact rest value first
  | raise failure => trivial
  | await effect resume ih =>
      obtain ⟨halone, htwin⟩ := first
      constructor
      · intro state hvalid
        obtain ⟨hnext, hothers, hrest⟩ := halone state hvalid
        exact ⟨hnext, hothers, ih state hrest⟩
      · intro state twin hvalid htwinValid hview
        obtain ⟨hafter, hresume⟩ := htwin state twin hvalid htwinValid hview
        exact ⟨hafter, congrArg (· >>= next) hresume⟩

theorem weaken {task : Coroutine σ ε α} {wider : α → Prop}
    (confined : Confined shares owner returned task) (h : ∀ value, returned value → wider value) :
    Confined shares owner wider task := by
  induction task with
  | done value => exact h value confined
  | raise failure => trivial
  | await effect resume ih =>
      refine ⟨fun state hvalid => ?_, confined.2⟩
      obtain ⟨hnext, hothers, hrest⟩ := confined.1 state hvalid
      exact ⟨hnext, hothers, ih state hrest⟩

theorem tryCatch {task : Coroutine σ ε α} {handler : ε → Coroutine σ ε α}
    (first : Confined shares owner returned task)
    (rest : ∀ failure, Confined shares owner returned (handler failure)) :
    Confined shares owner returned (task.tryCatch handler) := by
  induction task with
  | done value => exact first
  | raise failure => exact rest failure
  | await effect resume ih =>
      obtain ⟨halone, htwin⟩ := first
      constructor
      · intro state hvalid
        obtain ⟨hnext, hothers, hrest⟩ := halone state hvalid
        exact ⟨hnext, hothers, ih state hrest⟩
      · intro state twin hvalid htwinValid hview
        obtain ⟨hafter, hresume⟩ := htwin state twin hvalid htwinValid hview
        exact ⟨hafter, congrArg (Coroutine.tryCatch · handler) hresume⟩

/-- Two runs of a segment either fail alike, or return the same and leave the owner the same
view. -/
def Alike (shares : Shares σ κ ρ) (owner : κ) : Except ε (α × σ) → Except ε (α × σ) → Prop
  | .ok left, .ok right => left.1 = right.1 ∧ shares.view owner left.2 = shares.view owner right.2
  | .error left, .error right => left = right
  | _, _ => False

theorem segment {body : σ → Except ε (α × σ)}
    (writes : ∀ state value after, shares.valid state → body state = .ok (value, after) →
      shares.valid after ∧ returned value ∧
        ∀ other, other ≠ owner → shares.view other after = shares.view other state)
    (alike : ∀ state twin, shares.valid state → shares.valid twin →
      shares.view owner state = shares.view owner twin →
        Alike shares owner (body state) (body twin)) :
    Confined shares owner returned (Coroutine.segment body) := by
  constructor
  · intro state hvalid
    cases h : body state with
    | ok result =>
        simp only [h]
        obtain ⟨hnext, hreturned, hothers⟩ := writes state result.1 result.2 hvalid h
        exact ⟨hnext, hothers, hreturned⟩
    | error failure =>
        simp only [h]
        exact ⟨hvalid, fun _ _ => trivial, trivial⟩
  · intro state twin hvalid htwinValid hview
    have halike := alike state twin hvalid htwinValid hview
    cases h : body state with
    | ok result =>
        cases htwin : body twin with
        | ok other =>
            rw [h, htwin] at halike
            simp only [h, htwin]
            exact ⟨halike.2, congrArg done halike.1⟩
        | error failure =>
            rw [h, htwin] at halike
            exact halike.elim
    | error failure =>
        cases htwin : body twin with
        | ok other =>
            rw [h, htwin] at halike
            exact halike.elim
        | error other =>
            rw [h, htwin] at halike
            simp only [h, htwin]
            exact ⟨hview, congrArg raise halike⟩

theorem read {look : σ → Except ε α}
    (found : ∀ state value, shares.valid state → look state = .ok value → returned value)
    (same : ∀ state twin, shares.valid state → shares.valid twin →
      shares.view owner state = shares.view owner twin → look state = look twin) :
    Confined shares owner returned (Coroutine.read look : Coroutine σ ε α) := by
  refine segment (fun state value after hvalid h => ?_) fun state twin hvalid htwin hview => ?_
  · cases hlook : look state with
    | ok seen =>
        simp only [hlook, Except.map, Except.ok.injEq, Prod.mk.injEq] at h
        obtain ⟨rfl, rfl⟩ := h
        exact ⟨hvalid, found state seen hvalid hlook, fun _ _ => rfl⟩
    | error failure => simp [hlook, Except.map] at h
  · rw [same state twin hvalid htwin hview]
    cases look twin with
    | ok seen => exact ⟨rfl, hview⟩
    | error failure => exact rfl

theorem pause : Confined shares owner (fun _ => True) (Coroutine.pause : Coroutine σ ε Unit) :=
  read (fun _ _ _ _ => trivial) fun _ _ _ _ _ => rfl

theorem attempt {result : Except ε α} (h : ∀ value, result = .ok value → returned value) :
    Confined shares owner returned (Coroutine.attempt result : Coroutine σ ε α) := by
  cases result with
  | ok value => exact h value rfl
  | error failure => trivial

end Confined

namespace Pool

/-- The second pool holds the owner's coroutines of the first one, each at its place, and the
owner cannot tell the states apart. -/
structure Mirrors (shares : Shares σ κ ρ) (owner : κ) (owners : Nat → Option κ)
    (place : Nat → Option Nat) (pool alone : Pool σ ε α) : Prop where
  valid : shares.valid pool.state
  aloneValid : shares.valid alone.state
  view : shares.view owner pool.state = shares.view owner alone.state
  tasks : ∀ index at', place index = some at' → alone.tasks[at']? = pool.tasks[index]?
  confined : ∀ index task, pool.tasks[index]? = some task → ∃ who, owners index = some who ∧
    Confined shares who (fun _ => True) task

variable {shares : Shares σ κ ρ} {owner : κ} {owners : Nat → Option κ}
  {place : Nat → Option Nat} {pool alone : Pool σ ε α}

theorem advance_await {index : Nat} {effect : σ → σ} {resume : σ → Coroutine σ ε α}
    (h : pool.tasks[index]? = some (.await effect resume)) :
    pool.advance index = ⟨effect pool.state, pool.tasks.set index (resume pool.state)⟩ := by
  unfold advance
  rw [h]

theorem advance_idle {index : Nat} {task : Option (Coroutine σ ε α)}
    (h : pool.tasks[index]? = task)
    (idle : ∀ effect resume, task ≠ some (.await effect resume)) : pool.advance index = pool :=
  advance_state_eq (fun effect resume => h ▸ idle effect resume)

theorem getElem?_set {tasks : List (Coroutine σ ε α)} {index other : Nat}
    {before after : Coroutine σ ε α} (h : tasks[index]? = some before) :
    (tasks.set index after)[other]? = if other = index then some after else tasks[other]? := by
  obtain ⟨hbound, -⟩ := List.getElem?_eq_some_iff.mp h
  by_cases hsame : other = index
  · subst hsame
    rw [if_pos rfl, List.getElem?_set_self hbound]
  · rw [if_neg hsame, List.getElem?_set_ne (Ne.symm hsame)]

/-- A step of somebody else is not noticed. -/
theorem Mirrors.advance_foreign (mirrors : Mirrors shares owner owners place pool alone)
    (owns : ∀ index, owners index = some owner ↔ ∃ at', place index = some at')
    {index : Nat} (foreign : place index = none) :
    Mirrors shares owner owners place (pool.advance index) alone := by
  by_cases hidle : ∀ effect resume, pool.tasks[index]? ≠ some (.await effect resume)
  · rwa [advance_idle rfl hidle]
  push Not at hidle
  obtain ⟨effect, resume, htask⟩ := hidle
  rw [advance_await htask]
  obtain ⟨who, hwho, hconfined⟩ := mirrors.confined index _ htask
  have hne : owner ≠ who := by
    rintro rfl
    obtain ⟨at', hat⟩ := (owns index).mp hwho
    rw [foreign] at hat
    contradiction
  obtain ⟨hvalid, hothers, hrest⟩ := hconfined.1 pool.state mirrors.valid
  refine ⟨hvalid, mirrors.aloneValid, (hothers owner hne).trans mirrors.view,
    fun other at' hplace => ?_, fun other task hother => ?_⟩
  · have hother : other ≠ index := by
      rintro rfl
      rw [foreign] at hplace
      contradiction
    rw [mirrors.tasks other at' hplace, getElem?_set htask, if_neg hother]
  · rw [getElem?_set htask] at hother
    by_cases hsame : other = index
    · rw [if_pos hsame] at hother
      cases hother
      exact ⟨who, hsame ▸ hwho, hrest⟩
    · rw [if_neg hsame] at hother
      exact mirrors.confined other task hother

/-- A step of the owner's is the same step in both. -/
theorem Mirrors.advance_own (mirrors : Mirrors shares owner owners place pool alone)
    (owns : ∀ index, owners index = some owner ↔ ∃ at', place index = some at')
    (once : ∀ first second at', place first = some at' → place second = some at' →
      first = second) {index at' : Nat} (own : place index = some at') :
    Mirrors shares owner owners place (pool.advance index) (alone.advance at') := by
  have hsame := mirrors.tasks index at' own
  by_cases hidle : ∀ effect resume, pool.tasks[index]? ≠ some (.await effect resume)
  · rwa [advance_idle rfl hidle, advance_idle hsame hidle]
  push Not at hidle
  obtain ⟨effect, resume, htask⟩ := hidle
  rw [htask] at hsame
  rw [advance_await htask, advance_await hsame]
  obtain ⟨who, hwho, hconfined⟩ := mirrors.confined index _ htask
  rw [(owns index).mpr ⟨at', own⟩] at hwho
  cases hwho
  obtain ⟨hvalid, -, hrest⟩ := hconfined.1 pool.state mirrors.valid
  obtain ⟨haloneValid, -, -⟩ := hconfined.1 alone.state mirrors.aloneValid
  obtain ⟨hview, hresume⟩ := hconfined.2 pool.state alone.state mirrors.valid mirrors.aloneValid
    mirrors.view
  refine ⟨hvalid, haloneValid, hview, fun other place' hplace => ?_, fun other task hother => ?_⟩
  · rw [getElem?_set htask, getElem?_set hsame, hresume]
    by_cases hother : other = index
    · subst hother
      rw [own] at hplace
      cases hplace
      simp
    · have hapart : place' ≠ at' := by
        rintro rfl
        exact hother (once other index _ hplace own)
      rw [if_neg hother, if_neg hapart]
      exact mirrors.tasks other place' hplace
  · rw [getElem?_set htask] at hother
    by_cases hother' : other = index
    · rw [if_pos hother'] at hother
      cases hother
      exact ⟨owner, hother' ▸ (owns index).mpr ⟨at', own⟩, hrest⟩
    · rw [if_neg hother'] at hother
      exact mirrors.confined other task hother

/-- Any schedule of the first pool, without the steps of the others, is one of the second. -/
theorem Mirrors.run (mirrors : Mirrors shares owner owners place pool alone)
    (owns : ∀ index, owners index = some owner ↔ ∃ at', place index = some at')
    (once : ∀ first second at', place first = some at' → place second = some at' →
      first = second) (schedule : List Nat) :
    Mirrors shares owner owners place (pool.run schedule)
      (alone.run (schedule.filterMap place)) := by
  induction schedule generalizing pool alone with
  | nil => exact mirrors
  | cons index schedule ih =>
      cases hplace : place index with
      | none =>
          rw [List.filterMap_cons_none hplace]
          exact ih (mirrors.advance_foreign owns hplace)
      | some at' =>
          rw [List.filterMap_cons_some hplace]
          exact ih (mirrors.advance_own owns once hplace)

end Pool
end Coroutine
end DispatchCore.Library
