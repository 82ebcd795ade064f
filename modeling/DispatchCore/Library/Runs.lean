import Mathlib.Data.List.Infix

/-! Runs of a deterministic step, and what holds of every state on the way. -/
namespace DispatchCore.Library

variable {σ τ : Type}

/-- Every step of the run meets the condition in the state before it. -/
def Throughout (step : σ → τ → σ) (meets : σ → τ → Prop) : σ → List τ → Prop
  | _, [] => True
  | state, next :: rest => meets state next ∧ Throughout step meets (step state next) rest

namespace Throughout

variable {step : σ → τ → σ} {meets : σ → τ → Prop} {start : σ} {steps : List τ}

instance decidable [∀ state next, Decidable (meets state next)] :
    ∀ (state : σ) (steps : List τ), Decidable (Throughout step meets state steps)
  | _, [] => instDecidableTrue
  | state, next :: rest =>
      @instDecidableAnd _ _ inferInstance (decidable (step state next) rest)

theorem met (careful : Throughout step meets start steps) {before : List τ} {next : τ}
    (there : before ++ [next] <+: steps) : meets (before.foldl step start) next := by
  induction before generalizing start steps with
  | nil =>
      obtain ⟨rest, rfl⟩ := there
      exact careful.1
  | cons first others ih =>
      obtain ⟨rest, rfl⟩ := there
      exact ih careful.2 ⟨rest, rfl⟩

theorem append {before after : List τ} :
    Throughout step meets start (before ++ after) ↔
      Throughout step meets start before ∧ Throughout step meets (before.foldl step start) after := by
  induction before generalizing start with
  | nil => exact (and_iff_right True.intro).symm
  | cons next rest ih => exact (and_congr_right fun _ => ih).trans and_assoc.symm

/-- What every step that meets the condition keeps holds of every state on the way. -/
theorem invariant {holds : σ → Prop}
    (kept : ∀ state next, holds state → meets state next → holds (step state next))
    (first : holds start) (careful : Throughout step meets start steps) :
    ∀ before, before <+: steps → holds (before.foldl step start) := by
  induction steps generalizing start with
  | nil =>
      intro before hprefix
      rw [List.prefix_nil.mp hprefix]
      exact first
  | cons next rest ih =>
      intro before hprefix
      cases before with
      | nil => exact first
      | cons head others =>
          obtain ⟨rfl, hrest⟩ := List.cons_prefix_cons.mp hprefix
          exact ih (kept start head first careful.1) careful.2 others hrest

/-- Conditions that agree on the states that the books describe. -/
theorem congr {books : σ → Prop} {other : σ → τ → Prop}
    (kept : ∀ state next, next ∈ steps → books state → books (step state next))
    (same : ∀ state next, books state → (meets state next ↔ other state next))
    (opened : books start) :
    Throughout step meets start steps ↔ Throughout step other start steps := by
  induction steps generalizing start with
  | nil => exact Iff.rfl
  | cons next rest ih =>
      refine and_congr (same start next opened) (ih ?_ (kept start next (by simp) opened))
      intro state later hmem hbooks
      exact kept state later (List.mem_cons_of_mem _ hmem) hbooks

/-- A condition on a part of the state, in a run of which that part is a run of its own. -/
theorem along {ρ : Type} {other : ρ → τ → ρ} {condition : ρ → τ → Prop} (part : σ → ρ)
    (h : ∀ state next, part (step state next) = other (part state) next) :
    Throughout step (fun state next => condition (part state) next) start steps ↔
      Throughout other condition (part start) steps := by
  induction steps generalizing start with
  | nil => exact Iff.rfl
  | cons next rest ih =>
      refine and_congr_right fun _ => ?_
      rw [ih, h]

/-- A step keeps what is good exactly when it meets the condition: so every state on the way
is good exactly when every step meets it. -/
theorem iff_good {books good : σ → Prop} (kept : ∀ state next, books state → books (step state next))
    (precisely : ∀ state next, books state → good state → (good (step state next) ↔ meets state next))
    (opened : books start) (first : good start) :
    (∀ before, before <+: steps → good (before.foldl step start)) ↔
      Throughout step meets start steps := by
  induction steps generalizing start with
  | nil =>
      refine ⟨fun _ => True.intro, fun _ before hprefix => ?_⟩
      rw [List.prefix_nil.mp hprefix]
      exact first
  | cons next rest ih =>
      constructor
      · intro all
        have hnext : good (step start next) := all [next] (by simp)
        refine ⟨(precisely start next opened first).mp hnext, ?_⟩
        refine (ih (kept start next opened) hnext).mp fun before hprefix => ?_
        exact all (next :: before) (List.cons_prefix_cons.mpr ⟨rfl, hprefix⟩)
      · rintro ⟨hmeets, hrest⟩ before hprefix
        have hnext : good (step start next) := (precisely start next opened first).mpr hmeets
        cases before with
        | nil => exact first
        | cons head others =>
            obtain ⟨rfl, htail⟩ := List.cons_prefix_cons.mp hprefix
            exact (ih (kept start head opened) hnext).mpr hrest others htail

/-- Books that a step which meets the condition keeps, and without which nothing is good. -/
theorem iff_good_of_books {books good : σ → Prop} (sound : ∀ state, books state → good state)
    (kept : ∀ state next, books state → meets state next → books (step state next))
    (needed : ∀ state next, books state → good (step state next) → meets state next)
    (opened : books start) :
    (∀ before, before <+: steps → good (before.foldl step start)) ↔
      Throughout step meets start steps := by
  constructor
  · intro all
    induction steps generalizing start with
    | nil => exact True.intro
    | cons next rest ih =>
        have hmeets := needed start next opened (all [next] (by simp))
        refine ⟨hmeets, ih (kept start next opened hmeets) fun before hprefix => ?_⟩
        exact all (next :: before) (List.cons_prefix_cons.mpr ⟨rfl, hprefix⟩)
  · intro careful before hprefix
    exact sound _ (careful.invariant kept opened before hprefix)

end Throughout
end DispatchCore.Library
