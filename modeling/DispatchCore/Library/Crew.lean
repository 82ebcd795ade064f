import Mathlib.Data.List.Basic
import DispatchCore.Library.Runs

/-! Jobs that share a state and take turns, one step at a time.  A job is data:
how far it has come, and what it remembers of what it has read. -/
namespace DispatchCore.Library

variable {σ φ : Type}

structure Crew (σ φ : Type) where
  state : σ
  jobs : List φ

namespace Crew

/-- The job at that place takes its next step; where there is none, nothing happens. -/
def advance (step : φ → σ → φ × σ) (crew : Crew σ φ) (index : Nat) : Crew σ φ :=
  match crew.jobs[index]? with
  | none => crew
  | some job => ⟨(step job crew.state).2, crew.jobs.set index (step job crew.state).1⟩

def run (step : φ → σ → φ × σ) (crew : Crew σ φ) (schedule : List Nat) : Crew σ φ :=
  schedule.foldl (advance step) crew

variable {step : φ → σ → φ × σ} {crew : Crew σ φ} {index : Nat} {job : φ}

theorem advance_idle (h : crew.jobs[index]? = none) : crew.advance step index = crew := by
  unfold advance
  rw [h]

theorem advance_job (h : crew.jobs[index]? = some job) :
    crew.advance step index = ⟨(step job crew.state).2, crew.jobs.set index (step job crew.state).1⟩ := by
  unfold advance
  rw [h]

/-- The job that took the step is where it is now, and the others are where they were. -/
theorem jobs_advance (h : crew.jobs[index]? = some job) (other : Nat) :
    (crew.advance step index).jobs[other]? =
      if other = index then some (step job crew.state).1 else crew.jobs[other]? := by
  rw [advance_job h]
  obtain ⟨hbound, -⟩ := List.getElem?_eq_some_iff.mp h
  by_cases hsame : other = index
  · subst hsame
    rw [if_pos rfl, List.getElem?_set_self hbound]
  · rw [if_neg hsame, List.getElem?_set_ne (Ne.symm hsame)]

/-- How many jobs there are of some kind, after one of them took a step. -/
theorem count_advance (h : crew.jobs[index]? = some job) (kind : φ → Bool) :
    (crew.advance step index).jobs.countP kind + (if kind job then 1 else 0) =
      crew.jobs.countP kind + if kind (step job crew.state).1 then 1 else 0 := by
  obtain ⟨hbound, hjob⟩ := List.getElem?_eq_some_iff.mp h
  have hcounted : (if kind job then 1 else 0) ≤ crew.jobs.countP kind := by
    split
    · exact List.countP_pos_iff.mpr ⟨job, List.mem_of_getElem? h, by assumption⟩
    · exact Nat.zero_le _
  rw [advance_job h]
  simp only
  rw [List.countP_set hbound, hjob]
  omega

/-- The state is valid, and every job may claim what it claims. -/
structure Sound (valid : σ → Prop) (claims : φ → σ → Prop) (crew : Crew σ φ) : Prop where
  valid : valid crew.state
  claims : ∀ (index : Nat) job, crew.jobs[index]? = some job → claims job crew.state

variable {valid : σ → Prop} {claims : φ → σ → Prop}

/-- A step that keeps the state valid, its own claim and everybody else's. -/
theorem Sound.advance (sound : crew.Sound valid claims)
    (own : ∀ job, crew.jobs[index]? = some job → valid (step job crew.state).2 ∧
      claims (step job crew.state).1 (step job crew.state).2)
    (others : ∀ job other found, crew.jobs[index]? = some job → other ≠ index →
      crew.jobs[other]? = some found → claims found (step job crew.state).2) :
    (crew.advance step index).Sound valid claims := by
  cases h : crew.jobs[index]? with
  | none =>
      rw [advance_idle h]
      exact sound
  | some job =>
      obtain ⟨hvalid, hclaims⟩ := own job h
      refine ⟨?_, fun other found hfound => ?_⟩
      · rw [advance_job h]
        exact hvalid
      · rw [jobs_advance h] at hfound
        rw [advance_job h]
        by_cases hsame : other = index
        · rw [if_pos hsame] at hfound
          cases hfound
          exact hclaims
        · rw [if_neg hsame] at hfound
          exact others job other found h hsame hfound

/-- Where claims do not mind anybody's steps, what one step keeps every run keeps. -/
theorem Sound.run (sound : crew.Sound valid claims)
    (own : ∀ job state, valid state → claims job state →
      valid (step job state).2 ∧ claims (step job state).1 (step job state).2)
    (others : ∀ job other state, valid state → claims job state → claims other state →
      claims other (step job state).2) (schedule : List Nat) :
    (crew.run step schedule).Sound valid claims := by
  induction schedule generalizing crew with
  | nil => exact sound
  | cons index schedule ih =>
      refine ih (sound.advance (fun job h => own job crew.state sound.valid (sound.claims _ _ h))
        fun job other found h _ hfound => ?_)
      exact others job found crew.state sound.valid (sound.claims _ _ h)
        (sound.claims _ _ hfound)

end Crew
end DispatchCore.Library
