import Mathlib.Algebra.Order.Group.Defs
import Mathlib.Algebra.Order.Sub.Defs
import Mathlib.Data.List.Basic

/-! Sliding windows over a growing history of instants, and the part of a history that a
lazily pruned queue still has. -/
namespace DispatchCore.Library

variable {τ : Type} [LinearOrder τ]

/-- The instants later than a cutoff. -/
def laterThan (cutoff : τ) (history : List τ) : List τ := history.filter fun instant => cutoff < instant

/-- Drop what is not later than a cutoff from the front. -/
def prune (cutoff : τ) (times : List τ) : List τ :=
  times.dropWhile fun instant => instant ≤ cutoff

variable {cutoff early now : τ} {history times : List τ}

theorem laterThan_append (left right : List τ) :
    laterThan cutoff (left ++ right) = laterThan cutoff left ++ laterThan cutoff right :=
  List.filter_append ..

theorem laterThan_laterThan (h : early ≤ cutoff) : laterThan cutoff (laterThan early history) =
    laterThan cutoff history := by
  unfold laterThan
  rw [List.filter_filter]
  apply List.filter_congr
  intro instant _
  have himp : cutoff < instant → early < instant := h.trans_lt
  simpa using himp

/-- In a history that is in order, what is dropped from the front is all there is to drop. -/
theorem prune_eq_laterThan (ordered : times.Pairwise (· ≤ ·)) : prune cutoff times =
    laterThan cutoff times := by
  induction times with
  | nil => rfl
  | cons first rest ih =>
      rw [List.pairwise_cons] at ordered
      by_cases h : first ≤ cutoff
      · have hfirst : ¬cutoff < first := not_lt.mpr h
        have hrest := ih ordered.2
        unfold prune laterThan at hrest ⊢
        rw [List.dropWhile_cons_of_pos (by simpa using h), hrest,
          List.filter_cons_of_neg (by simpa using hfirst)]
      · have hall : ∀ instant ∈ first :: rest, cutoff < instant := by
          intro instant hmem
          rcases List.mem_cons.mp hmem with rfl | hrest
          · exact not_le.mp h
          · exact (not_le.mp h).trans_le (ordered.1 instant hrest)
        unfold prune laterThan
        rw [List.dropWhile_cons_of_neg (by simpa using h), List.filter_eq_self.mpr]
        simpa using hall

theorem ordered_concat (ordered : history.Pairwise (· ≤ ·))
    (reached : ∀ instant ∈ history, instant ≤ now) : (history ++ [now]).Pairwise (· ≤ ·) := by
  rw [List.pairwise_append]
  refine ⟨ordered, List.pairwise_singleton _ _, fun instant hmem last hlast => ?_⟩
  rw [List.mem_singleton.mp hlast]
  exact reached instant hmem

/-! ### What a queue has of a history -/

/-- A queue is what a history has later than some point, which is no later than the cutoff. -/
def Remembers (cutoff : τ) (history times : List τ) : Prop :=
  ∃ early ≤ cutoff, times = laterThan early history

theorem Remembers.nil : Remembers cutoff [] [] := ⟨cutoff, le_rfl, rfl⟩

theorem Remembers.laterThan_eq (h : Remembers cutoff history times) :
    laterThan cutoff times = laterThan cutoff history := by
  obtain ⟨early, hearly, rfl⟩ := h
  exact laterThan_laterThan hearly

theorem Remembers.mono (h : Remembers early history times) (hle : early ≤ cutoff) :
    Remembers cutoff history times := by
  obtain ⟨first, hfirst, rfl⟩ := h
  exact ⟨first, hfirst.trans hle, rfl⟩

theorem Remembers.ordered (h : Remembers cutoff history times)
    (ordered : history.Pairwise (· ≤ ·)) : times.Pairwise (· ≤ ·) := by
  obtain ⟨early, -, rfl⟩ := h
  exact ordered.filter _

/-- What pruning leaves. -/
theorem Remembers.prune_eq (h : Remembers early history times) (hle : early ≤ cutoff)
    (ordered : history.Pairwise (· ≤ ·)) : prune cutoff times = laterThan cutoff history := by
  rw [prune_eq_laterThan (h.ordered ordered)]
  exact (h.mono hle).laterThan_eq

theorem Remembers.pruned (h : Remembers early history times) (hle : early ≤ cutoff)
    (ordered : history.Pairwise (· ≤ ·)) : Remembers cutoff history (prune cutoff times) :=
  ⟨cutoff, le_rfl, h.prune_eq hle ordered⟩

theorem Remembers.concat (h : Remembers cutoff history times) (hlater : cutoff < now) :
    Remembers cutoff (history ++ [now]) (times ++ [now]) := by
  obtain ⟨early, hearly, rfl⟩ := h
  refine ⟨early, hearly, ?_⟩
  have hnow : laterThan early [now] = [now] := by simp [laterThan, hearly.trans_lt hlater]
  rw [laterThan_append, hnow]

/-- A queue whose last entry is not later than the cutoff need not be kept. -/
theorem Remembers.forget (h : Remembers cutoff history times)
    (ordered : history.Pairwise (· ≤ ·))
    (gone : ∀ last, times.getLast? = some last → last ≤ cutoff) :
    Remembers cutoff history [] := by
  refine ⟨cutoff, le_rfl, ?_⟩
  rw [← h.laterThan_eq]
  rcases List.eq_nil_or_concat times with rfl | ⟨front, last, rfl⟩
  · rfl
  · have hlast := gone last (by simp)
    have htimes := h.ordered ordered
    rw [List.concat_eq_append, List.pairwise_append] at htimes
    symm
    apply List.filter_eq_nil_iff.mpr
    intro instant hmem
    have hle : instant ≤ last := by
      rcases List.mem_append.mp (List.concat_eq_append ▸ hmem) with hfront | hsame
      · exact htimes.2.2 instant hfront last (by simp)
      · exact (List.mem_singleton.mp hsame).le
    simpa using hle.trans hlast

/-! ### Windows -/

section windows

variable [AddCommGroup τ] {width : τ} {limit : Nat}

/-- The instants in the window `(point - width, point]`. -/
def inWindow (width point : τ) (history : List τ) : List τ :=
  history.filter fun instant => point - width < instant ∧ instant ≤ point

/-- No window of the width holds more than so many instants. -/
def Limited (width : τ) (limit : Nat) (history : List τ) : Prop :=
  ∀ point, (inWindow width point history).length ≤ limit

/-- Up to the last instant a window is what is later than its start. -/
theorem inWindow_now (reached : ∀ instant ∈ history, instant ≤ now) :
    inWindow width now history = laterThan (now - width) history := by
  apply List.filter_congr
  intro instant hmem
  simp [reached instant hmem]

theorem Limited.nil : Limited width limit ([] : List τ) := fun _ => Nat.zero_le _

/-- A further instant exceeds no limit where the window that ends with it had room. -/
theorem Limited.concat [IsOrderedAddMonoid τ] (limited : Limited width limit history)
    (room : (laterThan (now - width) history).length < limit) :
    Limited width limit (history ++ [now]) := by
  intro point
  by_cases hpoint : now ≤ point
  · have hsub : ((inWindow width point history)).length ≤ (laterThan (now - width) history).length := by
      apply List.Sublist.length_le
      apply List.monotone_filter_right
      intro instant h
      simp only [decide_eq_true_eq] at h ⊢
      exact (sub_le_sub_right hpoint width).trans_lt h.1
    have hlast : (inWindow width point [now]).length ≤ 1 := List.length_filter_le ..
    have hsplit : inWindow width point (history ++ [now]) =
        inWindow width point history ++ inWindow width point [now] := List.filter_append ..
    rw [hsplit, List.length_append]
    omega
  · have hnone : inWindow width point [now] = [] := by
      simp [inWindow, hpoint]
    have hsplit : inWindow width point (history ++ [now]) =
        inWindow width point history ++ inWindow width point [now] := List.filter_append ..
    rw [hsplit, hnone, List.append_nil]
    exact limited point

end windows

end DispatchCore.Library
