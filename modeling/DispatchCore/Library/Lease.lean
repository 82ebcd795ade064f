import Mathlib.Data.List.Basic
import Mathlib.Logic.Relation
import Mathlib.Data.List.Perm.Subperm

/-! A work item that is handed out to workers again and again until one of them
closes it.  Nothing fences a claim: an answer counts while the item is out,
whichever claim it answers.  An answer to a claim numbered `bound` or more may
only close the item. -/
namespace DispatchCore.Library

inductive Stage
  | waiting
  | leased
  | closed
deriving DecidableEq, Repr

/-- One item with its history in numbers.  `takeovers` are the claims that found
it leased, `reopenings` the answers that made it wait again, and `outstanding`
holds the numbers of the claims that are not answered yet. -/
structure Lease where
  stage : Stage
  claims : Nat
  takeovers : Nat
  reopenings : Nat
  outstanding : List Nat

namespace Lease

def fresh : Lease := ⟨.waiting, 0, 0, 0, []⟩

/-- Moves of the workers.  A claim may be forgotten without an answer. -/
inductive Move (bound : Nat) : Lease → Lease → Prop
  | claim {lease : Lease} {outstanding : List Nat} (available : lease.stage ≠ .closed)
      (handed : outstanding.Perm ((lease.claims + 1) :: lease.outstanding)) :
      Move bound lease
        { lease with
          stage := .leased
          claims := lease.claims + 1
          takeovers := lease.takeovers + if lease.stage = .leased then 1 else 0
          outstanding }
  | close {lease : Lease} {kept : List Nat} (leased : lease.stage = .leased)
      (answered : kept.Subperm lease.outstanding) :
      Move bound lease { lease with stage := .closed, outstanding := kept }
  | reopen {lease : Lease} {kept : List Nat} {number : Nat} (leased : lease.stage = .leased)
      (early : number < bound) (answered : (number :: kept).Subperm lease.outstanding) :
      Move bound lease
        { lease with
          stage := .waiting
          reopenings := lease.reopenings + 1
          outstanding := kept }
  | forget {lease : Lease} {kept : List Nat} (answered : kept.Subperm lease.outstanding) :
      Move bound lease { lease with outstanding := kept }

/-- Reached from a fresh item by any number of moves. -/
def Reached (bound : Nat) (lease : Lease) : Prop := Relation.ReflTransGen (Move bound) fresh lease

def early (bound : Nat) (numbers : List Nat) : Nat :=
  (numbers.filter fun number => number < bound).length

theorem early_subperm (bound : Nat) {kept numbers : List Nat} (h : kept.Subperm numbers) :
    early bound kept ≤ early bound numbers :=
  (h.filter _).length_le

theorem early_cons {bound number : Nat} (numbers : List Nat) :
    early bound (number :: numbers) =
      early bound numbers + if number < bound then 1 else 0 := by
  unfold early
  by_cases h : number < bound <;> simp [h]

/-- Every claim after the first has either taken a lease over or followed a
reopening, and every reopening has used up an early claim. -/
structure Accounted (bound : Nat) (lease : Lease) : Prop where
  balance : lease.claims =
    lease.takeovers + lease.reopenings + if lease.stage = .waiting then 0 else 1
  answered : lease.reopenings + early bound lease.outstanding ≤ lease.claims
  bounded : lease.reopenings + early bound lease.outstanding ≤ bound - 1

theorem accounted_fresh (bound : Nat) : Accounted bound fresh := by
  constructor
  · rfl
  · simp [fresh, early]
  · simp [fresh, early]

theorem Accounted.move {bound : Nat} {lease next : Lease} (move : Move bound lease next)
    (accounted : Accounted bound lease) : Accounted bound next := by
  have hbalance := accounted.balance
  have hanswered := accounted.answered
  have hbounded := accounted.bounded
  cases move with
  | @claim outstanding available handed =>
      have hearly := early_subperm bound handed.subperm
      rw [early_cons] at hearly
      constructor
      · cases hstage : lease.stage with
        | waiting => simp [hstage] at hbalance ⊢; omega
        | leased => simp [hstage] at hbalance ⊢; omega
        | closed => exact absurd hstage available
      · show lease.reopenings + early bound outstanding ≤ lease.claims + 1
        split at hearly <;> omega
      · show lease.reopenings + early bound outstanding ≤ bound - 1
        split at hearly <;> omega
  | close leased answered =>
      have hearly := early_subperm bound answered
      constructor
      · simpa [leased] using hbalance
      · exact Nat.le_trans (Nat.add_le_add_left hearly _) hanswered
      · exact Nat.le_trans (Nat.add_le_add_left hearly _) hbounded
  | @reopen kept _ leased hnumber answered =>
      have hearly := early_subperm bound answered
      rw [early_cons, if_pos hnumber] at hearly
      constructor
      · simp [leased] at hbalance ⊢; omega
      · show lease.reopenings + 1 + early bound kept ≤ lease.claims
        omega
      · show lease.reopenings + 1 + early bound kept ≤ bound - 1
        omega
  | forget answered =>
      have hearly := early_subperm bound answered
      constructor
      · exact hbalance
      · exact Nat.le_trans (Nat.add_le_add_left hearly _) hanswered
      · exact Nat.le_trans (Nat.add_le_add_left hearly _) hbounded

theorem Reached.accounted {bound : Nat} {lease : Lease} (reached : Reached bound lease) :
    Accounted bound lease := by
  induction reached with
  | refl => exact accounted_fresh bound
  | tail _ move ih => exact ih.move move

/-- An item is claimed at most `bound` times, takeovers aside. -/
theorem Reached.claims_le {bound : Nat} {lease : Lease} (reached : Reached bound lease)
    (positive : 0 < bound) : lease.claims ≤ bound + lease.takeovers := by
  have hbalance := reached.accounted.balance
  have hbounded := reached.accounted.bounded
  split at hbalance <;> omega

/-- An item whose claims are used up does not wait for another one. -/
theorem Reached.not_waiting {bound : Nat} {lease : Lease} (reached : Reached bound lease)
    (positive : 0 < bound) (used : lease.claims = bound + lease.takeovers) :
    lease.stage ≠ .waiting := by
  intro hstage
  have hbalance := reached.accounted.balance
  have hbounded := reached.accounted.bounded
  rw [if_pos hstage] at hbalance
  omega

theorem Move.closed {bound : Nat} {lease next : Lease} (move : Move bound lease next)
    (closed : lease.stage = .closed) :
    next.stage = .closed ∧ next.claims = lease.claims := by
  cases move with
  | claim available => exact absurd closed available
  | close leased => exact ⟨rfl, rfl⟩
  | reopen leased => rw [closed] at leased; contradiction
  | forget => exact ⟨closed, rfl⟩

/-- A closed item stays closed and is claimed no more. -/
theorem closed_forever {bound : Nat} {lease last : Lease}
    (moves : Relation.ReflTransGen (Move bound) lease last) (closed : lease.stage = .closed) :
    last.stage = .closed ∧ last.claims = lease.claims := by
  induction moves with
  | refl => exact ⟨closed, rfl⟩
  | tail _ move ih =>
      obtain ⟨hstage, hclaims⟩ := move.closed ih.1
      exact ⟨hstage, hclaims.trans ih.2⟩

end Lease
end DispatchCore.Library
