/-! Labels that no two owners of one group share. -/
namespace DispatchCore.Library

variable {κ γ ν : Type} {group : κ → γ} {before after : κ → ν → Prop}

def Distinct (group : κ → γ) (has : κ → ν → Prop) : Prop :=
  ∀ left right label, group left = group right → has left label → has right label → left = right

/-- One owner changes labels, and takes none that another of the group has. -/
theorem Distinct.touch (distinct : Distinct group before) (owner : κ)
    (others : ∀ other label, other ≠ owner → (after other label ↔ before other label))
    (own : ∀ label, after owner label → before owner label ∨
      ∀ other, group other = group owner → before other label → other = owner) :
    Distinct group after := by
  have hclash : ∀ other label, group other = group owner → after other label →
      after owner label → other = owner := by
    intro other label hgroup hother howner
    by_cases helsewhere : other = owner
    · exact helsewhere
    have hbefore := (others other label helsewhere).mp hother
    rcases own label howner with hkept | hfree
    · exact distinct other owner label hgroup hbefore hkept
    · exact hfree other hgroup hbefore
  intro left right label hgroup hleft hright
  by_cases hright' : right = owner
  · rw [hright'] at hgroup hright ⊢
    exact hclash left label hgroup hleft hright
  by_cases hleft' : left = owner
  · rw [hleft'] at hgroup hleft ⊢
    exact (hclash right label hgroup.symm hright hleft).symm
  · exact distinct left right label hgroup ((others left label hleft').mp hleft)
      ((others right label hright').mp hright)

end DispatchCore.Library
