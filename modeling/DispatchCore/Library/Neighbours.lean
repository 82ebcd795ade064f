import Mathlib.Data.List.Nodup

/-! Lists whose items change places with their neighbours. -/
namespace DispatchCore.Library

variable {α β : Type} (picks : α → Prop) [DecidablePred picks]

/-- The first item that is picked goes before the one above it. -/
def raised : List α → List α
  | first :: second :: rest =>
      if picks first then first :: second :: rest
      else if picks second then second :: first :: rest
      else first :: raised (second :: rest)
  | short => short

/-- The first item that is picked goes behind the one below it. -/
def lowered : List α → List α
  | first :: second :: rest =>
      if picks first then second :: first :: rest else first :: lowered (second :: rest)
  | short => short

variable {picks} {items above below : List α} {item other : α}

theorem raised_cons_cons {first second : α} {rest : List α} :
    raised picks (first :: second :: rest) =
      if picks first then first :: second :: rest
      else if picks second then second :: first :: rest
      else first :: raised picks (second :: rest) := rfl

theorem lowered_cons_cons {first second : α} {rest : List α} :
    lowered picks (first :: second :: rest) =
      if picks first then second :: first :: rest
      else first :: lowered picks (second :: rest) := rfl

theorem raised_unpicked (unpicked : ∀ item ∈ items, ¬picks item) : raised picks items = items := by
  induction items with
  | nil => rfl
  | cons first rest ih =>
      cases rest with
      | nil => rfl
      | cons second rest =>
          have hrest := fun item hmem => unpicked item (List.mem_cons_of_mem _ hmem)
          rw [raised_cons_cons, if_neg (unpicked first (by simp)), if_neg (hrest second (by simp)),
            ih hrest]

theorem lowered_unpicked (unpicked : ∀ item ∈ items, ¬picks item) :
    lowered picks items = items := by
  induction items with
  | nil => rfl
  | cons first rest ih =>
      cases rest with
      | nil => rfl
      | cons second rest =>
          have hrest := fun item hmem => unpicked item (List.mem_cons_of_mem _ hmem)
          rw [lowered_cons_cons, if_neg (unpicked first (by simp)), ih hrest]

theorem raised_head (picked : picks item) : raised picks (item :: below) = item :: below := by
  cases below with
  | nil => rfl
  | cons second rest => rw [raised_cons_cons, if_pos picked]

theorem raised_append (unpicked : ∀ item ∈ above, ¬picks item) (passed : ¬picks other)
    (picked : picks item) :
    raised picks (above ++ other :: item :: below) = above ++ item :: other :: below := by
  induction above with
  | nil =>
      show raised picks (other :: item :: below) = item :: other :: below
      rw [raised_cons_cons, if_neg passed, if_pos picked]
  | cons first rest ih =>
      have hfirst := unpicked first (by simp)
      have hrest := ih fun item hmem => unpicked item (List.mem_cons_of_mem _ hmem)
      cases rest with
      | nil =>
          show raised picks (first :: other :: item :: below) = first :: item :: other :: below
          rw [raised_cons_cons, if_neg hfirst, if_neg passed]
          exact congrArg (first :: ·) hrest
      | cons second others =>
          show raised picks (first :: second :: (others ++ other :: item :: below)) = _
          rw [raised_cons_cons, if_neg hfirst, if_neg (unpicked second (by simp))]
          exact congrArg (first :: ·) hrest

theorem lowered_append (unpicked : ∀ item ∈ above, ¬picks item) (picked : picks item) :
    lowered picks (above ++ item :: other :: below) = above ++ other :: item :: below := by
  induction above with
  | nil =>
      show lowered picks (item :: other :: below) = other :: item :: below
      rw [lowered_cons_cons, if_pos picked]
  | cons first rest ih =>
      have hfirst := unpicked first (by simp)
      have hrest := ih fun item hmem => unpicked item (List.mem_cons_of_mem _ hmem)
      cases rest with
      | nil =>
          show lowered picks (first :: item :: other :: below) = first :: other :: item :: below
          rw [lowered_cons_cons, if_neg hfirst]
          exact congrArg (first :: ·) hrest
      | cons second others =>
          show lowered picks (first :: second :: (others ++ item :: other :: below)) = _
          rw [lowered_cons_cons, if_neg hfirst]
          exact congrArg (first :: ·) hrest

theorem lowered_last (unpicked : ∀ item ∈ above, ¬picks item) :
    lowered picks (above ++ [item]) = above ++ [item] := by
  induction above with
  | nil => rfl
  | cons first rest ih =>
      have hrest := ih fun item hmem => unpicked item (List.mem_cons_of_mem _ hmem)
      cases rest with
      | nil =>
          show lowered picks [first, item] = [first, item]
          rw [lowered_cons_cons, if_neg (unpicked first (by simp))]
          rfl
      | cons second others =>
          show lowered picks (first :: second :: (others ++ [item])) = _
          rw [lowered_cons_cons, if_neg (unpicked first (by simp))]
          exact congrArg (first :: ·) hrest

/-- A list before and after the first item that is picked. -/
theorem picked_cases (picks : α → Prop) [DecidablePred picks] (items : List α) :
    (∀ item ∈ items, ¬picks item) ∨ ∃ above item below, items = above ++ item :: below ∧
      picks item ∧ ∀ item ∈ above, ¬picks item := by
  induction items with
  | nil => exact .inl fun item hmem => by cases hmem
  | cons first rest ih =>
      by_cases hfirst : picks first
      · exact .inr ⟨[], first, rest, rfl, hfirst, fun item hmem => by cases hmem⟩
      · rcases ih with hnone | ⟨above, item, below, rfl, hpicked, habove⟩
        · refine .inl fun item hmem => ?_
          rcases List.mem_cons.mp hmem with rfl | hrest
          · exact hfirst
          · exact hnone item hrest
        · refine .inr ⟨first :: above, item, below, rfl, hpicked, fun item hmem => ?_⟩
          rcases List.mem_cons.mp hmem with rfl | hrest
          · exact hfirst
          · exact habove item hrest

/-- An item that could go up comes back down to its place. -/
theorem lowered_raised (movable : ∀ item ∈ items.head?, ¬picks item) :
    lowered picks (raised picks items) = items := by
  rcases picked_cases picks items with hnone | ⟨above, item, below, rfl, hpicked, habove⟩
  · rw [raised_unpicked hnone, lowered_unpicked hnone]
  · rcases List.eq_nil_or_concat above with rfl | ⟨before, other, rfl⟩
    · exact absurd hpicked (movable item rfl)
    · have hbefore : ∀ item ∈ before, ¬picks item := fun item hmem => habove item (by simp [hmem])
      have hother := habove other (by simp)
      rw [List.concat_eq_append, List.append_assoc]
      show lowered picks (raised picks (before ++ other :: item :: below)) = _
      rw [raised_append hbefore hother hpicked, lowered_append hbefore hpicked]
      rfl

end DispatchCore.Library
