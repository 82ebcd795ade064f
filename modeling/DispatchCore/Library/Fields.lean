import DispatchCore.Library.Numeral

/-! Fields of a text: Python's `str.split` at one letter, with a limit. -/
namespace DispatchCore.Library.Text

/-- `str.split(separator, limit)`: the last field keeps the separators that are left. -/
def fields (separator : Char) : Nat → List Char → List (List Char)
  | 0, letters => [letters]
  | limit + 1, letters =>
      match letters.dropWhile (· ≠ separator) with
      | [] => [letters]
      | _ :: rest => letters.takeWhile (· ≠ separator) :: fields separator limit rest

theorem fields_append {separator : Char} {front : List Char} (h : separator ∉ front)
    (limit : Nat) (rest : List Char) :
    fields separator (limit + 1) (front ++ separator :: rest) =
      front :: fields separator limit rest := by
  have hfront : ∀ letter ∈ front, decide (letter ≠ separator) = true := by
    intro letter hmem
    rw [decide_eq_true_eq]
    rintro rfl
    exact h hmem
  rw [fields, List.dropWhile_append_of_pos hfront, List.takeWhile_append_of_pos hfront]
  simp

theorem fields_whole {separator : Char} {letters : List Char} (h : separator ∉ letters)
    (limit : Nat) : fields separator limit letters = [letters] := by
  cases limit with
  | zero => rfl
  | succ limit =>
      have hall : letters.dropWhile (· ≠ separator) = [] := by
        rw [List.dropWhile_eq_nil_iff]
        intro letter hmem
        rw [decide_eq_true_eq]
        rintro rfl
        exact h hmem
      rw [fields, hall]

theorem fields_ne_nil (separator : Char) (limit : Nat) (letters : List Char) :
    fields separator limit letters ≠ [] := by
  by_cases h : separator ∈ letters
  · obtain ⟨front, rest, rfl, hfront⟩ := List.eq_append_cons_of_mem h
    cases limit with
    | zero => exact List.cons_ne_nil _ _
    | succ limit =>
        rw [fields_append hfront]
        exact List.cons_ne_nil _ _
  · rw [fields_whole h]
    exact List.cons_ne_nil _ _

/-- A text is cut at its first separator in one way only. -/
theorem cut_unique {separator : Char} {front other back rest : List Char}
    (h : separator ∉ front) (hother : separator ∉ other) :
    front ++ separator :: back = other ++ separator :: rest ↔ front = other ∧ back = rest := by
  constructor
  · intro heq
    have hfields := congrArg (fields separator 1) heq
    rw [fields_append h, fields_append hother, fields, fields] at hfields
    simpa using hfields
  · rintro ⟨rfl, rfl⟩
    rfl

/-- A text has a further field exactly where the separator is. -/
theorem fields_succ_iff {separator : Char} {limit : Nat} {letters front : List Char}
    {rest : List (List Char)} (more : rest ≠ []) :
    fields separator (limit + 1) letters = front :: rest ↔
      separator ∉ front ∧
        ∃ back, letters = front ++ separator :: back ∧ fields separator limit back = rest := by
  constructor
  · intro h
    by_cases hmem : separator ∈ letters
    · obtain ⟨first, back, rfl, hfirst⟩ := List.eq_append_cons_of_mem hmem
      rw [fields_append hfirst] at h
      cases h
      exact ⟨hfirst, back, rfl, rfl⟩
    · rw [fields_whole hmem] at h
      cases h
      contradiction
  · rintro ⟨hfront, back, rfl, hback⟩
    rw [fields_append hfront, hback]

theorem fields_zero_iff {separator : Char} {letters front : List Char} :
    fields separator 0 letters = [front] ↔ letters = front := by
  rw [fields, List.cons.injEq, and_iff_left rfl]

theorem colon_notMem_int (value : Int) : ':' ∉ (toString value).toList := by
  have hdigits (number : Nat) : ':' ∉ Nat.toDigits 10 number := by
    intro hmem
    obtain ⟨digit, hbound, heq⟩ := toDigits_digits number ':' hmem
    have hother : ∀ digit < 10, ':' ≠ Nat.digitChar digit := by decide
    exact hother digit hbound heq
  cases value with
  | ofNat number =>
      rw [show toString (Int.ofNat number) = String.ofList (Nat.toDigits 10 number) from rfl,
        String.toList_ofList]
      exact hdigits number
  | negSucc number =>
      have hwritten : (toString (Int.negSucc number)).toList =
          '-' :: Nat.toDigits 10 (number + 1) := by
        simp [toString, Int.repr, Nat.repr]
      rw [hwritten, List.mem_cons]
      rintro (h | h)
      · contradiction
      · exact hdigits _ h

end DispatchCore.Library.Text
