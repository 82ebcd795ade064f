import DispatchCore.Messaging.Workspaces

/-! Telephone numbers: how one is stored, how a stored one is shown, and what becomes of it when
it is entered again. -/
namespace DispatchCore.Messaging

open DispatchCore.Library

/-- `character for character in text if character.isdigit()` -/
def digitsOf (text : String) : List Char := text.toList.filter Text.isDigit

/-- Eleven digits that begin with an eight begin with a seven instead. -/
def trunk : List Char → List Char
  | '8' :: rest => if rest.length = 10 then '7' :: rest else '8' :: rest
  | other => other

/-- Ten digits get a seven before them. -/
def national (digits : List Char) : List Char :=
  if (trunk digits).length = 10 then '7' :: trunk digits else trunk digits

/-- The stored number is shown with its own digits, and it and what is shown of it are stored
as it is when they are entered again. -/
structure PhoneIntact (phone : String) : Prop where
  shown : digitsOf (phoneDisplay (some phone)) = digitsOf phone
  stored : normalizePhone phone = some phone
  entered : normalizePhone (phoneDisplay (some phone)) = some phone

/-- What was entered has not ten digits, nor eleven after an eight, nor eleven after a seven
without a plus. -/
def PhoneKept (value : String) : Prop :=
  let digits := digitsOf (Text.strip value)
  digits.length ≠ 10 ∧ (digits.length = 11 → digits.head? ≠ some '8' ∧
    (digits.head? = some '7' → (Text.strip value).toList.head? = some '+'))

/-- How a number of eleven digits after a seven is written. -/
def grouped (digits : List Char) : String :=
  let part (first last : Nat) : String := String.ofList ((digits.take last).drop first)
  s!"+7 ({part 1 4}) {part 4 7}-{part 7 9}-{part 9 11}"

theorem normalizePhone_international {value : String}
    (plus : (Text.strip value).toList.head? = some '+') :
    normalizePhone value =
      if 10 ≤ (digitsOf (Text.strip value)).length ∧ (digitsOf (Text.strip value)).length ≤ 15
      then some (String.ofList ('+' :: digitsOf (Text.strip value))) else none :=
  if_pos plus

theorem normalizePhone_national {value : String}
    (plain : (Text.strip value).toList.head? ≠ some '+') :
    normalizePhone value =
      let digits := national (digitsOf (Text.strip value))
      if ¬(11 ≤ digits.length ∧ digits.length ≤ 15) then none
      else if digits.length = 11 ∧ digits.head? = some '7' then some (grouped digits)
      else some (String.ofList ('+' :: digits)) := by
  unfold normalizePhone
  rw [if_neg plain]
  rfl

theorem phoneDisplay_eq (phone : String) :
    phoneDisplay (some phone) = if national (digitsOf phone) = [] then "—"
      else String.ofList ('+' :: national (digitsOf phone)) := rfl

/-! ### Digits -/

/-- No digit is a blank. -/
theorem isSpace_of_isDigit {letter : Char} (digit : Text.isDigit letter = true) :
    Text.isSpace letter = false := by
  have hblank : ∀ code ∈ Text.whitespace,
      ((Text.decimalZeros.find? fun first => first ≤ code && code < first + 10).map
        fun first => code - first).isSome = false ∧
      (Text.otherDigits.any fun range => range.1 ≤ code && code ≤ range.2) = false := by
    decide +kernel
  by_contra h
  rw [Bool.not_eq_false, Text.isSpace, decide_eq_true_eq] at h
  obtain ⟨hdecimal, hother⟩ := hblank letter.toNat h
  unfold Text.isDigit Text.digitValue? at digit
  rw [hdecimal, hother] at digit
  contradiction

theorem digitsOf_isDigit (text : String) : ∀ letter ∈ digitsOf text, Text.isDigit letter = true :=
  fun _ hmem => (List.mem_filter.mp hmem).2

theorem trunk_cases (digits : List Char) :
    (¬(digits.length = 11 ∧ digits.head? = some '8') ∧ trunk digits = digits) ∨
      ∃ rest, digits = '8' :: rest ∧ rest.length = 10 ∧ trunk digits = '7' :: rest := by
  by_cases h : digits.length = 11 ∧ digits.head? = some '8'
  · obtain ⟨rest, rfl⟩ := List.head?_eq_some_iff.mp h.2
    have hrest : rest.length = 10 := by simpa using h.1
    exact .inr ⟨rest, rfl, hrest, if_pos hrest⟩
  · refine .inl ⟨h, ?_⟩
    unfold trunk
    split
    · rename_i rest
      rw [if_neg]
      intro hrest
      exact h ⟨by simp [hrest], rfl⟩
    · rfl

theorem trunk_length (digits : List Char) : (trunk digits).length = digits.length := by
  rcases trunk_cases digits with ⟨-, heq⟩ | ⟨rest, rfl, -, heq⟩
  · rw [heq]
  · rw [heq]
    rfl

theorem national_isDigit {digits : List Char} (all : ∀ letter ∈ digits, Text.isDigit letter = true) :
    ∀ letter ∈ national digits, Text.isDigit letter = true := by
  have hseven : Text.isDigit '7' = true := by decide
  have hcons : ∀ rest : List Char, (∀ letter ∈ rest, Text.isDigit letter = true) →
      ∀ letter ∈ '7' :: rest, Text.isDigit letter = true := by
    intro rest hrest letter hmem
    rcases List.mem_cons.mp hmem with rfl | htail
    · exact hseven
    · exact hrest letter htail
  have htrunk : ∀ letter ∈ trunk digits, Text.isDigit letter = true := by
    rcases trunk_cases digits with ⟨-, heq⟩ | ⟨rest, rfl, -, heq⟩
    · rw [heq]
      exact all
    · rw [heq]
      exact hcons rest fun letter hmem => all letter (List.mem_cons_of_mem _ hmem)
  unfold national
  split
  · exact hcons _ htrunk
  · exact htrunk

/-- Ten digits, and eleven after an eight, become eleven after a seven; others stay. -/
theorem national_cases (digits : List Char) :
    (digits.length ≠ 10 ∧ ¬(digits.length = 11 ∧ digits.head? = some '8') ∧
        national digits = digits) ∨
      ((digits.length = 10 ∨ (digits.length = 11 ∧ digits.head? = some '8')) ∧
        ∃ rest, rest.length = 10 ∧ national digits = '7' :: rest) := by
  unfold national
  rw [trunk_length]
  rcases trunk_cases digits with ⟨hplain, heq⟩ | ⟨rest, rfl, hrest, heq⟩
  · rw [heq]
    by_cases hten : digits.length = 10
    · exact .inr ⟨.inl hten, digits, hten, if_pos hten⟩
    · exact .inl ⟨hten, hplain, if_neg hten⟩
  · rw [heq, if_neg (by simp [hrest])]
    exact .inr ⟨.inr ⟨by simp [hrest], rfl⟩, rest, hrest, rfl⟩

theorem national_eq_self_iff {digits : List Char} :
    national digits = digits ↔
      digits.length ≠ 10 ∧ ¬(digits.length = 11 ∧ digits.head? = some '8') := by
  rcases national_cases digits with ⟨hten, height, heq⟩ | ⟨hchanged, rest, hrest, heq⟩
  · exact iff_of_true heq ⟨hten, height⟩
  · refine iff_of_false ?_ fun h => hchanged.elim h.1 h.2
    rw [heq]
    rintro rfl
    rcases hchanged with hten | ⟨-, height⟩
    · rw [List.length_cons, hrest] at hten
      contradiction
    · cases height

section plus

variable {digits : List Char} (all : ∀ letter ∈ digits, Text.isDigit letter = true)
include all

theorem strip_plus : Text.strip (String.ofList ('+' :: digits)) = String.ofList ('+' :: digits) := by
  apply Text.strip_eq_self
  intro letter hmem
  rw [String.toList_ofList] at hmem
  rcases List.mem_cons.mp hmem with rfl | hdigit
  · decide
  · exact isSpace_of_isDigit (all letter hdigit)

theorem digitsOf_plus : digitsOf (String.ofList ('+' :: digits)) = digits := by
  unfold digitsOf
  rw [String.toList_ofList, List.filter_cons_of_neg (by decide), List.filter_eq_self]
  exact all

theorem normalizePhone_plus (bounded : 10 ≤ digits.length ∧ digits.length ≤ 15) :
    normalizePhone (String.ofList ('+' :: digits)) = some (String.ofList ('+' :: digits)) := by
  have hplus : (Text.strip (String.ofList ('+' :: digits))).toList.head? = some '+' := by
    rw [strip_plus all, String.toList_ofList]
    rfl
  rw [normalizePhone_international hplus, strip_plus all, digitsOf_plus all, if_pos bounded]

/-- A number that is stored with its digits after a plus stays intact as long as showing it
changes none of them. -/
theorem intact_plus (bounded : 10 ≤ digits.length ∧ digits.length ≤ 15) :
    PhoneIntact (String.ofList ('+' :: digits)) ↔ national digits = digits := by
  have hpresent : national digits ≠ [] := by
    rcases national_cases digits with ⟨-, -, heq⟩ | ⟨-, rest, -, heq⟩
    · rw [heq]
      exact List.ne_nil_of_length_pos (by omega)
    · rw [heq]
      exact List.cons_ne_nil _ _
  have hshown : phoneDisplay (some (String.ofList ('+' :: digits))) =
      String.ofList ('+' :: national digits) := by
    rw [phoneDisplay_eq, digitsOf_plus all, if_neg hpresent]
  constructor
  · intro h
    have hdigits := h.shown
    rw [hshown, digitsOf_plus all, digitsOf_plus (national_isDigit all)] at hdigits
    exact hdigits
  · intro hsame
    rw [hsame] at hshown
    have hstored := normalizePhone_plus all bounded
    exact ⟨by rw [hshown], hstored, by rw [hshown]; exact hstored⟩

end plus

theorem strip_of_ends {first last : Char} {middle : List Char}
    (hfirst : Text.isSpace first = false) (hlast : Text.isSpace last = false) :
    Text.strip (String.ofList (first :: middle ++ [last])) =
      String.ofList (first :: middle ++ [last]) := by
  unfold Text.strip
  rw [String.toList_ofList, List.cons_append, List.dropWhile_cons_of_neg (by simp [hfirst]),
    ← List.cons_append, List.reverse_append, List.reverse_singleton, List.singleton_append,
    List.dropWhile_cons_of_neg (by simp [hlast]), List.reverse_cons, List.reverse_reverse]

/-- A number in groups is stored without them when it is entered again. -/
theorem normalizePhone_grouped {rest : List Char} (ten : rest.length = 10)
    (all : ∀ letter ∈ rest, Text.isDigit letter = true) :
    normalizePhone (grouped ('7' :: rest)) = some (String.ofList ('+' :: '7' :: rest)) := by
  match rest, ten with
  | [a, b, c, d, e, f, g, h, i, j], _ =>
      have hwritten : grouped ['7', a, b, c, d, e, f, g, h, i, j] = String.ofList ('+' ::
          ['7', ' ', '(', a, b, c, ')', ' ', d, e, f, '-', g, h, '-', i] ++ [j]) := by
        apply String.toList_inj.mp
        simp [grouped, toString]
      have hstrip : Text.strip (grouped ['7', a, b, c, d, e, f, g, h, i, j]) =
          grouped ['7', a, b, c, d, e, f, g, h, i, j] := by
        rw [hwritten]
        exact strip_of_ends (by decide) (isSpace_of_isDigit (all j (by simp)))
      have hdigits : digitsOf (grouped ['7', a, b, c, d, e, f, g, h, i, j]) =
          ['7', a, b, c, d, e, f, g, h, i, j] := by
        have hmarks : Text.isDigit '7' = true ∧ Text.isDigit '+' = false ∧
            Text.isDigit ' ' = false ∧ Text.isDigit '(' = false ∧ Text.isDigit ')' = false ∧
            Text.isDigit '-' = false := by decide
        simp only [List.forall_mem_cons] at all
        rw [hwritten, digitsOf, String.toList_ofList]
        simp [hmarks, all, List.filter]
      rw [normalizePhone_international (by rw [hstrip, hwritten, String.toList_ofList]; rfl),
        hstrip, hdigits]
      rfl

theorem not_intact_grouped {rest : List Char} (ten : rest.length = 10)
    (all : ∀ letter ∈ rest, Text.isDigit letter = true) :
    ¬PhoneIntact (grouped ('7' :: rest)) := by
  intro h
  have hstored := h.stored
  rw [normalizePhone_grouped ten all, Option.some.injEq] at hstored
  have hlength := congrArg (fun text : String => text.toList.length) hstored
  simp [grouped, toString, ten] at hlength

theorem intact_international {value phone : String}
    (plus : (Text.strip value).toList.head? = some '+')
    (accepted : normalizePhone value = some phone) : PhoneIntact phone ↔ PhoneKept value := by
  rw [normalizePhone_international plus] at accepted
  by_cases hbounded : 10 ≤ (digitsOf (Text.strip value)).length ∧
      (digitsOf (Text.strip value)).length ≤ 15
  · rw [if_pos hbounded] at accepted
    rw [← Option.some.inj accepted, intact_plus (digitsOf_isDigit _) hbounded,
      national_eq_self_iff]
    exact and_congr_right fun _ =>
      ⟨fun h heleven => ⟨fun height => h ⟨heleven, height⟩, fun _ => plus⟩,
        fun h height => (h height.1).1 height.2⟩
  · rw [if_neg hbounded] at accepted
    exact absurd accepted.symm (Option.some_ne_none phone)

theorem intact_national {value phone : String}
    (plain : (Text.strip value).toList.head? ≠ some '+')
    (accepted : normalizePhone value = some phone) : PhoneIntact phone ↔ PhoneKept value := by
  have hdigits := digitsOf_isDigit (Text.strip value)
  rw [normalizePhone_national plain] at accepted
  dsimp only at accepted
  by_cases hbounded : 11 ≤ (national (digitsOf (Text.strip value))).length ∧
      (national (digitsOf (Text.strip value))).length ≤ 15
  · rw [if_neg (not_not.mpr hbounded)] at accepted
    rcases national_cases (digitsOf (Text.strip value)) with
      ⟨hten, height, heq⟩ | ⟨hchanged, rest, hrest, heq⟩
    · rw [heq] at accepted hbounded
      by_cases hseven : (digitsOf (Text.strip value)).length = 11 ∧
          (digitsOf (Text.strip value)).head? = some '7'
      · rw [if_pos hseven] at accepted
        obtain ⟨rest, hsplit⟩ := List.head?_eq_some_iff.mp hseven.2
        rw [hsplit] at hdigits
        rw [← Option.some.inj accepted, hsplit]
        refine iff_of_false (not_intact_grouped ?_ ?_) fun h => ?_
        · have heleven := hseven.1
          rw [hsplit, List.length_cons] at heleven
          omega
        · exact fun letter hmem => hdigits letter (List.mem_cons_of_mem _ hmem)
        · exact plain ((h.2 hseven.1).2 hseven.2)
      · rw [if_neg hseven] at accepted
        rw [← Option.some.inj accepted, intact_plus hdigits ⟨by omega, hbounded.2⟩,
          national_eq_self_iff]
        exact iff_of_true ⟨hten, height⟩ ⟨hten, fun heleven =>
          ⟨fun eight => height ⟨heleven, eight⟩, fun seven => absurd ⟨heleven, seven⟩ hseven⟩⟩
    · have hnational := national_isDigit hdigits
      rw [heq] at accepted hnational
      rw [if_pos ⟨by rw [List.length_cons, hrest], rfl⟩] at accepted
      rw [← Option.some.inj accepted]
      refine iff_of_false (not_intact_grouped hrest ?_) fun h => ?_
      · exact fun letter hmem => hnational letter (List.mem_cons_of_mem _ hmem)
      · exact hchanged.elim h.1 fun height => (h.2 height.1).1 height.2
  · rw [if_pos hbounded] at accepted
    exact absurd accepted.symm (Option.some_ne_none phone)

/-- A number that could be stored stays as it is from then on exactly when it was entered in a
form that keeps. -/
theorem phone_intact_iff {value phone : String} (accepted : normalizePhone value = some phone) :
    PhoneIntact phone ↔ PhoneKept value := by
  by_cases hplus : (Text.strip value).toList.head? = some '+'
  · exact intact_international hplus accepted
  · exact intact_national hplus accepted

theorem foreign_phone_intact : PhoneIntact "+4930123456789" := by
  have haccepted : normalizePhone " +49 30 123456789" = some "+4930123456789" := by decide +kernel
  refine (phone_intact_iff haccepted).mpr ?_
  unfold PhoneKept
  decide +kernel

/-- A Russian number without its plus is stored in groups, and without them when it is entered
again; one of ten digits after a plus is shown with a seven that it has not. -/
theorem phones_changed :
    (normalizePhone "89123456789" = some "+7 (912) 345-67-89" ∧
      ¬PhoneIntact "+7 (912) 345-67-89") ∧
    normalizePhone "+3312345678" = some "+3312345678" ∧ ¬PhoneIntact "+3312345678" := by
  refine ⟨⟨by decide +kernel, fun h => ?_⟩, by decide +kernel, fun h => ?_⟩
  · exact absurd h.stored (by decide +kernel)
  · exact absurd h.shown (by decide +kernel)

end DispatchCore.Messaging
