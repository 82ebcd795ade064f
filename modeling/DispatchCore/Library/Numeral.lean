import DispatchCore.Library.Text

/-! Whole numbers as text: Python's `int` of a string, and what `str` gives it to read. -/
namespace DispatchCore.Library.Text

/-- The zeros of the decimal digits of every script, each followed by its nine others. -/
def decimalZeros : List Nat :=
  [0x30, 0x660, 0x6f0, 0x7c0, 0x966, 0x9e6, 0xa66, 0xae6, 0xb66, 0xbe6, 0xc66, 0xce6, 0xd66,
    0xde6, 0xe50, 0xed0, 0xf20, 0x1040, 0x1090, 0x17e0, 0x1810, 0x1946, 0x19d0, 0x1a80, 0x1a90,
    0x1b50, 0x1bb0, 0x1c40, 0x1c50, 0xa620, 0xa8d0, 0xa900, 0xa9d0, 0xa9f0, 0xaa50, 0xabf0,
    0xff10, 0x104a0, 0x10d30, 0x11066, 0x110f0, 0x11136, 0x111d0, 0x112f0, 0x11450, 0x114d0,
    0x11650, 0x116c0, 0x11730, 0x118e0, 0x11950, 0x11c50, 0x11d50, 0x11da0, 0x16a60, 0x16ac0,
    0x16b50, 0x1d7ce, 0x1d7d8, 0x1d7e2, 0x1d7ec, 0x1d7f6, 0x1e140, 0x1e2f0, 0x1e950, 0x1fbf0]

def digitValue? (letter : Char) : Option Nat :=
  (decimalZeros.find? fun first => first ≤ letter.toNat && letter.toNat < first + 10).map
    fun first => letter.toNat - first

/-- The letters besides the decimal digits that `str.isdigit` accepts, as ranges. -/
def otherDigits : List (Nat × Nat) :=
  [(0xb2, 0xb3), (0xb9, 0xb9), (0x1369, 0x1371), (0x19da, 0x19da), (0x2070, 0x2070),
    (0x2074, 0x2079), (0x2080, 0x2089), (0x2460, 0x2468), (0x2474, 0x247c), (0x2488, 0x2490),
    (0x24ea, 0x24ea), (0x24f5, 0x24fd), (0x24ff, 0x24ff), (0x2776, 0x277e), (0x2780, 0x2788),
    (0x278a, 0x2792), (0x10a40, 0x10a43), (0x10e60, 0x10e68), (0x11052, 0x1105a),
    (0x1f100, 0x1f10a)]

/-- `str.isdigit`, letter by letter -/
def isDigit (letter : Char) : Bool :=
  (digitValue? letter).isSome ||
    otherDigits.any fun range => range.1 ≤ letter.toNat && letter.toNat ≤ range.2

/-- The rest of a number after a digit: more digits, each with one underscore before it
at most. -/
def readDigits (value : Nat) : List Char → Option Nat
  | [] => some value
  | '_' :: letter :: rest =>
      match digitValue? letter with
      | some digit => readDigits (value * 10 + digit) rest
      | none => none
  | letter :: rest =>
      match digitValue? letter with
      | some digit => readDigits (value * 10 + digit) rest
      | none => none

def readNat : List Char → Option Nat
  | [] => none
  | letter :: rest =>
      match digitValue? letter with
      | some digit => readDigits digit rest
      | none => none

/-- `int(text)`, where it does not raise -/
def int? (text : String) : Option Int :=
  match (strip text).toList with
  | '-' :: digits => (readNat digits).map fun (value : Nat) => -(value : Int)
  | '+' :: digits => (readNat digits).map fun (value : Nat) => (value : Int)
  | digits => (readNat digits).map fun (value : Nat) => (value : Int)

/-! ### Reading what was written -/

theorem digitValue_digitChar {digit : Nat} (h : digit < 10) :
    digitValue? digit.digitChar = some digit := by
  have hall : ∀ digit : Fin 10, digitValue? (digit : Nat).digitChar = some digit := by decide
  exact hall ⟨digit, h⟩

theorem digitChar_ne_underscore {digit : Nat} (h : digit < 10) : digit.digitChar ≠ '_' := by
  have hall : ∀ digit : Fin 10, (digit : Nat).digitChar ≠ '_' := by decide
  exact hall ⟨digit, h⟩

theorem readDigits_digitChar {digit : Nat} (h : digit < 10) (value : Nat) (rest : List Char) :
    readDigits value (digit.digitChar :: rest) = readDigits (value * 10 + digit) rest := by
  have hread := digitValue_digitChar h
  have hplain := digitChar_ne_underscore h
  generalize digit.digitChar = letter at hread hplain
  rw [readDigits.eq_def]
  split
  · contradiction
  · rename_i heq
    cases heq
    exact absurd rfl hplain
  · rename_i heq
    cases heq
    rw [hread]

/-- A list of digits, as a decimal writes them. -/
def AllDigits (letters : List Char) : Prop :=
  ∀ letter ∈ letters, ∃ digit, digit < 10 ∧ letter = Nat.digitChar digit

theorem readDigits_append {left : List Char} (digits : AllDigits left) (value : Nat)
    (right : List Char) :
    readDigits value (left ++ right) =
      (readDigits value left).bind fun read => readDigits read right := by
  induction left generalizing value with
  | nil => simp [readDigits]
  | cons letter rest ih =>
      obtain ⟨digit, hdigit, rfl⟩ := digits letter List.mem_cons_self
      rw [List.cons_append, readDigits_digitChar hdigit, readDigits_digitChar hdigit]
      exact ih (fun other h => digits other (List.mem_cons_of_mem _ h)) _

theorem toDigits_digits (value : Nat) : AllDigits (Nat.toDigits 10 value) := by
  induction value using Nat.base_induction 10 (by decide) with
  | single digit hdigit =>
      rw [Nat.toDigits_of_lt_base hdigit]
      intro letter hletter
      exact ⟨digit, hdigit, List.mem_singleton.mp hletter⟩
  | digit front digit hdigit hfront ih =>
      rw [← Nat.toDigits_append_toDigits (by decide) hfront hdigit, Nat.toDigits_of_lt_base hdigit]
      intro letter hletter
      rcases List.mem_append.mp hletter with h | h
      · exact ih letter h
      · exact ⟨digit, hdigit, List.mem_singleton.mp h⟩

theorem readNat_append_digits {front : List Char} (digits : AllDigits front) (nonempty : front ≠ [])
    (back : List Char) :
    readNat (front ++ back) = (readNat front).bind fun read => readDigits read back := by
  cases front with
  | nil => contradiction
  | cons letter rest =>
      obtain ⟨digit, hdigit, rfl⟩ := digits letter List.mem_cons_self
      simp only [List.cons_append, readNat, digitValue_digitChar hdigit]
      exact readDigits_append (fun other h => digits other (List.mem_cons_of_mem _ h)) digit back

theorem readNat_toDigits (value : Nat) : readNat (Nat.toDigits 10 value) = some value := by
  induction value using Nat.base_induction 10 (by decide) with
  | single digit hdigit =>
      rw [Nat.toDigits_of_lt_base hdigit]
      simp only [readNat, digitValue_digitChar hdigit, readDigits]
  | digit front digit hdigit hfront ih =>
      rw [← Nat.toDigits_append_toDigits (by decide) hfront hdigit, Nat.toDigits_of_lt_base hdigit,
        readNat_append_digits (toDigits_digits front) Nat.toDigits_ne_nil, ih, Option.bind_some,
        readDigits_digitChar hdigit]
      simp [readDigits, Nat.mul_comm]

theorem digitChar_not_space {digit : Nat} (h : digit < 10) : isSpace digit.digitChar = false := by
  have hall : ∀ digit : Fin 10, isSpace (digit : Nat).digitChar = false := by decide
  exact hall ⟨digit, h⟩

theorem dropWhile_eq_self {letters : List Char} (solid : ∀ letter ∈ letters, isSpace letter = false) :
    letters.dropWhile isSpace = letters := by
  apply List.dropWhile_eq_self_iff.mpr
  intro hlength
  rw [solid _ (List.getElem_mem hlength)]
  simp

theorem strip_eq_self {text : String} (solid : ∀ letter ∈ text.toList, isSpace letter = false) :
    strip text = text := by
  unfold strip
  rw [dropWhile_eq_self solid, dropWhile_eq_self (fun letter h => solid letter (List.mem_reverse.mp h)),
    List.reverse_reverse, String.ofList_toList]

theorem AllDigits.solid {letters : List Char} (digits : AllDigits letters) :
    ∀ letter ∈ letters, isSpace letter = false := by
  intro letter hletter
  obtain ⟨digit, hdigit, rfl⟩ := digits letter hletter
  exact digitChar_not_space hdigit

theorem int?_of_digits {letters : List Char} {value : Nat} (digits : AllDigits letters)
    (read : readNat letters = some value) : int? (String.ofList letters) = some (value : Int) := by
  have hstrip : strip (String.ofList letters) = String.ofList letters :=
    strip_eq_self (by rw [String.toList_ofList]; exact digits.solid)
  unfold int?
  rw [hstrip, String.toList_ofList]
  split
  · obtain ⟨digit, hdigit, hsign⟩ := digits '-' List.mem_cons_self
    have hall : ∀ digit : Fin 10, '-' ≠ (digit : Nat).digitChar := by decide
    exact absurd hsign (hall ⟨digit, hdigit⟩)
  · obtain ⟨digit, hdigit, hsign⟩ := digits '+' List.mem_cons_self
    have hall : ∀ digit : Fin 10, '+' ≠ (digit : Nat).digitChar := by decide
    exact absurd hsign (hall ⟨digit, hdigit⟩)
  · rw [read]
    rfl

theorem int?_neg_of_digits {letters : List Char} {value : Nat} (digits : AllDigits letters)
    (read : readNat letters = some value) :
    int? (String.ofList ('-' :: letters)) = some (-(value : Int)) := by
  have hsolid : ∀ letter ∈ '-' :: letters, isSpace letter = false := by
    intro letter hletter
    rcases List.mem_cons.mp hletter with rfl | h
    · decide
    · exact digits.solid letter h
  have hstrip : strip (String.ofList ('-' :: letters)) = String.ofList ('-' :: letters) :=
    strip_eq_self (by rw [String.toList_ofList]; exact hsolid)
  unfold int?
  rw [hstrip, String.toList_ofList]
  simp only [read, Option.map_some]

/-- `int(str(value))` is `value`. -/
theorem int?_toString (value : Int) : int? (toString value) = some value := by
  cases value with
  | ofNat value =>
      have hwritten : toString (Int.ofNat value) = String.ofList (Nat.toDigits 10 value) := rfl
      rw [hwritten]
      exact int?_of_digits (toDigits_digits value) (readNat_toDigits value)
  | negSucc value =>
      have hwritten : toString (Int.negSucc value) =
          String.ofList ('-' :: Nat.toDigits 10 (value + 1)) := by
        apply String.toList_inj.mp
        simp [toString, Int.repr, Nat.repr]
      rw [hwritten, int?_neg_of_digits (toDigits_digits _) (readNat_toDigits _)]
      rfl

end DispatchCore.Library.Text
