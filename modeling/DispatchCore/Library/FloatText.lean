import Mathlib.Algebra.Field.Rat
import Mathlib.Algebra.Order.Ring.Abs
import Mathlib.Algebra.Order.Ring.Rat
import Mathlib.Tactic.FieldSimp
import Mathlib.Tactic.Ring
import DispatchCore.Library.DocumentText
import DispatchCore.Library.Numeral

/-! What Python writes for a finite float.  A float is held as the decimal that it is written
as, and from what is written that decimal can be read again. -/
namespace DispatchCore.Library

namespace FloatText

/-- A decimal has so many places at most. -/
def places (value : Rat) : Nat := Nat.log2 value.den

def isDecimal (value : Rat) : Bool := 10 ^ places value % value.den = 0

/-- The digits of a decimal, sign and point left out. -/
def scaled (value : Rat) : Nat := value.num.natAbs * (10 ^ places value / value.den)

def trimmed (digits : List Char) : List Char :=
  (digits.reverse.dropWhile fun digit => digit = '0').reverse

/-- `0.digits` times ten to the power of the point's place: in full from the fourth place behind
the point to the sixteenth before it, else with an exponent. -/
def layout (digits : List Char) (point : Int) : List Char :=
  if -4 < point ∧ point ≤ 16 then
    if point ≤ 0 then '0' :: '.' :: (List.replicate (-point).toNat '0' ++ digits)
    else if point < digits.length then digits.take point.toNat ++ '.' :: digits.drop point.toNat
    else digits ++ List.replicate (point.toNat - digits.length) '0' ++ ['.', '0']
  else
    let exponent := point - 1
    digits.take 1 ++ (if 1 < digits.length then '.' :: digits.drop 1 else []) ++
      'e' :: (if exponent < 0 then '-' else '+') ::
        (Text.padLeft 2 '0' (toString exponent.natAbs)).toList

/-- The digits of a decimal and the place of its point. -/
def magnitude (value : Rat) : List Char :=
  let digits := (toString (scaled value)).toList
  layout (trimmed digits) (digits.length - places value)

/-- `repr(value)`.  No float is another number than a decimal. -/
def floatText (value : Rat) : List Char :=
  if value = 0 then "0.0".toList
  else if isDecimal value then (if value < 0 then ['-'] else []) ++ magnitude value
  else (toString value.num).toList ++ '/' :: (toString value.den).toList

/-! ### Reading it again -/

def digitsValue (digits : List Char) : Nat := Nat.ofDigitChars 10 digits 0

def readExponent : List Char → Int
  | '+' :: digits => digitsValue digits
  | '-' :: digits => -digitsValue digits
  | _ => 0

def readMagnitude (text : List Char) : Rat :=
  let mantissa := text.takeWhile fun letter => letter ≠ 'e'
  let whole := mantissa.takeWhile fun letter => letter ≠ '.'
  let fraction := (mantissa.dropWhile fun letter => letter ≠ '.').drop 1
  let exponent := readExponent ((text.dropWhile fun letter => letter ≠ 'e').drop 1)
  digitsValue (whole ++ fraction) * (10 : Rat) ^ (exponent - fraction.length)

def Digits (digits : List Char) : Prop := ∀ digit ∈ digits, digit.isDigit = true

theorem digitsValue_append (left right : List Char) :
    digitsValue (left ++ right) = 10 ^ right.length * digitsValue left + digitsValue right := by
  unfold digitsValue
  rw [Nat.ofDigitChars_append, Nat.ofDigitChars_eq_ofDigitChars_zero]

theorem digitsValue_zeros (count : Nat) : digitsValue (List.replicate count '0') = 0 := by
  unfold digitsValue
  rw [Nat.ofDigitChars_replicate_zero, Nat.mul_zero]

theorem toList_toString (value : Nat) : (toString value).toList = Nat.toDigits 10 value := by
  simp [toString, Nat.repr]

theorem digitsValue_toString (value : Nat) : digitsValue (toString value).toList = value := by
  rw [toList_toString, digitsValue, Nat.ofDigitChars_ten_toDigits]

theorem digits_toString (value : Nat) : Digits (toString value).toList := by
  intro digit hdigit
  rw [toList_toString] at hdigit
  exact Nat.isDigit_of_mem_toDigits (by decide) (by decide) hdigit

theorem Digits.append {left right : List Char} (hleft : Digits left) (hright : Digits right) :
    Digits (left ++ right) := by
  intro digit hmem
  exact (List.mem_append.mp hmem).elim (hleft digit) (hright digit)

theorem digits_zeros (count : Nat) : Digits (List.replicate count '0') := by
  intro digit hmem
  rw [List.eq_of_mem_replicate hmem]
  rfl

theorem Digits.ne {digits : List Char} (digital : Digits digits) {letter : Char}
    (other : letter.isDigit = false) : ∀ digit ∈ digits, digit ≠ letter := by
  rintro digit hmem rfl
  rw [digital digit hmem] at other
  contradiction

/-- A number in full is read by its digits on both sides of the point. -/
theorem readMagnitude_full {whole fraction : List Char} (hwhole : Digits whole)
    (hfraction : Digits fraction) :
    readMagnitude (whole ++ '.' :: fraction) =
      digitsValue (whole ++ fraction) * (10 : Rat) ^ (-fraction.length : Int) := by
  have hmantissa : ∀ letter ∈ whole ++ '.' :: fraction, (decide (letter ≠ 'e')) = true := by
    intro letter hmem
    rw [decide_eq_true_eq]
    rcases List.mem_append.mp hmem with h | h
    · exact hwhole.ne (by decide) letter h
    · rcases List.mem_cons.mp h with rfl | h
      · decide
      · exact hfraction.ne (by decide) letter h
  have hpoint : ∀ letter ∈ whole, (decide (letter ≠ '.')) = true := by
    intro letter hmem
    rw [decide_eq_true_eq]
    exact hwhole.ne (by decide) letter hmem
  unfold readMagnitude
  simp only
  rw [List.takeWhile_eq_self_iff.mpr hmantissa, List.dropWhile_eq_nil_iff.mpr hmantissa,
    List.takeWhile_append_of_pos hpoint, List.dropWhile_append_of_pos hpoint,
    List.takeWhile_cons_of_neg (by decide), List.dropWhile_cons_of_neg (by decide),
    List.append_nil, List.drop_nil, List.drop_one, List.tail_cons]
  simp [readExponent]

/-- A mantissa of one digit, or of more with a point, is read with the exponent behind it. -/
theorem readMagnitude_exponent {whole fraction tail : List Char} (hwhole : Digits whole)
    (hfraction : Digits fraction) (point : List Char)
    (hpoint : point = '.' :: fraction ∨ point = [] ∧ fraction = []) :
    readMagnitude (whole ++ point ++ 'e' :: tail) =
      digitsValue (whole ++ fraction) * (10 : Rat) ^ (readExponent tail - fraction.length) := by
  have hmantissa : ∀ letter ∈ whole ++ point, (decide (letter ≠ 'e')) = true := by
    intro letter hmem
    rw [decide_eq_true_eq]
    rcases List.mem_append.mp hmem with h | h
    · exact hwhole.ne (by decide) letter h
    · rcases hpoint with rfl | ⟨rfl, -⟩
      · rcases List.mem_cons.mp h with rfl | h
        · decide
        · exact hfraction.ne (by decide) letter h
      · contradiction
  have hbefore : ∀ letter ∈ whole, (decide (letter ≠ '.')) = true := by
    intro letter hmem
    rw [decide_eq_true_eq]
    exact hwhole.ne (by decide) letter hmem
  unfold readMagnitude
  simp only
  rw [List.takeWhile_append_of_pos hmantissa, List.dropWhile_append_of_pos hmantissa,
    List.takeWhile_cons_of_neg (by decide), List.dropWhile_cons_of_neg (by decide),
    List.append_nil, List.takeWhile_append_of_pos hbefore, List.dropWhile_append_of_pos hbefore]
  rcases hpoint with rfl | ⟨rfl, rfl⟩
  · rw [List.takeWhile_cons_of_neg (by decide), List.dropWhile_cons_of_neg (by decide),
      List.append_nil]
    rfl
  · simp

theorem readExponent_written (exponent : Int) :
    readExponent ((if exponent < 0 then '-' else '+') ::
      (Text.padLeft 2 '0' (toString exponent.natAbs)).toList) = exponent := by
  have hdigits : digitsValue (Text.padLeft 2 '0' (toString exponent.natAbs)).toList =
      exponent.natAbs := by
    unfold Text.padLeft
    rw [String.toList_ofList, digitsValue_append, digitsValue_zeros, digitsValue_toString]
    omega
  by_cases h : exponent < 0
  · rw [if_pos h]
    simp only [readExponent, hdigits]
    omega
  · rw [if_neg h]
    simp only [readExponent, hdigits]
    omega

/-- Whichever way they are laid out, digits and point are read. -/
theorem readMagnitude_layout {digits : List Char} (digital : Digits digits)
    (nonempty : digits ≠ []) (point : Int) :
    readMagnitude (layout digits point) =
      digitsValue digits * (10 : Rat) ^ (point - digits.length) := by
  have hpositive : 0 < digits.length := List.length_pos_iff.mpr nonempty
  unfold layout
  by_cases hfull : -4 < point ∧ point ≤ 16
  · rw [if_pos hfull]
    by_cases hsmall : point ≤ 0
    · have hfraction := (digits_zeros (-point).toNat).append digital
      have hread := @readMagnitude_full ['0'] _ (digits_zeros 1) hfraction
      rw [if_pos hsmall]
      refine hread.trans ?_
      congr 1
      · have hvalue : digitsValue (['0'] ++ (List.replicate (-point).toNat '0' ++ digits)) =
            digitsValue digits := by
          rw [digitsValue_append, digitsValue_append, digitsValue_zeros]
          show _ * 0 + _ = _
          omega
        rw [hvalue]
      · rw [List.length_append, List.length_replicate]
        congr 1
        omega
    · rw [if_neg hsmall]
      by_cases hinside : point < digits.length
      · have hsplit := List.take_append_drop point.toNat digits
        have hread := @readMagnitude_full (digits.take point.toNat) (digits.drop point.toNat)
          (fun digit hmem => digital digit (List.mem_of_mem_take hmem))
          (fun digit hmem => digital digit (List.mem_of_mem_drop hmem))
        rw [if_pos hinside, hread, hsplit, List.length_drop]
        congr 2
        omega
      · have hwhole := digital.append (digits_zeros (point.toNat - digits.length))
        have hread := readMagnitude_full hwhole (digits_zeros 1)
        have hzeros : (10 : Rat) ^ (point - digits.length) =
            10 ^ (point.toNat - digits.length + 1) * 10 ^ (-1 : Int) := by
          rw [← zpow_natCast, ← zpow_add₀ (by norm_num)]
          congr 1
          omega
        have hvalue : digitsValue (digits ++ List.replicate (point.toNat - digits.length) '0' ++
            ['0']) = 10 ^ (point.toNat - digits.length + 1) * digitsValue digits := by
          rw [digitsValue_append, digitsValue_append, digitsValue_zeros, List.length_replicate]
          show 10 * (_ * _ + 0) + 0 = _
          ring
        rw [if_neg hinside]
        refine hread.trans ?_
        rw [hzeros]
        show ((digitsValue (digits ++ List.replicate (point.toNat - digits.length) '0' ++ ['0'])
          : Nat) : Rat) * 10 ^ (-1 : Int) = _
        rw [hvalue]
        push_cast
        ring
  · have hwritten := readExponent_written (point - 1)
    have hsplit := List.take_append_drop 1 digits
    have hwhole : Digits (digits.take 1) := fun digit hmem => digital digit (List.mem_of_mem_take hmem)
    have hfraction : Digits (digits.drop 1) :=
      fun digit hmem => digital digit (List.mem_of_mem_drop hmem)
    have hpoint : (if 1 < digits.length then '.' :: digits.drop 1 else []) = '.' :: digits.drop 1 ∨
        (if 1 < digits.length then '.' :: digits.drop 1 else []) = [] ∧ digits.drop 1 = [] := by
      by_cases h : 1 < digits.length
      · exact .inl (if_pos h)
      · exact .inr ⟨if_neg h, List.drop_of_length_le (not_lt.mp h)⟩
    rw [if_neg hfull]
    refine (readMagnitude_exponent hwhole hfraction _ hpoint).trans ?_
    rw [hsplit, hwritten, List.length_drop]
    congr 2
    omega

/-! ### No two floats are written alike -/

theorem trimmed_append (digits : List Char) :
    ∃ zeros, digits = trimmed digits ++ List.replicate zeros '0' := by
  refine ⟨(digits.reverse.takeWhile fun digit => digit = '0').length, ?_⟩
  have hzeros : ∀ digit ∈ digits.reverse.takeWhile (fun digit => decide (digit = '0')),
      digit = '0' := by
    intro digit hmem
    simpa using List.mem_takeWhile_imp hmem
  have hsplit := @List.takeWhile_append_dropWhile Char (fun digit => decide (digit = '0'))
    digits.reverse
  rw [← List.reverse_inj, List.reverse_append, trimmed, List.reverse_reverse,
    List.reverse_replicate, ← List.eq_replicate_of_mem hzeros]
  exact hsplit.symm

theorem digitsValue_trimmed {value zeros : Nat}
    (h : (toString value).toList = trimmed (toString value).toList ++ List.replicate zeros '0') :
    value = 10 ^ zeros * digitsValue (trimmed (toString value).toList) := by
  have hvalue := digitsValue_toString value
  rw [h, digitsValue_append, digitsValue_zeros, List.length_replicate] at hvalue
  omega

theorem abs_eq_scaled {value : Rat} (decimal : isDecimal value = true) :
    |value| = scaled value * (10 : Rat) ^ (-places value : Int) := by
  obtain ⟨factor, hfactor⟩ := Nat.dvd_of_mod_eq_zero (of_decide_eq_true decimal)
  have hden : (value.den : Rat) ≠ 0 := Nat.cast_ne_zero.mpr value.den_ne_zero
  have hpower : (10 : Rat) ^ places value = value.den * factor := by exact_mod_cast hfactor
  have hquotient : 10 ^ places value / value.den = factor := by
    rw [hfactor, Nat.mul_div_cancel_left _ value.den_pos]
  have hnonzero : (value.den * factor : Rat) ≠ 0 := by
    rw [← hpower]
    exact pow_ne_zero _ (by norm_num)
  have hnum : |value| = (value.num.natAbs : Rat) / value.den := by
    rw [Rat.abs_def, Rat.divInt_eq_div]
    norm_cast
  rw [hnum, scaled, hquotient, zpow_neg, zpow_natCast, hpower]
  push_cast
  field_simp [right_ne_zero_of_mul hnonzero]

theorem scaled_ne_zero {value : Rat} (nonzero : value ≠ 0) (decimal : isDecimal value = true) :
    scaled value ≠ 0 := by
  intro h
  have habs := abs_eq_scaled decimal
  rw [h, Nat.cast_zero, zero_mul, abs_eq_zero] at habs
  exact nonzero habs

theorem trimmed_ne {number : Nat} (nonzero : number ≠ 0) :
    trimmed (toString number).toList ≠ [] := by
  intro h
  obtain ⟨zeros, hzeros⟩ := trimmed_append (toString number).toList
  have hvalue := digitsValue_trimmed hzeros
  rw [h] at hvalue
  exact nonzero hvalue

theorem digits_trimmed (number : Nat) : Digits (trimmed (toString number).toList) := by
  obtain ⟨zeros, hzeros⟩ := trimmed_append (toString number).toList
  intro digit hmem
  refine digits_toString number digit ?_
  rw [hzeros]
  exact List.mem_append_left _ hmem

theorem readMagnitude_magnitude {value : Rat} (nonzero : value ≠ 0)
    (decimal : isDecimal value = true) : readMagnitude (magnitude value) = |value| := by
  obtain ⟨zeros, hzeros⟩ := trimmed_append (toString (scaled value)).toList
  have hlength := congrArg List.length hzeros
  rw [List.length_append, List.length_replicate] at hlength
  have hscaled := digitsValue_trimmed hzeros
  have hpower : (10 : Rat) ^ (((toString (scaled value)).toList.length : Int) - places value -
      (trimmed (toString (scaled value)).toList).length) =
        10 ^ zeros * 10 ^ (-places value : Int) := by
    rw [← zpow_natCast, ← zpow_add₀ (by norm_num)]
    congr 1
    omega
  unfold magnitude
  simp only
  rw [readMagnitude_layout (digits_trimmed _) (trimmed_ne (scaled_ne_zero nonzero decimal)),
    abs_eq_scaled decimal, hpower]
  have hcast : (scaled value : Rat) =
      10 ^ zeros * digitsValue (trimmed (toString (scaled value)).toList) := by
    exact_mod_cast hscaled
  rw [hcast]
  ring

/-! #### The letters of a float -/

def isLetter (letter : Char) : Bool := letter.isDigit || letter ∈ ['.', 'e', '+', '-']

theorem Digits.letters {digits : List Char} (digital : Digits digits) :
    ∀ letter ∈ digits, isLetter letter = true := by
  intro letter hmem
  unfold isLetter
  rw [digital letter hmem, Bool.true_or]

theorem letters_append {left right : List Char} (hleft : ∀ letter ∈ left, isLetter letter = true)
    (hright : ∀ letter ∈ right, isLetter letter = true) :
    ∀ letter ∈ left ++ right, isLetter letter = true := by
  intro letter hmem
  exact (List.mem_append.mp hmem).elim (hleft letter) (hright letter)

theorem letters_cons {first : Char} {rest : List Char} (hfirst : isLetter first = true)
    (hrest : ∀ letter ∈ rest, isLetter letter = true) :
    ∀ letter ∈ first :: rest, isLetter letter = true :=
  List.forall_mem_cons.mpr ⟨hfirst, hrest⟩

theorem layout_letters {digits : List Char} (digital : Digits digits) (point : Int) :
    ∀ letter ∈ layout digits point, isLetter letter = true := by
  have htake (count : Nat) : Digits (digits.take count) :=
    fun digit hmem => digital digit (List.mem_of_mem_take hmem)
  have hdrop (count : Nat) : Digits (digits.drop count) :=
    fun digit hmem => digital digit (List.mem_of_mem_drop hmem)
  unfold layout
  by_cases hfull : -4 < point ∧ point ≤ 16
  · rw [if_pos hfull]
    by_cases hsmall : point ≤ 0
    · rw [if_pos hsmall]
      exact letters_cons rfl (letters_cons rfl ((digits_zeros _).append digital).letters)
    · rw [if_neg hsmall]
      by_cases hinside : point < digits.length
      · rw [if_pos hinside]
        exact letters_append (htake _).letters (letters_cons rfl (hdrop _).letters)
      · rw [if_neg hinside]
        exact letters_append (digital.append (digits_zeros _)).letters (List.all_eq_true.mp (by decide))
  · have hexponent : ∀ letter ∈ (Text.padLeft 2 '0' (toString (point - 1).natAbs)).toList,
        isLetter letter = true := by
      unfold Text.padLeft
      rw [String.toList_ofList]
      exact ((digits_zeros _).append (digits_toString _)).letters
    rw [if_neg hfull]
    refine letters_append (letters_append (htake 1).letters ?_) (letters_cons rfl
      (letters_cons ?_ hexponent))
    · by_cases hmore : 1 < digits.length
      · rw [if_pos hmore]
        exact letters_cons rfl (hdrop 1).letters
      · rw [if_neg hmore]
        simp
    · by_cases hnegative : point - 1 < 0
      · rw [if_pos hnegative]
        rfl
      · rw [if_neg hnegative]
        rfl

theorem layout_first {digits : List Char} (digital : Digits digits) (nonempty : digits ≠ [])
    (point : Int) :
    ∃ first tail, layout digits point = first :: tail ∧ first.isDigit = true := by
  obtain ⟨digit, rest, rfl⟩ := List.exists_cons_of_ne_nil nonempty
  have hdigit : digit.isDigit = true := digital digit (by simp)
  unfold layout
  by_cases hfull : -4 < point ∧ point ≤ 16
  · rw [if_pos hfull]
    by_cases hsmall : point ≤ 0
    · exact ⟨'0', _, if_pos hsmall, rfl⟩
    · rw [if_neg hsmall]
      by_cases hinside : point < (digit :: rest).length
      · obtain ⟨count, hcount⟩ : ∃ count, point.toNat = count + 1 := ⟨point.toNat - 1, by omega⟩
        rw [if_pos hinside, hcount, List.take_succ_cons, List.cons_append]
        exact ⟨digit, _, rfl, hdigit⟩
      · rw [if_neg hinside, List.cons_append, List.cons_append]
        exact ⟨digit, _, rfl, hdigit⟩
  · rw [if_neg hfull, List.take_succ_cons, List.cons_append, List.cons_append]
    exact ⟨digit, _, rfl, hdigit⟩

/-- A float shows that it is not a whole number. -/
def Pointed (text : List Char) : Prop := '.' ∈ text ∨ 'e' ∈ text ∨ '/' ∈ text

instance (text : List Char) : Decidable (Pointed text) :=
  inferInstanceAs (Decidable ('.' ∈ text ∨ 'e' ∈ text ∨ '/' ∈ text))

theorem layout_pointed (digits : List Char) (point : Int) : Pointed (layout digits point) := by
  unfold layout
  by_cases hfull : -4 < point ∧ point ≤ 16
  · rw [if_pos hfull]
    by_cases hsmall : point ≤ 0
    · rw [if_pos hsmall]
      exact .inl (by simp)
    · rw [if_neg hsmall]
      by_cases hinside : point < digits.length
      · rw [if_pos hinside]
        exact .inl (by simp)
      · rw [if_neg hinside]
        exact .inl (by simp)
  · rw [if_neg hfull]
    exact .inr (.inl (by simp))

/-! #### Reading a float -/

def readFloat : List Char → Rat
  | '-' :: text => -readMagnitude text
  | text => readMagnitude text

section magnitude

variable {value : Rat}

theorem floatText_decimal (nonzero : value ≠ 0) (decimal : isDecimal value = true) :
    floatText value = (if value < 0 then ['-'] else []) ++ magnitude value := by
  rw [floatText, if_neg nonzero, if_pos decimal]

theorem floatText_other (nonzero : value ≠ 0) (other : isDecimal value = false) :
    floatText value = (toString value.num).toList ++ '/' :: (toString value.den).toList := by
  rw [floatText, if_neg nonzero, if_neg (by rw [other]; decide)]

theorem isDecimal_zero : isDecimal 0 = true := by decide

theorem readFloat_floatText (decimal : isDecimal value = true) :
    readFloat (floatText value) = value := by
  by_cases hzero : value = 0
  · have hread := @readMagnitude_full ['0'] ['0'] (digits_zeros 1) (digits_zeros 1)
    rw [floatText, if_pos hzero, hzero]
    refine hread.trans ?_
    show ((0 : Nat) : Rat) * _ = 0
    rw [Nat.cast_zero, zero_mul]
  · have hread := readMagnitude_magnitude hzero decimal
    rw [floatText_decimal hzero decimal]
    by_cases hnegative : value < 0
    · rw [if_pos hnegative]
      show -readMagnitude (magnitude value) = value
      rw [hread, abs_of_neg hnegative, neg_neg]
    · obtain ⟨first, tail, hfirst, hdigit⟩ := layout_first (digits_trimmed (scaled value))
        (trimmed_ne (scaled_ne_zero hzero decimal))
        ((toString (scaled value)).toList.length - places value)
      have hmagnitude : magnitude value = first :: tail := hfirst
      have hplain : first ≠ '-' := by
        rintro rfl
        contradiction
      rw [if_neg hnegative, List.nil_append]
      have hsame : readFloat (magnitude value) = readMagnitude (magnitude value) := by
        rw [hmagnitude]
        unfold readFloat
        split
        · rename_i heq
          exact absurd (List.cons.inj heq).1 hplain
        · rfl
      rw [hsame, hread, abs_of_nonneg (not_lt.mp hnegative)]

theorem floatText_letters (decimal : isDecimal value = true) :
    ∀ letter ∈ floatText value, isLetter letter = true := by
  by_cases hzero : value = 0
  · rw [floatText, if_pos hzero]
    exact List.all_eq_true.mp (by decide)
  · rw [floatText_decimal hzero decimal]
    refine letters_append ?_ (layout_letters (digits_trimmed _) _)
    by_cases hnegative : value < 0
    · rw [if_pos hnegative]
      exact List.all_eq_true.mp (by decide)
    · rw [if_neg hnegative]
      simp

theorem floatText_pointed (value : Rat) : Pointed (floatText value) := by
  by_cases hzero : value = 0
  · rw [floatText, if_pos hzero]
    exact .inl (by decide)
  cases hdecimal : isDecimal value with
  | true =>
      rw [floatText_decimal hzero hdecimal]
      unfold Pointed
      simp only [List.mem_append]
      have hpointed := layout_pointed (trimmed (toString (scaled value)).toList)
        ((toString (scaled value)).toList.length - places value)
      exact hpointed.imp .inr (Or.imp .inr .inr)
  | false =>
      rw [floatText_other hzero hdecimal]
      exact .inr (.inr (by simp))

end magnitude

/-! #### Whole numbers -/

theorem int_letters (value : Int) :
    ∀ letter ∈ (toString value).toList, letter.isDigit = true ∨ letter = '-' := by
  cases value with
  | ofNat number => exact fun letter hmem => .inl (digits_toString number letter hmem)
  | negSucc number =>
      have hwritten : (toString (Int.negSucc number)).toList =
          '-' :: (toString (number + 1)).toList := by
        simp [toString, Int.repr, Nat.repr]
      rw [hwritten]
      exact List.forall_mem_cons.mpr
        ⟨.inr rfl, fun letter hmem => .inl (digits_toString _ letter hmem)⟩

theorem int_first (value : Int) :
    ∃ first tail, (toString value).toList = first :: tail ∧ opensNumber first = true := by
  have hletters := int_letters value
  cases hwritten : (toString value).toList with
  | nil =>
      have hread := Text.int?_toString value
      have hnone : Text.int? "" = none := by decide +kernel
      rw [String.toList_eq_nil_iff.mp hwritten, hnone] at hread
      contradiction
  | cons first tail =>
      rw [hwritten] at hletters
      refine ⟨first, tail, rfl, ?_⟩
      unfold opensNumber
      rcases hletters first (by simp) with h | rfl
      · rw [h, Bool.true_or]
      · decide

theorem int_injective {left right : Int}
    (h : (toString left).toList = (toString right).toList) : left = right := by
  have hread := congrArg Text.int? (String.toList_inj.mp h)
  rw [Text.int?_toString, Text.int?_toString] at hread
  exact Option.some.inj hread

theorem int_not_pointed (value : Int) : ¬Pointed (toString value).toList := by
  have hletters := int_letters value
  rintro (h | h | h)
  all_goals exact absurd (hletters _ h) (by decide)

theorem floatText_injective : Function.Injective floatText := by
  have hother {left right : Rat} (hleft : isDecimal left = true) (hright : isDecimal right = false)
      (h : floatText left = floatText right) : False := by
    have hnonzero : right ≠ 0 := by
      rintro rfl
      rw [isDecimal_zero] at hright
      contradiction
    have hletter := floatText_letters hleft '/' (by
      rw [h, floatText_other hnonzero hright]
      simp)
    exact absurd hletter (by decide)
  intro left right h
  cases hleft : isDecimal left with
  | true =>
      cases hright : isDecimal right with
      | true => rw [← readFloat_floatText hleft, h, readFloat_floatText hright]
      | false => exact (hother hleft hright h).elim
  | false =>
      cases hright : isDecimal right with
      | true => exact (hother hright hleft h.symm).elim
      | false =>
          have hnonzero {value : Rat} (hvalue : isDecimal value = false) : value ≠ 0 := by
            rintro rfl
            rw [isDecimal_zero] at hvalue
            contradiction
          have hslash (value : Int) : '/' ∉ (toString value).toList :=
            fun hmem => int_not_pointed value (.inr (.inr hmem))
          have hdigits (value : Nat) : '/' ∉ (toString value).toList :=
            fun hmem => (digits_toString value).ne (by decide) _ hmem rfl
          rw [floatText_other (hnonzero hleft) hleft, floatText_other (hnonzero hright) hright,
            List.append_cons_inj_of_notMem (hslash _) (hdigits _)] at h
          obtain ⟨hnum, -, hden⟩ := h
          refine Rat.ext (int_injective hnum) ?_
          exact Int.ofNat.inj (int_injective hden)

theorem floatText_numeric (value : Rat) :
    ∀ letter ∈ floatText value, isLetter letter = true ∨ letter = '/' := by
  by_cases hzero : value = 0
  · rw [hzero]
    exact fun letter hmem => .inl (floatText_letters isDecimal_zero letter hmem)
  cases hdecimal : isDecimal value with
  | true => exact fun letter hmem => .inl (floatText_letters hdecimal letter hmem)
  | false =>
      rw [floatText_other hzero hdecimal]
      intro letter hmem
      rcases List.mem_append.mp hmem with h | h
      · left
        rcases int_letters value.num letter h with hdigit | rfl
        · unfold isLetter
          rw [hdigit, Bool.true_or]
        · decide
      · rcases List.mem_cons.mp h with rfl | h
        · exact .inr rfl
        · exact .inl ((digits_toString _).letters letter h)

theorem floatText_first (value : Rat) :
    ∃ first tail, floatText value = first :: tail ∧ opensNumber first = true := by
  by_cases hzero : value = 0
  · rw [floatText, if_pos hzero]
    exact ⟨'0', ['.', '0'], rfl, by decide⟩
  cases hdecimal : isDecimal value with
  | true =>
      rw [floatText_decimal hzero hdecimal]
      by_cases hnegative : value < 0
      · rw [if_pos hnegative]
        exact ⟨'-', magnitude value, rfl, by decide⟩
      · obtain ⟨first, tail, hfirst, hdigit⟩ := layout_first (digits_trimmed (scaled value))
          (trimmed_ne (scaled_ne_zero hzero hdecimal))
          ((toString (scaled value)).toList.length - places value)
        rw [if_neg hnegative, List.nil_append]
        refine ⟨first, tail, hfirst, ?_⟩
        unfold opensNumber
        rw [hdigit, Bool.true_or]
  | false =>
      obtain ⟨first, tail, hfirst, hopen⟩ := int_first value.num
      rw [floatText_other hzero hdecimal, hfirst]
      exact ⟨first, _, rfl, hopen⟩

end FloatText

/-! ### The numbers of a JSON document -/

/-- What `json.loads` makes of a number, and of the constants that it takes for numbers. -/
inductive JsonNumber where
  | int (value : Int)
  | float (value : Rat)
  | negativeZero
  | infinity (negative : Bool)
  | nan
  deriving DecidableEq

namespace JsonNumber

open FloatText

def write : JsonNumber → List Char
  | int value => (toString value).toList
  | float value => floatText value
  | negativeZero => "-0.0".toList
  | infinity negative => if negative then "-Infinity".toList else "Infinity".toList
  | nan => "NaN".toList

/-- A number that JSON has. -/
def finite : JsonNumber → Bool
  | infinity _ => false
  | nan => false
  | _ => true

/-- What a number is that `jsonb` gave back: it keeps the value, in full and with the places that
were written.  One with an exponent that is whole has none then, and zero no sign. -/
def settled : JsonNumber → JsonNumber
  | float value => if value.den = 1 ∧ 'e' ∈ floatText value then int value.num else float value
  | negativeZero => float 0
  | value => value

/-- Which constructor a number has. -/
def form : JsonNumber → Nat
  | int _ => 0
  | float _ => 1
  | negativeZero => 2
  | infinity _ => 3
  | nan => 4

def formOf (text : List Char) : Nat :=
  if 'N' ∈ text then 4
  else if 'I' ∈ text then 3
  else if text = "-0.0".toList then 2
  else if Pointed text then 1
  else 0

theorem floatText_ne_negativeZero (value : Rat) : floatText value ≠ "-0.0".toList := by
  intro h
  cases hdecimal : isDecimal value with
  | true =>
      have hread := readFloat_floatText hdecimal
      have hzero : readFloat "-0.0".toList = 0 := by decide +kernel
      rw [h, hzero] at hread
      rw [← hread, floatText, if_pos rfl] at h
      exact absurd h (by decide)
  | false =>
      have hnonzero : value ≠ 0 := by
        rintro rfl
        rw [isDecimal_zero] at hdecimal
        contradiction
      have hslash : '/' ∈ floatText value := by
        rw [floatText_other hnonzero hdecimal]
        simp
      rw [h] at hslash
      exact absurd hslash (by decide)

theorem formOf_write (number : JsonNumber) : formOf number.write = number.form := by
  cases number with
  | int value =>
      have hletters := int_letters value
      have hnone : ∀ letter, letter.isDigit = false → letter ≠ '-' →
          letter ∉ (toString value).toList := by
        intro letter hdigit hminus hmem
        rcases hletters letter hmem with h | h
        · rw [hdigit] at h
          contradiction
        · exact hminus h
      have hpoint := int_not_pointed value
      have hzero : (toString value).toList ≠ "-0.0".toList := by
        intro h
        rw [h] at hpoint
        exact hpoint (by unfold FloatText.Pointed; decide)
      unfold formOf
      rw [write, if_neg (hnone 'N' (by decide) (by decide)),
        if_neg (hnone 'I' (by decide) (by decide)), if_neg hzero, if_neg hpoint]
      rfl
  | float value =>
      have hnumeric := floatText_numeric value
      have hnone : ∀ letter, isLetter letter = false → letter ≠ '/' →
          letter ∉ floatText value := by
        intro letter hother hslash hmem
        rcases hnumeric letter hmem with h | h
        · rw [hother] at h
          contradiction
        · exact hslash h
      unfold formOf
      rw [write, if_neg (hnone 'N' (by decide) (by decide)),
        if_neg (hnone 'I' (by decide) (by decide)), if_neg (floatText_ne_negativeZero value),
        if_pos (floatText_pointed value)]
      rfl
  | negativeZero => decide
  | infinity negative => cases negative <;> decide
  | nan => decide

theorem write_injective : Function.Injective write := by
  intro left right h
  have hform : left.form = right.form := by rw [← formOf_write, ← formOf_write, h]
  cases left with
  | int value =>
      cases right with
      | int other => exact congrArg int (int_injective h)
      | float | negativeZero | infinity | nan => simp [form] at hform
  | float value =>
      cases right with
      | float other => exact congrArg float (floatText_injective h)
      | int | negativeZero | infinity | nan => simp [form] at hform
  | infinity negative =>
      cases right with
      | infinity other =>
          cases negative <;> cases other <;> first | rfl | exact absurd h (by decide)
      | int | float | negativeZero | nan => simp [form] at hform
  | negativeZero =>
      cases right with
      | negativeZero => rfl
      | int | float | infinity | nan => simp [form] at hform
  | nan =>
      cases right with
      | nan => rfl
      | int | float | negativeZero | infinity => simp [form] at hform

theorem write_numeric (number : JsonNumber) :
    ∀ letter ∈ number.write, isNumeric letter = true := by
  have hletter {letter : Char} (h : isLetter letter = true) : isNumeric letter = true := by
    unfold isLetter at h
    unfold isNumeric
    rcases Bool.or_eq_true_iff.mp h with h | h
    · rw [h, Bool.true_or]
    · have hall : ∀ letter ∈ ['.', 'e', '+', '-'], letter.isDigit || letter ∈
          ['+', '-', '.', 'e', '/', 'I', 'n', 'f', 'i', 't', 'y', 'N', 'a'] := List.all_eq_true.mp (by decide)
      exact hall letter (of_decide_eq_true h)
  cases number with
  | int value =>
      intro letter hmem
      rcases int_letters value letter hmem with h | rfl
      · unfold isNumeric
        rw [h, Bool.true_or]
      · decide
  | float value =>
      intro letter hmem
      rcases floatText_numeric value letter hmem with h | rfl
      · exact hletter h
      · decide
  | negativeZero => exact List.all_eq_true.mp (by decide)
  | infinity negative => cases negative <;> exact List.all_eq_true.mp (by decide)
  | nan => exact List.all_eq_true.mp (by decide)

theorem write_opened (number : JsonNumber) :
    ∃ first tail, number.write = first :: tail ∧ opensNumber first = true := by
  cases number with
  | int value => exact int_first value
  | float value => exact floatText_first value
  | negativeZero => exact ⟨'-', _, rfl, by decide⟩
  | infinity negative =>
      cases negative with
      | true => exact ⟨'-', _, rfl, by decide⟩
      | false => exact ⟨'I', _, rfl, by decide⟩
  | nan => exact ⟨'N', _, rfl, by decide⟩

/-- How `json.dumps` writes numbers. -/
def numbers : NumberText JsonNumber := ⟨write, write_injective, write_numeric, write_opened⟩

end JsonNumber
end DispatchCore.Library
