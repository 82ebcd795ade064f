import DispatchCore.Domain.Events

/-! The compact public numbers of work orders: `A000` to `Z999` for the first
26000 orders of an organization, then base 36 behind an `X`. -/
namespace DispatchCore.Domain

open DispatchCore.Library

def alphabet : List Char := "0123456789ABCDEFGHIJKLMNOPQRSTUVWXYZ".toList

def shortBlockSize : Nat := 1000
def shortBlockCount : Nat := 26
def shortCapacity : Nat := shortBlockSize * shortBlockCount

def base36 (value : Nat) : List Char :=
  if h : value = 0 then []
  else base36 (value / 36) ++ [alphabet.getD (value % 36) '0']
termination_by value

def formatOrderNumber (sequence : Nat) : Except Failure String :=
  if sequence < 1 then .error (.valueError "order number sequence must be positive")
  else
    let offset := sequence - 1
    if offset < shortCapacity then
      let letter := Char.ofNat ('A'.toNat + offset / shortBlockSize)
      .ok (String.ofList [letter] ++
        Text.padLeft 3 '0' (toString (offset % shortBlockSize)))
    else .ok ("X" ++ Text.padLeft 6 '0' (String.ofList (base36 sequence)))

/-! ### No two sequences share a number -/

/-- The number that base-36 digits stand for. -/
def value36 (digits : List Char) : Nat :=
  digits.foldl (fun value digit => value * 36 + alphabet.idxOf digit) 0

theorem value36_append (digits : List Char) (digit : Char) :
    value36 (digits ++ [digit]) = value36 digits * 36 + alphabet.idxOf digit := by
  simp [value36]

theorem idxOf_alphabet {digit : Nat} (h : digit < 36) :
    alphabet.idxOf (alphabet.getD digit '0') = digit := by
  have hall : ∀ digit : Fin 36, alphabet.idxOf (alphabet.getD digit '0') = digit := by decide
  exact hall ⟨digit, h⟩

theorem value36_base36 (value : Nat) : value36 (base36 value) = value := by
  induction value using Nat.strong_induction_on with
  | h value ih =>
      unfold base36
      split
      · rename_i hzero
        rw [hzero]
        rfl
      · rename_i hpositive
        rw [value36_append, ih (value / 36) (by omega), idxOf_alphabet (by omega)]
        omega

theorem value36_zeros (count : Nat) (digits : List Char) :
    value36 (List.replicate count '0' ++ digits) = value36 digits := by
  have hzero : alphabet.idxOf '0' = 0 := rfl
  unfold value36
  rw [List.foldl_append]
  congr 1
  induction count with
  | zero => rfl
  | succ count ih =>
      rw [List.replicate_succ, List.foldl_cons, hzero]
      exact ih

theorem toList_padLeft (width : Nat) (fill : Char) (text : String) :
    (Text.padLeft width fill text).toList =
      List.replicate (width - Text.size text) fill ++ text.toList :=
  String.toList_ofList ..

theorem padLeft_toString_injective {width left right : Nat}
    (h : Text.padLeft width '0' (toString left) = Text.padLeft width '0' (toString right)) :
    left = right := by
  have hread : ∀ value : Nat,
      Nat.ofDigitChars 10 (Text.padLeft width '0' (toString value)).toList 0 = value := by
    intro value
    have hdigits : (toString value).toList = Nat.toDigits 10 value := by
      simp [toString, Nat.repr]
    rw [toList_padLeft, hdigits, Nat.ofDigitChars_append, Nat.ofDigitChars_replicate_zero,
      Nat.mul_zero, Nat.ofDigitChars_ten_toDigits]
  rw [← hread left, h, hread right]

theorem size_padLeft (width : Nat) (fill : Char) (text : String) :
    Text.size (Text.padLeft width fill text) = max width (Text.size text) := by
  unfold Text.size
  rw [toList_padLeft, List.length_append, List.length_replicate]
  unfold Text.size
  omega

/-- A letter, and a position below it in three digits. -/
def shortNumber (offset : Nat) : String :=
  String.ofList [Char.ofNat ('A'.toNat + offset / shortBlockSize)] ++
    Text.padLeft 3 '0' (toString (offset % shortBlockSize))

def longNumber (sequence : Nat) : String :=
  "X" ++ Text.padLeft 6 '0' (String.ofList (base36 sequence))

theorem formatOrderNumber_eq {sequence : Nat} (positive : 1 ≤ sequence) :
    formatOrderNumber sequence = .ok (if sequence - 1 < shortCapacity
      then shortNumber (sequence - 1) else longNumber sequence) := by
  unfold formatOrderNumber shortNumber longNumber
  rw [if_neg (by omega)]
  simp only
  split <;> rfl

theorem size_shortNumber (offset : Nat) : Text.size (shortNumber offset) = 4 := by
  have hdigits : Text.size (toString (offset % shortBlockSize)) ≤ 3 := by
    have hbound : offset % shortBlockSize < 10 ^ 3 := Nat.mod_lt _ (by decide)
    have hlength := (Nat.length_toDigits_le_iff (by decide) (by decide)).mpr hbound
    simpa [Text.size, toString, Nat.repr] using hlength
  have hpadded := size_padLeft 3 '0' (toString (offset % shortBlockSize))
  unfold Text.size at *
  rw [shortNumber, String.toList_append, String.toList_ofList, List.length_append, hpadded,
    List.length_singleton]
  omega

theorem size_longNumber (sequence : Nat) : 7 ≤ Text.size (longNumber sequence) := by
  have hpadded := size_padLeft 6 '0' (String.ofList (base36 sequence))
  unfold Text.size at *
  rw [longNumber, String.toList_append, List.length_append, hpadded]
  have hletter : "X".toList.length = 1 := rfl
  omega

theorem shortNumber_injective {left right : Nat} (hleft : left < shortCapacity)
    (hright : right < shortCapacity) (h : shortNumber left = shortNumber right) :
    left = right := by
  have hletters : ∀ block : Fin 26, (Char.ofNat ('A'.toNat + block)).toNat = 'A'.toNat + block := by
    decide
  have hlist := congrArg String.toList h
  simp only [shortNumber, String.toList_append, String.toList_ofList, List.cons_append,
    List.nil_append, List.cons.injEq] at hlist
  obtain ⟨hletter, hdigits⟩ := hlist
  have hposition : left % shortBlockSize = right % shortBlockSize :=
    padLeft_toString_injective (String.toList_inj.mp hdigits)
  have hblock : left / shortBlockSize = right / shortBlockSize := by
    have hnumber := congrArg Char.toNat hletter
    have hfirst := hletters ⟨left / shortBlockSize, Nat.div_lt_of_lt_mul hleft⟩
    have hsecond := hletters ⟨right / shortBlockSize, Nat.div_lt_of_lt_mul hright⟩
    simp only at hfirst hsecond
    rw [hfirst, hsecond] at hnumber
    omega
  rw [← Nat.div_add_mod left shortBlockSize, ← Nat.div_add_mod right shortBlockSize, hblock,
    hposition]

theorem longNumber_injective {left right : Nat} (h : longNumber left = longNumber right) :
    left = right := by
  have hlist := congrArg String.toList h
  simp only [longNumber, String.toList_append, List.append_cancel_left_eq] at hlist
  have hvalue := congrArg value36 hlist
  simpa [toList_padLeft, value36_zeros, value36_base36] using hvalue

theorem formatOrderNumber_injective {left right : Nat} {text : String}
    (hleft : formatOrderNumber left = .ok text) (hright : formatOrderNumber right = .ok text) :
    left = right := by
  have hpositive : ∀ sequence, formatOrderNumber sequence = .ok text → 1 ≤ sequence := by
    intro sequence hformat
    by_contra hzero
    unfold formatOrderNumber at hformat
    rw [if_pos (by omega)] at hformat
    contradiction
  have hfirst := hpositive left hleft
  have hsecond := hpositive right hright
  rw [formatOrderNumber_eq hfirst] at hleft
  rw [formatOrderNumber_eq hsecond] at hright
  have hsame := hleft.trans hright.symm
  simp only [Except.ok.injEq] at hsame
  -- short and long numbers differ in length
  split at hsame <;> split at hsame
  · rename_i hl hr
    have := shortNumber_injective hl hr hsame
    omega
  · have hl := size_shortNumber (left - 1)
    have hr := size_longNumber right
    rw [hsame] at hl
    omega
  · have hl := size_longNumber left
    have hr := size_shortNumber (right - 1)
    rw [hsame] at hl
    omega
  · exact longNumber_injective hsame

end DispatchCore.Domain
