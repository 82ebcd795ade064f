import Mathlib.Data.List.TakeWhile
import Mathlib.Data.Char

/-! Python text operations on Unicode strings, code point by code point. -/
namespace DispatchCore.Library.Text

/-- The code points `str.isspace` accepts one by one, hence those `strip` removes. -/
def whitespace : List Nat :=
  [0x9, 0xa, 0xb, 0xc, 0xd, 0x1c, 0x1d, 0x1e, 0x1f, 0x20, 0x85, 0xa0, 0x1680, 0x2000,
    0x2001, 0x2002, 0x2003, 0x2004, 0x2005, 0x2006, 0x2007, 0x2008, 0x2009, 0x200a,
    0x2028, 0x2029, 0x202f, 0x205f, 0x3000]

def isSpace (letter : Char) : Bool := letter.toNat ∈ whitespace

/-- `str.strip()` -/
def strip (text : String) : String :=
  String.ofList (((text.toList.dropWhile isSpace).reverse.dropWhile isSpace).reverse)

/-- `text[:count]` -/
def take (text : String) (count : Nat) : String := String.ofList (text.toList.take count)

/-- `text.split()` -/
def words (text : String) : List String :=
  ((text.toList.splitOnP isSpace).filter fun word => word ≠ []).map String.ofList

/-- `len(text)` -/
def size (text : String) : Nat := text.toList.length

/-- `text.split(separator)` for one letter -/
def splitOn (separator : Char) (text : String) : List String :=
  (text.toList.splitOn separator).map String.ofList

/-- `separator.join(parts)` -/
def join (separator : String) : List String → String
  | [] => ""
  | [part] => part
  | part :: rest => part ++ separator ++ join separator rest

/-- `text.rjust(width, fill)` -/
def padLeft (width : Nat) (fill : Char) (text : String) : String :=
  String.ofList (List.replicate (width - size text) fill ++ text.toList)

def hexDigits : List Char :=
  ['0', '1', '2', '3', '4', '5', '6', '7', '8', '9', 'a', 'b', 'c', 'd', 'e', 'f']

def escape (quote letter : Char) : List Char :=
  if letter = '\\' ∨ letter = quote then ['\\', letter]
  else if letter = '\n' then ['\\', 'n']
  else if letter = '\r' then ['\\', 'r']
  else if letter = '\t' then ['\\', 't']
  else if letter.toNat < 32 ∨ letter.toNat = 127 then
    ['\\', 'x', hexDigits.getD (letter.toNat / 16) '0', hexDigits.getD (letter.toNat % 16) '0']
  else [letter]

/-- `repr(text)`, with every letter outside ASCII taken as printable -/
def repr (text : String) : String :=
  let quote := if '\'' ∈ text.toList ∧ '"' ∉ text.toList then '"' else '\''
  String.ofList ([quote] ++ text.toList.flatMap (escape quote) ++ [quote])

theorem strip_eq_empty (text : String) :
    strip text = "" ↔ ∀ letter ∈ text.toList, isSpace letter = true := by
  unfold strip
  rw [← String.toList_inj, String.toList_ofList, String.toList_empty,
    List.reverse_eq_nil_iff, List.dropWhile_eq_nil_iff]
  constructor
  · intro h letter hmem
    by_contra hspace
    have hdrop : text.toList.dropWhile isSpace ≠ [] := by
      rw [ne_eq, List.dropWhile_eq_nil_iff]
      intro hall
      exact hspace (hall letter hmem)
    have hhead := List.head_dropWhile_not isSpace hdrop
    have hlast := h _ (List.mem_reverse.mpr (List.head_mem hdrop))
    rw [hlast] at hhead
    contradiction
  · intro h letter hmem
    exact h letter ((List.dropWhile_sublist isSpace).mem (List.mem_reverse.mp hmem))

@[simp] theorem strip_empty : strip "" = "" := by decide

theorem ne_empty_of_strip {text : String} (h : strip text ≠ "") : text ≠ "" := by
  intro heq
  exact h (heq ▸ strip_empty)

theorem size_strip_le (text : String) : size (strip text) ≤ size text := by
  unfold size strip
  rw [String.toList_ofList, List.length_reverse]
  calc ((text.toList.dropWhile isSpace).reverse.dropWhile isSpace).length
      ≤ (text.toList.dropWhile isSpace).reverse.length := (List.dropWhile_sublist _).length_le
    _ = (text.toList.dropWhile isSpace).length := List.length_reverse
    _ ≤ text.toList.length := (List.dropWhile_sublist _).length_le

theorem size_take_le (text : String) (count : Nat) : size (take text count) ≤ count := by
  unfold size take
  rw [String.toList_ofList]
  exact List.length_take_le _ _

theorem take_of_size_le {text : String} {count : Nat} (short : size text ≤ count) :
    take text count = text := by
  unfold take
  rw [List.take_of_length_le short, String.ofList_toList]

/-- A stripped text begins with a letter that is no blank, and so does what is cut off it. -/
theorem strip_take_strip_ne {text : String} {count : Nat} (worded : take (strip text) count ≠ "") :
    strip (take (strip text) count) ≠ "" := by
  intro hblank
  have hprefix : (take (strip text) count).toList <+: text.toList.dropWhile isSpace := by
    unfold take strip
    rw [String.toList_ofList, String.toList_ofList]
    refine (List.take_prefix _ _).trans ?_
    rw [← List.reverse_suffix, List.reverse_reverse]
    exact List.dropWhile_suffix _
  have hletters : (take (strip text) count).toList ≠ [] := by
    rw [ne_eq, ← String.toList_empty, String.toList_inj]
    exact worded
  have hspace := (strip_eq_empty _).mp hblank _ (List.head_mem hletters)
  obtain ⟨rest, hrest⟩ := hprefix
  have hdrop : text.toList.dropWhile isSpace ≠ [] := by
    rw [← hrest]
    exact List.append_ne_nil_of_left_ne_nil hletters rest
  have hhead := List.head_dropWhile_not isSpace hdrop
  simp only [← hrest, List.head_append_of_ne_nil hletters, hspace] at hhead
  contradiction

end DispatchCore.Library.Text
