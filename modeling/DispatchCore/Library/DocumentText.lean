import Mathlib.Data.List.TakeWhile
import DispatchCore.Library.Document

/-! What `json.dumps` writes for a document, without blanks and in ASCII, and that it writes it
for no other. -/
namespace DispatchCore.Library

open Text

/-! ### Strings -/

def hex4 (value : Nat) : List Char :=
  [hexDigits.getD (value / 4096 % 16) '0', hexDigits.getD (value / 256 % 16) '0',
    hexDigits.getD (value / 16 % 16) '0', hexDigits.getD (value % 16) '0']

def unicodeEscape (unit : Nat) : List Char := '\\' :: 'u' :: hex4 unit

/-- A letter in a JSON string, in two units of UTF-16 where it has two. -/
def jsonEscape (letter : Char) : List Char :=
  if letter = '"' then ['\\', '"']
  else if letter = '\\' then ['\\', '\\']
  else if letter = '\n' then ['\\', 'n']
  else if letter = '\r' then ['\\', 'r']
  else if letter = '\t' then ['\\', 't']
  else if letter = '\x0c' then ['\\', 'f']
  else if letter = '\x08' then ['\\', 'b']
  else if 32 ≤ letter.toNat ∧ letter.toNat < 127 then [letter]
  else if letter.toNat < 0x10000 then unicodeEscape letter.toNat
  else unicodeEscape (0xd800 + (letter.toNat - 0x10000) / 0x400) ++
    unicodeEscape (0xdc00 + (letter.toNat - 0x10000) % 0x400)

def jsonString (text : String) : List Char :=
  '"' :: (text.toList.flatMap jsonEscape ++ ['"'])

/-! #### Reading a letter back -/

def hexValue (letters : List Char) : Nat :=
  letters.foldl (fun value letter => value * 16 + hexDigits.idxOf letter) 0

/-- The letter that an escape at the front stands for, and what follows. -/
def readLetter : List Char → Char × List Char
  | '\\' :: 'u' :: a :: b :: c :: d :: rest =>
      let unit := hexValue [a, b, c, d]
      if 0xd800 ≤ unit ∧ unit < 0xdc00 then
        match rest with
        | _ :: _ :: e :: f :: g :: h :: rest =>
            (Char.ofNat (0x10000 + (unit - 0xd800) * 0x400 + (hexValue [e, f, g, h] - 0xdc00)),
              rest)
        | rest => (default, rest)
      else (Char.ofNat unit, rest)
  | '\\' :: 'n' :: rest => ('\n', rest)
  | '\\' :: 'r' :: rest => ('\r', rest)
  | '\\' :: 't' :: rest => ('\t', rest)
  | '\\' :: 'f' :: rest => ('\x0c', rest)
  | '\\' :: 'b' :: rest => ('\x08', rest)
  | '\\' :: letter :: rest => (letter, rest)
  | letter :: rest => (letter, rest)
  | [] => (default, [])

theorem hexValue_hex4 {value : Nat} (h : value < 0x10000) : hexValue (hex4 value) = value := by
  have hdigit : ∀ digit, hexDigits.idxOf (hexDigits.getD (digit % 16) '0') = digit % 16 := by
    intro digit
    have hall : ∀ digit : Fin 16, hexDigits.idxOf (hexDigits.getD digit '0') = digit := by decide
    exact hall ⟨digit % 16, Nat.mod_lt _ (by decide)⟩
  simp only [hexValue, hex4, List.foldl_cons, List.foldl_nil, hdigit]
  omega

theorem readLetter_unicodeEscape {unit : Nat} (h : unit < 0x10000)
    (single : ¬(0xd800 ≤ unit ∧ unit < 0xdc00)) (rest : List Char) :
    readLetter (unicodeEscape unit ++ rest) = (Char.ofNat unit, rest) := by
  have hvalue := hexValue_hex4 h
  unfold hex4 at hvalue
  simp only [unicodeEscape, hex4, List.cons_append, List.nil_append, readLetter, hvalue,
    if_neg single]

theorem readLetter_surrogates {high low : Nat} (hhigh : 0xd800 ≤ high ∧ high < 0xdc00)
    (hlow : low < 0x10000) (rest : List Char) :
    readLetter (unicodeEscape high ++ (unicodeEscape low ++ rest)) =
      (Char.ofNat (0x10000 + (high - 0xd800) * 0x400 + (low - 0xdc00)), rest) := by
  have hfirst := hexValue_hex4 (show high < 0x10000 by omega)
  have hsecond := hexValue_hex4 hlow
  unfold hex4 at hfirst hsecond
  simp only [unicodeEscape, hex4, List.cons_append, List.nil_append, readLetter, hfirst, hsecond,
    if_pos hhigh]

theorem readLetter_plain {letter : Char} (plain : letter ≠ '\\') (rest : List Char) :
    readLetter (letter :: rest) = (letter, rest) := by
  simp [readLetter, plain]

/-- A letter that takes two units of UTF-16. -/
theorem ofNat_surrogates {letter : Char} (h : 0x10000 ≤ letter.toNat) :
    Char.ofNat (0x10000 + (0xd800 + (letter.toNat - 0x10000) / 0x400 - 0xd800) * 0x400 +
      (0xdc00 + (letter.toNat - 0x10000) % 0x400 - 0xdc00)) = letter := by
  have hvalue : 0x10000 + (0xd800 + (letter.toNat - 0x10000) / 0x400 - 0xd800) * 0x400 +
      (0xdc00 + (letter.toNat - 0x10000) % 0x400 - 0xdc00) = letter.toNat := by
    omega
  rw [hvalue, Char.ofNat_toNat]

theorem toNat_lt (letter : Char) : letter.toNat < 0x110000 := by
  rcases letter.valid with h | h
  · exact h.trans (by decide)
  · exact h.2

theorem toNat_not_surrogate (letter : Char) :
    ¬(0xd800 ≤ letter.toNat ∧ letter.toNat < 0xdc00) := by
  rintro ⟨hle, hlt⟩
  rcases letter.valid with h | h
  · exact absurd h (not_lt.mpr hle)
  · exact absurd h.1 (not_lt.mpr (hlt.le.trans (by decide)))

theorem readLetter_jsonEscape (letter : Char) (rest : List Char) :
    readLetter (jsonEscape letter ++ rest) = (letter, rest) := by
  unfold jsonEscape
  by_cases hquote : letter = '"'
  · rw [if_pos hquote, hquote]
    rfl
  by_cases hslash : letter = '\\'
  · rw [if_neg hquote, if_pos hslash, hslash]
    rfl
  rw [if_neg hquote, if_neg hslash]
  by_cases hline : letter = '\n'
  · rw [if_pos hline, hline]
    rfl
  by_cases hreturn : letter = '\r'
  · rw [if_neg hline, if_pos hreturn, hreturn]
    rfl
  rw [if_neg hline, if_neg hreturn]
  by_cases htab : letter = '\t'
  · rw [if_pos htab, htab]
    rfl
  by_cases hfeed : letter = '\x0c'
  · rw [if_neg htab, if_pos hfeed, hfeed]
    rfl
  rw [if_neg htab, if_neg hfeed]
  by_cases hback : letter = '\x08'
  · rw [if_pos hback, hback]
    rfl
  rw [if_neg hback]
  by_cases hplain : 32 ≤ letter.toNat ∧ letter.toNat < 127
  · rw [if_pos hplain]
    exact readLetter_plain hslash rest
  rw [if_neg hplain]
  by_cases hsingle : letter.toNat < 0x10000
  · rw [if_pos hsingle, readLetter_unicodeEscape hsingle (toNat_not_surrogate letter),
      Char.ofNat_toNat]
  · have hlt := toNat_lt letter
    rw [if_neg hsingle, List.append_assoc, readLetter_surrogates (by omega) (by omega),
      ofNat_surrogates (not_lt.mp hsingle)]

/-- Two escapes with something after them are alike only for one letter. -/
theorem jsonEscape_append {left right : Char} {rest other : List Char}
    (h : jsonEscape left ++ rest = jsonEscape right ++ other) : left = right ∧ rest = other := by
  have hread := congrArg readLetter h
  rw [readLetter_jsonEscape, readLetter_jsonEscape] at hread
  exact Prod.mk.inj hread

/-- No escape begins as a string ends. -/
theorem jsonEscape_cons (letter : Char) :
    ∃ first rest, jsonEscape letter = first :: rest ∧ first ≠ '"' := by
  unfold jsonEscape
  by_cases hquote : letter = '"'
  · exact ⟨'\\', ['"'], if_pos hquote, by decide⟩
  · rw [if_neg hquote]
    split_ifs
    all_goals first
      | exact ⟨_, _, rfl, by decide⟩
      | exact ⟨_, _, rfl, hquote⟩

theorem flatMap_jsonEscape {left right rest other : List Char}
    (h : left.flatMap jsonEscape ++ '"' :: rest = right.flatMap jsonEscape ++ '"' :: other) :
    left = right ∧ rest = other := by
  induction left generalizing right with
  | nil =>
      cases right with
      | nil => exact ⟨rfl, (List.cons.inj h).2⟩
      | cons letter letters =>
          obtain ⟨first, more, hescape, hfirst⟩ := jsonEscape_cons letter
          rw [List.flatMap_cons, hescape] at h
          exact absurd (List.cons.inj h).1.symm hfirst
  | cons letter letters ih =>
      cases right with
      | nil =>
          obtain ⟨first, more, hescape, hfirst⟩ := jsonEscape_cons letter
          rw [List.flatMap_cons, hescape] at h
          exact absurd (List.cons.inj h).1 hfirst
      | cons otherLetter otherLetters =>
          rw [List.flatMap_cons, List.flatMap_cons, List.append_assoc, List.append_assoc] at h
          obtain ⟨rfl, hrest⟩ := jsonEscape_append h
          obtain ⟨rfl, hsame⟩ := ih hrest
          exact ⟨rfl, hsame⟩

theorem jsonString_append {left right : String} {rest other : List Char}
    (h : jsonString left ++ rest = jsonString right ++ other) : left = right ∧ rest = other := by
  unfold jsonString at h
  simp only [List.cons_append, List.append_assoc, List.nil_append] at h
  obtain ⟨hletters, hrest⟩ := flatMap_jsonEscape (List.cons.inj h).2
  exact ⟨String.toList_inj.mp hletters, hrest⟩

/-! ### Whole documents -/

/-- What follows a document within another, or nothing. -/
def Stops (rest : List Char) : Prop :=
  ∀ letter, rest.head? = some letter → letter ∈ [',', ']', '}']

/-- What is written for a value, with something after it that ends it, is written for no
other. -/
def Readable {α : Type} (write : α → List Char) (value : α) : Prop :=
  ∀ other rest more, Stops rest → Stops more → write value ++ rest = write other ++ more →
    value = other ∧ rest = more

/-- The letters of numbers, `Infinity` and `NaN` among them. -/
def isNumeric (letter : Char) : Bool :=
  letter.isDigit ||
    letter ∈ ['+', '-', '.', 'e', '/', 'I', 'n', 'f', 'i', 't', 'y', 'N', 'a']

/-- The letters that a number begins with. -/
def opensNumber (letter : Char) : Bool := letter.isDigit || letter ∈ ['-', 'I', 'N']

/-- How the numbers of a document are written. -/
structure NumberText (ν : Type) where
  write : ν → List Char
  injective : Function.Injective write
  numeric : ∀ value, ∀ letter ∈ write value, isNumeric letter = true
  opened : ∀ value, ∃ first tail, write value = first :: tail ∧ opensNumber first = true

/-- Parts after the first, and the end. -/
def followed (close : Char) : List (List Char) → List Char
  | [] => [close]
  | part :: rest => ',' :: (part ++ followed close rest)

/-- Parts with commas in between, and the end. -/
def listed (close : Char) : List (List Char) → List Char
  | [] => [close]
  | part :: rest => part ++ followed close rest

def member (name : String) (value : List Char) : List Char := jsonString name ++ ':' :: value

namespace Document

variable {ν : Type}

/-- `json.dumps(document, separators=(",", ":"))` -/
def text (numbers : NumberText ν) : Document ν → List Char :=
  fold ⟨"null".toList, fun value => if value then "true".toList else "false".toList, numbers.write,
    jsonString, fun items => '[' :: listed ']' items,
    fun fields => '{' :: listed '}' (fields.map fun field => member field.1 field.2)⟩

variable {numbers : NumberText ν}

theorem text_arr (items : List (Document ν)) :
    (arr items).text numbers = '[' :: listed ']' (items.map (text numbers)) := fold_arr items

theorem text_obj (fields : List (String × Document ν)) :
    (obj fields).text numbers =
      '{' :: listed '}' (fields.map fun field => member field.1 (field.2.text numbers)) := by
  unfold text
  rw [fold_obj]
  simp only [List.map_map, Function.comp_def]

/-! ### Lists of parts -/

theorem stops_cons {letter : Char} (h : letter ∈ [',', ']', '}']) (rest : List Char) :
    Stops (letter :: rest) := by
  intro first hfirst
  rw [← Option.some.inj hfirst]
  exact h

section lists

variable {α : Type} {write : α → List Char} {close : Char} {rest more : List Char}

theorem stops_followed (closing : close ∈ [']', '}']) (parts : List (List Char)) :
    Stops (followed close parts ++ rest) := by
  cases parts with
  | nil => exact stops_cons (List.mem_cons_of_mem _ closing) _
  | cons part others => exact stops_cons (by decide) _

theorem followed_append (closing : close ∈ [']', '}']) {values others : List α}
    (readable : ∀ value ∈ values, Readable write value)
    (h : followed close (values.map write) ++ rest = followed close (others.map write) ++ more) :
    values = others ∧ rest = more := by
  have hcomma : close ≠ ',' := by
    rintro rfl
    revert closing
    decide
  induction values generalizing others with
  | nil =>
      cases others with
      | nil => exact ⟨rfl, (List.cons.inj h).2⟩
      | cons other last => exact absurd (List.cons.inj h).1 hcomma
  | cons value values ih =>
      cases others with
      | nil => exact absurd (List.cons.inj h).1.symm hcomma
      | cons other last =>
          simp only [List.map_cons, followed, List.cons_append, List.append_assoc,
            List.cons.injEq, true_and] at h
          obtain ⟨rfl, hrest⟩ := readable value (by simp) other _ _
            (stops_followed closing _) (stops_followed closing _) h
          obtain ⟨rfl, hsame⟩ := ih (fun value hmem => readable value (by simp [hmem])) hrest
          exact ⟨rfl, hsame⟩

/-- A list of parts is told from its text where no part begins as the list ends. -/
theorem listed_append (closing : close ∈ [']', '}']) {values others : List α}
    (readable : ∀ value ∈ values, Readable write value)
    (opened : ∀ value, ∃ first tail, write value = first :: tail ∧ first ≠ close)
    (h : listed close (values.map write) ++ rest = listed close (others.map write) ++ more) :
    values = others ∧ rest = more := by
  cases values with
  | nil =>
      cases others with
      | nil => exact ⟨rfl, (List.cons.inj h).2⟩
      | cons other last =>
          obtain ⟨first, tail, hwrite, hfirst⟩ := opened other
          rw [List.map_cons, listed, hwrite] at h
          exact absurd (List.cons.inj h).1.symm hfirst
  | cons value values =>
      cases others with
      | nil =>
          obtain ⟨first, tail, hwrite, hfirst⟩ := opened value
          rw [List.map_cons, listed, hwrite] at h
          exact absurd (List.cons.inj h).1 hfirst
      | cons other last =>
          rw [List.map_cons, List.map_cons, listed, listed, List.append_assoc,
            List.append_assoc] at h
          obtain ⟨rfl, hrest⟩ := readable value (by simp) other _ _
            (stops_followed closing _) (stops_followed closing _) h
          obtain ⟨rfl, hsame⟩ := followed_append closing
            (fun value hmem => readable value (by simp [hmem])) hrest
          exact ⟨rfl, hsame⟩

end lists

/-! ### Which kind of document it is -/

def kind : Document ν → Nat
  | null => 0
  | bool true => 1
  | bool false => 2
  | number _ => 3
  | str _ => 4
  | arr _ => 5
  | obj _ => 6

/-- The kind of the documents that begin with a letter, if any do. -/
def kindOf (letter : Char) : Nat :=
  if opensNumber letter then 3
  else if letter = 'n' then 0
  else if letter = 't' then 1
  else if letter = 'f' then 2
  else if letter = '"' then 4
  else if letter = '[' then 5
  else if letter = '{' then 6
  else 7

theorem text_cons (numbers : NumberText ν) (document : Document ν) :
    ∃ first tail, document.text numbers = first :: tail ∧ kindOf first = document.kind := by
  cases document with
  | null => exact ⟨_, _, rfl, rfl⟩
  | bool value => cases value <;> exact ⟨_, _, rfl, rfl⟩
  | number value =>
      obtain ⟨first, tail, hwrite, hopen⟩ := numbers.opened value
      exact ⟨first, tail, hwrite, if_pos hopen⟩
  | str value => exact ⟨_, _, rfl, rfl⟩
  | arr items => exact ⟨_, _, text_arr items, rfl⟩
  | obj fields => exact ⟨_, _, text_obj fields, rfl⟩

theorem kind_of_text {left right : Document ν} {rest more : List Char}
    (h : left.text numbers ++ rest = right.text numbers ++ more) : left.kind = right.kind := by
  obtain ⟨first, tail, hfirst, hkind⟩ := text_cons numbers left
  obtain ⟨other, others, hother, hotherKind⟩ := text_cons numbers right
  rw [hfirst, hother] at h
  rw [← hkind, ← hotherKind, (List.cons.inj h).1]

theorem write_append {left right : ν} {rest more : List Char} (hrest : Stops rest)
    (hmore : Stops more) (h : numbers.write left ++ rest = numbers.write right ++ more) :
    left = right ∧ rest = more := by
  have hcut : ∀ value tail, Stops tail →
      (numbers.write value ++ tail).takeWhile isNumeric = numbers.write value := by
    intro value tail htail
    rw [List.takeWhile_append_of_pos (numbers.numeric value)]
    have hnone : tail.takeWhile isNumeric = [] := by
      cases tail with
      | nil => rfl
      | cons letter letters =>
          have hall : ∀ letter ∈ [',', ']', '}'], (!isNumeric letter) = true :=
            List.all_eq_true.mp (by decide)
          exact List.takeWhile_cons_of_neg (by simpa using hall letter (htail letter rfl))
    rw [hnone, List.append_nil]
  have hwrite := congrArg (List.takeWhile isNumeric) h
  rw [hcut left rest hrest, hcut right more hmore] at hwrite
  have hsame := numbers.injective hwrite
  rw [hsame] at h
  exact ⟨hsame, List.append_cancel_left h⟩

section kinds

variable {document : Document ν}

theorem null_of_kind (h : (null : Document ν).kind = document.kind) : document = null := by
  cases document with
  | null => rfl
  | bool value => cases value <;> simp [kind] at h
  | number | str | arr | obj => simp [kind] at h

theorem bool_of_kind {value : Bool} (h : (bool value : Document ν).kind = document.kind) :
    document = bool value := by
  cases document with
  | bool other => cases value <;> cases other <;> first | rfl | simp [kind] at h
  | null | number | str | arr | obj => cases value <;> simp [kind] at h

theorem number_of_kind {value : ν} (h : (number value).kind = document.kind) :
    ∃ other, document = number other := by
  cases document with
  | number other => exact ⟨other, rfl⟩
  | bool value => cases value <;> simp [kind] at h
  | null | str | arr | obj => simp [kind] at h

theorem str_of_kind {value : String} (h : (str value : Document ν).kind = document.kind) :
    ∃ other, document = str other := by
  cases document with
  | str other => exact ⟨other, rfl⟩
  | bool value => cases value <;> simp [kind] at h
  | null | number | arr | obj => simp [kind] at h

theorem arr_of_kind {items : List (Document ν)} (h : (arr items).kind = document.kind) :
    ∃ others, document = arr others := by
  cases document with
  | arr others => exact ⟨others, rfl⟩
  | bool value => cases value <;> simp [kind] at h
  | null | number | str | obj => simp [kind] at h

theorem obj_of_kind {fields : List (String × Document ν)} (h : (obj fields).kind = document.kind) :
    ∃ others, document = obj others := by
  cases document with
  | obj others => exact ⟨others, rfl⟩
  | bool value => cases value <;> simp [kind] at h
  | null | number | str | arr => simp [kind] at h

end kinds

/-- No document begins as a list of documents ends. -/
theorem text_opened (document : Document ν) :
    ∃ first tail, document.text numbers = first :: tail ∧ first ≠ ']' := by
  obtain ⟨first, tail, htext, hkind⟩ := text_cons numbers document
  refine ⟨first, tail, htext, ?_⟩
  rintro rfl
  have hnone : document.kind = 7 := hkind.symm.trans (by decide)
  cases document with
  | bool value => cases value <;> simp [kind] at hnone
  | null | number | str | arr | obj => simp [kind] at hnone

theorem member_readable {name : String} {value : Document ν}
    (readable : Readable (text numbers) value) :
    Readable (fun field : String × Document ν => member field.1 (field.2.text numbers))
      (name, value) := by
  rintro ⟨other, second⟩ rest more hrest hmore h
  simp only [member, List.append_assoc, List.cons_append] at h
  obtain ⟨rfl, hvalues⟩ := jsonString_append h
  obtain ⟨rfl, hsame⟩ := readable second rest more hrest hmore (List.cons.inj hvalues).2
  exact ⟨rfl, hsame⟩

/-- Documents inside others are told from their texts, too: by induction on the document, and
by its kind, which the first letter shows. -/
theorem text_readable (document : Document ν) : Readable (text numbers) document := by
  induction document using induct with
  | null =>
      intro other rest more hrest hmore h
      obtain rfl := null_of_kind (kind_of_text h)
      exact ⟨rfl, List.append_cancel_left h⟩
  | bool value =>
      intro other rest more hrest hmore h
      obtain rfl := bool_of_kind (kind_of_text h)
      exact ⟨rfl, List.append_cancel_left h⟩
  | number value =>
      intro other rest more hrest hmore h
      obtain ⟨second, rfl⟩ := number_of_kind (kind_of_text h)
      obtain ⟨rfl, hsame⟩ := write_append hrest hmore h
      exact ⟨rfl, hsame⟩
  | str value =>
      intro other rest more hrest hmore h
      obtain ⟨second, rfl⟩ := str_of_kind (kind_of_text h)
      obtain ⟨rfl, hsame⟩ := jsonString_append h
      exact ⟨rfl, hsame⟩
  | arr items ih =>
      intro other rest more hrest hmore h
      obtain ⟨others, rfl⟩ := arr_of_kind (kind_of_text h)
      rw [text_arr, text_arr] at h
      obtain ⟨rfl, hsame⟩ := listed_append (by decide) ih text_opened (List.cons.inj h).2
      exact ⟨rfl, hsame⟩
  | obj fields ih =>
      intro other rest more hrest hmore h
      obtain ⟨others, rfl⟩ := obj_of_kind (kind_of_text h)
      rw [text_obj, text_obj] at h
      obtain ⟨rfl, hsame⟩ := listed_append (by decide)
        (fun field hfield => member_readable (ih field hfield))
        (fun field => ⟨'"', _, rfl, by decide⟩) (List.cons.inj h).2
      exact ⟨rfl, hsame⟩

/-- What is written for a document is written for no other. -/
theorem text_injective : Function.Injective (text numbers) := by
  intro left right h
  have hnothing : Stops [] := fun letter hletter => absurd hletter (by simp)
  exact (text_readable left right [] [] hnothing hnothing (by rw [h])).1

end Document
end DispatchCore.Library
