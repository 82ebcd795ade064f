import Mathlib.Data.Rat.Defs
import DispatchCore.Library.Dict
import DispatchCore.Library.Numeral

/-! JSON values as Python holds them: integers and finite floats are separate
values that compare by what they denote, and a boolean is a number. -/
namespace DispatchCore.Library

inductive Json where
  | null
  | bool (value : Bool)
  | int (value : Int)
  | num (value : Rat)
  | str (value : String)
  | arr (items : List Json)
  | obj (fields : List (String × Json))

namespace Json

instance : Inhabited Json := ⟨null⟩

/-- The number a value denotes, for the values Python compares as numbers. -/
def number? : Json → Option Rat
  | bool true => some 1
  | bool false => some 0
  | int value => some value
  | num value => some value
  | _ => none

mutual
/-- Python's `==`: objects compare as mappings, numbers by value. -/
def same : Json → Json → Bool
  | null, null => true
  | str left, str right => left = right
  | arr left, arr right => sameItems left right
  | obj left, obj right => left.length = right.length && sameFields left right
  | left, right =>
      match left.number?, right.number? with
      | some first, some second => first = second
      | _, _ => false

def sameItems : List Json → List Json → Bool
  | [], [] => true
  | left :: restLeft, right :: restRight => same left right && sameItems restLeft restRight
  | _, _ => false

/-- Every field on the left has an equal field of that name on the right. -/
def sameFields : List (String × Json) → List (String × Json) → Bool
  | [], _ => true
  | (name, value) :: rest, fields =>
      (match Dict.lookup name fields with
        | some other => same value other
        | none => false) && sameFields rest fields
end

def text? : Json → Option String
  | str value => some value
  | _ => none

/-- `isinstance(value, dict)` -/
def dict? : Json → Option (Dict String Json)
  | obj fields => some (Dict.ofList fields)
  | _ => none

/-- `isinstance(value, int)`, which truth values are too -/
def int? : Json → Option Int
  | int value => some value
  | bool value => some (if value then 1 else 0)
  | _ => none

end Json

/-- `bool(value)` -/
def truthValue : Json → Bool
  | .null => false
  | .bool value => value
  | .int value => value ≠ 0
  | .num value => value ≠ 0
  | .str value => value ≠ ""
  | .arr items => !items.isEmpty
  | .obj fields => !fields.isEmpty

/-- `int(value)`, where it does not raise -/
def wholeNumber? : Json → Option Int
  | .bool value => some (if value then 1 else 0)
  | .int value => some value
  | .num value => some (value.num.tdiv value.den)
  | .str value => Text.int? value
  | _ => none

/-- `str(mapping.get(key) or "")`, for keys that hold a text or nothing -/
def Dict.textAt (mapping : Dict String Json) (key : String) : String :=
  ((mapping.get? key).bind Json.text?).getD ""

/-- Python's `==` on two mappings with string keys. -/
def Dict.same (left right : Dict String Json) : Bool :=
  left.entries.length = right.entries.length && Json.sameFields left.entries right.entries

end DispatchCore.Library
