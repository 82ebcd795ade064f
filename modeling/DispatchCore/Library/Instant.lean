import DispatchCore.Library.Text

/-! Points in time with microsecond precision, written in UTC. -/
namespace DispatchCore.Library

/-- Microseconds since 1970-01-01T00:00:00+00:00. -/
structure Instant where
  microseconds : Int
deriving DecidableEq, Repr

namespace Instant

instance : Inhabited Instant := ⟨⟨0⟩⟩

instance : LT Instant := ⟨fun left right => left.microseconds < right.microseconds⟩

instance : LE Instant := ⟨fun left right => left.microseconds ≤ right.microseconds⟩

instance (left right : Instant) : Decidable (left < right) :=
  inferInstanceAs (Decidable (left.microseconds < right.microseconds))

instance (left right : Instant) : Decidable (left ≤ right) :=
  inferInstanceAs (Decidable (left.microseconds ≤ right.microseconds))

@[simp] theorem lt_def (left right : Instant) :
    left < right ↔ left.microseconds < right.microseconds := Iff.rfl

@[simp] theorem le_def (left right : Instant) :
    left ≤ right ↔ left.microseconds ≤ right.microseconds := Iff.rfl

/-- `max(left, right)`, the first of two equal instants -/
def latest (left right : Instant) : Instant := if left < right then right else left

def addSeconds (instant : Instant) (seconds : Int) : Instant :=
  ⟨instant.microseconds + seconds * 1000000⟩

/-- Year, month and day of the civil calendar for a day counted from 1970-01-01. -/
def civil (day : Int) : Int × Int × Int :=
  let shifted := day + 719468
  let era := shifted.fdiv 146097
  let dayOfEra := shifted - era * 146097
  let yearOfEra := (dayOfEra - dayOfEra / 1460 + dayOfEra / 36524 - dayOfEra / 146096) / 365
  let dayOfYear := dayOfEra - (365 * yearOfEra + yearOfEra / 4 - yearOfEra / 100)
  let shiftedMonth := (5 * dayOfYear + 2) / 153
  let month := if shiftedMonth < 10 then shiftedMonth + 3 else shiftedMonth - 9
  let year := yearOfEra + era * 400 + (if month ≤ 2 then 1 else 0)
  (year, month, dayOfYear - (153 * shiftedMonth + 2) / 5 + 1)

/-- `datetime.isoformat()` of a time in UTC: the fraction is left out when it is zero. -/
def isoformat (instant : Instant) : String :=
  let day := instant.microseconds.fdiv 86400000000
  let rest := instant.microseconds - day * 86400000000
  let (year, month, date) := civil day
  let seconds := rest / 1000000
  let pad (width : Nat) (value : Int) : String := Text.padLeft width '0' (toString value)
  let fraction :=
    if rest % 1000000 = 0 then "" else "." ++ pad 6 (rest % 1000000)
  pad 4 year ++ "-" ++ pad 2 month ++ "-" ++ pad 2 date ++ "T" ++ pad 2 (seconds / 3600) ++ ":" ++
    pad 2 (seconds / 60 % 60) ++ ":" ++ pad 2 (seconds % 60) ++ fraction ++ "+00:00"

example : isoformat ⟨1709210096000007⟩ = "2024-02-29T12:34:56.000007+00:00" := by decide

end Instant
end DispatchCore.Library
