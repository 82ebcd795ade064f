import DispatchCore.Infrastructure.Staff

/-! The pre-authentication sessions of accounts that are no staff yet: a session
is begun, spends an attempt for every wrong code, and runs out. -/
namespace DispatchCore.Infrastructure

open DispatchCore.Library DispatchCore.Domain

inductive StaffFrontend
  | operator
  | master
  | staff
deriving DecidableEq, Repr

def StaffFrontend.value : StaffFrontend → String
  | operator => "operator"
  | master => "master"
  | staff => "staff"

/-- `_staff_frontend_role` -/
def staffFrontendRole : String → Option StaffFrontend
  | "operator" => some .operator
  | "master" => some .master
  | "staff" => some .staff
  | "staff:operator" => some .operator
  | "staff:master" => some .master
  | _ => none

structure BindingKey where
  organizationId : String
  provider : Provider
  externalUserId : String
  frontend : StaffFrontend
deriving DecidableEq

def maxBindingAttempts : Nat := 5

/-- A row of `staff_binding_sessions`, with the check of its column. -/
structure BindingRow where
  attempts : Nat
  expiresAt : Instant
  bounded : attempts ≤ maxBindingAttempts

abbrev BindingRows := Dict BindingKey BindingRow

def BindingRow.Active (row : BindingRow) (now : Instant) : Prop :=
  now < row.expiresAt ∧ row.attempts < maxBindingAttempts

instance (row : BindingRow) (now : Instant) : Decidable (row.Active now) :=
  inferInstanceAs (Decidable (_ ∧ _))

namespace BindingRows

def opened (ttlMinutes : Int) (now : Instant) : BindingRow :=
  ⟨0, now.addSeconds (ttlMinutes * 60), Nat.zero_le _⟩

/-- There is no session, or it has run out. -/
def Over (rows : BindingRows) (key : BindingKey) (now : Instant) : Prop :=
  ∀ row ∈ rows.get? key, row.expiresAt ≤ now

instance (rows : BindingRows) (key : BindingKey) (now : Instant) : Decidable (rows.Over key now) :=
  inferInstanceAs (Decidable (∀ row ∈ rows.get? key, row.expiresAt ≤ now))

/-- A session that has not run out stays as it is, its attempts with it. -/
def begun (rows : BindingRows) (key : BindingKey) (ttlMinutes : Int) (now : Instant) :
    BindingRow :=
  match rows.get? key with
  | some row => if row.expiresAt ≤ now then opened ttlMinutes now else row
  | none => opened ttlMinutes now

def begin (rows : BindingRows) (key : BindingKey) (ttlMinutes : Int) (now : Instant) :
    Except Failure (Bool × BindingRows) :=
  if ttlMinutes ≤ 0 then .error (.valueError "binding session TTL must be positive")
  else
    let row := begun rows key ttlMinutes now
    .ok (decide (row.Active now), rows.set key row)

/-- One attempt is reserved; an inactive session has none. -/
def takeAttempt (rows : BindingRows) (key : BindingKey) (now : Instant) :
    Option Nat × BindingRows :=
  match rows.get? key with
  | some row =>
      if h : row.Active now then
        (some (row.attempts + 1), rows.set key ⟨row.attempts + 1, row.expiresAt, h.2⟩)
      else (none, rows)
  | none => (none, rows)

def isActive (rows : BindingRows) (key : BindingKey) (now : Instant) : Bool :=
  (rows.get? key).any fun row => row.Active now

def clear (rows : BindingRows) (key : BindingKey) : BindingRows := rows.erase key

def cleanupExpired (rows : BindingRows) (now : Instant) : BindingRows :=
  rows.restrict fun _ row => now < row.expiresAt

theorem begun_of_over {rows : BindingRows} {key : BindingKey} {now : Instant}
    (h : rows.Over key now) (ttlMinutes : Int) :
    rows.begun key ttlMinutes now = opened ttlMinutes now := by
  unfold begun
  cases hrow : rows.get? key with
  | none => rfl
  | some row =>
      simp only
      rw [if_pos (h row hrow)]

theorem begun_of_running {rows : BindingRows} {key : BindingKey} {now : Instant}
    (h : ¬rows.Over key now) (ttlMinutes : Int) :
    rows.get? key = some (rows.begun key ttlMinutes now) := by
  unfold Over at h
  push Not at h
  obtain ⟨row, hrow, hrunning⟩ := h
  unfold begun
  rw [hrow]
  simp only
  rw [if_neg (by simpa using hrunning)]

theorem get?_takeAttempt_of_ne (rows : BindingRows) {key other : BindingKey} (h : other ≠ key)
    (now : Instant) : (rows.takeAttempt key now).2.get? other = rows.get? other := by
  unfold takeAttempt
  split
  · split
    · exact Dict.get?_set_of_ne _ _ h
    · rfl
  · rfl

/-- An active session has one attempt less; another one is as it was. -/
theorem get?_takeAttempt {rows : BindingRows} {key : BindingKey} {now : Instant}
    {next : BindingRow} (h : (rows.takeAttempt key now).2.get? key = some next) :
    ∃ row, rows.get? key = some row ∧ next.expiresAt = row.expiresAt ∧
      next.attempts = if row.Active now then row.attempts + 1 else row.attempts := by
  unfold takeAttempt at h
  cases hrow : rows.get? key with
  | none =>
      rw [hrow] at h
      simp only at h
      rw [hrow] at h
      contradiction
  | some row =>
      rw [hrow] at h
      simp only at h
      refine ⟨row, rfl, ?_⟩
      by_cases hactive : row.Active now
      · rw [dif_pos hactive, Dict.get?_set_self] at h
        cases h
        rw [if_pos hactive]
        exact ⟨rfl, rfl⟩
      · rw [dif_neg hactive, hrow] at h
        cases h
        rw [if_neg hactive]
        exact ⟨rfl, rfl⟩

end BindingRows
end DispatchCore.Infrastructure
