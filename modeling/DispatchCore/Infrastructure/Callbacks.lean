import DispatchCore.Library.Instant
import DispatchCore.Library.Json

/-! Callback tokens: a button's token is claimed by the first event that resolves
it, and may be resolved again by that event alone until it is completed. -/
namespace DispatchCore.Infrastructure

open DispatchCore.Library

inductive Role
  | admin
  | operator
  | master
  | client
deriving DecidableEq, Repr

def Role.value : Role → String
  | admin => "admin"
  | operator => "operator"
  | master => "master"
  | client => "client"

/-- What a token stands for. -/
structure CallbackAction where
  token : String
  organizationId : String
  action : String
  payload : Dict String Json
  allowedRole : Option Role
  expiresAt : Instant

structure CallbackRow extends CallbackAction where
  revokedAt : Option Instant
  claimKey : Option String
  completedAt : Option Instant

/-- Keyed by token. -/
abbrev CallbackRows := Dict String CallbackRow

def CallbackAction.row (action : CallbackAction) : CallbackRow :=
  { action with
    revokedAt := none
    claimKey := none
    completedAt := none }

namespace CallbackRow

/-- The condition of the `UPDATE` in `resolve`. -/
def Resolvable (row : CallbackRow) (organizationId : String) (actorRole : Role)
    (claimKey : String) (now : Instant) : Prop :=
  row.organizationId = organizationId ∧ now < row.expiresAt ∧
    (row.revokedAt = none ∨ (row.claimKey = some claimKey ∧ row.completedAt = none)) ∧
    (row.allowedRole = none ∨ row.allowedRole = some actorRole ∨ actorRole = .admin)

instance (row : CallbackRow) (organizationId : String) (actorRole : Role) (claimKey : String)
    (now : Instant) : Decidable (row.Resolvable organizationId actorRole claimKey now) :=
  inferInstanceAs (Decidable (_ ∧ _ ∧ _ ∧ _))

def claimed (row : CallbackRow) (claimKey : String) (now : Instant) : CallbackRow :=
  { row with
    revokedAt := row.revokedAt.or (some now)
    claimKey := row.claimKey.or (some claimKey) }

def completed (row : CallbackRow) (now : Instant) : CallbackRow :=
  { row with completedAt := some now }

end CallbackRow

namespace PostgresCallbackStore

/-- Insert a new token; one that exists already is refused by the primary key. -/
def create (action : CallbackAction) (rows : CallbackRows) : CallbackRows :=
  match rows.get? action.token with
  | none => rows.set action.token action.row
  | some _ => rows

/-- `fresh` is drawn when the caller names no claim key. -/
def resolve (token organizationId : String) (actorRole : Role) (claimKey : Option String)
    (fresh : String) (now : Instant) (rows : CallbackRows) :
    Option CallbackAction × CallbackRows :=
  let stableClaimKey := if claimKey.getD "" = "" then fresh else claimKey.getD ""
  match rows.get? token with
  | none => (none, rows)
  | some row =>
      if row.Resolvable organizationId actorRole stableClaimKey now then
        (some row.toCallbackAction, rows.set token (row.claimed stableClaimKey now))
      else (none, rows)

/-- Tells whether the claim was still open. -/
def complete (token organizationId claimKey : String) (now : Instant) (rows : CallbackRows) :
    Bool × CallbackRows :=
  match rows.get? token with
  | none => (false, rows)
  | some row =>
      if row.organizationId = organizationId ∧ row.claimKey = some claimKey ∧
          row.completedAt = none then
        (true, rows.set token (row.completed now))
      else (false, rows)

/-- The action behind a button that `claimKey` may still resolve, whoever presses it. -/
def peekAction (token organizationId : String) (claimKey : Option String) (now : Instant)
    (rows : CallbackRows) : Option String :=
  match rows.get? token with
  | none => none
  | some row =>
      if row.organizationId = organizationId ∧
          (row.revokedAt = none ∨
            (claimKey.isSome ∧ row.claimKey = claimKey ∧ row.completedAt = none)) ∧
          now < row.expiresAt then
        some row.action
      else none

/-! What each statement may write. -/

section effect

variable (token organizationId : String) (now : Instant) (rows : CallbackRows)

theorem create_effect (action : CallbackAction) :
    create action rows = rows ∨
      (rows.get? action.token = none ∧
        create action rows = rows.set action.token action.row) := by
  unfold create
  cases rows.get? action.token with
  | none => exact .inr ⟨rfl, rfl⟩
  | some row => exact .inl rfl

theorem resolve_effect (role : Role) (claimKey : Option String) (fresh : String) :
    (resolve token organizationId role claimKey fresh now rows).2 = rows ∨
      ∃ row stableClaimKey, rows.get? token = some row ∧
        (resolve token organizationId role claimKey fresh now rows).2 =
          rows.set token (row.claimed stableClaimKey now) := by
  unfold resolve
  generalize (if claimKey.getD "" = "" then fresh else claimKey.getD "") = stableClaimKey
  cases rows.get? token with
  | none => exact .inl rfl
  | some row =>
      by_cases h : row.Resolvable organizationId role stableClaimKey now
      · exact .inr ⟨row, stableClaimKey, rfl, by simp [h]⟩
      · exact .inl (by simp [h])

theorem complete_effect (claimKey : String) :
    (complete token organizationId claimKey now rows).2 = rows ∨
      ∃ row, rows.get? token = some row ∧ row.claimKey = some claimKey ∧
        (complete token organizationId claimKey now rows).2 =
          rows.set token (row.completed now) := by
  unfold complete
  cases rows.get? token with
  | none => exact .inl rfl
  | some row =>
      by_cases h : row.organizationId = organizationId ∧ row.claimKey = some claimKey ∧
          row.completedAt = none
      · exact .inr ⟨row, rfl, h.2.1, by simp [h]⟩
      · exact .inl (by simp [h])

/-- A named claim key is the key the token is claimed for. -/
theorem resolve_eq_some (role : Role) {claimKey : String} (named : claimKey ≠ "")
    (fresh : String) {action : CallbackAction} {after : CallbackRows} :
    resolve token organizationId role (some claimKey) fresh now rows = (some action, after) ↔
      ∃ row, rows.get? token = some row ∧ row.Resolvable organizationId role claimKey now ∧
        row.toCallbackAction = action ∧ rows.set token (row.claimed claimKey now) = after := by
  unfold resolve
  simp only [Option.getD_some, named, if_false]
  cases rows.get? token with
  | none => simp
  | some row =>
      by_cases h : row.Resolvable organizationId role claimKey now
      · simp [h]
      · simp [h]

theorem resolve_refused (role : Role) {claimKey : String} (named : claimKey ≠ "") (fresh : String)
    {row : CallbackRow} (stored : rows.get? token = some row)
    (refused : ¬row.Resolvable organizationId role claimKey now) :
    resolve token organizationId role (some claimKey) fresh now rows = (none, rows) := by
  unfold resolve
  simp only [Option.getD_some, named, if_false, stored, refused]

/-- A named key sees the action exactly when an administrator could resolve by it. -/
theorem peekAction_eq_resolve {claimKey : String} (named : claimKey ≠ "") (fresh : String) :
    peekAction token organizationId (some claimKey) now rows =
      (resolve token organizationId .admin (some claimKey) fresh now rows).1.map
        CallbackAction.action := by
  unfold peekAction resolve
  simp only [Option.getD_some, named, if_false, Option.isSome_some, true_and]
  cases rows.get? token with
  | none => rfl
  | some row =>
      have hsame : (row.organizationId = organizationId ∧
          (row.revokedAt = none ∨ (row.claimKey = some claimKey ∧ row.completedAt = none)) ∧
            now < row.expiresAt) ↔ row.Resolvable organizationId .admin claimKey now := by
        unfold CallbackRow.Resolvable
        simp only [or_true, and_true]
        tauto
      simp only [hsame]
      split <;> rfl

end effect

end PostgresCallbackStore
end DispatchCore.Infrastructure
