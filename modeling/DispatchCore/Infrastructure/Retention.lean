import DispatchCore.Infrastructure.Queues

/-! Maintenance of the durable queues: what was settled longer ago than the retention is deleted,
a batch at a time. -/
namespace DispatchCore.Infrastructure

open DispatchCore.Library DispatchCore.Domain

variable {κ δ : Type} [DecidableEq κ]

/-- `status = 'delivered' AND delivered_at < now() - make_interval(days => …)`, or `processed`. -/
def QueueRow.expired (row : QueueRow δ) (retentionDays : Int) (now : Instant) : Bool :=
  row.status = .settled &&
    row.settledAt.any fun settledAt => settledAt < now.addSeconds (-(86400 * retentionDays))

/-- The rows that the deletion takes: `LIMIT` keeps the ones that the scan comes to first. -/
def doomedRows (organizationOf : κ → δ → String) (organizationId : String) (retentionDays : Int)
    (batchSize : Nat) (scan : List κ) (now : Instant) (rows : QueueRows κ δ) : List κ :=
  (scan.filter fun key => (rows.get? key).any fun row =>
    organizationOf key row.data = organizationId && row.expired retentionDays now).take batchSize

/-- The statement of `cleanup_terminal` for one queue, with its checks. -/
def cleanupTerminal (organizationOf : κ → δ → String) (organizationId : String)
    (retentionDays batchSize : Int) (scan : List κ) (now : Instant) (rows : QueueRows κ δ) :
    Except Failure (QueueRows κ δ) := do
  if retentionDays < 1 then throw (.valueError "retention_days must be positive")
  if ¬(1 ≤ batchSize ∧ batchSize ≤ 10000) then
    throw (.valueError "batch_size must be between 1 and 10000")
  let doomed := doomedRows organizationOf organizationId retentionDays batchSize.toNat scan now rows
  return rows.restrict fun key _ => key ∉ doomed

/-- A cleanup leaves a row, or takes one that was settled a day ago at least. -/
theorem get?_cleanupTerminal {organizationOf : κ → δ → String} {organizationId : String}
    {retentionDays batchSize : Int} {scan : List κ} {now : Instant} {rows cleaned : QueueRows κ δ}
    (h : cleanupTerminal organizationOf organizationId retentionDays batchSize scan now rows =
      .ok cleaned) (key : κ) :
    (cleaned.get? key = rows.get? key) ∨
      cleaned.get? key = none ∧ ∃ row settledAt, rows.get? key = some row ∧
        row.status = .settled ∧ row.settledAt = some settledAt ∧
          settledAt < now.addSeconds (-86400) := by
  unfold cleanupTerminal at h
  by_cases hdays : retentionDays < 1
  · simp [hdays, bind, Except.bind, throw, throwThe, MonadExceptOf.throw] at h
  by_cases hbatch : ¬(1 ≤ batchSize ∧ batchSize ≤ 10000)
  · simp [hdays, hbatch, bind, Except.bind, pure, Except.pure, throw, throwThe,
      MonadExceptOf.throw] at h
  simp only [if_neg hdays, if_neg hbatch] at h
  cases h
  rw [Dict.get?_restrict]
  cases hrow : rows.get? key with
  | none => exact .inl rfl
  | some row =>
      by_cases hdoomed : key ∈ doomedRows organizationOf organizationId retentionDays
          batchSize.toNat scan now rows
      · refine .inr ⟨by simp [hdoomed], row, ?_⟩
        have hfits := (List.mem_filter.mp (List.mem_of_mem_take hdoomed)).2
        simp only [hrow, Option.any_some, QueueRow.expired, Bool.and_eq_true,
          decide_eq_true_eq] at hfits
        obtain ⟨-, hsettled, hexpired⟩ := hfits
        obtain ⟨settledAt, hat, hbefore⟩ := Option.any_eq_true _ _ |>.mp hexpired
        refine ⟨settledAt, rfl, hsettled, hat, ?_⟩
        simp only [decide_eq_true_eq, Instant.lt_def, Instant.addSeconds] at hbefore ⊢
        omega
      · exact .inl (by simp [hdoomed])

end DispatchCore.Infrastructure
