import Mathlib.Data.List.Sort
import Mathlib.Data.Rat.Floor
import DispatchCore.Domain.Events
import DispatchCore.Library.Dict

/-! The durable queues: the inbox, the domain outbox and the outbound messages.
A claim is one `UPDATE` over the rows it selects, a mark one `UPDATE` guarded by
`status = 'processing'`. -/
namespace DispatchCore.Infrastructure

open DispatchCore.Library DispatchCore.Domain

inductive Provider
  | telegram
  | max
deriving DecidableEq, Repr

def Provider.value : Provider → String
  | telegram => "telegram"
  | max => "max"

/-- `settled` is `processed` in the inbox and `delivered` in the other tables. -/
inductive QueueStatus
  | pending
  | processing
  | settled
  | dead
deriving DecidableEq, Repr

/-- The columns of a queue row beside its key; `settledAt` is `processed_at` or
`delivered_at`, and `data` are the columns no statement of the queue writes. -/
structure QueueRow (δ : Type) where
  data : δ
  status : QueueStatus
  attempts : Nat
  nextAttemptAt : Instant
  claimedAt : Option Instant
  settledAt : Option Instant
  lastError : Option String
  externalMessageId : Option String
deriving DecidableEq

/-- What a claim hands to its worker. -/
structure Envelope (κ δ : Type) where
  key : κ
  data : δ
  attempts : Nat
deriving DecidableEq

abbrev QueueRows (κ δ : Type) [DecidableEq κ] := Dict κ (QueueRow δ)

/-- The schedule of retries in seconds.  `fraction` is read from the SHA-256
digest of the item's key and attempt number. -/
def retryDelay (attempts : Nat) (fraction baseSeconds maximumSeconds jitterRatio : Rat) :
    Except Failure Rat := do
  if attempts < 1 then throw (.valueError "attempts must be at least one")
  if baseSeconds ≤ 0 ∨ maximumSeconds ≤ 0 then
    throw (.valueError "retry delays must be positive")
  if ¬(0 ≤ jitterRatio ∧ jitterRatio ≤ 1) then
    throw (.valueError "jitter_ratio must be between zero and one")
  let exponential := min (baseSeconds * 2 ^ (attempts - 1)) maximumSeconds
  let jitter := exponential * jitterRatio * (fraction * 2 - 1)
  pure (max (1 / 1000) (min maximumSeconds (exponential + jitter)))

def defaultRetryDelay (attempts : Nat) (fraction : Rat) : Except Failure Rat :=
  retryDelay attempts fraction 1 300 (1 / 5)

theorem defaultRetryDelay_bounded {attempts : Nat} {fraction delay : Rat}
    (h : defaultRetryDelay attempts fraction = .ok delay) : 1 / 1000 ≤ delay ∧ delay ≤ 300 := by
  unfold defaultRetryDelay retryDelay at h
  by_cases hattempts : attempts < 1
  · simp [hattempts, bind, Except.bind, throw, throwThe, MonadExceptOf.throw] at h
  · simp only [hattempts, if_false] at h
    norm_num [pure, Except.pure, bind, Except.bind] at h
    rw [← h]
    constructor
    · exact le_max_left _ _
    · exact max_le (by norm_num) (min_le_left _ _)

theorem defaultRetryDelay_ok {attempts : Nat} (fraction : Rat) (claimed : 1 ≤ attempts) :
    ∃ delay, defaultRetryDelay attempts fraction = .ok delay := by
  have hattempts : ¬attempts < 1 := by omega
  unfold defaultRetryDelay retryDelay
  norm_num [hattempts, pure, Except.pure, bind, Except.bind]

/-- `now() + make_interval(secs => seconds)` -/
def afterDelay (now : Instant) (seconds : Rat) : Instant :=
  ⟨now.microseconds + (seconds * 1000000 + 1 / 2).floor⟩

namespace QueueRow

variable {δ : Type}

def create (data : δ) (now : Instant) : QueueRow δ :=
  { data
    status := .pending
    attempts := 0
    nextAttemptAt := now
    claimedAt := none
    settledAt := none
    lastError := none
    externalMessageId := none }

/-- Pending and due, or abandoned by a worker for longer than the stale interval. -/
def claimable (row : QueueRow δ) (staleAfterSeconds : Int) (now : Instant) : Bool :=
  (row.status = .pending ∧ row.nextAttemptAt ≤ now) ||
    (row.status = .processing ∧
      row.claimedAt.any fun claimedAt => claimedAt < now.addSeconds (-staleAfterSeconds))

def claim (row : QueueRow δ) (now : Instant) : QueueRow δ :=
  { row with
    status := .processing
    attempts := row.attempts + 1
    claimedAt := some now
    lastError := none }

def settle (row : QueueRow δ) (now : Instant) (externalMessageId : Option String) : QueueRow δ :=
  { row with
    status := .settled
    settledAt := some now
    claimedAt := none
    externalMessageId }

def fail (row : QueueRow δ) (now : Instant) (isDead : Bool) (delay : Rat) (error : String) :
    QueueRow δ :=
  { row with
    status := if isDead then .dead else .pending
    nextAttemptAt := afterDelay now delay
    claimedAt := none
    lastError := some (Text.take error 2000) }

end QueueRow

section statements

variable {κ δ : Type} [DecidableEq κ]

/-- `INSERT … ON CONFLICT DO NOTHING`; tells whether a row was inserted. -/
def insertRow (key : κ) (data : δ) (now : Instant) (rows : QueueRows κ δ) :
    Bool × QueueRows κ δ :=
  if rows.contains key then (false, rows) else (true, rows.set key (.create data now))

/-- The rows a claim takes: `FOR UPDATE SKIP LOCKED` passes over the `locked` ones. -/
def candidates (selects : κ → δ → Bool) (precedes : κ × δ → κ × δ → Bool) (limit : Nat)
    (staleAfterSeconds : Int) (locked : κ → Bool) (now : Instant) (rows : QueueRows κ δ) :
    List (κ × QueueRow δ) :=
  ((rows.entries.filter fun entry =>
      selects entry.1 entry.2.data && entry.2.claimable staleAfterSeconds now &&
        !locked entry.1).insertionSort fun left right =>
    precedes (left.1, left.2.data) (right.1, right.2.data)).take limit

def claimRows (selects : κ → δ → Bool) (precedes : κ × δ → κ × δ → Bool) (limit : Nat)
    (staleAfterSeconds : Int) (locked : κ → Bool) (now : Instant) (rows : QueueRows κ δ) :
    Except Failure (List (Envelope κ δ) × QueueRows κ δ) :=
  if 1 ≤ limit ∧ limit ≤ 1000 then
    let chosen := candidates selects precedes limit staleAfterSeconds locked now rows
    .ok (chosen.map fun entry => ⟨entry.1, entry.2.data, (entry.2.claim now).attempts⟩,
      rows.mapValues fun key row => if key ∈ chosen.map Prod.fst then row.claim now else row)
  else .error (.valueError "claim limit must be between 1 and 1000")

/-- `UPDATE … WHERE key = … AND status = 'processing'` -/
def updateProcessing (key : κ) (change : QueueRow δ → QueueRow δ) (rows : QueueRows κ δ) :
    QueueRows κ δ :=
  match rows.get? key with
  | some row => if row.status = .processing then rows.set key (change row) else rows
  | none => rows

def markSettled (envelope : Envelope κ δ) (externalMessageId : Option String) (now : Instant)
    (rows : QueueRows κ δ) : QueueRows κ δ :=
  updateProcessing envelope.key (fun row => row.settle now externalMessageId) rows

/-- The delay is the transport's own when it gave one. -/
def failureDelay (attempts : Nat) (retryAfterSeconds : Option Rat) (fraction : Rat) :
    Except Failure Rat :=
  match retryAfterSeconds with
  | some seconds => .ok (max (1 / 1000) seconds)
  | none => defaultRetryDelay attempts fraction

def markFailed (envelope : Envelope κ δ) (error : String) (maxAttempts : Nat)
    (retryAfterSeconds : Option Rat) (fraction : Rat) (now : Instant) (rows : QueueRows κ δ) :
    Except Failure (QueueRows κ δ) := do
  let isDead := decide (maxAttempts ≤ envelope.attempts)
  let delay ← failureDelay envelope.attempts retryAfterSeconds fraction
  pure (updateProcessing envelope.key (fun row => row.fail now isDead delay error) rows)

end statements

/-- The default of `mark_failed`, which no worker overrides. -/
def maxAttempts : Nat := 10

/-- What tells one store's claim from another's: its further conditions and its
`ORDER BY`. -/
structure QueueStore (κ δ π : Type) where
  selects : π → κ → δ → Bool
  precedes : κ × δ → κ × δ → Bool

def ordered {α β : Type} [DecidableEq β] (key : α → β) (less : β → β → Bool)
    (otherwise : α → α → Bool) (left right : α) : Bool :=
  less (key left) (key right) || (key left = key right && otherwise left right)

structure InboxKey where
  organizationId : String
  provider : Provider
  consumerKey : String
  externalEventId : String
deriving DecidableEq, Repr

structure InboxData where
  payload : Json
  receivedAt : Instant

structure InboxQuery where
  organizationId : Option String
  consumerKey : String

def postgresInboxStore : QueueStore InboxKey InboxData InboxQuery where
  selects query key _ :=
    key.consumerKey = query.consumerKey &&
      query.organizationId.all fun organizationId => key.organizationId = organizationId
  precedes :=
    ordered (fun entry => entry.2.receivedAt) (fun left right => left < right) <|
      ordered (fun entry => entry.1.provider.value) (fun left right => left < right)
        fun left right => left.1.externalEventId ≤ right.1.externalEventId

structure OutboxQuery where
  organizationId : Option String

/-- Keyed by event id. -/
def postgresOutboxStore : QueueStore String DomainEvent OutboxQuery where
  selects query _ event :=
    query.organizationId.all fun organizationId => event.organizationId = organizationId
  precedes :=
    ordered (fun entry => entry.2.occurredAt) (fun left right => left < right)
      fun left right => left.1 ≤ right.1

structure OutboundButton where
  text : String
  callbackToken : Option String
  url : Option String
  requestLocation : Bool
  row : Nat
deriving DecidableEq, Repr

structure OutboundMessage where
  deduplicationKey : String
  organizationId : String
  provider : Provider
  recipientId : String
  text : String
  buttons : List OutboundButton
  consumerKey : String
  createdAt : Instant
deriving DecidableEq

structure OutboundQuery where
  provider : Provider
  organizationId : Option String
  consumerKeys : List String

/-- Keyed by the serial `id`. -/
def postgresOutboundStore : QueueStore Nat OutboundMessage OutboundQuery where
  selects query _ message :=
    message.provider = query.provider && query.consumerKeys.contains message.consumerKey &&
      query.organizationId.all fun organizationId => message.organizationId = organizationId
  precedes :=
    ordered (fun entry => entry.2.createdAt) (fun left right => left < right)
      fun left right => left.1 ≤ right.1

/-- `enqueue`: the next serial number, unless the deduplication key is taken. -/
def enqueue (message : OutboundMessage) (rows : QueueRows Nat OutboundMessage) (serial : Nat) :
    Bool × QueueRows Nat OutboundMessage :=
  if rows.values.any fun row => row.data.deduplicationKey = message.deduplicationKey then
    (false, rows)
  else insertRow serial message message.createdAt rows

section spec

variable {κ δ : Type} [DecidableEq κ] {rows : QueueRows κ δ}

theorem get?_insertRow (key other : κ) (data : δ) (now : Instant) (rows : QueueRows κ δ) :
    (insertRow key data now rows).2.get? other =
      if other = key then (rows.get? other).or (some (.create data now)) else rows.get? other := by
  unfold insertRow Dict.contains
  by_cases h : other = key
  · subst h
    cases hrow : rows.get? other <;> simp [hrow]
  · cases hrow : rows.get? key <;> simp [h, Dict.get?_set_of_ne]

theorem get?_updateProcessing (key other : κ) (change : QueueRow δ → QueueRow δ)
    (rows : QueueRows κ δ) :
    (updateProcessing key change rows).get? other =
      (rows.get? other).map fun row =>
        if other = key ∧ row.status = .processing then change row else row := by
  unfold updateProcessing
  by_cases h : other = key
  · subst h
    cases hrow : rows.get? other with
    | none => simp [hrow]
    | some row =>
        by_cases hstatus : row.status = .processing <;> simp [hstatus, hrow]
  · cases hrow : rows.get? key with
    | none => simp [h]
    | some row =>
        by_cases hstatus : row.status = .processing <;>
          simp [h, hstatus, Dict.get?_set_of_ne]

theorem mem_candidates {selects : κ → δ → Bool} {precedes : κ × δ → κ × δ → Bool} {limit : Nat}
    {staleAfterSeconds : Int} {locked : κ → Bool} {now : Instant} {entry : κ × QueueRow δ}
    (h : entry ∈ candidates selects precedes limit staleAfterSeconds locked now rows) :
    rows.get? entry.1 = some entry.2 ∧ entry.2.claimable staleAfterSeconds now = true := by
  have hsorted := List.mem_of_mem_take h
  rw [List.mem_insertionSort, List.mem_filter] at hsorted
  obtain ⟨hmem, hselected⟩ := hsorted
  simp only [Bool.and_eq_true] at hselected
  exact ⟨(Dict.get?_eq_some _ _ _).mpr hmem, hselected.1.2⟩

theorem nodup_candidates (selects : κ → δ → Bool) (precedes : κ × δ → κ × δ → Bool) (limit : Nat)
    (staleAfterSeconds : Int) (locked : κ → Bool) (now : Instant) :
    ((candidates selects precedes limit staleAfterSeconds locked now rows).map Prod.fst).Nodup := by
  unfold candidates
  rw [List.map_take]
  apply List.Nodup.sublist (List.take_sublist _ _)
  have hperm := (List.perm_insertionSort (fun left right : κ × QueueRow δ =>
    precedes (left.1, left.2.data) (right.1, right.2.data) = true)
      (rows.entries.filter fun entry => selects entry.1 entry.2.data &&
        entry.2.claimable staleAfterSeconds now && !locked entry.1)).map Prod.fst
  apply hperm.nodup_iff.mpr
  exact rows.distinct.sublist (List.filter_sublist.map Prod.fst)

theorem claimable_status {row : QueueRow δ} {staleAfterSeconds : Int} {now : Instant}
    (h : row.claimable staleAfterSeconds now = true) :
    row.status = .pending ∨ row.status = .processing := by
  unfold QueueRow.claimable at h
  simp only [Bool.or_eq_true, decide_eq_true_eq] at h
  exact h.imp And.left And.left

end spec

end DispatchCore.Infrastructure
