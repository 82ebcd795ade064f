import DispatchCore.Infrastructure.Retention

/-! The sender of outbound messages: it claims a batch, gives each message to the transport of its
provider and records the answer.  Projectors, maintenance and other senders work on the table at
the same time, and a sender may be lost at any point. -/
namespace DispatchCore.Messaging

open DispatchCore.Library DispatchCore.Domain DispatchCore.Infrastructure

abbrev OutboundEnvelope := Envelope Nat OutboundMessage

/-- The attribute `retry_after` of an exception. -/
inductive RetryAfter
  | absent
  | unreadable
  | notFinite
  | seconds (value : Rat)

structure SendFailure where
  error : String
  retryAfter : RetryAfter

/-- `_retry_after_seconds` -/
def retryAfterSeconds (failure : SendFailure) : Option Rat :=
  match failure.retryAfter with
  | .seconds value => if 0 < value then some value else none
  | .absent | .unreadable | .notFinite => none

/-- `_outbound_consumer_keys` -/
def outboundConsumerKeys (provider : Provider) (consumerKey : String) : List String :=
  if provider = .max ∧ consumerKey = "staff" then ["staff", "admin", "operator", "master"]
  else [consumerKey]

structure OutboundSender where
  organizationId : String
  consumerKey : String
  transports : List Provider
  organizationGiven : organizationId ≠ ""

/-- Where `run_once` is, with the messages of the batch that are left and the number of those that
were delivered. -/
inductive SenderStage
  | idle
  | claiming (provider : Provider) (limit : Nat)
  | sending (message : OutboundEnvelope) (rest : List OutboundEnvelope) (delivered : Nat)
  | failing (message : OutboundEnvelope) (failure : SendFailure) (rest : List OutboundEnvelope)
      (delivered : Nat)
  | settling (message : OutboundEnvelope) (externalMessageId : Option String)
      (rest : List OutboundEnvelope) (delivered : Nat)

/-- A message that a provider has taken, through the transport of a sender. -/
structure Acceptance where
  sender : Nat
  message : OutboundEnvelope
  externalMessageId : Option String

/-- A row that was deleted. -/
structure Removal where
  key : Nat
  settledAt : Instant
  removedAt : Instant

/-- The table with its serial and the senders; beside it what was enqueued, what the providers have
taken, and what was deleted. -/
structure OutboundWorld where
  rows : QueueRows Nat OutboundMessage
  serial : Nat
  senders : List (OutboundSender × SenderStage)
  enqueued : List (Nat × OutboundMessage)
  accepted : List Acceptance
  removed : List Removal

/-- How a send ends: answered, or with an exception after which the provider may have taken the
message all the same. -/
inductive SendOutcome
  | answered (externalMessageId : Option String)
  | raised (failure : SendFailure) (taken : Option (Option String))

inductive OutboundTurn
  | enqueue (message : OutboundMessage)
  | runOnce (sender : Nat) (provider : Provider) (limit : Nat)
  | claim (sender : Nat) (locked : Nat → Bool) (now : Instant)
  | send (sender : Nat) (outcome : SendOutcome)
  | record (sender : Nat) (fraction : Rat) (now : Instant)
  | crash (sender : Nat) (taken : Option (Option String))
  | cleanup (organizationId : String) (retentionDays batchSize : Int) (scan : List Nat)
      (now : Instant)

namespace SenderStage

/-- The head of the loop; it returns after the last message. -/
def next : List OutboundEnvelope → Nat → SenderStage
  | [], _ => idle
  | message :: rest, delivered => sending message rest delivered

end SenderStage

namespace OutboundWorld

def put (world : OutboundWorld) (index : Nat) (sender : OutboundSender) (stage : SenderStage) :
    OutboundWorld :=
  { world with senders := world.senders.set index (sender, stage) }

/-- The provider has taken the message, or has not. -/
def take (world : OutboundWorld) (index : Nat) (message : OutboundEnvelope) :
    Option (Option String) → OutboundWorld
  | none => world
  | some externalMessageId =>
      { world with accepted := world.accepted ++ [⟨index, message, externalMessageId⟩] }

def enqueueMessage (world : OutboundWorld) (message : OutboundMessage) : OutboundWorld :=
  match enqueue message world.rows world.serial with
  | (false, _) => world
  | (true, rows) =>
      { world with
        rows
        serial := world.serial + 1
        enqueued := world.enqueued ++ [(world.serial, message)] }

def runOnce (world : OutboundWorld) (index : Nat) (sender : OutboundSender)
    (provider : Provider) (limit : Nat) : SenderStage → OutboundWorld
  | .idle =>
      if provider ∈ sender.transports then world.put index sender (.claiming provider limit)
      else world
  | _ => world

def claim (world : OutboundWorld) (index : Nat) (sender : OutboundSender) (locked : Nat → Bool)
    (now : Instant) : SenderStage → OutboundWorld
  | .claiming provider limit =>
      let query : OutboundQuery :=
        ⟨provider, some sender.organizationId, outboundConsumerKeys provider sender.consumerKey⟩
      match claimRows (postgresOutboundStore.selects query) postgresOutboundStore.precedes limit 120
        locked now world.rows with
      | .error _ => world.put index sender .idle
      | .ok (messages, rows) => { world.put index sender (.next messages 0) with rows }
  | _ => world

def send (world : OutboundWorld) (index : Nat) (sender : OutboundSender) (outcome : SendOutcome) :
    SenderStage → OutboundWorld
  | .sending message rest delivered =>
      match outcome with
      | .answered externalMessageId =>
          (world.take index message (some externalMessageId)).put index sender
            (.settling message externalMessageId rest delivered)
      | .raised failure taken =>
          (world.take index message taken).put index sender
            (.failing message failure rest delivered)
  | _ => world

/-- The result of a send goes into the row; where that raises the rest of the batch is dropped. -/
def record (world : OutboundWorld) (index : Nat) (sender : OutboundSender) (fraction : Rat)
    (now : Instant) : SenderStage → OutboundWorld
  | .failing message failure rest delivered =>
      match markFailed message failure.error maxAttempts (retryAfterSeconds failure) fraction now
        world.rows with
      | .error _ => world.put index sender .idle
      | .ok rows => { world.put index sender (.next rest delivered) with rows }
  | .settling message externalMessageId rest delivered =>
      { world.put index sender (.next rest (delivered + 1)) with
        rows := markSettled message externalMessageId now world.rows }
  | _ => world

/-- The sender is gone and starts again; what it sends at that moment may arrive. -/
def crash (world : OutboundWorld) (index : Nat) (sender : OutboundSender)
    (taken : Option (Option String)) : SenderStage → OutboundWorld
  | .sending message _ _ => (world.take index message taken).put index sender .idle
  | _ => world.put index sender .idle

/-- What a cleanup deletes, with the times that allowed it. -/
def removals (rows cleaned : QueueRows Nat OutboundMessage) (now : Instant) : List Removal :=
  rows.entries.filterMap fun entry =>
    match cleaned.get? entry.1, entry.2.settledAt with
    | none, some settledAt => some ⟨entry.1, settledAt, now⟩
    | _, _ => none

def cleanup (world : OutboundWorld) (organizationId : String) (retentionDays batchSize : Int)
    (scan : List Nat) (now : Instant) : OutboundWorld :=
  match cleanupTerminal (fun _ message => message.organizationId) organizationId retentionDays
    batchSize scan now world.rows with
  | .error _ => world
  | .ok rows => { world with rows, removed := world.removed ++ removals world.rows rows now }

/-- A turn of a sender, where there is one. -/
def bySender (world : OutboundWorld) (index : Nat)
    (act : OutboundSender → SenderStage → OutboundWorld) : OutboundWorld :=
  match world.senders[index]? with
  | none => world
  | some (sender, stage) => act sender stage

def turn (world : OutboundWorld) : OutboundTurn → OutboundWorld
  | .enqueue message => world.enqueueMessage message
  | .runOnce index provider limit =>
      world.bySender index fun sender => world.runOnce index sender provider limit
  | .claim index locked now =>
      world.bySender index fun sender => world.claim index sender locked now
  | .send index outcome => world.bySender index fun sender => world.send index sender outcome
  | .record index fraction now =>
      world.bySender index fun sender => world.record index sender fraction now
  | .crash index taken => world.bySender index fun sender => world.crash index sender taken
  | .cleanup organizationId retentionDays batchSize scan now =>
      world.cleanup organizationId retentionDays batchSize scan now

/-- Senders that start on an empty table. -/
def launch (senders : List OutboundSender) : OutboundWorld :=
  ⟨.empty, 0, senders.map fun sender => (sender, .idle), [], [], []⟩

def run (senders : List OutboundSender) (turns : List OutboundTurn) : OutboundWorld :=
  turns.foldl turn (launch senders)

end OutboundWorld
end DispatchCore.Messaging
