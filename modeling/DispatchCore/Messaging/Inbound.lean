import DispatchCore.Infrastructure.Inbox
import DispatchCore.Library.Conversations
import DispatchCore.Messaging.Replies

/-! The processor of the inbox: it claims a batch of items, answers the events of each, puts the
replies into the outbound queue, and marks the item. -/
namespace DispatchCore.Messaging

open DispatchCore.Library DispatchCore.Domain DispatchCore.Infrastructure Program

/-- What `_process` reads of an event of an item. -/
structure ParsedEvent where
  chatId : String
  externalUserId : String
  callbackId : Option String

/-- What handling an event comes to: the reply with its buttons minted, and the frontend of the
actor who gets it. -/
structure InboundAnswer where
  text : String
  buttons : List OutboundButton
  consumerKey : String

/-- `if reply.text or reply.buttons` -/
def InboundAnswer.Replies (answer : InboundAnswer) : Prop := answer.text ≠ "" ∨ answer.buttons ≠ []

instance (answer : InboundAnswer) : Decidable answer.Replies := inferInstanceAs (Decidable (_ ∨ _))

abbrev InboxItem := Envelope InboxKey InboxData

/-- How the messenger took the answer to a press; some failures are passed over. -/
inductive CallbackAnswered
  | taken
  | passedOver
  | failed (error : String)

/-- One processor: its queue, and how much it claims at once. -/
structure InboundProcessor where
  organizationId : String
  consumerKey : String
  limit : Nat

inductive InboundOp
  | claim
  | answer (item : InboxItem) (index : Nat) (event : ParsedEvent)
  | enqueue (item : InboxItem) (index : Nat) (event : ParsedEvent) (answer : InboundAnswer)
  | answerCallback (callbackId text : String)
  | markProcessed (item : InboxItem)
  | markFailed (item : InboxItem) (error : String)

namespace InboundOp

abbrev Answer : InboundOp → Type
  | claim => Except Failure (List InboxItem)
  | answer _ _ _ => Except String InboundAnswer
  | enqueue _ _ _ _ => Bool
  | answerCallback _ _ => CallbackAnswered
  | markProcessed _ => Unit
  | markFailed _ _ => Except Failure Unit

end InboundOp

abbrev InboundProgram := Program InboundOp InboundOp.Answer

/-- The key that an item's reply to one of its events is queued under. -/
def replyKey (processor : InboundProcessor) (key : InboxKey) (index : Nat) (event : ParsedEvent) :
    String :=
  let consumerKey := if key.consumerKey = "" then processor.consumerKey else key.consumerKey
  s!"inbox:{key.organizationId}:{key.provider.value}:{consumerKey}:{key.externalEventId}:" ++
    s!"{index}:{event.externalUserId}"

def replyMessage (processor : InboundProcessor) (item : InboxItem) (index : Nat)
    (event : ParsedEvent) (answer : InboundAnswer) (now : Instant) : OutboundMessage where
  deduplicationKey := replyKey processor item.key index event
  organizationId := item.key.organizationId
  provider := item.key.provider
  recipientId := event.chatId
  text := answer.text
  buttons := answer.buttons
  consumerKey := if processor.consumerKey = "" then answer.consumerKey else processor.consumerKey
  createdAt := now

section program

/-- The press is answered to the messenger as well. -/
def answerPress (event : ParsedEvent) (answer : InboundAnswer) : InboundProgram String Unit :=
  match event.callbackId with
  | none => .done ()
  | some callbackId =>
      if callbackId = "" then .done ()
      else .call (.answerCallback callbackId answer.text) fun
        | .failed error => .raise error
        | _ => .done ()

def processEvent (item : InboxItem) (index : Nat) (event : ParsedEvent) :
    InboundProgram String Unit :=
  .call (.answer item index event) fun
    | .error error => .raise error
    | .ok answer =>
        if answer.Replies then
          .call (.enqueue item index event answer) fun _ => answerPress event answer
        else answerPress event answer

def processEvents (item : InboxItem) : Nat → List ParsedEvent → InboundProgram String Unit
  | _, [] => .done ()
  | index, event :: others => do
      processEvent item index event
      processEvents item (index + 1) others

-- what the transport of a provider makes of a payload
variable (parse : Provider → Json → Except String (List ParsedEvent))

/-- `_process` -/
def processItem (item : InboxItem) : InboundProgram String Unit :=
  match parse item.key.provider item.data.payload with
  | .error error => .raise error
  | .ok events => processEvents item 0 events

/-- An item of the batch; whatever fails in it is marked on it. -/
def handleItem (item : InboxItem) : InboundProgram Failure Nat := do
  match ← (processItem parse item).attempted with
  | .ok () => .call (.markProcessed item) fun _ => .done 1
  | .error error => .call (.markFailed item error) fun
      | .ok () => .done 0
      | .error failure => .raise failure

def handleItems : List InboxItem → InboundProgram Failure Nat
  | [] => .done 0
  | item :: others => do
      let processed ← handleItem parse item
      let rest ← handleItems others
      return processed + rest

/-- `run_once` -/
def InboundProcessor.runOnce : InboundProgram Failure Nat :=
  .call .claim fun
    | .error failure => .raise failure
    | .ok items => handleItems parse items

end program

/-! ### The tables -/

structure InboundTables where
  inbox : InboxRows
  outbound : QueueRows Nat OutboundMessage
  serial : Nat

/-- What an operation takes from outside: the clock and the rows that others have locked, what the
handling of an event and the messenger come to, and the fraction of a delay. -/
structure InboundDraw where
  now : Instant
  locked : InboxKey → Bool
  answer : Except String InboundAnswer
  callback : CallbackAnswered
  fraction : Rat

/-- What happens besides: an event comes in, a message of another stage is queued, a sender writes
what became of a message. -/
inductive InboundChange
  | accept (key : InboxKey) (payload : Dict String Json) (now : Instant)
  | enqueue (message : OutboundMessage)
  | sent (id : Nat) (change : QueueRow OutboundMessage → QueueRow OutboundMessage)
      (same : ∀ row, (change row).data = row.data)

namespace InboundTables

def empty : InboundTables := ⟨.empty, .empty, 0⟩

def queued (tables : InboundTables) (message : OutboundMessage) : Bool × InboundTables :=
  let (inserted, outbound) := Infrastructure.enqueue message tables.outbound tables.serial
  (inserted, { tables with outbound, serial := tables.serial + 1 })

def perform (processor : InboundProcessor) (draw : InboundDraw) (op : InboundOp)
    (tables : InboundTables) : op.Answer × InboundTables :=
  match op with
  | .claim =>
      let organizationId :=
        if processor.organizationId = "" then none else some processor.organizationId
      match claimRows (postgresInboxStore.selects ⟨organizationId, processor.consumerKey⟩)
          postgresInboxStore.precedes processor.limit 120 draw.locked draw.now tables.inbox with
      | .ok (items, inbox) => (.ok items, { tables with inbox })
      | .error failure => (.error failure, tables)
  | .answer _ _ _ => (draw.answer, tables)
  | .enqueue item index event answer =>
      tables.queued (replyMessage processor item index event answer draw.now)
  | .answerCallback _ _ => (draw.callback, tables)
  | .markProcessed item =>
      ((), { tables with inbox := markSettled item none draw.now tables.inbox })
  | .markFailed item error =>
      match markFailed item error maxAttempts none draw.fraction draw.now tables.inbox with
      | .ok inbox => (.ok (), { tables with inbox })
      | .error failure => (.error failure, tables)

def change (tables : InboundTables) : InboundChange → InboundTables
  | .accept key payload now =>
      { tables with inbox := (PostgresInboxStore.insert key payload now tables.inbox).2 }
  | .enqueue message => (tables.queued message).2
  | .sent id change _ =>
      match tables.outbound.get? id with
      | none => tables
      | some row => { tables with outbound := tables.outbound.set id (change row) }

end InboundTables

def inboundRules (parse : Provider → Json → Except String (List ParsedEvent)) :
    ConversationRules InboundProcessor InboundTables InboundDraw InboundChange InboundOp
      InboundOp.Answer Failure Nat where
  start _ := InboundProcessor.runOnce parse
  perform := InboundTables.perform
  outside event tables := tables.change event

abbrev InboundTalk := Conversation InboundProcessor InboundOp InboundOp.Answer Failure Nat

end DispatchCore.Messaging
