import DispatchCore.Messaging.Processor

/-! One callback event through the inbox worker, its actor being known: a domain error
becomes the answer, any other failure leaves the event for another attempt. -/
namespace DispatchCore.Messaging

open DispatchCore.Library DispatchCore.Domain DispatchCore.Infrastructure

/-- `str(exc)` -/
def failureText : Failure → String
  | .invalidTransition message => message
  | .evidenceMissing message => message
  | .packValidation message => message
  | .valueError message => message
  | .concurrencyConflict message => message
  | .notFound message => message
  | .runtimeError message => message
  | .typeError message => message

/-- `type(exc).__name__` -/
def failureClass : Failure → String
  | .invalidTransition _ => "InvalidTransition"
  | .evidenceMissing _ => "EvidenceMissing"
  | .packValidation _ => "PackValidationError"
  | .valueError _ => "ValueError"
  | .concurrencyConflict _ => "ConcurrencyConflict"
  | .notFound _ => "NotFound"
  | .runtimeError _ => "RuntimeError"
  | .typeError _ => "TypeError"

/-- A callback event of an inbox item. -/
structure CallbackEvent where
  press : Press
  organizationId : String
  consumerKey : String
  index : Nat
  externalUserId : String
  chatId : String

structure QueuedReply where
  deduplicationKey : String
  organizationId : String
  provider : Provider
  recipientId : String
  text : String
deriving DecidableEq

/-- Without a text and buttons there is nothing to send. -/
def CallbackEvent.queued (event : CallbackEvent) (text : String) : Option QueuedReply :=
  if text = "" then none
  else some {
    deduplicationKey := s!"inbox:{event.organizationId}:{event.press.provider.value}:" ++
      s!"{event.consumerKey}:{event.press.externalEventId}:{event.index}:{event.externalUserId}"
    organizationId := event.organizationId
    provider := event.press.provider
    recipientId := event.chatId
    text }

inductive Mark
  | processed
  | failed (error : String)
deriving DecidableEq

/-- What one processing of the event leaves. -/
structure Processing where
  backend : Backend
  queued : Option QueuedReply
  mark : Mark

/-- `_process` and the mark `run_once` sets after it. -/
def process (surroundings : Surroundings) (identity : ActorIdentity) (event : CallbackEvent)
    (backend : Backend) : Processing :=
  match callback surroundings identity event.press backend with
  | (.ok reply, after) => ⟨after, event.queued reply, .processed⟩
  | (.error failure, after) =>
      if failure.isDomainError then
        ⟨after, event.queued s!"Команда не выполнена: {failureText failure}", .processed⟩
      else ⟨after, none, .failed s!"{failureClass failure}: {failureText failure}"⟩

end DispatchCore.Messaging
