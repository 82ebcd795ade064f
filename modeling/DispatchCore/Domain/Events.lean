import DispatchCore.Library.Instant
import DispatchCore.Library.Json
import DispatchCore.Library.Method

/-! The events the aggregates record, and the failures their methods raise. -/
namespace DispatchCore.Domain

open DispatchCore.Library

/-- Domain failures are value errors too; the last three are Python's own. -/
inductive Failure
  | invalidTransition (message : String)
  | evidenceMissing (message : String)
  | packValidation (message : String)
  | valueError (message : String)
  | concurrencyConflict (message : String)
  | notFound (message : String)
  | runtimeError (message : String)
  | typeError (message : String)
deriving DecidableEq, Repr

/-- `except DomainError` -/
def Failure.isDomainError : Failure → Bool
  | invalidTransition _ => true
  | evidenceMissing _ => true
  | packValidation _ => true
  | _ => false

def Failure.isInvalidTransition : Failure → Bool
  | invalidTransition _ => true
  | _ => false

def Failure.isConcurrencyConflict : Failure → Bool
  | concurrencyConflict _ => true
  | _ => false

/-- What one recording call reads from outside: the clock and a new event id. -/
structure Ambient where
  clock : Instant
  eventId : String
deriving DecidableEq, Repr

inductive AggregateType
  | workOrder
  | trackingSession
deriving DecidableEq, Repr

def AggregateType.value : AggregateType → String
  | workOrder => "work_order"
  | trackingSession => "tracking_session"

inductive EventName
  | submitted
  | coordinationClaimed
  | poolPublished
  | poolInterestRecorded
  | poolInterestWithdrawn
  | firstClaimWon
  | assigned
  | accepted
  | assignmentRejected
  | travelStarted
  | started
  | completed
  | cancelled
  | trackingStarted
  | trackingPointRecorded
  | trackingCompleted
  | trackingCancelled
deriving DecidableEq, Repr

def EventName.value : EventName → String
  | submitted => "work_order.submitted"
  | coordinationClaimed => "work_order.coordination_claimed"
  | poolPublished => "work_order.pool_published"
  | poolInterestRecorded => "work_order.pool_interest_recorded"
  | poolInterestWithdrawn => "work_order.pool_interest_withdrawn"
  | firstClaimWon => "work_order.first_claim_won"
  | assigned => "work_order.assigned"
  | accepted => "work_order.accepted"
  | assignmentRejected => "work_order.assignment_rejected"
  | travelStarted => "work_order.travel_started"
  | started => "work_order.started"
  | completed => "work_order.completed"
  | cancelled => "work_order.cancelled"
  | trackingStarted => "tracking.started"
  | trackingPointRecorded => "tracking.point_recorded"
  | trackingCompleted => "tracking.completed"
  | trackingCancelled => "tracking.cancelled"

structure DomainEvent where
  eventId : String
  organizationId : String
  aggregateType : AggregateType
  aggregateId : String
  aggregateVersion : Nat
  name : EventName
  occurredAt : Instant
  payload : Dict String Json

namespace DomainEvent

def create (ambient : Ambient) (organizationId : String) (aggregateType : AggregateType)
    (aggregateId : String) (aggregateVersion : Nat) (name : EventName)
    (payload : Dict String Json) (occurredAt : Option Instant) : DomainEvent :=
  { eventId := ambient.eventId
    organizationId
    aggregateType
    aggregateId
    aggregateVersion
    name
    occurredAt := occurredAt.getD ambient.clock
    payload }

end DomainEvent

/-- An optional text in a payload. -/
def optional : Option String → Json
  | some text => .str text
  | none => .null

/-- Event versions run `first + 1, first + 2, …` without a gap. -/
def Numbered (first : Nat) : List DomainEvent → Prop
  | [] => True
  | event :: rest => event.aggregateVersion = first + 1 ∧ Numbered (first + 1) rest

theorem numbered_append (first : Nat) (left right : List DomainEvent) :
    Numbered first (left ++ right) ↔
      Numbered first left ∧ Numbered (first + left.length) right := by
  induction left generalizing first with
  | nil => simp [Numbered]
  | cons event rest ih =>
      simp only [List.cons_append, Numbered, List.length_cons, ih, and_assoc]
      rw [show first + 1 + rest.length = first + (rest.length + 1) by omega]

theorem Numbered.versions {first : Nat} {events : List DomainEvent}
    (numbered : Numbered first events) :
    events.map DomainEvent.aggregateVersion = List.range' (first + 1) events.length := by
  induction events generalizing first with
  | nil => rfl
  | cons event rest ih =>
      rw [List.map_cons, List.length_cons, List.range'_succ, numbered.1, ih numbered.2]

end DispatchCore.Domain
