import DispatchCore.Infrastructure.Identities
import DispatchCore.Infrastructure.Leases
import DispatchCore.Messaging.Plans

/-! The outbox projector.  A projection is one database transaction: it reads the
order, plans the messages, and for each plan mints the tokens of its buttons, looks
the recipients up and inserts a message for each.  Everything it writes is its own
until it commits, and an insertion waits for another transaction's uncommitted
message with the same key. -/
namespace DispatchCore.Messaging

open DispatchCore.Library DispatchCore.Domain DispatchCore.Infrastructure

/-- A transaction of `project` under way: the plans it has not come to, the plan it
is inserting with the recipients left, what it has written, and all recipients it
has looked up, each with the purpose of the plan. -/
structure Flight where
  worker : Nat
  envelope : Envelope String DomainEvent
  plans : List RecipientPlan
  inserting : Option (RecipientPlan × List OutboundButton × List Recipient)
  messages : List OutboundMessage
  tokens : List CallbackAction
  resolved : List (String × Recipient)

/-- A committed projection. -/
structure Attempt where
  envelope : Envelope String DomainEvent
  messages : List OutboundMessage
  tokens : List CallbackAction
  resolved : List (String × Recipient)

def Attempt.eventId (attempt : Attempt) : String := attempt.envelope.key

/-- The outbox with its workers, the committed messages and tokens, and the
transactions under way. -/
structure Projection where
  site : Site String DomainEvent
  messages : List OutboundMessage
  tokens : List CallbackAction
  flights : List Flight
  attempts : List Attempt

def Projection.empty : Projection := ⟨.empty, [], [], [], []⟩

/-- How long a button can be pressed. -/
def buttonLifetime : Int := 7 * 24 * 60 * 60

/-- `_buttons`: the buttons of one message, and the tokens minted for them out of
the fresh ones drawn. -/
def mintButtons (organizationId : String) (now : Instant) :
    List PlannedButton → List String → List OutboundButton × List CallbackAction
  | [], _ => ([], [])
  | button :: rest, fresh =>
      match button.destination with
      | .url address =>
          let (buttons, tokens) := mintButtons organizationId now rest fresh
          (⟨button.text, none, some address, false, button.row⟩ :: buttons, tokens)
      | .requestLocation =>
          let (buttons, tokens) := mintButtons organizationId now rest fresh
          (⟨button.text, none, none, true, button.row⟩ :: buttons, tokens)
      | .action name payload =>
          let token := fresh.headD ""
          let (buttons, tokens) := mintButtons organizationId now rest fresh.tail
          (⟨button.text, some token, none, false, button.row⟩ :: buttons,
            ⟨token, organizationId, name, payload, button.allowedRole,
              now.addSeconds buttonLifetime⟩ :: tokens)

def recipientMessage (event : DomainEvent) (plan : RecipientPlan) (buttons : List OutboundButton)
    (now : Instant) (recipient : Recipient) : OutboundMessage :=
  { deduplicationKey := deduplicationKey event.eventId plan.purpose recipient.provider
      recipient.externalUserId
    organizationId := event.organizationId
    provider := recipient.provider
    recipientId := recipient.externalUserId
    text := plan.text
    buttons
    consumerKey := recipient.role.value
    createdAt := now }

/-- The workers' steps and what their statements read: the orders, packs, sessions
and identities may have been changed by anybody in between. -/
inductive Act
  | append (event : DomainEvent) (now : Instant)
  | claim (worker : Nat) (query : OutboxQuery) (limit : Nat) (staleAfterSeconds : Int)
      (locked : String → Bool) (now : Instant)
  | markFailed (index : Nat) (error : String) (fraction : Rat) (now : Instant)
  | crash (worker : Nat)
  | start (index : Nat) (readings : Readings)
  | prepare (flight : Nat) (fresh : List String) (identities : Identities) (now : Instant)
  | insert (flight : Nat) (now : Instant)
  | commit (flight : Nat) (now : Instant)
  | abort (flight : Nat)

namespace Projection

def tokenNames (projection : Projection) : List String :=
  (projection.tokens ++ projection.flights.flatMap Flight.tokens).map CallbackAction.token

/-- The transactions beside one of them. -/
def others (projection : Projection) (index : Nat) : List Flight :=
  projection.flights.eraseIdx index

def keys (messages : List OutboundMessage) : List String :=
  messages.map OutboundMessage.deduplicationKey

/-- The next plan: its tokens are minted and its recipients looked up.  A token that
exists already is refused by its primary key. -/
def prepared (projection : Projection) (flight : Flight) (fresh : List String)
    (identities : Identities) (now : Instant) : Option Flight :=
  match flight.inserting, flight.plans with
  | none, plan :: rest =>
      let event := flight.envelope.data
      let (buttons, tokens) := mintButtons event.organizationId now plan.buttons fresh
      let recipients := identities.recipients event.organizationId plan.actorIds plan.roles
        plan.deliveryRole
      if (projection.tokenNames ++ tokens.map CallbackAction.token).Nodup then
        some
          { flight with
            plans := rest
            inserting := some (plan, buttons, recipients)
            tokens := flight.tokens ++ tokens
            resolved := flight.resolved ++
              recipients.map fun recipient => (plan.purpose, recipient) }
      else none
  | _, _ => none

/-- `INSERT … ON CONFLICT DO NOTHING` for the next recipient. -/
def inserted (projection : Projection) (index : Nat) (flight : Flight) (now : Instant) :
    Option Flight :=
  match flight.inserting with
  | some (plan, buttons, recipient :: rest) =>
      let message := recipientMessage flight.envelope.data plan buttons now recipient
      let key := message.deduplicationKey
      if key ∈ keys ((projection.others index).flatMap Flight.messages) then none
      else if key ∈ keys (projection.messages ++ flight.messages) then
        some { flight with inserting := some (plan, buttons, rest) }
      else
        some
          { flight with
            inserting := some (plan, buttons, rest)
            messages := flight.messages ++ [message] }
  | some (_, _, []) => some { flight with inserting := none }
  | none => none

/-- The last statement marks the event, and everything becomes visible at once. -/
def committed (projection : Projection) (index : Nat) (flight : Flight) (now : Instant) :
    Projection :=
  { site := { projection.site with
      rows := markSettled flight.envelope none now projection.site.rows }
    messages := projection.messages ++ flight.messages
    tokens := projection.tokens ++ flight.tokens
    flights := projection.others index
    attempts := projection.attempts ++
      [⟨flight.envelope, flight.messages, flight.tokens, flight.resolved⟩] }

def siteStep (projection : Projection) (statement : Statement String DomainEvent OutboxQuery) :
    Projection :=
  { projection with site := postgresOutboxStore.step projection.site statement }

/-- A step that is not possible, or that has to wait, changes nothing. -/
def step (publicBaseUrl : Option String) (projection : Projection) : Act → Projection
  | .append event now => projection.siteStep (.insert event.eventId event now)
  | .claim worker query limit staleAfterSeconds locked now =>
      projection.siteStep (.claim worker query limit staleAfterSeconds locked now)
  | .markFailed index error fraction now =>
      projection.siteStep (.mark index (.failed error none fraction) now)
  | .crash worker =>
      { projection.siteStep (.crash worker) with
        flights := projection.flights.filter fun flight => flight.worker ≠ worker }
  | .start index readings =>
      match projection.site.held[index]? with
      | none => projection
      | some (worker, envelope) =>
          match plans publicBaseUrl envelope.data readings with
          | .error _ => projection
          | .ok planned =>
              { projection with
                site := { projection.site with held := projection.site.held.eraseIdx index }
                flights := projection.flights ++ [⟨worker, envelope, planned, none, [], [], []⟩] }
  | .prepare index fresh identities now =>
      match projection.flights[index]? with
      | none => projection
      | some flight =>
          match projection.prepared flight fresh identities now with
          | none => projection
          | some after => { projection with flights := projection.flights.set index after }
  | .insert index now =>
      match projection.flights[index]? with
      | none => projection
      | some flight =>
          match projection.inserted index flight now with
          | none => projection
          | some after => { projection with flights := projection.flights.set index after }
  | .commit index now =>
      match projection.flights[index]? with
      | none => projection
      | some flight =>
          if flight.plans.isEmpty ∧ flight.inserting.isNone then
            projection.committed index flight now
          else projection
  | .abort index =>
      match projection.flights[index]? with
      | none => projection
      | some flight =>
          { projection with
            site := { projection.site with
              held := projection.site.held ++ [(flight.worker, flight.envelope)] }
            flights := projection.others index }

def run (publicBaseUrl : Option String) (acts : List Act) : Projection :=
  acts.foldl (step publicBaseUrl) .empty

end Projection
end DispatchCore.Messaging
