import DispatchCore.Infrastructure.PackPinning
import DispatchCore.Messaging.Intake

/-! Intake at work: the handlers of chat events take turns, await by await, with map
submissions from the web and with whatever the pack transactions do. -/
namespace DispatchCore.Messaging

open DispatchCore.Library DispatchCore.Domain DispatchCore.Packs DispatchCore.Infrastructure
  DispatchCore.Application

/-- What a client does in the chat. -/
inductive ChatEvent
  | start
  | text (text : String)
  | location (latitude longitude : Reading) (method : String) (address : Option String)
  | callback (action : IntakeAction) (payload : Dict String Json)

def ChatEvent.program (setup : IntakeCoordinator.Setup) (identity : MessengerIdentity) :
    ChatEvent → IntakeProgram Reply
  | .start => IntakeCoordinator.start
  | .text body => IntakeCoordinator.handleText setup body
  | .location latitude longitude method address =>
      IntakeCoordinator.handleLocation latitude longitude method address
  | .callback action payload => IntakeCoordinator.handleCallback setup identity action payload

/-- A new application and a cancellation look at no session. -/
def ChatEvent.looks : ChatEvent → Bool
  | .start => false
  | .callback .cancel _ => false
  | _ => true

/-- An event that, handled on what was read, settles the address anew. -/
def ChatEvent.chooses : ChatEvent → Option IntakeState → Bool
  | .start, _ => true
  | _, none => true
  | .text _, some state => state.step = .phone || state.step = .address
  | .location .., some state => state.step = .address
  | .callback .confirm _, some state => state.selected = []
  | .callback _ _, some _ => false

/-- An event that, handled on what was read, may end the session. -/
def ChatEvent.ends : ChatEvent → Option IntakeState → Bool
  | .callback .cancel _, _ => true
  | .callback .confirm _, some state => state.step = .confirm
  | _, _ => false

/-- `pinned` is the revision that was active when the application was started. -/
structure IntakeSession where
  provider : Provider
  state : IntakeState
  pinned : Option PackRevision
deriving DecidableEq

/-- What one operation draws from outside: a text, and how an order is answered. -/
structure IntakeDraw where
  text : String
  created : Except Failure String

/-- A handler at work, the session its `get` has read with the revision it is pinned to, and
the address token it has drawn and not stored yet.  `overtaken` tells that a map submission
of the client was saved since it looked at the session. -/
structure ChatFlight where
  identity : MessengerIdentity
  eventId : String
  event : ChatEvent
  read : Option IntakeState
  pinned : Option PackRevision
  drawn : Option String
  overtaken : Bool
  program : IntakeProgram Reply

def ChatFlight.key (flight : ChatFlight) : Key :=
  (flight.identity.organizationId, flight.identity.actorId)

/-- What the flight stores is a later choice of the client. -/
def ChatFlight.chooses (flight : ChatFlight) : Bool :=
  flight.event.chooses flight.read && !flight.overtaken

def ChatFlight.ends (flight : ChatFlight) : Bool :=
  flight.event.ends flight.read && !flight.overtaken

/-- A submission that was answered as saved. -/
structure SavedPoint where
  key : Key
  token : String
  location : ServiceLocation

/-- A call of `create_order_once`, and the session it was made from. -/
structure IntakeRequest where
  orderId : String
  creation : Creation
  session : Option IntakeState
  pinned : Option PackRevision

/-- `issued` holds the address tokens that were drawn, and for whom; `standing` the points
that were saved from the map and not followed by a later choice. -/
structure IntakeWorld where
  packs : PackWorld
  sessions : Dict Key IntakeSession
  flights : List ChatFlight
  issued : List (String × Key)
  saved : List SavedPoint
  standing : Dict Key ServiceLocation
  requests : List IntakeRequest

inductive IntakeTurn
  | pack (action : PackAction)
  | arrive (identity : MessengerIdentity) (eventId : String) (event : ChatEvent)
  | chat (index : Nat) (draw : IntakeDraw)
  | submit (token : String) (latitude longitude : Rat) (address : Option String)

/-- `state_with_session_event` -/
def stateWithSessionEvent (eventId : String) (state : IntakeState) : IntakeState :=
  { state with lastEvent := if eventId = "" then state.lastEvent else some eventId }

namespace IntakeWorld

def empty : IntakeWorld := ⟨.empty, .empty, [], [], [], .empty, []⟩

/-- One operation: the answer, the flight after it, and the world without the flight's own
place in it. -/
def perform (world : IntakeWorld) (flight : ChatFlight) (draw : IntakeDraw) :
    (op : IntakeOp) → op.Answer × ChatFlight × IntakeWorld
  | .getSession =>
      let session := world.sessions.get? flight.key
      let found := session.map IntakeSession.state
      let pinned := session.bind IntakeSession.pinned
      (found, { flight with read := found, pinned := pinned, drawn := none, overtaken := false },
        world)
  | .putSession state =>
      ((), { flight with drawn := none },
        { world with
          sessions := world.sessions.set flight.key
            ⟨flight.identity.provider, stateWithSessionEvent flight.eventId state, flight.pinned⟩
          standing := if flight.chooses then world.standing.erase flight.key
            else world.standing })
  | .clearSession =>
      ((), { flight with drawn := none },
        { world with
          sessions := world.sessions.erase flight.key
          standing := if flight.ends then world.standing.erase flight.key else world.standing })
  | .activeRevision =>
      let found := PostgresPackStore.activeRevision world.packs.rows flight.identity.organizationId
      (found, { flight with pinned := found }, world)
  | .revision version =>
      (PostgresPackStore.revision world.packs.rows flight.identity.organizationId version, flight,
        world)
  | .createOrderOnce orderId creation =>
      (draw.created, flight,
        { world with
          requests := world.requests ++ [⟨orderId, creation, flight.read, flight.pinned⟩] })
  | .uuid4 => (draw.text, flight, world)
  | .tokenUrlsafe =>
      (draw.text, { flight with drawn := some draw.text },
        { world with issued := world.issued ++ [(draw.text, flight.key)] })

/-- The session `select_address_by_token` finds. -/
def addressSession (world : IntakeWorld) (token : String) : Option (Key × IntakeSession) :=
  world.sessions.entries.find? fun entry =>
    entry.2.state.addressToken = some token ∧ entry.2.state.step = .address

theorem addressSession_some {world : IntakeWorld} {token : String} {key : Key}
    {session : IntakeSession} (found : world.addressSession token = some (key, session)) :
    world.sessions.get? key = some session ∧ session.state.addressToken = some token ∧
      session.state.step = .address := by
  refine ⟨(Dict.get?_eq_some ..).mpr (List.mem_of_find?_eq_some found), ?_⟩
  have hmatches := List.find?_some found
  exact of_decide_eq_true hmatches

def selectAddressByToken (world : IntakeWorld) (token : String) (latitude longitude : Rat)
    (address : Option String) : IntakeWorld :=
  match world.addressSession token with
  | none => world
  | some (key, session) =>
      let location : ServiceLocation := ⟨latitude, longitude, "map"⟩
      let state := IntakeCoordinator.located session.state
        (pointLabel latitude longitude address) location
      { world with
        sessions := world.sessions.set key { session with state := state }
        flights := world.flights.map fun flight =>
          if flight.key = key ∧ flight.event.looks then { flight with overtaken := true }
          else flight
        saved := world.saved ++ [⟨key, token, location⟩]
        standing := world.standing.set key location }

def turn (setup : IntakeCoordinator.Setup) (world : IntakeWorld) : IntakeTurn → IntakeWorld
  | .pack action => { world with packs := world.packs.step action }
  | .arrive identity eventId event =>
      { world with
        flights := world.flights ++
          [⟨identity, eventId, event, none, none, none, false, event.program setup identity⟩] }
  | .chat index draw =>
      match world.flights[index]? with
      | none => world
      | some flight =>
          match flight.program with
          | .call op resume =>
              let (answer, next, after) := world.perform flight draw op
              { after with
                flights := after.flights.set index { next with program := resume answer } }
          | _ => world
  | .submit token latitude longitude address =>
      world.selectAddressByToken token latitude longitude address

def run (setup : IntakeCoordinator.Setup) (world : IntakeWorld) (turns : List IntakeTurn) :
    IntakeWorld :=
  turns.foldl (turn setup) world

def after (setup : IntakeCoordinator.Setup) (turns : List IntakeTurn) : IntakeWorld :=
  empty.run setup turns

end IntakeWorld
end DispatchCore.Messaging
