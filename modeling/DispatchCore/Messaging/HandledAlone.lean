import DispatchCore.Messaging.OfferedChoices

/-! An event of the client, handled from the first operation to the last with nothing in between:
what it leaves is reached by a run of intake. -/
namespace DispatchCore.Messaging

open DispatchCore.Library DispatchCore.Domain DispatchCore.Packs DispatchCore.Infrastructure
  DispatchCore.Application

/-- The sessions of an identity, and those of its handlers. -/
def MessengerIdentity.key (identity : MessengerIdentity) : Key :=
  (identity.organizationId, identity.actorId)

namespace IntakeWorld

open IntakeCoordinator

/-- One operation of a handler that runs alone. -/
def performs (draw : IntakeDraw) (op : IntakeOp) (place : ChatFlight × IntakeWorld) :
    op.Answer × (ChatFlight × IntakeWorld) :=
  place.2.perform place.1 draw op

def arrived (setup : Setup) (identity : MessengerIdentity) (eventId : String) (event : ChatEvent) :
    ChatFlight :=
  ⟨identity, eventId, event, none, none, none, false, event.program setup identity⟩

/-- What the event is answered with, and the world it leaves. -/
def handle (setup : Setup) (world : IntakeWorld) (identity : MessengerIdentity) (eventId : String)
    (event : ChatEvent) (draw : IntakeDraw) : Except Failure Reply × IntakeWorld :=
  let result := (event.program setup identity).alone (performs draw)
    (arrived setup identity eventId event, world)
  (result.1, result.2.2)

variable {setup : Setup} {world : IntakeWorld} {flight : ChatFlight} {draw : IntakeDraw}

/-- An operation looks neither at the other handlers nor at the rest of its own. -/
theorem perform_beside (op : IntakeOp) (flights : List ChatFlight)
    (program : IntakeProgram Reply) :
    ({ world with flights := flights } : IntakeWorld).perform { flight with program := program } draw
        op =
      ((world.perform flight draw op).1,
        { (world.perform flight draw op).2.1 with program := program },
        { (world.perform flight draw op).2.2 with flights := flights }) := by
  cases op <;> rfl

/-- The turns of a handler that came last, and the same handler alone. -/
theorem alone_reached (program : IntakeProgram Reply) (world : IntakeWorld)
    (flight : ChatFlight) (flights : List ChatFlight) (draw : IntakeDraw) :
    ∃ (turns : List IntakeTurn) (last : ChatFlight),
      ({ world with flights := flights ++ [{ flight with program := program }] } : IntakeWorld).run
          setup turns =
        { (program.alone (performs draw) (flight, world)).2.2 with flights := flights ++ [last] } := by
  induction program generalizing world flight with
  | done reply => exact ⟨[], _, rfl⟩
  | raise failure => exact ⟨[], _, rfl⟩
  | call op resume ih =>
      obtain ⟨turns, last, hrun⟩ := ih (world.perform flight draw op).1
        (world.perform flight draw op).2.2 (world.perform flight draw op).2.1
      refine ⟨.chat flights.length draw :: turns, last, ?_⟩
      change (IntakeWorld.turn setup _ _).run setup turns = _
      rw [turn_last rfl rfl, perform_beside]
      exact hrun

/-- What is left after an event of a run is left after a run. -/
theorem handle_reached (setup : Setup) (turns : List IntakeTurn) (identity : MessengerIdentity)
    (eventId : String) (event : ChatEvent) (draw : IntakeDraw) :
    ∃ (more : List IntakeTurn) (flights : List ChatFlight),
      IntakeWorld.after setup (turns ++ more) =
        { ((IntakeWorld.after setup turns).handle setup identity eventId event draw).2 with
          flights := flights } := by
  obtain ⟨rest, last, hrun⟩ := @alone_reached setup (event.program setup identity)
    (IntakeWorld.after setup turns) (arrived setup identity eventId event)
    (IntakeWorld.after setup turns).flights draw
  refine ⟨.arrive identity eventId event :: rest,
    (IntakeWorld.after setup turns).flights ++ [last], Eq.trans ?_ hrun⟩
  unfold IntakeWorld.after IntakeWorld.run
  rw [List.foldl_append]
  rfl

/-- A stored session is open at its question, and pinned to a revision that is still found. -/
structure Holds (world : IntakeWorld) (key : Key) (session : IntakeSession)
    (revision : PackRevision) : Prop where
  stored : world.sessions.get? key = some session
  pinned : session.pinned = some revision
  fits : session.state.PinnedTo revision
  opened : session.state.Open revision.definition
  found : ∃ source, PostgresPackStore.revision world.packs.rows key.1 revision.version =
    some source ∧ source.definition = revision.definition

theorem holds_of_sound {heard : HeardWorld} (sound : HeardWorld.Sound setup heard) {key : Key}
    {session : IntakeSession} (stored : heard.world.sessions.get? key = some session) :
    ∃ revision, heard.world.Holds key session revision := by
  obtain ⟨hpinned, hpublished⟩ := sound.world.sessions key session stored
  obtain ⟨revision, hrevision, fits⟩ := hpinned _ rfl
  obtain ⟨told, -, hmatches⟩ := sound.sessions key session stored revision hrevision
  exact ⟨revision, stored, hrevision, fits, hmatches.opened,
    hpublished.revision sound.world.packs.sound revision hrevision rfl⟩

theorem holds_after (setup : Setup)
    (folds : ∀ text, setup.unicode.casefold text = setup.unicode.casefold "" → text = "")
    (turns : List IntakeTurn) {key : Key} {session : IntakeSession}
    (stored : (IntakeWorld.after setup turns).sessions.get? key = some session) :
    ∃ revision, (IntakeWorld.after setup turns).Holds key session revision := by
  obtain ⟨heard, hworld, sound⟩ := HeardWorld.sound_run setup folds turns
  rw [← hworld] at stored ⊢
  exact holds_of_sound sound stored

theorem holds_handle (setup : Setup)
    (folds : ∀ text, setup.unicode.casefold text = setup.unicode.casefold "" → text = "")
    (turns : List IntakeTurn) (identity : MessengerIdentity) (eventId : String) (event : ChatEvent)
    (draw : IntakeDraw) {key : Key} {session : IntakeSession}
    (stored : ((IntakeWorld.after setup turns).handle setup identity eventId event
      draw).2.sessions.get? key = some session) :
    ∃ revision, ((IntakeWorld.after setup turns).handle setup identity eventId event draw).2.Holds
      key session revision := by
  obtain ⟨more, flights, hreached⟩ := handle_reached setup turns identity eventId event draw
  have hstored : (IntakeWorld.after setup (turns ++ more)).sessions.get? key = some session := by
    rw [hreached]
    exact stored
  obtain ⟨revision, holds⟩ := holds_after setup folds (turns ++ more) hstored
  rw [hreached] at holds
  exact ⟨revision, stored, holds.pinned, holds.fits, holds.opened, holds.found⟩

end IntakeWorld

/-! ### Buttons -/

namespace IntakeCoordinator

variable {unicode : Unicode} {pack : PackDefinition} {state : IntakeState}

/-- The program stores this session and has ended, or it has ended without a store. -/
def Leaves (program : IntakeProgram Reply) : Option IntakeState → Prop
  | some next => ∃ resume, program = .call (.putSession next) resume ∧ (resume ()).finished = true
  | none => program.finished = true

theorem leaves_fillField (unicode : Unicode) (pack : PackDefinition) (state : IntakeState)
    (words : String) : Leaves (fillField unicode pack state words)
      (filled unicode pack state (ConfigEdits.limit words 500)) := by
  rcases fillField_leaves unicode pack state words with
    ⟨next, resume, hfilled, hstores, hends⟩ | ⟨hfilled, hends⟩
  · rw [hfilled]
    exact ⟨resume, hstores, hends⟩
  · rw [hfilled]
    exact hends

theorem leaves_finishServices (pack : PackDefinition) (state : IntakeState) :
    Leaves (finishServices pack state) (finished pack state) := by
  unfold finishServices finished
  by_cases hnone : state.selected = []
  · rw [if_pos hnone, if_pos hnone]
    rfl
  · rw [if_neg hnone, if_neg hnone]
    dsimp only
    cases hfound : pack.orderedFields.findIdx? fun field =>
        ¬state.fieldValues.contains field.key with
    | none => exact ⟨_, rfl, rfl⟩
    | some index =>
        obtain ⟨hbound, -⟩ := List.findIdx?_eq_some_iff_getElem.mp hfound
        unfold asking
        dsimp only
        rw [List.getElem?_eq_getElem hbound]
        exact ⟨_, rfl, finished_attempt _⟩

theorem leaves_press (setup : Setup) (identity : MessengerIdentity) (pack : PackDefinition)
    (state : IntakeState) {action : IntakeAction} (payload : Dict String Json)
    (plain : action ≠ .confirm ∧ action ≠ .cancel) :
    Leaves (press setup identity pack state action payload)
      (pressed setup.unicode pack state action payload) := by
  unfold press pressed
  cases action with
  | confirm => exact absurd rfl plain.1
  | cancel => exact absurd rfl plain.2
  | requestLocation =>
      by_cases hstep : state.step = .address
      · simp only [if_neg (not_not_intro hstep)]
        exact ⟨_, rfl, rfl⟩
      · simp only [if_pos hstep]
        rfl
  | typeAddress =>
      by_cases hstep : state.step = .address
      · simp only [if_neg (not_not_intro hstep)]
        exact ⟨_, rfl, rfl⟩
      · simp only [if_pos hstep]
        rfl
  | continueAfterMap =>
      dsimp only
      by_cases hservices : state.step = .services
      · rw [if_pos hservices]
        rfl
      · rw [if_neg hservices]
        by_cases hstep : state.step = .address
        · rw [if_neg (not_not_intro hstep)]
          rfl
        · rw [if_pos hstep]
          rfl
  | servicesDone =>
      by_cases hstep : state.step = .services
      · simp only [if_neg (not_not_intro hstep)]
        exact leaves_finishServices pack state
      · simp only [if_pos hstep]
        rfl
  | fieldChoice =>
      by_cases hstep : state.step = .fields
      · simp only [if_neg (not_not_intro hstep)]
        exact leaves_fillField _ _ _ _
      · simp only [if_pos hstep]
        rfl
  | pickService =>
      dsimp only
      by_cases hstep : state.step = .services ∨ state.step = .fields ∨ state.step = .confirm
      · rw [if_neg (not_not_intro hstep), if_neg (not_not_intro hstep)]
        unfold pickService picked
        by_cases hknown : (pack.serviceCatalog.categories.any fun category =>
            category.key = payload.textAt "service") = true
        · rw [if_neg (not_not_intro hknown), if_neg (not_not_intro hknown)]
          by_cases hmulti : pack.serviceCatalog.multiSelect = true
          · rw [if_neg (not_not_intro hmulti), if_neg (not_not_intro hmulti)]
            exact ⟨_, rfl, rfl⟩
          · rw [if_pos hmulti, if_pos hmulti]
            exact leaves_finishServices _ _
        · rw [if_pos hknown, if_pos hknown]
          rfl
      · rw [if_pos hstep, if_pos hstep]
        rfl

end IntakeCoordinator

namespace IntakeWorld

open IntakeCoordinator

variable {setup : Setup} {world : IntakeWorld} {identity : MessengerIdentity}
  {session : IntakeSession} {revision : PackRevision} {action : IntakeAction}

/-- The handler of a button that has read the session. -/
def looked (setup : Setup) (identity : MessengerIdentity) (eventId : String) (event : ChatEvent)
    (state : IntakeState) (revision : PackRevision) : ChatFlight :=
  { arrived setup identity eventId event with
    read := some state
    pinned := some revision }

/-- A handler reads the session and its revision, and goes on with them. -/
theorem handle_looks (holds : world.Holds identity.key session revision) (eventId : String)
    {event : ChatEvent} {rest : PackDefinition → IntakeState → IntakeProgram Reply}
    (program : event.program setup identity = .call .getSession fun found =>
      match found with
      | none => start
      | some state => packForState state >>= fun pinned =>
          match pinned.1 with
          | none => .done (.words notConfigured)
          | some revision => rest revision.definition pinned.2) (draw : IntakeDraw) :
    world.handle setup identity eventId event draw =
      let result := (rest revision.definition session.state).alone (performs draw)
        (looked setup identity eventId event session.state revision, world)
      (result.1, result.2.2) := by
  obtain ⟨source, hsource, hsame⟩ := holds.found
  have hstored : world.sessions.get? (arrived setup identity eventId event).key = some session :=
    holds.stored
  have hread : world.perform (arrived setup identity eventId event) draw .getSession =
      (some session.state, looked setup identity eventId event session.state revision, world) := by
    simp only [perform, hstored, Option.map_some, Option.bind_some, holds.pinned]
    rfl
  have hrevision : world.perform (looked setup identity eventId event session.state revision) draw
      (.revision revision.version) =
        (some source, looked setup identity eventId event session.state revision, world) := by
    have hfound : PostgresPackStore.revision world.packs.rows (looked setup identity eventId event
        session.state revision).identity.organizationId revision.version = some source := hsource
    simp only [perform, hfound]
  unfold handle
  rw [program, Program.alone_call]
  simp only [performs, hread, packForState_pinned holds.fits, Program.call_bind, Program.done_bind,
    Program.alone_call, hrevision, hsame]

theorem handle_press (holds : world.Holds identity.key session revision) (eventId : String)
    (looks : action ≠ .cancel) (payload : Dict String Json) (draw : IntakeDraw) :
    world.handle setup identity eventId (.callback action payload) draw =
      let result := (press setup identity revision.definition session.state action payload).alone
        (performs draw) (looked setup identity eventId (.callback action payload) session.state
          revision, world)
      (result.1, result.2.2) := by
  refine @handle_looks setup world identity session revision holds eventId _
    (fun pack state => press setup identity pack state action payload) ?_ draw
  change handleCallback setup identity action payload = _
  unfold handleCallback
  rw [if_neg looks]
  rfl

/-- What a button leaves of the session, other than those that end the flow. -/
theorem handle_plain (holds : world.Holds identity.key session revision) (eventId : String)
    (plain : action ≠ .confirm ∧ action ≠ .cancel) (payload : Dict String Json)
    (draw : IntakeDraw) :
    (world.handle setup identity eventId (.callback action payload) draw).2.sessions.get?
        identity.key =
      match pressed setup.unicode revision.definition session.state action payload with
      | some next => some ⟨identity.provider, stateWithSessionEvent eventId next, some revision⟩
      | none => some session := by
  rw [handle_press holds eventId plain.2]
  have hleaves := leaves_press setup identity revision.definition session.state payload plain
  generalize press setup identity revision.definition session.state action payload = program at *
  cases hpressed : pressed setup.unicode revision.definition session.state action payload with
  | none =>
      rw [hpressed] at hleaves
      dsimp only
      rw [Program.alone_finished _ hleaves]
      exact holds.stored
  | some next =>
      rw [hpressed] at hleaves
      obtain ⟨resume, rfl, hends⟩ := hleaves
      dsimp only
      rw [Program.alone_call, Program.alone_finished _ hends]
      exact Dict.get?_set_self _ _ _

end IntakeWorld
end DispatchCore.Messaging
