import DispatchCore.Messaging.OfferedButtons

/-! A button of the latest reply, pressed next, does what it says, or the session is one that the
button should not have been offered to. -/
namespace DispatchCore.Messaging

open DispatchCore.Library DispatchCore.Domain DispatchCore.Packs DispatchCore.Infrastructure
  DispatchCore.Application

/-- The session of a client, with the revision it is pinned to. -/
def IntakeWorld.held (world : IntakeWorld) (key : Key) : Option (IntakeState × PackRevision) :=
  (world.sessions.get? key).bind fun session =>
    session.pinned.map fun revision => (session.state, revision)

/-- What a service button says: the service alone, on to the questions, or one more or less. -/
def Picks (pack : PackDefinition) (before : IntakeState) (key : String) (after : IntakeState) :
    Prop :=
  if pack.serviceCatalog.multiSelect then
    after.selected =
      if key ∈ before.selected then before.selected.erase key else before.selected ++ [key]
  else after.selected = [key] ∧ (after.step = .fields ∨ after.step = .confirm)

/-- The button has done what it says.  A refusal stores nothing and asks for nothing.  The map's
button asks first for a point to be saved, and "Готово" for a service, as they should. -/
def Does (identity : MessengerIdentity) (draw : IntakeDraw) (payload : Dict String Json) (world left : IntakeWorld) :
    IntakeAction → Prop
  | .cancel => left.sessions.get? identity.key = none
  | .requestLocation => ∃ after ∈ left.held identity.key,
      after.1.step = .address ∧ after.1.addressMode = some "native"
  | .typeAddress => ∃ after ∈ left.held identity.key,
      after.1.step = .address ∧ after.1.addressMode = some "text"
  | .continueAfterMap => ∃ before ∈ world.held identity.key, before.1.step = .address
  | .pickService => ∃ before ∈ world.held identity.key, ∃ after ∈ left.held identity.key,
      Picks before.2.definition before.1 (payload.textAt "service") after.1
  | .servicesDone => ∃ before ∈ world.held identity.key, before.1.selected = [] ∨
      (before.1.step = .services ∧ ∃ after ∈ left.held identity.key,
        after.1.selected = before.1.selected ∧
          (after.1.step = .fields ∨ after.1.step = .confirm))
  | .fieldChoice => ∃ before ∈ world.held identity.key, ∃ after ∈ left.held identity.key,
      ∃ field ∈ before.1.asked before.2.definition,
        IntakeCoordinator.Chosen before.2.definition field (payload.textAt "value") before.1 after.1
  | .confirm => ∃ before ∈ world.held identity.key, ∃ orderId,
      left.requests = world.requests ++
          [⟨orderId, IntakeCoordinator.orderCreation identity before.2.definition before.1,
            some before.1, some before.2⟩] ∧
        ∀ number, draw.created = .ok number → left.sessions.get? identity.key = none

/-- The button is pressed next, or the point that it asks the device for is sent. -/
structure Honoured (setup : IntakeCoordinator.Setup) (identity : MessengerIdentity)
    (eventId : String) (draw : IntakeDraw) (world : IntakeWorld) (button : ReplyButton) : Prop where
  pressed : ∀ action : IntakeAction, button.action = action.value →
    Does identity draw button.payload world (world.handle setup identity eventId
      (.callback action button.payload) draw).2 action
  located : button.requestLocation = true → ∀ latitude longitude north east method address,
    IntakeCoordinator.inBounds latitude longitude = some (north, east) →
      ∃ after ∈ (world.handle setup identity eventId
          (.location latitude longitude method address) draw).2.held identity.key,
        after.1.step = .services ∧ after.1.serviceLocation = some ⟨north, east, method⟩

/-- The session is one for the button: past the address for a service, at the services or with
nothing selected for "Готово", at a field that takes the choice as itself, and with a service for
an order. -/
def ReadyFor (unicode : Unicode) (payload : Dict String Json) (world : IntakeWorld) (key : Key) :
    IntakeAction → Prop
  | .pickService => ∃ before ∈ world.held key,
      before.1.step ≠ .phone ∧ before.1.step ≠ .address
  | .servicesDone => ∃ before ∈ world.held key,
      before.1.step = .services ∨ before.1.selected = []
  | .fieldChoice => ∃ before ∈ world.held key, ∃ field ∈ before.1.asked before.2.definition,
      IntakeCoordinator.hears unicode field (payload.textAt "value") =
        some (payload.textAt "value")
  | .confirm => ∃ before ∈ world.held key, before.1.selected ≠ []
  | _ => True

def Ready (unicode : Unicode) (world : IntakeWorld) (key : Key) (button : ReplyButton) : Prop :=
  ∀ action : IntakeAction, button.action = action.value →
    ReadyFor unicode button.payload world key action

theorem IntakeAction.value_injective {left right : IntakeAction} (same : left.value = right.value) :
    left = right := by
  cases left <;> cases right <;> first | rfl | exact absurd same (by decide)

namespace IntakeWorld

open IntakeCoordinator

variable {setup : Setup} {world left : IntakeWorld} {identity : MessengerIdentity}
  {session : IntakeSession} {revision : PackRevision} {action : IntakeAction} {eventId : String}
  {draw : IntakeDraw} {payload : Dict String Json} {state : IntakeState}

theorem held_of_stored {key : Key} {session : IntakeSession}
    (stored : world.sessions.get? key = some session) (pinned : session.pinned = some revision) :
    world.held key = some (session.state, revision) := by
  unfold held
  rw [stored, Option.bind_some, pinned]
  rfl

theorem exists_held {key : Key} {holds : IntakeState × PackRevision → Prop}
    (found : world.held key = some (state, revision)) :
    (∃ before ∈ world.held key, holds before) ↔ holds (state, revision) := by
  rw [found]
  simp

/-- What a button leaves, where it leaves something. -/
theorem held_press (holds : world.Holds identity.key session revision)
    (plain : action ≠ .confirm ∧ action ≠ .cancel) {next : IntakeState}
    (stores : pressed setup.unicode revision.definition session.state action payload = some next) :
    (world.handle setup identity eventId (.callback action payload) draw).2.held identity.key =
      some (stateWithSessionEvent eventId next, revision) := by
  have hplain := @handle_plain setup world identity session revision action holds eventId plain
    payload draw
  rw [stores] at hplain
  exact held_of_stored hplain rfl

theorem held_refused (holds : world.Holds identity.key session revision)
    (plain : action ≠ .confirm ∧ action ≠ .cancel)
    (refuses : pressed setup.unicode revision.definition session.state action payload = none) :
    (world.handle setup identity eventId (.callback action payload) draw).2.held identity.key =
      some (session.state, revision) := by
  have hplain := @handle_plain setup world identity session revision action holds eventId plain
    payload draw
  rw [refuses] at hplain
  exact held_of_stored hplain holds.pinned

theorem does_cancel : Does identity draw payload world
    (world.handle setup identity eventId (.callback .cancel payload) draw).2 .cancel :=
  Dict.get?_erase_self _ _

/-- The end of the services goes on, where something is selected. -/
theorem finished_some {pack : PackDefinition} (chosen : state.selected ≠ []) :
    ∃ next, finished pack state = some next ∧ next.selected = state.selected ∧
      (next.step = .fields ∨ next.step = .confirm) := by
  unfold IntakeCoordinator.finished
  rw [if_neg chosen]
  cases pack.orderedFields.findIdx? fun field => ¬state.fieldValues.contains field.key with
  | none => exact ⟨_, rfl, rfl, .inr rfl⟩
  | some index =>
      unfold asking
      dsimp only
      cases pack.orderedFields[index]? with
      | none => exact ⟨_, rfl, rfl, .inr rfl⟩
      | some field => exact ⟨_, rfl, rfl, .inl rfl⟩

theorem does_address (holds : world.Holds identity.key session revision)
    (step : session.state.step = .address) (action : IntakeAction)
    (one : action ∈ [IntakeAction.requestLocation, .typeAddress, .continueAfterMap]) :
    Does identity draw payload world
      (world.handle setup identity eventId (.callback action payload) draw).2 action := by
  simp only [List.mem_cons, List.not_mem_nil, or_false] at one
  rcases one with rfl | rfl | rfl
  · have hstores : pressed setup.unicode revision.definition session.state .requestLocation payload =
        some { session.state with addressMode := some "native" } :=
      if_neg (not_not_intro step)
    exact ⟨_, held_press holds (by decide) hstores, step, rfl⟩
  · have hstores : pressed setup.unicode revision.definition session.state .typeAddress payload =
        some { session.state with addressMode := some "text" } :=
      if_neg (not_not_intro step)
    exact ⟨_, held_press holds (by decide) hstores, step, rfl⟩
  · exact ⟨_, held_of_stored holds.stored holds.pinned, step⟩

theorem does_pick_iff (holds : world.Holds identity.key session revision)
    (known : (revision.definition.serviceCatalog.categories.any fun category =>
      category.key = payload.textAt "service") = true) :
    Does identity draw payload world
        (world.handle setup identity eventId (.callback .pickService payload) draw).2 .pickService ↔
      session.state.step ≠ .phone ∧ session.state.step ≠ .address := by
  have hheld := held_of_stored holds.stored holds.pinned
  unfold Does
  dsimp only
  rw [exists_held hheld]
  by_cases hpast : session.state.step = .services ∨ session.state.step = .fields ∨
      session.state.step = .confirm
  · have hready : session.state.step ≠ .phone ∧ session.state.step ≠ .address := by
      rcases hpast with h | h | h <;> simp [h]
    refine iff_of_true ?_ hready
    by_cases hmulti : revision.definition.serviceCatalog.multiSelect = true
    · have hstores : pressed setup.unicode revision.definition session.state .pickService payload =
          some { session.state with
            selected := if payload.textAt "service" ∈ session.state.selected then
              session.state.selected.erase (payload.textAt "service")
              else session.state.selected ++ [payload.textAt "service"] } := by
        unfold pressed picked
        dsimp only
        rw [if_neg (not_not_intro hpast), if_neg (not_not_intro known),
          if_neg (not_not_intro hmulti)]
      refine ⟨_, held_press holds (by decide) hstores, ?_⟩
      unfold Picks
      rw [if_pos hmulti]
      rfl
    · obtain ⟨next, hfinished, hselected, hstep⟩ := @finished_some
        { session.state with selected := [payload.textAt "service"] } revision.definition (by simp)
      have hstores : pressed setup.unicode revision.definition session.state .pickService payload =
          some next := by
        unfold pressed picked
        dsimp only
        rw [if_neg (not_not_intro hpast), if_neg (not_not_intro known), if_pos hmulti]
        exact hfinished
      refine ⟨_, held_press holds (by decide) hstores, ?_⟩
      unfold Picks
      rw [if_neg hmulti]
      exact ⟨hselected, hstep⟩
  · have hrefuses : pressed setup.unicode revision.definition session.state .pickService payload =
        none := if_pos hpast
    refine iff_of_false ?_ fun ready => hpast ?_
    · rw [exists_held (held_refused holds (by decide) hrefuses)]
      unfold Picks
      by_cases hmulti : revision.definition.serviceCatalog.multiSelect = true
      · rw [if_pos hmulti]
        intro hsame
        have hlength : session.state.selected.length = _ := congrArg List.length hsame
        by_cases hmem : payload.textAt "service" ∈ session.state.selected
        · have hpositive := List.length_pos_of_mem hmem
          rw [if_pos hmem, List.length_erase_of_mem hmem] at hlength
          omega
        · rw [if_neg hmem, List.length_append] at hlength
          simp at hlength
      · rw [if_neg hmulti]
        rintro ⟨-, hfields | hconfirm⟩
        · exact hpast (.inr (.inl hfields))
        · exact hpast (.inr (.inr hconfirm))
    · cases hstep : session.state.step with
      | phone => exact absurd hstep ready.1
      | address => exact absurd hstep ready.2
      | services => exact .inl rfl
      | fields => exact .inr (.inl rfl)
      | confirm => exact .inr (.inr rfl)

theorem does_done_iff (holds : world.Holds identity.key session revision) :
    Does identity draw payload world
        (world.handle setup identity eventId (.callback .servicesDone payload) draw).2
          .servicesDone ↔
      session.state.step = .services ∨ session.state.selected = [] := by
  have hheld := held_of_stored holds.stored holds.pinned
  unfold Does
  dsimp only
  rw [exists_held hheld]
  by_cases hchosen : session.state.selected = []
  · exact iff_of_true (.inl hchosen) (.inr hchosen)
  · rw [or_iff_right hchosen, or_iff_left hchosen]
    refine and_iff_left_of_imp fun hstep => ?_
    obtain ⟨next, hfinished, hselected, hnext⟩ := @finished_some session.state revision.definition
      hchosen
    have hstores : pressed setup.unicode revision.definition session.state .servicesDone payload =
        some next := (if_neg (not_not_intro hstep)).trans hfinished
    exact ⟨_, held_press holds (by decide) hstores, hselected, hnext⟩

theorem does_choice_iff (holds : world.Holds identity.key session revision)
    {field : FieldDefinition} (asked : session.state.asked revision.definition = some field) :
    Does identity draw payload world
        (world.handle setup identity eventId (.callback .fieldChoice payload) draw).2 .fieldChoice ↔
      hears setup.unicode field (payload.textAt "value") = some (payload.textAt "value") := by
  have hstep : session.state.step = .fields := by
    by_contra hother
    rw [IntakeState.asked_of_ne hother] at asked
    contradiction
  have hleft : (world.handle setup identity eventId (.callback .fieldChoice payload) draw).2.held
      identity.key = some (answered eventId setup.unicode revision.definition session.state
        (payload.textAt "value"), revision) := by
    have hpressed : pressed setup.unicode revision.definition session.state .fieldChoice payload =
        filled setup.unicode revision.definition session.state
          (ConfigEdits.limit (payload.textAt "value") 500) := if_neg (not_not_intro hstep)
    unfold IntakeCoordinator.answered
    cases hfilled : filled setup.unicode revision.definition session.state
        (ConfigEdits.limit (payload.textAt "value") 500) with
    | none => exact held_refused holds (by decide) (hpressed.trans hfilled)
    | some next => exact held_press holds (by decide) (hpressed.trans hfilled)
  unfold Does
  dsimp only
  rw [exists_held (held_of_stored holds.stored holds.pinned), exists_held hleft]
  rw [← @chosen_iff_hears setup.unicode revision.definition session.state field
    (payload.textAt "value") eventId holds.opened asked holds.fits.sound.counted]
  simp [asked]

/-- A new application asks for no order. -/
theorem alone_start_requests (flight : ChatFlight) (world : IntakeWorld) :
    (start.alone (performs draw) (flight, world)).2.2.requests = world.requests := by
  unfold start
  simp only [IntakeProgram.activeRevision, Program.call_bind, Program.done_bind,
    Program.alone_call, performs, perform]
  cases PostgresPackStore.activeRevision world.packs.rows flight.identity.organizationId <;> rfl

/-- What the end of the flow asks for, and what it leaves where the order is there. -/
theorem alone_submit (pack : PackDefinition) (state : IntakeState) (submissionId : String)
    (flight : ChatFlight) (world : IntakeWorld) :
    let left := ((submit identity pack state submissionId).alone (performs draw)
      (flight, world)).2.2
    left.requests = world.requests ++
        [⟨submissionId, orderCreation identity pack state, flight.read, flight.pinned⟩] ∧
      ∀ number, draw.created = .ok number → left.sessions.get? flight.key = none := by
  unfold submit IntakeProgram.createOrderOnce
  simp only [Program.call_bind, Program.alone_call, performs, perform]
  cases draw.created with
  | error failure => exact ⟨rfl, fun number h => (by cases h)⟩
  | ok number => exact ⟨rfl, fun _ _ => Dict.get?_erase_self _ _⟩

theorem does_confirm_iff (holds : world.Holds identity.key session revision)
    (step : session.state.step = .confirm) :
    Does identity draw payload world
        (world.handle setup identity eventId (.callback .confirm payload) draw).2 .confirm ↔
      session.state.selected ≠ [] := by
  unfold Does
  dsimp only
  rw [exists_held (held_of_stored holds.stored holds.pinned),
    handle_press holds eventId (by decide)]
  have hpress : press setup identity revision.definition session.state .confirm payload =
      confirm identity revision.definition session.state := if_neg (not_not_intro step)
  rw [hpress]
  unfold confirm
  by_cases hchosen : session.state.selected = []
  · rw [if_pos hchosen]
    refine iff_of_false ?_ (not_not_intro hchosen)
    rintro ⟨orderId, hasks, -⟩
    have hlength := congrArg List.length ((alone_start_requests _ world).symm.trans hasks)
    rw [List.length_append] at hlength
    simp at hlength
  · rw [if_neg hchosen]
    refine iff_of_true ?_ hchosen
    cases truthy session.state.submissionId with
    | some submissionId => exact ⟨submissionId, alone_submit _ _ _ _ world⟩
    | none => exact ⟨draw.text, alone_submit _ _ _ _ _⟩

/-- The point that a device sends while the address is asked for. -/
theorem handle_located (holds : world.Holds identity.key session revision)
    (step : session.state.step = .address) {latitude longitude : Reading} {north east : Rat}
    (method : String) (address : Option String)
    (bounded : inBounds latitude longitude = some (north, east)) :
    (world.handle setup identity eventId (.location latitude longitude method address) draw).2.held
        identity.key =
      some (stateWithSessionEvent eventId (located session.state (pointLabel north east address)
        ⟨north, east, method⟩), revision) := by
  have hlooks := @handle_looks setup world identity session revision holds eventId
    (.location latitude longitude method address)
    (fun pack state =>
      if state.step ≠ .address then .done (.words "Геопозиция сейчас не запрашивается.")
      else .call (.putSession (located state (pointLabel north east address) ⟨north, east, method⟩))
        fun _ => .done (servicesReply pack)) (by
      change handleLocation latitude longitude method address = _
      unfold handleLocation
      rw [bounded]
      rfl) draw
  rw [hlooks, if_neg (not_not_intro step)]
  exact @held_of_stored _ revision identity.key ⟨identity.provider, _, some revision⟩
    (Dict.get?_set_self _ _ _) rfl

theorem honoured_plain_iff {button : ReplyButton} (plain : button.requestLocation = false)
    (one : button.action = action.value) :
    Honoured setup identity eventId draw world button ↔
      Does identity draw button.payload world (world.handle setup identity eventId
        (.callback action button.payload) draw).2 action := by
  constructor
  · exact fun honoured => honoured.pressed action one
  · refine fun does => ⟨fun other hother => ?_, fun native => ?_⟩
    · rw [← IntakeAction.value_injective (one.symm.trans hother)]
      exact does
    · rw [plain] at native
      contradiction

theorem ready_iff {button : ReplyButton} {unicode : Unicode} {key : Key}
    (one : button.action = action.value) :
    Ready unicode world key button ↔ ReadyFor unicode button.payload world key action := by
  constructor
  · exact fun ready => ready action one
  · intro ready other hother
    rw [← IntakeAction.value_injective (one.symm.trans hother)]
    exact ready

/-- A button that fits the session is honoured exactly where the session is ready for it. -/
theorem honoured_iff (kept : world.Kept identity.key) {button : ReplyButton}
    (fits : world.Fitting identity.key button) :
    Honoured setup identity eventId draw world button ↔
      Ready setup.unicode world identity.key button := by
  rcases fits with ⟨hcancel, hplain⟩ | ⟨session, revision, hstored, hpinned, hoffers⟩
  · rw [honoured_plain_iff hplain hcancel, ready_iff hcancel]
    exact iff_of_true does_cancel True.intro
  · obtain ⟨other, holds⟩ := kept session hstored
    cases holds.pinned.symm.trans hpinned
    have hheld := held_of_stored hstored hpinned
    cases hoffers with
    | address step one =>
        have hamong : ∀ action : IntakeAction, button.action = action.value →
            action ∈ [IntakeAction.requestLocation, .typeAddress, .continueAfterMap] := by
          intro action haction
          rcases one with hone | hnone
          · rw [haction] at hone
            simp only [List.mem_cons, List.not_mem_nil, or_false] at hone ⊢
            rcases hone with h | h | h
            · exact .inl (IntakeAction.value_injective h)
            · exact .inr (.inl (IntakeAction.value_injective h))
            · exact .inr (.inr (IntakeAction.value_injective h))
          · exact absurd (haction.symm.trans hnone) action.value_ne
        refine iff_of_true ⟨fun action haction => ?_, fun native => ?_⟩ fun action haction => ?_
        · exact does_address holds step action (hamong action haction)
        · intro latitude longitude north east method address hbounded
          exact ⟨_, handle_located holds step method address hbounded, rfl, rfl⟩
        · have hone := hamong action haction
          simp only [List.mem_cons, List.not_mem_nil, or_false] at hone
          rcases hone with rfl | rfl | rfl <;> exact True.intro
    | service pick plain known =>
        rw [honoured_plain_iff plain pick, ready_iff pick, does_pick_iff holds known]
        unfold ReadyFor
        dsimp only
        rw [exists_held hheld]
    | done done plain =>
        rw [honoured_plain_iff plain done, ready_iff done, does_done_iff holds]
        unfold ReadyFor
        dsimp only
        rw [exists_held hheld]
    | choice choice plain asked =>
        rw [honoured_plain_iff plain choice, ready_iff choice, does_choice_iff holds asked]
        unfold ReadyFor
        dsimp only
        rw [exists_held hheld]
        simp [asked]
    | confirm confirm plain step =>
        rw [honoured_plain_iff plain confirm, ready_iff confirm, does_confirm_iff holds step]
        unfold ReadyFor
        dsimp only
        rw [exists_held hheld]

end IntakeWorld

/-- After every run of intake and every event that is then answered, each button of the answer,
pressed next with nothing in between, does what it says exactly where the session is ready for it.
`folds` tells of `str.casefold` that only the empty text is folded to what it is folded to. -/
theorem offered_buttons_honoured_iff (setup : IntakeCoordinator.Setup)
    (folds : ∀ text, setup.unicode.casefold text = setup.unicode.casefold "" → text = "")
    (turns : List IntakeTurn) {identity : MessengerIdentity} {eventId : String} {event : ChatEvent}
    {draw : IntakeDraw} {reply : Reply} {left : IntakeWorld}
    (answered : (IntakeWorld.after setup turns).handle setup identity eventId event draw =
      (.ok reply, left)) {button : ReplyButton} (offered : button ∈ reply.buttons)
    (nextId : String) (next : IntakeDraw) :
    Honoured setup identity nextId next left button ↔
      Ready setup.unicode left identity.key button := by
  have hkept : (IntakeWorld.after setup turns).Kept identity.key :=
    fun session hsession => IntakeWorld.holds_after setup folds turns hsession
  have hleft : left.Kept identity.key := by
    intro session hsession
    have hholds := @IntakeWorld.holds_handle setup folds turns identity eventId event draw
      identity.key session
    rw [answered] at hholds
    exact hholds hsession
  exact IntakeWorld.honoured_iff hleft (IntakeWorld.handle_fitting hkept answered button offered)

/-- Two services, of which several may be chosen. -/
def choosePack : PackDefinition :=
  { formPack floorField with
    serviceCatalog := ⟨[⟨"repair", "Ремонт", repair_named⟩, ⟨"clean", "Уборка", by decide⟩], true,
      by decide⟩ }

/-- The client comes to the services. -/
def toServices : List IntakeTurn :=
  [.pack (.begin "org" (.bootstrapActive choosePack)), .pack (.advance 0), .pack (.advance 0)] ++
  handled 0 .start ++ handled 1 (.text "+79990000000") ++
  handled 2 (.location (.finite 55) (.finite 37) "native" none)

/-- A service is pressed. -/
def presses (turns : List IntakeTurn) (service : String) : Except Failure Reply × IntakeWorld :=
  (IntakeWorld.after formSetup turns).handle formSetup formClient "event"
    (.callback .pickService (.ofList [("service", .str service)])) ⟨"drawn", .ok "W-1"⟩

/-- A service that is pressed while a field is asked is answered with "Готово", which is refused. -/
theorem offered_done_refused :
    let asked := toServices ++
      handled 3 (.callback .pickService (.ofList [("service", .str "repair")])) ++
      handled 4 (.callback .servicesDone .empty)
    ∃ reply left, presses asked "clean" = (.ok reply, left) ∧ ∃ button ∈ reply.buttons,
      button.action = IntakeAction.servicesDone.value ∧
        ¬Honoured formSetup formClient "next" ⟨"drawn", .ok "W-2"⟩ left button := by
  intro asked
  have hshown : ∃ reply ∈ (presses asked "clean").1.toOption, ∃ button ∈ reply.buttons,
      button.action = IntakeAction.servicesDone.value := by
    decide +kernel
  have hleft : ∀ before ∈ (presses asked "clean").2.held formClient.key,
      before.1.step = .fields ∧ before.1.selected = ["repair", "clean"] := by
    decide +kernel
  generalize presses asked "clean" = result at hshown hleft
  obtain ⟨outcome, left⟩ := result
  obtain ⟨reply, hreply, button, hbutton, hdone⟩ := hshown
  cases outcome with
  | error failure => contradiction
  | ok other =>
      cases hreply
      refine ⟨reply, left, rfl, button, hbutton, hdone, fun honoured => ?_⟩
      obtain ⟨before, hbefore, hnone | ⟨hservices, -⟩⟩ := honoured.pressed .servicesDone hdone
      · rw [(hleft before hbefore).2] at hnone
        contradiction
      · rw [(hleft before hbefore).1] at hservices
        contradiction

/-- At the services, "Готово" after the first choice goes on to the questions. -/
theorem offered_done_honoured :
    ∃ reply left, presses toServices "repair" = (.ok reply, left) ∧ ∃ button ∈ reply.buttons,
      button.action = IntakeAction.servicesDone.value ∧
        Honoured formSetup formClient "next" ⟨"drawn", .ok "W-2"⟩ left button := by
  have hshown : ∃ reply ∈ (presses toServices "repair").1.toOption, ∃ button ∈ reply.buttons,
      button.action = IntakeAction.servicesDone.value := by
    decide +kernel
  have hleft : ∃ before ∈ (presses toServices "repair").2.held formClient.key,
      before.1.step = .services := by
    decide +kernel
  cases hresult : presses toServices "repair" with
  | mk outcome left =>
      rw [hresult] at hshown hleft
      obtain ⟨reply, hreply, button, hbutton, hdone⟩ := hshown
      obtain ⟨before, hbefore, hservices⟩ := hleft
      cases outcome with
      | error failure => contradiction
      | ok other =>
          cases hreply
          refine ⟨reply, left, rfl, button, hbutton, hdone, ?_⟩
          exact (offered_buttons_honoured_iff formSetup (fun _ h => h) toServices hresult hbutton
            "next" ⟨"drawn", .ok "W-2"⟩).mpr
              ((IntakeWorld.ready_iff hdone).mpr ⟨before, hbefore, .inl hservices⟩)

end DispatchCore.Messaging
