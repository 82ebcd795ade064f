import DispatchCore.Messaging.HandledAlone

/-! The buttons of a reply, and the session that the reply leaves: what each of them does when it
is pressed next. -/
namespace DispatchCore.Messaging

open DispatchCore.Library DispatchCore.Domain DispatchCore.Packs DispatchCore.Infrastructure
  DispatchCore.Application

/-- What a button tells of the session that its reply leaves. -/
inductive Offers (pack : PackDefinition) (state : IntakeState) (button : ReplyButton) : Prop
  | address (step : state.step = .address)
      (one : button.action ∈ [IntakeAction.requestLocation.value, IntakeAction.typeAddress.value,
        IntakeAction.continueAfterMap.value] ∨ button.action = "")
  | service (pick : button.action = IntakeAction.pickService.value)
      (plain : button.requestLocation = false)
      (known : (pack.serviceCatalog.categories.any fun category =>
        category.key = button.payload.textAt "service") = true)
  | done (done : button.action = IntakeAction.servicesDone.value)
      (plain : button.requestLocation = false)
  | choice (choice : button.action = IntakeAction.fieldChoice.value)
      (plain : button.requestLocation = false) {field : FieldDefinition}
      (asked : state.asked pack = some field)
  | confirm (confirm : button.action = IntakeAction.confirm.value)
      (plain : button.requestLocation = false) (step : state.step = .confirm)

def ReplyButton.Cancels (button : ReplyButton) : Prop :=
  button.action = IntakeAction.cancel.value ∧ button.requestLocation = false

/-- The button cancels, or it is offered to the session as it is left. -/
def Fits (current : Option IntakeState) (pinned : Option PackRevision) (button : ReplyButton) :
    Prop :=
  button.Cancels ∨ ∃ state revision, current = some state ∧
    pinned = some revision ∧ Offers revision.definition state button

/-- Whatever the rest of a handler is told, the buttons of its answer fit the session it leaves.
It reads before it stores. -/
def Shows (eventId : String) :
    Bool → Option IntakeState → Option PackRevision → IntakeProgram Reply → Prop
  | _, current, pinned, .done reply => ∀ button ∈ reply.buttons, Fits current pinned button
  | _, _, _, .raise _ => True
  | fresh, _, _, .call .getSession resume => fresh = true ∧
      ∀ (found : Option IntakeState) (pinned : Option PackRevision),
        Pinned found pinned → Shows eventId true found pinned (resume found)
  | _, _, pinned, .call (.putSession state) resume =>
      Shows eventId false (some (stateWithSessionEvent eventId state)) pinned (resume ())
  | _, _, pinned, .call .clearSession resume => Shows eventId false none pinned (resume ())
  | fresh, _, _, .call .activeRevision resume =>
      ∀ found : Option PackRevision, Shows eventId fresh none found (resume found)
  | fresh, current, pinned, .call (.revision version) resume => fresh = true ∧ current.isSome ∧
      ∀ found : Option PackRevision, (∀ revision ∈ pinned, version = revision.version →
        ∃ stored, found = some stored ∧ stored.definition = revision.definition) →
          Shows eventId true current pinned (resume found)
  | fresh, current, pinned, .call (.createOrderOnce _ _) resume =>
      ∀ answer, Shows eventId fresh current pinned (resume answer)
  | fresh, current, pinned, .call .uuid4 resume =>
      ∀ text, Shows eventId fresh current pinned (resume text)
  | fresh, current, pinned, .call .tokenUrlsafe resume =>
      ∀ token, Shows eventId fresh current pinned (resume token)

namespace IntakeCoordinator

variable {eventId : String} {fresh : Bool} {current : Option IntakeState}
  {pinned : Option PackRevision} {revision : PackRevision} {pack : PackDefinition}
  {before state : IntakeState} {button : ReplyButton}

theorem fits_cancel (cancels : button.Cancels) :
    Fits current pinned button := .inl cancels

theorem fits_offers (offers : Offers revision.definition state button) :
    Fits (some state) (some revision) button := .inr ⟨state, revision, rfl, rfl, offers⟩

/-! ### The buttons of each kind of reply -/

theorem fits_words (text : String) : ∀ button ∈ (Reply.words text).buttons,
    Fits current pinned button := by
  intro button hbutton
  contradiction

theorem fits_cancelButton : ∀ button ∈ [cancelButton], Fits current pinned button := by
  intro button hbutton
  obtain rfl := List.mem_singleton.mp hbutton
  exact fits_cancel ⟨rfl, rfl⟩

theorem fits_serviceButtons (selected : List String) :
    ∀ button ∈ serviceButtons revision.definition selected,
      Fits (some state) (some revision) button := by
  intro button hbutton
  have hservices : ∀ button ∈ revision.definition.serviceCatalog.categories.mapIdx
      (fun row category =>
        { text := (if category.key ∈ selected then "✅ " else "") ++ category.label
          action := IntakeAction.pickService.value
          payload := .ofList [("service", .str category.key)]
          allowedRole := some Role.client
          row := row
          url := none
          requestLocation := false
          worded := marked_ne category.named.2
          aimed := .inl (IntakeAction.value_ne _)
          single := by simp : ReplyButton }), Offers revision.definition state button := by
    intro button hservice
    obtain ⟨row, hrow, rfl⟩ := List.mem_mapIdx.mp hservice
    refine .service rfl rfl ?_
    rw [List.any_eq_true]
    exact ⟨_, List.getElem_mem hrow, decide_eq_true rfl⟩
  simp only [serviceButtons] at hbutton
  by_cases hmulti : revision.definition.serviceCatalog.multiSelect = true
  · rw [if_pos hmulti] at hbutton
    rcases List.mem_append.mp hbutton with hservice | hdone
    · exact fits_offers (hservices button hservice)
    · obtain rfl := List.mem_singleton.mp hdone
      exact fits_offers (.done rfl rfl)
  · rw [if_neg hmulti] at hbutton
    exact fits_offers (hservices button hbutton)

theorem fits_confirmButtons (step : state.step = .confirm) :
    ∀ button ∈ confirmButtons, Fits (some state) (some revision) button := by
  intro button hbutton
  simp only [confirmButtons, List.mem_cons, List.not_mem_nil, or_false] at hbutton
  rcases hbutton with rfl | rfl
  · exact fits_offers (.confirm rfl rfl step)
  · exact fits_cancel ⟨rfl, rfl⟩

theorem fits_addressButtons (publicBaseUrl : Option String) (told : IntakeState)
    (step : state.step = .address) :
    ∀ button ∈ addressButtons publicBaseUrl told, Fits (some state) (some revision) button := by
  intro button hbutton
  simp only [addressButtons] at hbutton
  rcases List.mem_append.mp hbutton with hfirst | hlast
  · rcases List.mem_append.mp hfirst with hhead | hmiddle
    · obtain rfl := List.mem_singleton.mp hhead
      exact fits_offers (.address step (.inl (by
        simp [IntakeCoordinator.button, ReplyButton.plain])))
    · cases hbase : truthy publicBaseUrl with
      | none =>
          rw [hbase] at hmiddle
          contradiction
      | some baseUrl =>
          rw [hbase] at hmiddle
          dsimp only at hmiddle
          by_cases hlong : 43 ≤ Text.size (told.addressToken.getD "")
          · rw [if_pos hlong] at hmiddle
            simp only [List.mem_cons, List.not_mem_nil, or_false] at hmiddle
            rcases hmiddle with rfl | rfl
            · exact fits_offers (.address step (.inr rfl))
            · exact fits_offers (.address step (.inl (by
                simp [IntakeCoordinator.button, ReplyButton.plain])))
          · rw [if_neg hlong] at hmiddle
            contradiction
  · simp only [List.mem_cons, List.not_mem_nil, or_false] at hlast
    rcases hlast with rfl | rfl
    · exact fits_offers (.address step (.inl (by
        simp [IntakeCoordinator.button, ReplyButton.plain])))
    · exact fits_cancel ⟨rfl, rfl⟩

theorem choiceButtons_actions {choices : List String} {row : Nat} {buttons : List ReplyButton}
    (built : choiceButtons choices row = .ok buttons) :
    ∀ button ∈ buttons, button.Cancels ∨
      (button.action = IntakeAction.fieldChoice.value ∧ button.requestLocation = false) := by
  induction choices generalizing row buttons with
  | nil =>
      cases built
      intro button hbutton
      obtain rfl := List.mem_singleton.mp hbutton
      exact .inl ⟨rfl, rfl⟩
  | cons choice rest ih =>
      unfold choiceButtons at built
      cases hfirst : ReplyButton.make choice IntakeAction.fieldChoice.value
          (.ofList [("value", .str choice)]) .client row (IntakeAction.value_ne _) with
      | error failure =>
          rw [hfirst] at built
          contradiction
      | ok first =>
          cases hothers : choiceButtons rest (row + 1) with
          | error failure =>
              rw [hfirst, hothers] at built
              contradiction
          | ok others =>
              rw [hfirst, hothers] at built
              cases built
              intro button hbutton
              rcases List.mem_cons.mp hbutton with rfl | hrest
              · refine .inr ?_
                unfold ReplyButton.make at hfirst
                split at hfirst
                · cases hfirst
                  exact ⟨rfl, rfl⟩
                · contradiction
              · exact ih hothers button hrest

theorem fits_askField {field : FieldDefinition} {reply : Reply}
    (asked : state.asked revision.definition = some field) (asks : askField field = .ok reply) :
    ∀ button ∈ reply.buttons, Fits (some state) (some revision) button := by
  unfold askField at asks
  by_cases henum : field.fieldType = .enum
  · simp only [if_pos henum] at asks
    cases hbuilt : choiceButtons field.choices 0 with
    | error failure =>
        rw [hbuilt] at asks
        contradiction
    | ok buttons =>
        rw [hbuilt] at asks
        cases asks
        intro button hbutton
        rcases choiceButtons_actions hbuilt button hbutton with hcancel | hchoice
        · exact fits_cancel hcancel
        · exact fits_offers (.choice hchoice.1 hchoice.2 asked)
  · simp only [if_neg henum] at asks
    cases asks
    intro button hbutton
    obtain rfl := List.mem_singleton.mp hbutton
    exact fits_cancel ⟨rfl, rfl⟩

theorem shows_askField {field : FieldDefinition}
    (asked : state.asked revision.definition = some field) :
    Shows eventId fresh (some state) (some revision) (.attempt (askField field)) := by
  cases hasks : askField field with
  | error failure => exact True.intro
  | ok reply => exact fits_askField asked hasks

/-! ### The handlers -/

theorem shows_start : Shows eventId fresh current pinned start := by
  intro found
  cases found with
  | none => exact fits_words _
  | some revision => exact fun submissionId => fits_cancelButton

theorem shows_toConfirmation :
    Shows eventId fresh current (some revision) (toConfirmation revision.definition state) :=
  fits_confirmButtons rfl

theorem shows_nextField (asked : state.step = .fields) (index : Nat) :
    Shows eventId fresh current (some revision) (nextField revision.definition state index) := by
  unfold nextField
  dsimp only
  rcases hhere : revision.definition.orderedFields[skipAnswered revision.definition.orderedFields
    state.fieldValues index]? with _ | field
  · exact shows_toConfirmation
  · refine shows_askField ?_
    simp only [IntakeState.asked, stateWithSessionEvent, asked, if_true, Int.toNat_natCast]
    exact hhere

theorem shows_finishServices :
    Shows eventId fresh (some before) (some revision)
      (finishServices revision.definition state) := by
  unfold finishServices
  by_cases hnone : state.selected = []
  · rw [if_pos hnone]
    exact fits_serviceButtons _
  · rw [if_neg hnone]
    dsimp only
    generalize hfound : List.findIdx? _ _ = found
    cases found with
    | none => exact shows_toConfirmation
    | some index =>
        obtain ⟨hbound, -⟩ := List.findIdx?_eq_some_iff_getElem.mp hfound
        have hhere := List.getElem?_eq_getElem hbound
        dsimp only
        rw [hhere]
        refine shows_askField ?_
        simp only [IntakeState.asked, stateWithSessionEvent, if_true, Int.toNat_natCast]
        exact hhere

theorem shows_pickService (key : String) :
    Shows eventId fresh (some before) (some revision)
      (pickService revision.definition before key) := by
  unfold pickService
  by_cases hknown : (revision.definition.serviceCatalog.categories.any fun category =>
      category.key = key) = true
  · rw [if_neg (not_not_intro hknown)]
    by_cases hmulti : revision.definition.serviceCatalog.multiSelect = true
    · rw [if_neg (not_not_intro hmulti)]
      exact fits_serviceButtons _
    · rw [if_pos hmulti]
      exact shows_finishServices
  · rw [if_pos hknown]
    exact fits_words _

theorem shows_fillField (unicode : Unicode) (asked : before.step = .fields) (text : String) :
    Shows eventId fresh (some before) (some revision)
      (fillField unicode revision.definition before text) := by
  unfold fillField
  by_cases hbelow : before.fieldIndex < 0
  · rw [if_pos hbelow]
    exact shows_toConfirmation
  · rw [if_neg hbelow]
    cases hhere : revision.definition.orderedFields[before.fieldIndex.toNat]? with
    | none => exact shows_toConfirmation
    | some field =>
        dsimp only
        unfold answerField
        dsimp only
        by_cases hskip : ConfigEdits.limit text 500 = "" ∨ ConfigEdits.limit text 500 = "-"
        · rw [if_pos hskip]
          by_cases hrequired : field.required = true
          · rw [if_pos hrequired]
            exact fits_cancelButton
          · rw [if_neg hrequired]
            exact shows_nextField asked _
        · rw [if_neg hskip]
          cases normalizeFieldValue unicode field (ConfigEdits.limit text 500) with
          | some value =>
              exact @shows_nextField eventId fresh _ revision { before with
                fieldValues := before.fieldValues.set field.key value } asked _
          | none =>
              dsimp only
              by_cases hinteger : field.fieldType = .integer
              · rw [if_pos hinteger]
                exact fits_cancelButton
              · rw [if_neg hinteger]
                have hasked : before.asked revision.definition = some field := by
                  rw [IntakeState.asked, if_pos asked]
                  exact hhere
                cases hasks : askField field with
                | error failure => exact True.intro
                | ok reply =>
                    change ∀ button ∈ reply.buttons, Fits (some before) (some revision) button
                    exact fits_askField hasked hasks

theorem shows_fillPhone (publicBaseUrl : Option String) (text : String) :
    Shows eventId fresh current (some revision) (fillPhone publicBaseUrl before text) := by
  unfold fillPhone
  dsimp only
  generalize ConfigEdits.limit text 500 = value
  by_cases hshort : value = "" ∨ (phoneLetters value).length < 7
  · rw [if_pos hshort]
    exact fits_cancelButton
  · rw [if_neg hshort]
    exact fun token => fits_addressButtons publicBaseUrl _ rfl

theorem shows_fillAddress (text : String) :
    Shows eventId fresh current (some revision)
      (fillAddress revision.definition before text) := by
  unfold fillAddress
  dsimp only
  generalize ConfigEdits.limit text 500 = value
  by_cases hshort : value = "" ∨ Text.size value < 5
  · rw [if_pos hshort]
    exact fits_cancelButton
  · rw [if_neg hshort]
    exact fits_serviceButtons _

/-- The session that was read is pinned, and its revision is still what it was. -/
theorem shows_packForState (fits : before.PinnedTo revision)
    {next : Option PackRevision × IntakeState → IntakeProgram Reply}
    (rest : ∀ stored : PackRevision, stored.definition = revision.definition →
      Shows eventId true (some before) (some revision) (next (some stored, before))) :
    Shows eventId true (some before) (some revision) (packForState before >>= next) := by
  rw [packForState_pinned fits]
  refine ⟨rfl, rfl, fun found told => ?_⟩
  obtain ⟨stored, rfl, hsame⟩ := told revision rfl rfl
  exact rest stored hsame

theorem shows_handleText (setup : Setup) (text : String) :
    Shows eventId true none none (handleText setup text) := by
  refine ⟨rfl, fun found pinned hpinned => ?_⟩
  cases found with
  | none => exact shows_start
  | some before =>
      obtain ⟨revision, rfl, fits⟩ := hpinned before rfl
      refine shows_packForState fits fun stored hstored => ?_
      dsimp only
      rw [hstored]
      cases hstep : before.step with
      | phone => exact shows_fillPhone _ _
      | address => exact shows_fillAddress _
      | services => exact fits_serviceButtons _
      | fields => exact shows_fillField _ hstep _
      | confirm => exact fits_confirmButtons hstep

theorem shows_handleLocation (latitude longitude : Reading) (method : String)
    (address : Option String) :
    Shows eventId true none none (handleLocation latitude longitude method address) := by
  unfold handleLocation
  cases inBounds latitude longitude with
  | none => exact fits_words _
  | some point =>
      refine ⟨rfl, fun found pinned hpinned => ?_⟩
      cases found with
      | none => exact shows_start
      | some before =>
          obtain ⟨revision, rfl, fits⟩ := hpinned before rfl
          refine shows_packForState fits fun stored hstored => ?_
          dsimp only
          by_cases hstep : before.step = .address
          · rw [if_neg (not_not_intro hstep), hstored]
            exact fits_serviceButtons _
          · rw [if_pos hstep]
            exact fits_words _

theorem shows_submit (identity : MessengerIdentity) (submissionId : String) :
    Shows eventId fresh current pinned (submit identity pack before submissionId) := by
  intro answer
  cases answer with
  | error failure => exact True.intro
  | ok publicNumber => exact fits_words _

theorem shows_confirmed (identity : MessengerIdentity) :
    Shows eventId fresh current pinned (confirm identity pack before) := by
  unfold confirm
  by_cases hnone : before.selected = []
  · rw [if_pos hnone]
    exact shows_start
  · rw [if_neg hnone]
    cases truthy before.submissionId with
    | some submissionId => exact shows_submit identity submissionId
    | none => exact fun submissionId => shows_submit identity submissionId

theorem shows_press (setup : Setup) (identity : MessengerIdentity) (action : IntakeAction)
    (payload : Dict String Json) :
    Shows eventId fresh (some before) (some revision)
      (press setup identity revision.definition before action payload) := by
  unfold press
  cases action with
  | cancel => exact fits_words _
  | requestLocation =>
      by_cases hstep : before.step = .address
      · simp only [if_neg (not_not_intro hstep)]
        intro button hbutton
        obtain rfl := List.mem_singleton.mp hbutton
        exact fits_offers (.address hstep (.inr rfl))
      · simp only [if_pos hstep]
        exact fits_words _
  | typeAddress =>
      by_cases hstep : before.step = .address
      · simp only [if_neg (not_not_intro hstep)]
        exact fits_cancelButton
      · simp only [if_pos hstep]
        exact fits_words _
  | continueAfterMap =>
      dsimp only
      by_cases hservices : before.step = .services
      · rw [if_pos hservices]
        exact fits_serviceButtons _
      · rw [if_neg hservices]
        by_cases hstep : before.step = .address
        · rw [if_neg (not_not_intro hstep)]
          exact fits_addressButtons _ _ hstep
        · rw [if_pos hstep]
          exact fits_words _
  | pickService =>
      dsimp only
      by_cases hstep : before.step = .services ∨ before.step = .fields ∨ before.step = .confirm
      · rw [if_neg (not_not_intro hstep)]
        exact shows_pickService _
      · rw [if_pos hstep]
        exact fits_serviceButtons _
  | fieldChoice =>
      by_cases hstep : before.step = .fields
      · simp only [if_neg (not_not_intro hstep)]
        exact shows_fillField _ hstep _
      · simp only [if_pos hstep]
        exact fits_words _
  | servicesDone =>
      by_cases hstep : before.step = .services
      · simp only [if_neg (not_not_intro hstep)]
        exact shows_finishServices
      · simp only [if_pos hstep]
        exact fits_serviceButtons _
  | confirm =>
      by_cases hstep : before.step = .confirm
      · simp only [if_neg (not_not_intro hstep)]
        exact shows_confirmed identity
      · simp only [if_pos hstep]
        exact fits_words _

theorem shows_handleCallback (setup : Setup) (identity : MessengerIdentity) (action : IntakeAction)
    (payload : Dict String Json) :
    Shows eventId true none none (handleCallback setup identity action payload) := by
  unfold handleCallback
  by_cases hcancel : action = .cancel
  · rw [if_pos hcancel]
    exact fits_words _
  · rw [if_neg hcancel]
    refine ⟨rfl, fun found pinned hpinned => ?_⟩
    cases found with
    | none => exact shows_start
    | some before =>
        obtain ⟨revision, rfl, fits⟩ := hpinned before rfl
        refine shows_packForState fits fun stored hstored => ?_
        dsimp only
        rw [hstored]
        exact shows_press setup identity action payload

theorem shows_program (setup : Setup) (identity : MessengerIdentity) (event : ChatEvent) :
    Shows eventId true none none (event.program setup identity) := by
  cases event with
  | start => exact shows_start
  | text body => exact shows_handleText setup body
  | location latitude longitude method address =>
      exact shows_handleLocation latitude longitude method address
  | callback action payload => exact shows_handleCallback setup identity action payload

end IntakeCoordinator

namespace IntakeWorld

open IntakeCoordinator

variable {world : IntakeWorld} {flight : ChatFlight} {key : Key} {eventId : String}
  {fresh : Bool} {current : Option IntakeState} {pinned : Option PackRevision}

/-- The button cancels, or it is offered to the session that is stored. -/
def Fitting (world : IntakeWorld) (key : Key) (button : ReplyButton) : Prop :=
  button.Cancels ∨ ∃ session revision,
    world.sessions.get? key = some session ∧ session.pinned = some revision ∧
      Offers revision.definition session.state button

/-- The stored session is one that a run of intake has left. -/
def Kept (world : IntakeWorld) (key : Key) : Prop :=
  ∀ session, world.sessions.get? key = some session →
    ∃ revision, world.Holds key session revision

/-- Where a handler that runs alone stands. -/
structure Stands (key : Key) (eventId : String) (fresh : Bool) (current : Option IntakeState)
    (pinned : Option PackRevision) (flight : ChatFlight) (world : IntakeWorld) : Prop where
  own : flight.key = key
  event : flight.eventId = eventId
  revision : flight.pinned = pinned
  session : ∀ state ∈ current, ∃ session, world.sessions.get? key = some session ∧
    session.state = state ∧ session.pinned = pinned
  kept : fresh = true → world.Kept key

theorem Stands.fitting (stands : Stands key eventId fresh current pinned flight world)
    {button : ReplyButton} (fits : Fits current pinned button) : world.Fitting key button := by
  rcases fits with hcancel | ⟨state, revision, hcurrent, hpinned, hoffers⟩
  · exact .inl hcancel
  · obtain ⟨session, hstored, rfl, hsame⟩ := stands.session state hcurrent
    exact .inr ⟨session, revision, hstored, hsame.trans hpinned, hoffers⟩

/-- The session that a handler has read. -/
theorem Stands.read (stands : Stands key eventId true current pinned flight world)
    (draw : IntakeDraw) :
    ∃ found pinned, Pinned found pinned ∧ (performs draw .getSession (flight, world)).1 = found ∧
      Stands key eventId true found pinned (performs draw .getSession (flight, world)).2.1
        (performs draw .getSession (flight, world)).2.2 := by
  have hkept := stands.kept rfl
  simp only [performs, perform, stands.own]
  cases hsession : world.sessions.get? key with
  | none =>
      exact ⟨none, none, fun _ h => (by cases h), rfl,
        stands.own, stands.event, rfl, fun _ h => (by cases h), fun _ => hkept⟩
  | some session =>
      obtain ⟨revision, holds⟩ := hkept session hsession
      refine ⟨some session.state, some revision, pinned_some holds.fits, rfl,
        stands.own, stands.event, holds.pinned, fun state hstate => ?_, fun _ => hkept⟩
      cases hstate
      exact ⟨session, hsession, rfl, holds.pinned⟩

/-- The revision of the session that was read is found. -/
theorem Stands.finds (stands : Stands key eventId true current pinned flight world)
    (read : current.isSome) {version : Int} : ∀ revision ∈ pinned, version = revision.version →
      ∃ stored, PostgresPackStore.revision world.packs.rows flight.identity.organizationId version =
        some stored ∧ stored.definition = revision.definition := by
  rintro revision hrevision rfl
  obtain ⟨state, hstate⟩ := Option.isSome_iff_exists.mp read
  obtain ⟨session, hsession, -, hpinned⟩ := stands.session state hstate
  obtain ⟨other, holds⟩ := stands.kept rfl session hsession
  cases (holds.pinned.symm.trans hpinned).trans hrevision
  rw [show flight.identity.organizationId = key.1 from congrArg Prod.fst stands.own]
  exact holds.found

theorem Stands.stored (stands : Stands key eventId fresh current pinned flight world)
    (draw : IntakeDraw) (state : IntakeState) :
    Stands key eventId false (some (stateWithSessionEvent eventId state)) pinned
      (performs draw (.putSession state) (flight, world)).2.1
      (performs draw (.putSession state) (flight, world)).2.2 := by
  refine ⟨stands.own, stands.event, stands.revision, fun stored hstored => ?_,
    fun h => (by cases h)⟩
  cases hstored
  rw [← stands.own, ← stands.event]
  exact ⟨_, Dict.get?_set_self _ _ _, rfl, stands.revision⟩

/-- The tokens and the calls for orders are not looked at. -/
theorem Stands.beside (stands : Stands key eventId fresh current pinned flight world)
    (issued : List (String × Key)) (requests : List IntakeRequest) (drawn : Option String) :
    Stands key eventId fresh current pinned { flight with drawn := drawn }
      { world with issued := issued, requests := requests } := by
  refine ⟨stands.own, stands.event, stands.revision, stands.session, fun h session hsession => ?_⟩
  obtain ⟨revision, holds⟩ := stands.kept h session hsession
  exact ⟨revision, { holds with }⟩

theorem alone_fitting {program : IntakeProgram Reply}
    (answers : Shows eventId fresh current pinned program)
    (stands : Stands key eventId fresh current pinned flight world) (draw : IntakeDraw)
    {reply : Reply} {place : ChatFlight × IntakeWorld}
    (answered : program.alone (performs draw) (flight, world) = (.ok reply, place)) :
    ∀ button ∈ reply.buttons, place.2.Fitting key button := by
  induction program generalizing world flight fresh current pinned with
  | done value =>
      cases answered
      exact fun button hbutton => stands.fitting (answers button hbutton)
  | raise failure => cases answered
  | call op resume ih =>
      rw [Program.alone_call] at answered
      cases op with
      | getSession =>
          obtain ⟨rfl, hanswers⟩ := answers
          obtain ⟨found, read, hpinned, hfound, hstands⟩ := stands.read draw
          exact ih _ (hfound ▸ hanswers found read hpinned) hstands answered
      | putSession state => exact ih _ answers (stands.stored draw state) answered
      | clearSession =>
          have hstands : Stands key eventId false none pinned
              (performs draw .clearSession (flight, world)).2.1
              (performs draw .clearSession (flight, world)).2.2 :=
            ⟨stands.own, stands.event, stands.revision, fun _ h => (by cases h),
              fun h => (by cases h)⟩
          exact ih _ answers hstands answered
      | activeRevision =>
          have hstands : Stands key eventId fresh none
              (performs draw .activeRevision (flight, world)).1
              (performs draw .activeRevision (flight, world)).2.1
              (performs draw .activeRevision (flight, world)).2.2 :=
            ⟨stands.own, stands.event, rfl, fun _ h => (by cases h), stands.kept⟩
          exact ih _ (answers _) hstands answered
      | revision version =>
          obtain ⟨rfl, hread, hanswers⟩ := answers
          exact ih _ (hanswers _ (stands.finds hread)) stands answered
      | createOrderOnce orderId creation =>
          have hstands := stands.beside world.issued
            (world.requests ++ [⟨orderId, creation, flight.read, flight.pinned⟩]) flight.drawn
          exact ih _ (answers _) hstands answered
      | uuid4 => exact ih _ (answers _) stands answered
      | tokenUrlsafe =>
          have hstands := stands.beside (world.issued ++ [(draw.text, flight.key)])
            world.requests (some draw.text)
          exact ih _ (answers _) hstands answered

/-- The buttons of a reply fit the session that the reply leaves. -/
theorem handle_fitting {setup : Setup} {identity : MessengerIdentity} (kept : world.Kept identity.key)
    {event : ChatEvent} {draw : IntakeDraw} {reply : Reply} {left : IntakeWorld}
    (answered : world.handle setup identity eventId event draw = (.ok reply, left)) :
    ∀ button ∈ reply.buttons, left.Fitting identity.key button := by
  have hstands : Stands identity.key eventId true none none
      (arrived setup identity eventId event) world :=
    ⟨rfl, rfl, rfl, fun _ h => (by cases h), fun _ => kept⟩
  unfold handle at answered
  generalize hresult : (event.program setup identity).alone (performs draw)
    (arrived setup identity eventId event, world) = result at answered
  obtain ⟨outcome, place⟩ := result
  cases answered
  exact alone_fitting (shows_program setup identity event) hstands draw hresult

end IntakeWorld
end DispatchCore.Messaging
