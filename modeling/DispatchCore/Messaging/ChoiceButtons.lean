import DispatchCore.Messaging.FaithfulDetails

/-! The button of a choice carries the choice and not the question.  It answers the question that
is asked when it is pressed, which need not be the one it was shown with. -/
namespace DispatchCore.Messaging

open DispatchCore.Library DispatchCore.Domain DispatchCore.Packs DispatchCore.Infrastructure
  DispatchCore.Application

/-- What a handler at its end has answered. -/
def ChatFlight.reply (flight : ChatFlight) : Option Reply :=
  match flight.program with
  | .done reply => some reply
  | _ => none

/-- The session a handler is about to store. -/
def ChatFlight.stores (flight : ChatFlight) : Option IntakeState :=
  match flight.program with
  | .call (.putSession state) _ => some state
  | _ => none

/-- The choice whose button is pressed. -/
def ChatFlight.choice (flight : ChatFlight) : Option String :=
  match flight.event with
  | .callback .fieldChoice payload => some (payload.textAt "value")
  | _ => none

/-- The client was shown the choice as a button of the field's question. -/
def IntakeWorld.Offered (world : IntakeWorld) (key : Key) (field : FieldDefinition)
    (choice : String) : Prop :=
  field.fieldType = .enum ∧ ∃ flight ∈ world.flights, flight.key = key ∧ ∃ reply ∈ flight.reply,
    (IntakeCoordinator.askField field).toOption.map Reply.text = some reply.text ∧
      ∃ button ∈ reply.buttons, button.action = IntakeAction.fieldChoice.value ∧
        button.payload.textAt "value" = choice

/-- The answers of a session; before an application is begun there are none. -/
def answersOf (session : Option IntakeState) : Dict String String :=
  (session.map IntakeState.fieldValues).getD .empty

/-- The press records the choice as the value of its own field, or changes no answer. -/
def OwnAnswer (key choice : String) (before after : Dict String String) : Prop :=
  after = before ∨ after = before.set key choice

namespace IntakeCoordinator

/-- The field takes no answer from a text. -/
def Deaf (unicode : Unicode) (field : FieldDefinition) (text : String) : Prop :=
  let value := ConfigEdits.limit text 500
  value = "" ∨ value = "-" ∨
    (field.fieldType = .integer ∧ Text.int? value = none) ∨
    (field.fieldType = .enum ∧ ∀ choice ∈ field.choices,
      unicode.casefold choice ≠ unicode.casefold value)

/-- The field that is asked is the button's own and reads the choice as itself, or it is one that
takes nothing from the choice.  No field is asked at another step, nor without a session. -/
def Apt (unicode : Unicode) (key choice : String) (read : Option IntakeState)
    (pinned : Option PackRevision) : Prop :=
  ∀ before ∈ read, ∀ revision ∈ pinned, ∀ field ∈ before.asked revision.definition,
    Deaf unicode field choice ∨ (field.key = key ∧ hears unicode field choice = some choice)

variable {unicode : Unicode} {field : FieldDefinition} {text : String}

theorem normalizeFieldValue_eq_none {value : String} :
    normalizeFieldValue unicode field value = none ↔
      (field.fieldType = .integer ∧ Text.int? value = none) ∨
        (field.fieldType = .enum ∧ ∀ choice ∈ field.choices,
          unicode.casefold choice ≠ unicode.casefold value) := by
  unfold normalizeFieldValue
  cases field.fieldType <;> simp

theorem hears_eq_none : hears unicode field text = none ↔ Deaf unicode field text := by
  unfold hears Deaf
  generalize ConfigEdits.limit text 500 = value
  dsimp only
  rw [← normalizeFieldValue_eq_none, ← or_assoc]
  by_cases hskips : value = "" ∨ value = "-"
  · rw [if_pos hskips]
    exact iff_of_true rfl (.inl hskips)
  · rw [if_neg hskips, or_iff_right hskips]

end IntakeCoordinator

open IntakeCoordinator

section press

variable {unicode : Unicode} {payload : Dict String Json} {read : Option IntakeState}
  {pinned : Option PackRevision} {state : IntakeState} {key choice : String}

/-- An answer comes under the key of the field that is asked, where there was none. -/
theorem ownAnswer_set_iff {before : Dict String String} {asked answer : String}
    (opened : before.contains asked = false) :
    OwnAnswer key choice before (before.set asked answer) ↔ asked = key ∧ answer = choice := by
  have hnone : before.get? asked = none := by
    rw [← Option.not_isSome_iff_eq_none]
    simpa [Dict.contains] using opened
  constructor
  · rintro (hsame | hsame)
    · have hget := congrArg (fun answers => answers.get? asked) hsame
      simp only [Dict.get?_set_self, hnone] at hget
      contradiction
    · have hget := congrArg (fun answers => answers.get? asked) hsame
      simp only [Dict.get?_set_self, Dict.get?_set, hnone] at hget
      by_cases hkey : asked = key
      · rw [if_pos hkey] at hget
        exact ⟨hkey, Option.some.inj hget⟩
      · rw [if_neg hkey] at hget
        contradiction
  · rintro ⟨rfl, rfl⟩
    exact .inr rfl

/-- What a press stores keeps to its own question exactly where it is apt. -/
theorem Stored.ownAnswer_iff
    (stored : Stored unicode (.callback .fieldChoice payload) read pinned state)
    (opened : ∀ before ∈ read, ∀ revision ∈ pinned, before.Open revision.definition) :
    OwnAnswer key (payload.textAt "value") (answersOf read) state.fieldValues ↔
      Apt unicode key (payload.textAt "value") read pinned := by
  cases stored with
  | begun begins phone values location =>
      cases read with
      | some before => contradiction
      | none =>
          have happt : Apt unicode key (payload.textAt "value") none pinned := by
            intro before hbefore
            contradiction
          exact iff_of_true (.inl values) happt
  | @goesOn revision before after begins was written opens =>
      subst was
      change OwnAnswer key _ before.fieldValues state.fieldValues ↔ _
      cases written with
      | phone words => contradiction
      | address words => contradiction
      | located point => contradiction
      | @answered text answer field after words asked heard values location =>
          cases words
          rw [values, ownAnswer_set_iff (opened before rfl revision rfl field asked)]
          constructor
          · rintro ⟨hkey, rfl⟩ other hother pinned hpinned found hfound
            cases hother
            cases hpinned
            cases asked.symm.trans hfound
            exact .inr ⟨hkey, heard⟩
          · intro happt
            rcases happt before rfl revision rfl field asked with hdeaf | ⟨hkey, hheard⟩
            · rw [hears_eq_none.mpr hdeaf] at heard
              contradiction
            · exact ⟨hkey, Option.some.inj (heard.symm.trans hheard)⟩
      | kept elsewhere still silent values location =>
          refine iff_of_true (.inl values) fun other hother pinned hpinned field hasked => ?_
          cases hother
          cases hpinned
          exact .inl (hears_eq_none.mp (silent _ rfl field hasked))

end press

/-! ### Runs -/

namespace ChatFlight

variable {flight : ChatFlight}

theorem choice_eq_some {choice : String} (pressed : flight.choice = some choice) :
    ∃ payload, flight.event = .callback .fieldChoice payload ∧ payload.textAt "value" = choice := by
  unfold ChatFlight.choice at pressed
  split at pressed
  · exact ⟨_, by assumption, Option.some.inj pressed⟩
  · contradiction

theorem stores_eq_some {state : IntakeState} (stores : flight.stores = some state) :
    ∃ resume, flight.program = .call (.putSession state) resume := by
  unfold ChatFlight.stores at stores
  split at stores
  · cases stores
    exact ⟨_, by assumption⟩
  · contradiction

end ChatFlight

/-- A turn of intake, with no question beside it. -/
def IntakeTurn.heard : IntakeTurn → HeardTurn
  | .pack action => .pack action
  | .arrive identity eventId event => .arrive identity eventId event none
  | .chat index draw => .chat index draw
  | .submit token latitude longitude address => .submit token latitude longitude address

theorem IntakeTurn.turn_heard (next : IntakeTurn) : next.heard.turn = next := by
  cases next <;> rfl

theorem HeardWorld.world_run (setup : Setup) (heard : HeardWorld) (turns : List IntakeTurn) :
    ((turns.map IntakeTurn.heard).foldl (HeardWorld.turn setup) heard).world =
      heard.world.run setup turns := by
  induction turns generalizing heard with
  | nil => rfl
  | cons next rest ih =>
      rw [List.map_cons, List.foldl_cons, ih, HeardWorld.world_turn, IntakeTurn.turn_heard]
      rfl

/-- Every run of intake is one in which what was said is kept beside. -/
theorem HeardWorld.sound_run (setup : Setup)
    (folds : ∀ text, setup.unicode.casefold text = setup.unicode.casefold "" → text = "")
    (turns : List IntakeTurn) :
    ∃ heard, heard.world = IntakeWorld.after setup turns ∧ HeardWorld.Sound setup heard :=
  ⟨_, HeardWorld.world_run setup HeardWorld.empty turns,
    HeardWorld.sound_empty.run folds (turns.map IntakeTurn.heard)⟩

/-- What every handler of a run follows. -/
theorem HeardWorld.follows_run (setup : Setup)
    (folds : ∀ text, setup.unicode.casefold text = setup.unicode.casefold "" → text = "")
    (turns : List IntakeTurn) {flight : ChatFlight}
    (inFlight : flight ∈ (IntakeWorld.after setup turns).flights) :
    ∃ told, Follows setup flight told := by
  obtain ⟨heard, hworld, sound⟩ := HeardWorld.sound_run setup folds turns
  rw [← hworld] at inFlight
  obtain ⟨index, hbound, rfl⟩ := List.getElem_of_mem inFlight
  exact ⟨_, sound.flights index _ _ (List.getElem?_eq_getElem hbound)
    (List.getElem?_eq_getElem (sound.paired ▸ hbound))⟩

/-- In every run of intake, whenever the press of a choice stores the session: it records the choice
as the value of the button's own field, or changes no answer, exactly where the field that is asked
is the button's own or takes nothing from the choice.  `folds` tells of `str.casefold` that only
the empty text is folded to what it is folded to. -/
theorem choice_buttons_own_iff (setup : Setup)
    (folds : ∀ text, setup.unicode.casefold text = setup.unicode.casefold "" → text = "")
    (turns : List IntakeTurn) {flight : ChatFlight}
    (inFlight : flight ∈ (IntakeWorld.after setup turns).flights) {choice : String}
    (pressed : flight.choice = some choice) {state : IntakeState}
    (stores : flight.stores = some state) (field : FieldDefinition) :
    OwnAnswer field.key choice (answersOf flight.read) state.fieldValues ↔
      Apt setup.unicode field.key choice flight.read flight.pinned := by
  obtain ⟨told, hkeeps, hholds⟩ := HeardWorld.follows_run setup folds turns inFlight
  obtain ⟨payload, hevent, rfl⟩ := ChatFlight.choice_eq_some pressed
  obtain ⟨resume, hprogram⟩ := ChatFlight.stores_eq_some stores
  rw [hevent, hprogram] at hkeeps
  rw [hevent] at hholds
  refine hkeeps.1.ownAnswer_iff fun before hbefore revision hrevision => ?_
  obtain ⟨found, hfound, -, hmatches⟩ := hholds (by rw [Option.mem_def.mp hbefore]; rfl) before hbefore
  cases hfound.symm.trans hrevision
  exact hmatches.opened

theorem kind_named : "kind" ≠ "" ∧ "Вид" ≠ "" := by decide

def kindField : FieldDefinition :=
  ⟨"kind", "Вид", .enum, true, ["Да", "Нет"], "", 1, kind_named, by decide⟩

def noteField : FieldDefinition :=
  ⟨"note", "Заметка", .text, true, [], "", 2, by decide, FieldType.text_unlisted⟩

/-- The client is asked for the kind, answers in words, and presses a button while the note is
asked. -/
def pressedLate (words choice : String) : List IntakeTurn :=
  [.pack (.begin "org" (.bootstrapActive
      { formPack kindField with fields := [kindField, noteField] })),
    .pack (.advance 0), .pack (.advance 0)] ++
  handled 0 .start ++ handled 1 (.text "+79990000000") ++
  handled 2 (.location (.finite 55) (.finite 37) "native" none) ++
  handled 3 (.callback .pickService (.ofList [("service", .str "repair")])) ++
  handled 4 (.text words) ++
  [.arrive formClient "event" (.callback .fieldChoice (.ofList [("value", .str choice)])),
    .chat 5 ⟨"drawn", .ok "W-1"⟩, .chat 5 ⟨"drawn", .ok "W-1"⟩]

instance (world : IntakeWorld) (key : Key) (field : FieldDefinition) (choice : String) :
    Decidable (world.Offered key field choice) := by
  unfold IntakeWorld.Offered
  infer_instance

instance (key choice : String) (before after : Dict String String) :
    Decidable (OwnAnswer key choice before after) := by
  unfold OwnAnswer
  infer_instance

instance (unicode : Unicode) (field : FieldDefinition) (text : String) :
    Decidable (Deaf unicode field text) := by
  unfold Deaf
  infer_instance

instance (unicode : Unicode) (key choice : String) (read : Option IntakeState)
    (pinned : Option PackRevision) : Decidable (Apt unicode key choice read pinned) := by
  unfold Apt
  infer_instance

/-- The choice of the kind becomes the note. -/
theorem choice_button_strays :
    let world := IntakeWorld.after formSetup (pressedLate "Да" "Нет")
    ∃ flight ∈ world.flights, world.Offered flight.key kindField "Нет" ∧
      flight.choice = some "Нет" ∧ ∃ state ∈ flight.stores,
        state.fieldValues.get? "note" = some "Нет" ∧
          ¬OwnAnswer kindField.key "Нет" (answersOf flight.read) state.fieldValues := by
  decide +kernel

/-- The text that did not fit leaves the kind open, and the press answers it. -/
theorem choice_button_answers :
    ∃ flight ∈ (IntakeWorld.after formSetup (pressedLate "Может быть" "Нет")).flights,
      ∃ state ∈ flight.stores, state.fieldValues.get? "kind" = some "Нет" ∧
        OwnAnswer kindField.key "Нет" (answersOf flight.read) state.fieldValues := by
  have hpressed : ∃ flight ∈ (IntakeWorld.after formSetup (pressedLate "Может быть" "Нет")).flights,
      flight.choice = some "Нет" ∧ ∃ state ∈ flight.stores,
        state.fieldValues.get? "kind" = some "Нет" ∧
          Apt formSetup.unicode kindField.key "Нет" flight.read flight.pinned := by
    decide +kernel
  obtain ⟨flight, hmem, hchoice, state, hstate, hkind, happt⟩ := hpressed
  exact ⟨flight, hmem, state, hstate, hkind, (choice_buttons_own_iff formSetup (fun _ h => h)
    (pressedLate "Может быть" "Нет") hmem hchoice hstate kindField).mpr happt⟩

end DispatchCore.Messaging
