import DispatchCore.Messaging.Config
import DispatchCore.Messaging.ChoiceButtons
import DispatchCore.Messaging.IntakePresses

/-! The choices that the configurator builds from a text, each of them chosen by the client who is
asked the field. -/
namespace DispatchCore.Messaging

open DispatchCore.Library DispatchCore.Domain DispatchCore.Packs DispatchCore.Infrastructure
  DispatchCore.Application

namespace ConfigCoordinator

open ConfigReplies

/-- One more text between the commas.  What is `seen` is what the values fold to. -/
def takeChoice (unicode : Unicode) (values : List String) (raw : String) : List String :=
  let value := ConfigEdits.limit raw 80
  if value ≠ "" ∧ unicode.casefold value ∉ values.map unicode.casefold then values ++ [value]
  else values

def choiceValues (unicode : Unicode) (text : String) : List String :=
  (Text.splitOn ',' text).foldl (takeChoice unicode) []

def fieldChoices (unicode : Unicode) (scratch : FieldScratch) (lastEvent : Option String)
    (text : String) : ConfigProgram Reply := do
  let values := choiceValues unicode text
  if values.length < 2 then
    return asking "Нужно минимум два разных варианта через запятую:"
  if values.length > 20 then
    return asking "Допустимо не больше 20 вариантов. Сократите список:"
  save ⟨.fieldAdd .required { scratch with choices := values }, lastEvent⟩
  return requiredFieldReply

/-- The text is taken, and these are the choices that are stored for the field. -/
def Builds (unicode : Unicode) (text : String) (choices : List String) : Prop :=
  ∀ scratch lastEvent, ∃ resume, fieldChoices unicode scratch lastEvent text =
    .call (.putSession ⟨.fieldAdd .required { scratch with choices := choices }, lastEvent⟩) resume

variable {unicode : Unicode} {text : String} {values choices : List String}

theorem builds_iff : Builds unicode text choices ↔
    choiceValues unicode text = choices ∧ 2 ≤ choices.length ∧ choices.length ≤ 20 := by
  constructor
  · intro builds
    obtain ⟨resume, hstores⟩ := builds ⟨"", "", none, []⟩ none
    unfold fieldChoices at hstores
    dsimp only at hstores
    by_cases hfew : (choiceValues unicode text).length < 2
    · rw [if_pos hfew] at hstores
      contradiction
    · by_cases hmany : (choiceValues unicode text).length > 20
      · rw [if_neg hfew, if_pos hmany] at hstores
        contradiction
      · rw [if_neg hfew, if_neg hmany] at hstores
        have hvalues : choiceValues unicode text = choices := by
          simp only [save, Program.call_bind, Program.call.injEq, ConfigOp.putSession.injEq,
            ConfigState.mk.injEq, ConfigFlow.fieldAdd.injEq, FieldScratch.mk.injEq, true_and,
            and_true] at hstores
          exact hstores.1
        rw [← hvalues]
        exact ⟨rfl, by omega, by omega⟩
  · rintro ⟨rfl, hfew, hmany⟩ scratch lastEvent
    unfold fieldChoices
    dsimp only
    rw [if_neg (by omega), if_neg (by omega)]
    exact ⟨_, rfl⟩

/-- What holds of the values, whatever was between the commas. -/
structure Distinct (unicode : Unicode) (values : List String) : Prop where
  folded : (values.map unicode.casefold).Nodup
  short : ∀ value ∈ values, Text.size value ≤ 80
  worded : ∀ value ∈ values, Text.strip value ≠ ""

theorem Distinct.take (distinct : Distinct unicode values) (raw : String) :
    Distinct unicode (takeChoice unicode values raw) := by
  unfold takeChoice
  dsimp only
  by_cases hnew : ConfigEdits.limit raw 80 ≠ "" ∧
      unicode.casefold (ConfigEdits.limit raw 80) ∉ values.map unicode.casefold
  · rw [if_pos hnew]
    have hcut : ConfigEdits.limit raw 80 = Text.take (Text.strip raw) 80 := by
      unfold ConfigEdits.limit
      rfl
    refine ⟨?_, fun value hvalue => ?_, fun value hvalue => ?_⟩
    · rw [List.map_append, List.map_singleton]
      exact List.nodup_append.mpr ⟨distinct.folded, List.nodup_singleton _, fun left hleft right hright =>
        fun hsame => hnew.2 (by rw [← List.mem_singleton.mp hright, ← hsame]; exact hleft)⟩
    · rcases List.mem_append.mp hvalue with hold | hadded
      · exact distinct.short value hold
      · rw [List.mem_singleton.mp hadded, hcut]
        exact Text.size_take_le _ _
    · rcases List.mem_append.mp hvalue with hold | hadded
      · exact distinct.worded value hold
      · rw [List.mem_singleton.mp hadded, hcut]
        exact Text.strip_take_strip_ne (hcut ▸ hnew.1)
  · rw [if_neg hnew]
    exact distinct

theorem distinct_choiceValues (unicode : Unicode) (text : String) :
    Distinct unicode (choiceValues unicode text) := by
  have hfold : ∀ (raws values : List String), Distinct unicode values →
      Distinct unicode (raws.foldl (takeChoice unicode) values) := by
    intro raws
    induction raws with
    | nil => exact fun values distinct => distinct
    | cons raw rest ih => exact fun values distinct => ih _ (distinct.take raw)
  exact hfold _ [] ⟨List.nodup_nil, fun _ h => (by cases h), fun _ h => (by cases h)⟩

theorem Builds.distinct (builds : Builds unicode text choices) : Distinct unicode choices := by
  obtain ⟨rfl, -, -⟩ := builds_iff.mp builds
  exact distinct_choiceValues unicode text

end ConfigCoordinator

namespace IntakeCoordinator

open ConfigCoordinator (Distinct)

/-- Intake reads the choice as itself: without the blanks at its end it is no skip, and it folds
to what the choice folds to. -/
def Choosable (unicode : Unicode) (choice : String) : Prop :=
  Text.strip choice ≠ "-" ∧ unicode.casefold (Text.strip choice) = unicode.casefold choice

/-- The flow stands at the next question that has no answer or, where there is none, at the
confirmation. -/
structure MovesOn (pack : PackDefinition) (before after : IntakeState) : Prop where
  passed : ∀ index : Nat, before.fieldIndex < index →
    (after.step = .fields → (index : Int) < after.fieldIndex) →
      ∀ field ∈ pack.orderedFields[index]?, after.fieldValues.contains field.key = true
  stands : after.step = .confirm ∨ before.fieldIndex < after.fieldIndex ∧
    ∃ field ∈ after.asked pack, after.fieldValues.contains field.key = false

/-- Exactly the choice is stored as the value of the field, and the flow moves on. -/
structure Chosen (pack : PackDefinition) (field : FieldDefinition) (choice : String)
    (before after : IntakeState) : Prop where
  values : after.fieldValues = before.fieldValues.set field.key choice
  moves : MovesOn pack before after

variable {unicode : Unicode} {pack : PackDefinition} {state : IntakeState} {field : FieldDefinition}
  {choice eventId : String}

theorem limit_choice (short : Text.size choice ≤ 80) :
    ConfigEdits.limit choice 500 = Text.strip choice := by
  have hsize := Text.size_strip_le choice
  unfold ConfigEdits.limit
  exact Text.take_of_size_le (by omega)

theorem find?_choice (distinct : Distinct unicode field.choices) (offered : choice ∈ field.choices) :
    (field.choices.find? fun other => unicode.casefold other = unicode.casefold choice) =
      some choice := by
  cases hfound : field.choices.find? fun other =>
      unicode.casefold other = unicode.casefold choice with
  | none =>
      have hnone := List.find?_eq_none.mp hfound choice offered
      simp at hnone
  | some other =>
      have hmatches := List.find?_some hfound
      have hfolds := of_decide_eq_true hmatches
      rw [List.inj_on_of_nodup_map distinct.folded (List.mem_of_find?_eq_some hfound) offered hfolds]

theorem hears_choice_iff (distinct : Distinct unicode field.choices)
    (offered : choice ∈ field.choices) :
    hears unicode field choice = some choice ↔ Choosable unicode choice := by
  have hchoices : field.choices ≠ [] := List.ne_nil_of_mem offered
  have henum := field.choosable.mpr hchoices
  have hworded := distinct.worded choice offered
  unfold hears Choosable
  rw [limit_choice (distinct.short choice offered)]
  dsimp only
  by_cases hskip : Text.strip choice = "-"
  · rw [if_pos (.inr hskip)]
    exact iff_of_false (by simp) fun choosable => choosable.1 hskip
  · rw [if_neg (not_or.mpr ⟨hworded, hskip⟩)]
    unfold normalizeFieldValue
    rw [henum]
    dsimp only
    constructor
    · intro hfound
      have hmatches := List.find?_some hfound
      exact ⟨hskip, (of_decide_eq_true hmatches).symm⟩
    · rintro ⟨-, hfolds⟩
      rw [hfolds]
      exact find?_choice distinct offered

/-- Every field that the search has passed is answered. -/
theorem skipAnswered_passed {fields : List FieldDefinition} {answered : Dict String String}
    {start index : Nat} (reached : start ≤ index)
    (passed : index < skipAnswered fields answered start) {field : FieldDefinition}
    (here : fields[index]? = some field) : answered.contains field.key = true := by
  unfold skipAnswered at passed
  obtain ⟨rest, hrest⟩ := List.takeWhile_prefix (fun field : FieldDefinition =>
    answered.contains field.key) (l := fields.drop start)
  have hdrop : (fields.drop start)[index - start]? = some field := by
    rw [List.getElem?_drop, Nat.add_sub_cancel' reached]
    exact here
  rw [← hrest, List.getElem?_append_left (by omega)] at hdrop
  have hholds := List.mem_takeWhile_imp (List.mem_of_getElem? hdrop)
  exact hholds

theorem le_skipAnswered (fields : List FieldDefinition) (answered : Dict String String)
    (start : Nat) : start ≤ skipAnswered fields answered start :=
  Nat.le_add_right _ _

@[simp] theorem asking_fieldValues (fields : List FieldDefinition) (state : IntakeState)
    (index : Nat) : (asking fields state index).fieldValues = state.fieldValues := by
  unfold asking
  cases fields[index]? <;> rfl

@[simp] theorem stamped_fieldValues (eventId : String) (state : IntakeState) :
    (stateWithSessionEvent eventId state).fieldValues = state.fieldValues := rfl

/-- What is stored with an answer moves on from the field that was asked. -/
theorem movesOn_asking (asked : state.step = .fields) (counted : 0 ≤ state.fieldIndex)
    (answers : Dict String String) :
    MovesOn pack state (stateWithSessionEvent eventId (asking pack.orderedFields
      { state with fieldValues := answers }
      (skipAnswered pack.orderedFields answers (state.fieldIndex.toNat + 1)))) := by
  have hreach := le_skipAnswered pack.orderedFields answers (state.fieldIndex.toNat + 1)
  cases hhere : pack.orderedFields[skipAnswered pack.orderedFields answers
      (state.fieldIndex.toNat + 1)]? with
  | none =>
      simp only [asking, hhere]
      refine ⟨fun index hafter _ field hfield => ?_, .inl rfl⟩
      have hstart : state.fieldIndex.toNat + 1 ≤ index := by omega
      have hbound := (List.getElem?_eq_some_iff.mp hfield).1
      have hend := List.getElem?_eq_none_iff.mp hhere
      exact @skipAnswered_passed _ answers _ _ hstart (by omega) _ hfield
  | some next =>
      simp only [asking, hhere]
      refine ⟨fun index hafter hbefore field hfield => ?_, .inr ⟨?_, next, ?_, ?_⟩⟩
      · have hpassed := hbefore asked
        simp only [stateWithSessionEvent] at hpassed
        have hstart : state.fieldIndex.toNat + 1 ≤ index := by omega
        exact @skipAnswered_passed _ answers _ _ hstart (by omega) _ hfield
      · simp only [stateWithSessionEvent]
        omega
      · simp only [stateWithSessionEvent, IntakeState.asked, asked, Option.mem_def, if_true,
          Int.toNat_natCast]
        exact hhere
      · exact skipAnswered_open hhere

/-- What a handler leaves of the session that was asked. -/
def answered (eventId : String) (unicode : Unicode) (pack : PackDefinition) (state : IntakeState)
    (words : String) : IntakeState :=
  ((filled unicode pack state (ConfigEdits.limit words 500)).map
    (stateWithSessionEvent eventId)).getD state

theorem not_chosen {after : IntakeState} (opened : state.Open pack)
    (asked : state.asked pack = some field) (same : after.fieldValues = state.fieldValues) :
    ¬Chosen pack field choice state after := by
  intro chosen
  have hopen := opened field asked
  rw [← same, chosen.values, Dict.contains, Dict.get?_set_self] at hopen
  contradiction

/-- The choice is chosen exactly where the field takes it as itself. -/
theorem chosen_iff_hears (opened : state.Open pack) (asked : state.asked pack = some field)
    (counted : 0 ≤ state.fieldIndex) :
    Chosen pack field choice state (answered eventId unicode pack state choice) ↔
      hears unicode field choice = some choice := by
  have hstep : state.step = .fields := by
    by_contra hother
    rw [IntakeState.asked_of_ne hother] at asked
    contradiction
  have hhere : pack.orderedFields[state.fieldIndex.toNat]? = some field := by
    rw [IntakeState.asked, if_pos hstep] at asked
    exact asked
  unfold answered filled hears
  rw [if_neg (by omega), hhere]
  dsimp only
  unfold takes nextIndex taken
  by_cases hskip : ConfigEdits.limit choice 500 = "" ∨ ConfigEdits.limit choice 500 = "-"
  · simp only [if_pos hskip]
    refine iff_of_false ?_ (by simp)
    apply not_chosen opened asked
    cases field.required with
    | true => rfl
    | false => simp
  · simp only [if_neg hskip]
    cases hvalue : normalizeFieldValue unicode field (ConfigEdits.limit choice 500) with
    | none => exact iff_of_false (not_chosen opened asked rfl) (by simp)
    | some value =>
        have hmoves := @movesOn_asking pack state eventId hstep counted
          (state.fieldValues.set field.key value)
        simp only [Option.isSome_some, if_true, Option.map_some, Option.getD_some,
          Option.some.injEq]
        constructor
        · intro chosen
          have hget := congrArg (fun answers => answers.get? field.key) chosen.values
          simpa using hget
        · rintro rfl
          exact ⟨by simp, hmoves⟩

end IntakeCoordinator

/-! ### An event handled by itself -/

namespace IntakeWorld

open IntakeCoordinator

variable {setup : Setup} {world : IntakeWorld} {flights : List ChatFlight} {flight : ChatFlight}

/-- The event arrives, and nothing else happens in the turns its handler is given. -/
def handles (setup : Setup) (world : IntakeWorld) (identity : MessengerIdentity) (eventId : String)
    (event : ChatEvent) (draw : IntakeDraw) (count : Nat) : IntakeWorld :=
  world.run setup
    (.arrive identity eventId event :: List.replicate count (.chat world.flights.length draw))

/-- One operation of the handler that came last. -/
theorem turn_last (there : world.flights = flights ++ [flight]) {op : IntakeOp}
    {resume : op.Answer → IntakeProgram Reply} (asks : flight.program = .call op resume)
    (draw : IntakeDraw) : world.turn setup (.chat flights.length draw) =
      { (world.perform flight draw op).2.2 with
        flights := flights ++ [{ (world.perform flight draw op).2.1 with
          program := resume (world.perform flight draw op).1 }] } := by
  have hlast : world.flights[flights.length]? = some flight := by
    rw [there, List.getElem?_append_right (Nat.le_refl _), Nat.sub_self]
    rfl
  have hkept : (world.perform flight draw op).2.2.flights = flights ++ [flight] := by
    cases op <;> exact there
  simp only [turn, hlast, asks, hkept, List.set_append_right _ _ (Nat.le_refl _), Nat.sub_self,
    List.set_cons_zero]

theorem run_finished (there : world.flights = flights ++ [flight])
    (finished : flight.program.finished = true) (draw : IntakeDraw) (count : Nat) :
    world.run setup (List.replicate count (.chat flights.length draw)) = world := by
  have hlast : world.flights[flights.length]? = some flight := by
    rw [there, List.getElem?_append_right (Nat.le_refl _), Nat.sub_self]
    rfl
  induction count with
  | zero => rfl
  | succ count ih =>
      have hidle : world.turn setup (.chat flights.length draw) = world := by
        cases hprogram : flight.program with
        | call op resume =>
            rw [hprogram] at finished
            contradiction
        | done reply => simp only [turn, hlast, hprogram]
        | raise failure => simp only [turn, hlast, hprogram]
      rw [List.replicate_succ]
      change (world.turn setup (.chat flights.length draw)).run setup _ = world
      rw [hidle]
      exact ih

end IntakeWorld

namespace IntakeCoordinator

/-- The event gives the choice: its button, or its text. -/
def Gives (choice : String) (event : ChatEvent) : Prop :=
  event = .callback .fieldChoice (.ofList [("value", .str choice)]) ∨ event = .text choice

variable {setup : Setup} {identity : MessengerIdentity} {event : ChatEvent} {choice : String}
  {state : IntakeState} {revision : PackRevision}

theorem packForState_pinned (fits : state.PinnedTo revision) :
    packForState state = .call (.revision revision.version) fun found => .done (found, state) := by
  have hversion : state.packVersion.getD 0 = (revision.version : Int) := by
    rw [fits.version]
    rfl
  have hnumbered := fits.numbered
  unfold packForState
  dsimp only
  rw [hversion, if_pos (by omega)]
  rfl

/-- The handler reads the session and its revision, and goes on with the field. -/
theorem gives_program (gives : Gives choice event) (fits : state.PinnedTo revision)
    (step : state.step = .fields) :
    ∃ resume, event.program setup identity = .call .getSession resume ∧
      ∃ next, resume (some state) = .call (.revision revision.version) next ∧
        ∀ stored : PackRevision, next (some stored) =
          fillField setup.unicode stored.definition state choice := by
  rcases gives with rfl | rfl
  · refine ⟨_, rfl, ?_⟩
    change ∃ next, (packForState state >>= _) = _ ∧ _
    rw [packForState_pinned fits]
    refine ⟨_, rfl, fun stored => ?_⟩
    change (if state.step ≠ .fields then _ else fillField setup.unicode stored.definition state
      choice) = _
    rw [if_neg (not_not_intro step)]
  · refine ⟨_, rfl, ?_⟩
    change ∃ next, (packForState state >>= _) = _ ∧ _
    rw [packForState_pinned fits]
    refine ⟨_, rfl, fun stored => ?_⟩
    simp only [Program.bind, step]

theorem finished_attempt (result : Except Failure Reply) :
    (Program.attempt result : IntakeProgram Reply).finished = true := by
  cases result <;> rfl

theorem nextField_stores (pack : PackDefinition) (state : IntakeState) (index : Nat) :
    ∃ resume, nextField pack state index = .call (.putSession (asking pack.orderedFields state
        (skipAnswered pack.orderedFields state.fieldValues index))) resume ∧
      (resume ()).finished = true := by
  unfold nextField asking
  dsimp only
  cases pack.orderedFields[skipAnswered pack.orderedFields state.fieldValues index]? with
  | none => exact ⟨_, rfl, rfl⟩
  | some field => exact ⟨_, rfl, finished_attempt _⟩

/-- The rest of the handler stores what it leaves, or has ended. -/
theorem fillField_leaves (unicode : Unicode) (pack : PackDefinition) (state : IntakeState)
    (words : String) :
    (∃ next resume, filled unicode pack state (ConfigEdits.limit words 500) = some next ∧
      fillField unicode pack state words = .call (.putSession next) resume ∧
        (resume ()).finished = true) ∨
      (filled unicode pack state (ConfigEdits.limit words 500) = none ∧
        (fillField unicode pack state words).finished = true) := by
  unfold fillField filled
  by_cases hbelow : state.fieldIndex < 0
  · rw [if_pos hbelow, if_pos hbelow]
    exact .inl ⟨_, _, rfl, rfl, rfl⟩
  · rw [if_neg hbelow, if_neg hbelow]
    cases pack.orderedFields[state.fieldIndex.toNat]? with
    | none => exact .inl ⟨_, _, rfl, rfl, rfl⟩
    | some field =>
        dsimp only
        generalize ConfigEdits.limit words 500 = value
        unfold answerField takes nextIndex taken
        dsimp only
        by_cases hskip : value = "" ∨ value = "-"
        · simp only [if_pos hskip]
          cases field.required with
          | true => exact .inr ⟨rfl, rfl⟩
          | false =>
              obtain ⟨resume, hstores, hends⟩ :=
                nextField_stores pack state (state.fieldIndex.toNat + 1)
              exact .inl ⟨_, resume, rfl, hstores, hends⟩
        · simp only [if_neg hskip]
          cases normalizeFieldValue unicode field value with
          | none =>
              refine .inr ⟨rfl, ?_⟩
              by_cases hinteger : field.fieldType = .integer
              · simp only [if_pos hinteger]
                rfl
              · simp only [if_neg hinteger]
                cases askField field <;> rfl
          | some normalized =>
              obtain ⟨resume, hstores, hends⟩ := nextField_stores pack
                { state with fieldValues := state.fieldValues.set field.key normalized }
                (state.fieldIndex.toNat + 1)
              exact .inl ⟨_, resume, rfl, hstores, hends⟩

end IntakeCoordinator

open IntakeCoordinator
open ConfigCoordinator (Builds builds_iff)

namespace IntakeWorld

variable {setup : Setup} {world : IntakeWorld} {identity : MessengerIdentity} {event : ChatEvent}
  {session : IntakeSession} {revision : PackRevision} {choice : String}

/-- What is left of a session whose field was asked. -/
theorem handles_leaves (sound : world.Sound)
    (held : world.sessions.get? (identity.organizationId, identity.actorId) = some session)
    (pinned : session.pinned = some revision) (fits : session.state.PinnedTo revision)
    (step : session.state.step = .fields) (gives : Gives choice event) (eventId : String)
    (draw : IntakeDraw) {count : Nat} (enough : 3 ≤ count) :
    ∃ after, (world.handles setup identity eventId event draw count).sessions.get?
        (identity.organizationId, identity.actorId) = some after ∧
      after.state = answered eventId setup.unicode revision.definition session.state choice := by
  obtain ⟨more, rfl⟩ := Nat.exists_eq_add_of_le' enough
  obtain ⟨resume, hprogram, next, hread, hrest⟩ :=
    @gives_program setup identity event choice session.state revision gives fits step
  obtain ⟨stored, hfound, hsame⟩ := ((sound.sessions _ session held).2).revision
    sound.packs.sound revision pinned rfl
  -- the three operations, one after the other
  let arrived : ChatFlight :=
    ⟨identity, eventId, event, none, none, none, false, event.program setup identity⟩
  let looked : ChatFlight := { arrived with
    read := some session.state
    pinned := some revision
    program := .call (.revision revision.version) next }
  let asked : ChatFlight := { looked with
    program := fillField setup.unicode revision.definition session.state choice }
  have hlooked : (({ world with flights := world.flights ++ [arrived] } : IntakeWorld).turn setup
      (.chat world.flights.length draw)) =
        { world with flights := world.flights ++ [looked] } := by
    rw [turn_last rfl hprogram]
    have hsession : world.sessions.get? arrived.key = some session := held
    simp only [perform, hsession, Option.map_some, Option.bind_some, pinned, hread]
    rfl
  have hasked : (({ world with flights := world.flights ++ [looked] } : IntakeWorld).turn setup
      (.chat world.flights.length draw)) =
        { world with flights := world.flights ++ [asked] } := by
    rw [turn_last rfl rfl]
    have hrevision : PostgresPackStore.revision world.packs.rows looked.identity.organizationId
        revision.version = some stored := hfound
    simp only [perform, hrevision, hrest, hsame]
    rfl
  unfold handles
  rw [List.replicate_succ, List.replicate_succ, List.replicate_succ]
  change ∃ after, (((((({ world with flights := world.flights ++ [arrived] } : IntakeWorld).turn
    setup (.chat world.flights.length draw)).turn setup (.chat world.flights.length draw)).turn setup
      (.chat world.flights.length draw)).run setup (List.replicate more _)).sessions.get? _) = _ ∧ _
  rw [hlooked, hasked]
  rcases fillField_leaves setup.unicode revision.definition session.state choice with
    ⟨left, rest, hfilled, hstores, hends⟩ | ⟨hfilled, hends⟩
  · rw [turn_last rfl hstores, run_finished rfl hends]
    refine ⟨_, Dict.get?_set_self _ _ _, ?_⟩
    unfold IntakeCoordinator.answered
    rw [hfilled]
    rfl
  · have hidle : (({ world with flights := world.flights ++ [asked] } : IntakeWorld).turn setup
        (.chat world.flights.length draw)) = { world with flights := world.flights ++ [asked] } :=
      @run_finished setup _ _ asked rfl hends draw 1
    rw [hidle, run_finished rfl hends]
    refine ⟨session, held, ?_⟩
    unfold IntakeCoordinator.answered
    rw [hfilled]
    rfl

end IntakeWorld

/-- In every run of intake, for every text that the configurator takes for the choices of a field,
when the field is asked and the client presses the button of a choice or sends its text: the choice
is stored as the value and the flow moves on to the next question exactly where the choice, without
the blanks at its end, is not the "-" that skips a field and folds to what the choice folds to.
`folds` tells of `str.casefold` that only the empty text is folded to what it is folded to. -/
theorem offered_choices_chosen_iff (setup : Setup)
    (folds : ∀ text, setup.unicode.casefold text = setup.unicode.casefold "" → text = "")
    (turns : List IntakeTurn) {identity : MessengerIdentity} {session : IntakeSession}
    (held : (IntakeWorld.after setup turns).sessions.get?
      (identity.organizationId, identity.actorId) = some session)
    {revision : PackRevision} (pinned : session.pinned = some revision) {field : FieldDefinition}
    (asks : session.state.asked revision.definition = some field) {text : String}
    (builds : Builds setup.unicode text field.choices) {choice : String}
    (offered : choice ∈ field.choices) {event : ChatEvent} (gives : Gives choice event)
    (eventId : String) (draw : IntakeDraw) {count : Nat} (enough : 3 ≤ count) :
    (∃ after, ((IntakeWorld.after setup turns).handles setup identity eventId event draw
        count).sessions.get? (identity.organizationId, identity.actorId) = some after ∧
      Chosen revision.definition field choice session.state after.state) ↔
      Choosable setup.unicode choice := by
  obtain ⟨heard, hworld, sound⟩ := HeardWorld.sound_run setup folds turns
  have hsound : (IntakeWorld.after setup turns).Sound := hworld ▸ sound.world
  obtain ⟨hpinned, -⟩ := hsound.sessions _ session held
  obtain ⟨other, hother, fits⟩ := hpinned _ rfl
  cases pinned.symm.trans hother
  obtain ⟨told, -, hmatches⟩ := sound.sessions _ session (hworld ▸ held) revision pinned
  have hstep : session.state.step = .fields := by
    by_contra hother
    rw [IntakeState.asked_of_ne hother] at asks
    contradiction
  obtain ⟨after, hafter, hleft⟩ :=
    IntakeWorld.handles_leaves hsound held pinned fits hstep gives eventId draw enough
  rw [← hears_choice_iff builds.distinct offered,
    ← chosen_iff_hears hmatches.opened asks fits.sound.counted, ← hleft]
  constructor
  · rintro ⟨found, hfound, chosen⟩
    cases hafter.symm.trans hfound
    exact chosen
  · exact fun chosen => ⟨after, hafter, chosen⟩

/-- A required field of the choices. -/
def kindOf (choices : List String) (some : choices ≠ []) : FieldDefinition :=
  ⟨"kind", "Вид", .enum, true, choices, "", 1, kind_named, iff_of_true rfl some⟩

/-- The client has come to the question of the field. -/
def questioned (field : FieldDefinition) : List IntakeTurn :=
  [.pack (.begin "org" (.bootstrapActive { formPack field with fields := [field, noteField] })),
    .pack (.advance 0), .pack (.advance 0)] ++
  handled 0 .start ++ handled 1 (.text "+79990000000") ++
  handled 2 (.location (.finite 55) (.finite 37) "native" none) ++
  handled 3 (.callback .pickService (.ofList [("service", .str "repair")]))

/-- The client who is asked the field sends the choice, and is left with this. -/
def answeredWith (field : FieldDefinition) (choice : String) : IntakeWorld :=
  (IntakeWorld.after formSetup (questioned field)).handles formSetup formClient "event"
    (.text choice) ⟨"drawn", .ok "W-1"⟩ 3

/-- The choice was built from the text, and the client who is asked the field cannot choose it. -/
def Lost (field : FieldDefinition) (text choice : String) : Prop :=
  Builds formSetup.unicode text field.choices ∧ choice ∈ field.choices ∧
    ∃ session ∈ (IntakeWorld.after formSetup (questioned field)).sessions.get? ("org", "actor"),
      ∃ revision ∈ session.pinned, session.state.asked revision.definition = some field ∧
        ¬∃ after, (answeredWith field choice).sessions.get? ("org", "actor") = some after ∧
          Chosen revision.definition field choice session.state after.state

theorem lost_of_open {field : FieldDefinition} {text choice : String}
    (builds : Builds formSetup.unicode text field.choices) (offered : choice ∈ field.choices)
    (still : ∃ session ∈
        (IntakeWorld.after formSetup (questioned field)).sessions.get? ("org", "actor"),
      ∃ revision ∈ session.pinned, session.state.asked revision.definition = some field ∧
        ∀ after ∈ (answeredWith field choice).sessions.get? ("org", "actor"),
          after.state.fieldValues.get? field.key = none) : Lost field text choice := by
  obtain ⟨session, hsession, revision, hrevision, hasked, hopen⟩ := still
  refine ⟨builds, offered, session, hsession, revision, hrevision, hasked, ?_⟩
  rintro ⟨after, hafter, chosen⟩
  have hnone := hopen after hafter
  rw [chosen.values, Dict.get?_set_self] at hnone
  exact Option.some_ne_none choice hnone

/-- A choice of eighty letters the last of which is a blank. -/
def cutChoice : String := String.ofList (List.replicate 79 'o' ++ [' '])

/-- The mark that skips a field, and a choice that was cut after a word. -/
theorem offered_choices_lost :
    Lost (kindOf ["Да", "-"] (by decide)) "Да, -" "-" ∧
      Lost (kindOf ["yes", cutChoice] (by decide)) ("yes," ++ cutChoice ++ "no")
        cutChoice := by
  constructor
  · apply lost_of_open (builds_iff.mpr (by decide +kernel)) (by decide)
    decide +kernel
  · apply lost_of_open (builds_iff.mpr (by decide +kernel)) (by decide +kernel)
    decide +kernel

/-- The client chooses the second of two. -/
theorem offered_choice_chosen :
    ∃ session ∈ (IntakeWorld.after formSetup (questioned kindField)).sessions.get? ("org", "actor"),
      ∃ revision ∈ session.pinned, ∃ after,
        (answeredWith kindField "Нет").sessions.get? ("org", "actor") = some after ∧
          Chosen revision.definition kindField "Нет" session.state after.state := by
  have hasked : ∃ session ∈
      (IntakeWorld.after formSetup (questioned kindField)).sessions.get? ("org", "actor"),
      ∃ revision ∈ session.pinned, session.state.asked revision.definition = some kindField := by
    decide +kernel
  obtain ⟨session, hsession, revision, hrevision, hasks⟩ := hasked
  refine ⟨session, hsession, revision, hrevision, ?_⟩
  have hbuilds : Builds formSetup.unicode "Да, Нет" kindField.choices :=
    builds_iff.mpr (by decide +kernel)
  have hchoosable : Choosable formSetup.unicode "Нет" := ⟨by decide +kernel, by decide +kernel⟩
  exact (@offered_choices_chosen_iff formSetup (fun _ h => h) (questioned kindField) formClient
    session hsession revision hrevision kindField hasks "Да, Нет" hbuilds "Нет" (by decide) _
    (.inr rfl) "event" ⟨"drawn", .ok "W-1"⟩ 3 (Nat.le_refl 3)).mpr hchoosable

end DispatchCore.Messaging
