import DispatchCore.Messaging.CompleteOrders

/-! What a handler of intake may store, by the event and by the session it has read. -/
namespace DispatchCore.Messaging

open DispatchCore.Library DispatchCore.Domain DispatchCore.Packs DispatchCore.Infrastructure
  DispatchCore.Application

/-- What the event says to the question that is asked: its text, or the choice of the button. -/
def ChatEvent.words : ChatEvent → Option String
  | .text body => some body
  | .callback .fieldChoice payload => some (payload.textAt "value")
  | _ => none

/-- The handler of the event begins a new application. -/
def ChatEvent.begins : ChatEvent → Option IntakeState → Bool
  | .start, _ => true
  | _, none => true
  | .callback .confirm _, some state => state.step = .confirm && state.selected.isEmpty
  | _, some _ => false

/-- The field that is asked in a session of the pack. -/
def IntakeState.asked (pack : PackDefinition) (state : IntakeState) : Option FieldDefinition :=
  if state.step = .fields then pack.orderedFields[state.fieldIndex.toNat]? else none

/-- The answer a field takes from a text: none of "-", nor of what its type does not read. -/
def IntakeCoordinator.hears (unicode : Unicode) (field : FieldDefinition) (text : String) :
    Option String :=
  let value := ConfigEdits.limit text 500
  if value = "" ∨ value = "-" then none else normalizeFieldValue unicode field value

/-- A field is asked only where it has no answer. -/
def IntakeState.Open (pack : PackDefinition) (state : IntakeState) : Prop :=
  ∀ field, state.asked pack = some field → state.fieldValues.contains field.key = false

/-- What is stored of a session that goes on. -/
inductive Written (unicode : Unicode) (pack : PackDefinition) (event : ChatEvent)
    (before : IntakeState) : IntakeState → Prop
  | phone {text : String} {after : IntakeState} (words : event = .text text)
      (step : before.step = .phone) (passed : after.step = .address)
      (values : after.fieldValues =
        before.fieldValues.set "phone" (ConfigEdits.limit text 500))
      (location : after.serviceLocation = none) : Written unicode pack event before after
  | address {text : String} {after : IntakeState} (words : event = .text text)
      (step : before.step = .address) (passed : after.step = .services)
      (values : after.fieldValues =
        before.fieldValues.set "address" (ConfigEdits.limit text 500))
      (location : after.serviceLocation = none) : Written unicode pack event before after
  | located {latitude longitude : Reading} {north east : Rat} {method : String}
      {address : Option String} (point : event = .location latitude longitude method address)
      (bounded : IntakeCoordinator.inBounds latitude longitude = some (north, east))
      (step : before.step = .address) :
      Written unicode pack event before
        (IntakeCoordinator.located before (pointLabel north east address) ⟨north, east, method⟩)
  | answered {text answer : String} {field : FieldDefinition} {after : IntakeState}
      (words : event.words = some text) (asked : before.asked pack = some field)
      (heard : IntakeCoordinator.hears unicode field text = some answer)
      (values : after.fieldValues = before.fieldValues.set field.key answer)
      (location : after.serviceLocation = before.serviceLocation) :
      Written unicode pack event before after
  | kept {after : IntakeState} (elsewhere : before.step ≠ .phone ∧ before.step ≠ .address ∨
        ∃ action payload, event = .callback action payload)
      (still : ∀ latitude longitude method address,
        event ≠ .location latitude longitude method address)
      (silent : ∀ text, event.words = some text → ∀ field, before.asked pack = some field →
        IntakeCoordinator.hears unicode field text = none)
      (values : after.fieldValues = before.fieldValues)
      (location : after.serviceLocation = before.serviceLocation) :
      Written unicode pack event before after

/-- What a handler stores, whatever it has read. -/
inductive Stored (unicode : Unicode) (event : ChatEvent) (read : Option IntakeState) :
    Option PackRevision → IntakeState → Prop
  | begun {pinned : Option PackRevision} {after : IntakeState} (begins : event.begins read = true)
      (phone : after.step = .phone) (values : after.fieldValues = .empty)
      (location : after.serviceLocation = none) : Stored unicode event read pinned after
  | goesOn {revision : PackRevision} {before after : IntakeState}
      (begins : event.begins read = false) (was : read = some before)
      (written : Written unicode revision.definition event before after)
      (opens : before.Open revision.definition → after.Open revision.definition) :
      Stored unicode event read (some revision) after

/-- Whatever the rest of a handler is told, this is what it stores; the active revision is for a
new application, and an order for one that goes on. -/
def Keeps (unicode : Unicode) (event : ChatEvent) :
    Option IntakeState → Option PackRevision → IntakeProgram Reply → Prop
  | _, _, .done _ => True
  | _, _, .raise _ => True
  | _, _, .call .getSession resume => ∀ (found : Option IntakeState) (pinned : Option PackRevision),
      Pinned found pinned → Keeps unicode event found pinned (resume found)
  | read, pinned, .call (.putSession state) resume =>
      Stored unicode event read pinned state ∧ Keeps unicode event read pinned (resume ())
  | read, pinned, .call .clearSession resume => Keeps unicode event read pinned (resume ())
  | read, _, .call .activeRevision resume => event.begins read = true ∧
      ∀ found : Option PackRevision, Keeps unicode event read found (resume found)
  | read, pinned, .call (.revision version) resume => ∀ found : Option PackRevision,
      (∀ revision ∈ pinned, version = revision.version →
        ∃ stored, found = some stored ∧ stored.definition = revision.definition) →
        Keeps unicode event read pinned (resume found)
  | read, pinned, .call (.createOrderOnce _ _) resume => event.begins read = false ∧
      ∀ answer, Keeps unicode event read pinned (resume answer)
  | read, pinned, .call .uuid4 resume => ∀ text, Keeps unicode event read pinned (resume text)
  | read, pinned, .call .tokenUrlsafe resume =>
      ∀ token, Keeps unicode event read pinned (resume token)

namespace IntakeState

variable {pack : PackDefinition} {state before : IntakeState}

theorem asked_of_ne (h : state.step ≠ .fields) : state.asked pack = none := if_neg h

theorem open_of_ne (h : state.step ≠ .fields) : state.Open pack := by
  intro field hasked
  rw [asked_of_ne h] at hasked
  contradiction

/-- The same questions are open as long as the same one is asked and no answer comes in. -/
theorem Open.same (opened : before.Open pack) (values : state.fieldValues = before.fieldValues)
    (step : state.step = before.step) (index : state.fieldIndex = before.fieldIndex) :
    state.Open pack := by
  intro field hasked
  unfold asked at hasked
  rw [step, index] at hasked
  rw [values]
  exact opened field hasked

end IntakeState

namespace IntakeCoordinator

variable {unicode : Unicode} {event : ChatEvent} {read : Option IntakeState}
  {pinned : Option PackRevision} {revision : PackRevision} {before state : IntakeState}

theorem stops_at {fields : List FieldDefinition} {passes : FieldDefinition → Bool}
    {field : FieldDefinition} (here : fields[(fields.takeWhile passes).length]? = some field) :
    passes field = false := by
  induction fields with
  | nil => contradiction
  | cons first rest ih =>
      cases hfirst : passes first with
      | true =>
          rw [List.takeWhile_cons_of_pos hfirst, List.length_cons, List.getElem?_cons_succ] at here
          exact ih here
      | false =>
          rw [List.takeWhile_cons_of_neg (by simp [hfirst])] at here
          cases here
          exact hfirst

/-- No answer stands under the key of the field the search stops at. -/
theorem skipAnswered_open {fields : List FieldDefinition} {answered : Dict String String}
    {index : Nat} {field : FieldDefinition}
    (here : fields[skipAnswered fields answered index]? = some field) :
    answered.contains field.key = false := by
  unfold skipAnswered at here
  rw [← List.getElem?_drop] at here
  exact stops_at here

theorem keeps_attempt (result : Except Failure Reply) :
    Keeps unicode event read pinned (.attempt result) := by
  cases result <;> exact True.intro

theorem keeps_start (begins : event.begins read = true) : Keeps unicode event read pinned start := by
  refine ⟨begins, fun found => ?_⟩
  cases found with
  | none => exact True.intro
  | some revision =>
      intro submissionId
      exact ⟨.begun begins rfl rfl rfl, True.intro⟩

/-- The session that was read is pinned, and its revision is still what it was. -/
theorem keeps_packForState (fits : before.PinnedTo revision)
    {next : Option PackRevision × IntakeState → IntakeProgram Reply}
    (rest : ∀ stored : PackRevision, stored.definition = revision.definition →
      Keeps unicode event read (some revision) (next (some stored, before))) :
    Keeps unicode event read (some revision) (packForState before >>= next) := by
  have hversion : before.packVersion.getD 0 = (revision.version : Int) := by
    rw [fits.version]
    rfl
  have hnumbered := fits.numbered
  unfold packForState
  dsimp only
  rw [hversion, if_pos (by omega)]
  intro found htold
  obtain ⟨stored, rfl, hsame⟩ := htold revision rfl rfl
  exact rest stored hsame

section goesOn

variable (goes : event.begins (some before) = false)

/-- A button that says nothing to the question, or a session past the address. -/
def Quiet (unicode : Unicode) (pack : PackDefinition) (event : ChatEvent) (before : IntakeState) :
    Prop :=
  (before.step ≠ .phone ∧ before.step ≠ .address ∨
      ∃ action payload, event = .callback action payload) ∧
    (∀ latitude longitude method address, event ≠ .location latitude longitude method address) ∧
    ∀ text, event.words = some text → ∀ field, before.asked pack = some field →
      hears unicode field text = none

include goes in
theorem keeps_quiet {after : IntakeState}
    (quiet : Quiet unicode revision.definition event before)
    (values : after.fieldValues = before.fieldValues)
    (location : after.serviceLocation = before.serviceLocation)
    (opens : before.Open revision.definition → after.Open revision.definition) :
    Stored unicode event (some before) (some revision) after :=
  .goesOn goes rfl (.kept quiet.1 quiet.2.1 quiet.2.2 values location) opens

/-- What is stored on the way to the next question, from a session with the answers so far. -/
def Lets (unicode : Unicode) (event : ChatEvent) (before : IntakeState) (revision : PackRevision)
    (state : IntakeState) : Prop :=
  ∀ after : IntakeState, after.fieldValues = state.fieldValues →
    after.serviceLocation = state.serviceLocation →
    (before.Open revision.definition → after.Open revision.definition) →
      Stored unicode event (some before) (some revision) after

theorem keeps_toConfirmation (lets : Lets unicode event before revision state) :
    Keeps unicode event (some before) (some revision)
      (toConfirmation revision.definition state) :=
  ⟨lets _ rfl rfl fun _ => IntakeState.open_of_ne (by simp), True.intro⟩

theorem keeps_nextField (lets : Lets unicode event before revision state) (index : Nat) :
    Keeps unicode event (some before) (some revision)
      (nextField revision.definition state index) := by
  unfold nextField
  dsimp only
  rcases hhere : revision.definition.orderedFields[skipAnswered revision.definition.orderedFields
    state.fieldValues index]? with _ | field
  · exact keeps_toConfirmation fun after values location opens => lets after values location opens
  · refine ⟨lets _ rfl rfl fun _ other hasked => ?_, keeps_attempt _⟩
    unfold IntakeState.asked at hasked
    split at hasked
    · simp only [Int.toNat_natCast, hhere, Option.some.injEq] at hasked
      subst hasked
      exact skipAnswered_open hhere
    · contradiction

theorem keeps_finishServices (lets : Lets unicode event before revision state) :
    Keeps unicode event (some before) (some revision)
      (finishServices revision.definition state) := by
  unfold finishServices
  by_cases hnone : state.selected = []
  · rw [if_pos hnone]
    exact True.intro
  · rw [if_neg hnone]
    dsimp only
    generalize hfound : List.findIdx? _ _ = found
    cases found with
    | none =>
        exact keeps_toConfirmation fun after values location opens =>
          lets after values location opens
    | some index =>
        obtain ⟨hbound, hopen, -⟩ := List.findIdx?_eq_some_iff_getElem.mp hfound
        have hhere := List.getElem?_eq_getElem hbound
        dsimp only
        rw [hhere]
        refine ⟨lets _ rfl rfl fun _ other hasked => ?_, keeps_attempt _⟩
        unfold IntakeState.asked at hasked
        rw [if_pos rfl, Int.toNat_natCast, hhere, Option.some.injEq] at hasked
        subst hasked
        simpa using hopen

include goes in
theorem keeps_pickService (quiet : Quiet unicode revision.definition event before) (key : String) :
    Keeps unicode event (some before) (some revision)
      (pickService revision.definition before key) := by
  unfold pickService
  split
  · exact True.intro
  · split
    · exact keeps_finishServices fun after values location opens =>
        keeps_quiet goes quiet values location opens
    · exact ⟨keeps_quiet goes quiet rfl rfl fun opened => opened.same rfl rfl rfl, True.intro⟩

include goes in
theorem keeps_fillField {text : String} (words : event.words = some text)
    (step : before.step = .fields) (counted : 0 ≤ before.fieldIndex) :
    Keeps unicode event (some before) (some revision)
      (fillField unicode revision.definition before text) := by
  have hstill : ∀ latitude longitude method address,
      event ≠ .location latitude longitude method address := by
    rintro latitude longitude method address rfl
    contradiction
  have hquiet : (∀ field, before.asked revision.definition = some field →
      hears unicode field text = none) → Quiet unicode revision.definition event before := by
    intro silent
    refine ⟨.inl (by simp [step]), hstill, fun other hother => ?_⟩
    rw [words] at hother
    cases hother
    exact silent
  have hlets : ∀ quiet : Quiet unicode revision.definition event before,
      Lets unicode event before revision before := fun quiet after values location opens =>
    keeps_quiet goes quiet values location opens
  unfold fillField
  rw [if_neg (by omega)]
  cases hhere : revision.definition.orderedFields[before.fieldIndex.toNat]? with
  | none =>
      refine keeps_toConfirmation (hlets (hquiet fun field hasked => ?_))
      rw [IntakeState.asked, if_pos step, hhere] at hasked
      contradiction
  | some field =>
      have hasked : before.asked revision.definition = some field := by
        rw [IntakeState.asked, if_pos step, hhere]
      have hsilent : hears unicode field text = none →
          Quiet unicode revision.definition event before := by
        intro hnone
        refine hquiet fun other hother => ?_
        rw [hasked] at hother
        cases hother
        exact hnone
      simp only
      unfold answerField
      by_cases hskips : ConfigEdits.limit text 500 = "" ∨ ConfigEdits.limit text 500 = "-"
      · rw [if_pos hskips]
        by_cases hrequired : field.required = true
        · rw [if_pos hrequired]
          exact True.intro
        · rw [if_neg hrequired]
          exact keeps_nextField (hlets (hsilent (if_pos hskips))) _
      · rw [if_neg hskips]
        cases hnormalized : normalizeFieldValue unicode field (ConfigEdits.limit text 500) with
        | none =>
            by_cases hinteger : field.fieldType = .integer
            · rw [if_pos hinteger]
              exact True.intro
            · rw [if_neg hinteger]
              cases askField field <;> exact True.intro
        | some answer =>
            refine keeps_nextField (fun after values location opens => ?_) _
            exact .goesOn goes rfl (.answered words hasked
              (show hears unicode field text = some answer from (if_neg hskips).trans hnormalized)
              values location) opens

end goesOn

theorem keeps_fillPhone (publicBaseUrl : Option String) {text : String}
    (step : before.step = .phone) :
    Keeps unicode (.text text) (some before) (some revision)
      (fillPhone publicBaseUrl before text) := by
  unfold fillPhone
  dsimp only
  split
  · exact True.intro
  · intro token
    exact ⟨.goesOn rfl rfl (.phone rfl step rfl rfl rfl) fun _ =>
      IntakeState.open_of_ne (by simp), True.intro⟩

theorem keeps_fillAddress (pack : PackDefinition) {text : String} (step : before.step = .address) :
    Keeps unicode (.text text) (some before) (some revision) (fillAddress pack before text) := by
  unfold fillAddress
  dsimp only
  split
  · exact True.intro
  · exact ⟨.goesOn rfl rfl (.address rfl step rfl rfl rfl) fun _ =>
      IntakeState.open_of_ne (by simp), True.intro⟩

theorem keeps_handleText (setup : Setup) (text : String) :
    Keeps setup.unicode (.text text) none none (handleText setup text) := by
  intro found pinned hpinned
  cases found with
  | none => exact keeps_start rfl
  | some before =>
      obtain ⟨revision, rfl, fits⟩ := hpinned before rfl
      refine keeps_packForState fits fun stored hstored => ?_
      dsimp only
      rw [hstored]
      cases hstep : before.step with
      | phone => exact keeps_fillPhone _ hstep
      | address => exact keeps_fillAddress _ hstep
      | services => exact True.intro
      | fields => exact keeps_fillField rfl rfl hstep fits.sound.counted
      | confirm => exact True.intro

theorem keeps_handleLocation (latitude longitude : Reading) (method : String)
    (address : Option String) :
    Keeps unicode (.location latitude longitude method address) none none
      (handleLocation latitude longitude method address) := by
  unfold handleLocation
  cases hbounded : inBounds latitude longitude with
  | none => exact True.intro
  | some point =>
      intro found pinned hpinned
      cases found with
      | none => exact keeps_start rfl
      | some before =>
          obtain ⟨revision, rfl, fits⟩ := hpinned before rfl
          refine keeps_packForState fits fun stored hstored => ?_
          dsimp only
          by_cases hstep : before.step = .address
          · rw [if_neg (not_not_intro hstep)]
            exact ⟨.goesOn rfl rfl (.located rfl hbounded hstep) fun _ =>
              IntakeState.open_of_ne (by simp [located]), True.intro⟩
          · rw [if_pos hstep]
            exact True.intro

section press

variable {action : IntakeAction} {payload : Dict String Json}

theorem quiet_press (other : action ≠ .fieldChoice) :
    Quiet unicode revision.definition (.callback action payload) before := by
  refine ⟨.inr ⟨action, payload, rfl⟩, fun _ _ _ _ h => (by cases h), fun text hwords => ?_⟩
  cases action <;> contradiction

theorem keeps_submit (identity : MessengerIdentity) (pack : PackDefinition) (submissionId : String)
    (goes : event.begins read = false) :
    Keeps unicode event read pinned (submit identity pack before submissionId) := by
  refine ⟨goes, fun answer => ?_⟩
  cases answer <;> exact True.intro

theorem keeps_confirm (identity : MessengerIdentity) (step : before.step = .confirm) :
    Keeps unicode (.callback .confirm payload) (some before) (some revision)
      (confirm identity revision.definition before) := by
  unfold confirm
  by_cases hnone : before.selected = []
  · rw [if_pos hnone]
    exact keeps_start (by simp [ChatEvent.begins, step, hnone])
  · rw [if_neg hnone]
    have hgoes : ChatEvent.begins (.callback .confirm payload) (some before) = false := by
      simp [ChatEvent.begins, hnone]
    cases truthy before.submissionId with
    | some submissionId => exact keeps_submit identity _ submissionId hgoes
    | none =>
        intro submissionId
        exact ⟨keeps_quiet hgoes (quiet_press (by decide)) rfl rfl fun opened =>
          opened.same rfl rfl rfl, keeps_submit identity _ submissionId hgoes⟩

theorem keeps_press (setup : Setup) (identity : MessengerIdentity) (fits : before.PinnedTo revision)
    (action : IntakeAction) (payload : Dict String Json) :
    Keeps setup.unicode (.callback action payload) (some before) (some revision)
      (press setup identity revision.definition before action payload) := by
  unfold press
  cases action with
  | cancel => exact True.intro
  | requestLocation =>
      by_cases hstep : before.step = .address
      · simp only [if_neg (not_not_intro hstep)]
        exact ⟨keeps_quiet rfl (quiet_press (by decide)) rfl rfl fun opened =>
          opened.same rfl rfl rfl, True.intro⟩
      · simp only [if_pos hstep]
        exact True.intro
  | typeAddress =>
      by_cases hstep : before.step = .address
      · simp only [if_neg (not_not_intro hstep)]
        exact ⟨keeps_quiet rfl (quiet_press (by decide)) rfl rfl fun opened =>
          opened.same rfl rfl rfl, True.intro⟩
      · simp only [if_pos hstep]
        exact True.intro
  | continueAfterMap =>
      dsimp only
      split
      · exact True.intro
      · split <;> exact True.intro
  | pickService =>
      dsimp only
      split
      · exact True.intro
      · exact keeps_pickService rfl (quiet_press (by decide)) _
  | fieldChoice =>
      by_cases hstep : before.step = .fields
      · simp only [if_neg (not_not_intro hstep)]
        exact keeps_fillField rfl rfl hstep fits.sound.counted
      · simp only [if_pos hstep]
        exact True.intro
  | servicesDone =>
      by_cases hstep : before.step = .services
      · simp only [if_neg (not_not_intro hstep)]
        exact keeps_finishServices fun after values location opens =>
          keeps_quiet rfl (quiet_press (by decide)) values location opens
      · simp only [if_pos hstep]
        exact True.intro
  | confirm =>
      by_cases hstep : before.step = .confirm
      · simp only [if_neg (not_not_intro hstep)]
        exact keeps_confirm identity hstep
      · simp only [if_pos hstep]
        exact True.intro

end press

theorem keeps_handleCallback (setup : Setup) (identity : MessengerIdentity) (action : IntakeAction)
    (payload : Dict String Json) :
    Keeps setup.unicode (.callback action payload) none none
      (handleCallback setup identity action payload) := by
  unfold handleCallback
  by_cases hcancel : action = .cancel
  · rw [if_pos hcancel]
    exact True.intro
  · rw [if_neg hcancel]
    intro found pinned hpinned
    cases found with
    | none => exact keeps_start (by cases action <;> rfl)
    | some before =>
        obtain ⟨revision, rfl, fits⟩ := hpinned before rfl
        refine keeps_packForState fits fun stored hstored => ?_
        dsimp only
        rw [hstored]
        exact keeps_press setup identity fits action payload

theorem keeps_program (setup : Setup) (identity : MessengerIdentity) (event : ChatEvent) :
    Keeps setup.unicode event none none (event.program setup identity) := by
  cases event with
  | start => exact keeps_start rfl
  | text body => exact keeps_handleText setup body
  | location latitude longitude method address =>
      exact keeps_handleLocation latitude longitude method address
  | callback action payload => exact keeps_handleCallback setup identity action payload

end IntakeCoordinator
end DispatchCore.Messaging
