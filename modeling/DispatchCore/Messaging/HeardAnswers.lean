import DispatchCore.Messaging.CompleteCalls
import DispatchCore.Messaging.IntakeSteps

/-! What the client has said in an application, beside what the session holds of it: the answer
to each field's own question, the address, and the point that was chosen last. -/
namespace DispatchCore.Messaging

open DispatchCore.Library DispatchCore.Domain DispatchCore.Packs DispatchCore.Infrastructure
  DispatchCore.Application

/-- `strays` are the fields that took the choice of another field's button. -/
structure Told where
  answers : Dict FieldDefinition String
  strays : List FieldDefinition
  address : Option String
  point : Option ServiceLocation

namespace Told

def none : Told := ⟨.empty, [], .none, .none⟩

/-- Words come to the question that is asked, and answer it if they are its own. -/
def hearing (unicode : Unicode) (pack : PackDefinition) (before : IntakeState) (words : String)
    (own : FieldDefinition → Bool) (told : Told) : Told :=
  match before.asked pack with
  | .none => told
  | some field =>
      match IntakeCoordinator.hears unicode field words with
      | .none => told
      | some answer =>
          if own field then { told with answers := told.answers.set field answer }
          else { told with strays := told.strays ++ [field] }

/-- What was said once a handler has stored what it made of the event.  `question` is the key of
the field whose button was pressed. -/
def after (unicode : Unicode) (event : ChatEvent) (question : Option String)
    (read : Option IntakeState) (pinned : Option PackRevision) (told : Told) : Told :=
  if event.begins read then none
  else
    match read, pinned with
    | some before, some revision =>
        match event with
        | .text body =>
            match before.step with
            | .phone => { told with point := .none }
            | .address =>
                { told with address := some (ConfigEdits.limit body 500), point := .none }
            | _ => told.hearing unicode revision.definition before body fun _ => true
        | .location latitude longitude method address =>
            match IntakeCoordinator.inBounds latitude longitude with
            | some (north, east) =>
                { told with
                  address := some (pointLabel north east address)
                  point := some ⟨north, east, method⟩ }
            | .none => told
        | .callback .fieldChoice payload =>
            told.hearing unicode revision.definition before (payload.textAt "value") fun field =>
              question = some field.key
        | _ => told
    | _, _ => told

end Told

/-- The fields that have a question of their own: a phone and an address are asked for before. -/
def Asks (pack : PackDefinition) (field : FieldDefinition) : Prop :=
  field ∈ pack.fields ∧ field.key ≠ "phone" ∧ field.key ≠ "address"

/-- The session holds what was said. -/
structure Told.Matches (pack : PackDefinition) (state : IntakeState) (told : Told) : Prop where
  opened : state.Open pack
  keys : ∀ key, state.fieldValues.contains key → key = "phone" ∨ key = "address" ∨
    ∃ field ∈ pack.fields, field.key = key
  answers : ∀ field answer, told.answers.get? field = some answer →
    Asks pack field ∧ state.fieldValues.get? field.key = some answer
  strays : ∀ field ∈ told.strays, Asks pack field ∧ state.fieldValues.contains field.key ∧
    told.answers.get? field = .none
  heard : pack.FieldsDistinct → ∀ field, Asks pack field → field ∉ told.strays →
    state.fieldValues.get? field.key = told.answers.get? field
  address : state.fieldValues.get? "address" = told.address
  point : state.serviceLocation = told.point

namespace Told

variable {unicode : Unicode} {pack : PackDefinition} {before state : IntakeState} {told : Told}
  {event : ChatEvent} {question : Option String} {revision : PackRevision} {value : String}

theorem matches_none (phone : state.step = .phone) (values : state.fieldValues = .empty)
    (location : state.serviceLocation = .none) : Told.none.Matches pack state where
  opened := IntakeState.open_of_ne (by simp [phone])
  keys key h := by
    rw [values] at h
    contradiction
  answers field answer h := by contradiction
  strays field h := by contradiction
  heard _ field _ _ := by
    rw [values]
    rfl
  address := by
    rw [values]
    rfl
  point := location

theorem Matches.same (holds : told.Matches pack before) (opens : state.Open pack)
    (values : state.fieldValues = before.fieldValues)
    (location : state.serviceLocation = before.serviceLocation) : told.Matches pack state where
  opened := opens
  keys := by
    rw [values]
    exact holds.keys
  answers := by
    rw [values]
    exact holds.answers
  strays := by
    rw [values]
    exact holds.strays
  heard := by
    rw [values]
    exact holds.heard
  address := by
    rw [values]
    exact holds.address
  point := location.trans holds.point

/-- A value that no field's own question asks for. -/
theorem Matches.setBeside (holds : told.Matches pack before) (opens : state.Open pack) {key : String}
    (beside : key = "phone" ∨ key = "address")
    (values : state.fieldValues = before.fieldValues.set key value) {address : Option String}
    (said : (before.fieldValues.set key value).get? "address" = address) :
    ({ told with address := address, point := state.serviceLocation } : Told).Matches pack state := by
  have hother : ∀ field, Asks pack field → field.key ≠ key := by
    rintro field ⟨-, hphone, haddress⟩ rfl
    exact beside.elim hphone haddress
  have hget : ∀ field, Asks pack field →
      state.fieldValues.get? field.key = before.fieldValues.get? field.key := by
    intro field hasks
    rw [values, Dict.get?_set_of_ne _ _ (hother field hasks)]
  refine ⟨opens, fun other hcontains => ?_, fun field answer hanswer => ?_, fun field hstray => ?_,
    fun distinct field hasks hnot => ?_, ?_, rfl⟩
  · unfold Dict.contains at hcontains
    rw [values, Dict.get?_set] at hcontains
    by_cases hsame : other = key
    · exact beside.elim (fun h => .inl (hsame.trans h)) fun h => .inr (.inl (hsame.trans h))
    · rw [if_neg hsame] at hcontains
      exact holds.keys other hcontains
  · obtain ⟨hasks, hfound⟩ := holds.answers field answer hanswer
    exact ⟨hasks, (hget field hasks).trans hfound⟩
  · obtain ⟨hasks, hcontains, hnone⟩ := holds.strays field hstray
    refine ⟨hasks, ?_, hnone⟩
    unfold Dict.contains
    rw [hget field hasks]
    exact hcontains
  · exact (hget field hasks).trans (holds.heard distinct field hasks hnot)
  · rw [values]
    exact said

/-- The field that is asked takes an answer, as its own or as a stray. -/
theorem Matches.hear (holds : told.Matches pack before) (opens : state.Open pack)
    {field : FieldDefinition} (asked : before.asked pack = some field) (asks : Asks pack field)
    (values : state.fieldValues = before.fieldValues.set field.key value)
    (location : state.serviceLocation = before.serviceLocation) (own : Bool) :
    (if own then { told with answers := told.answers.set field value }
      else { told with strays := told.strays ++ [field] } : Told).Matches pack state := by
  have hopen := holds.opened field asked
  have hfree : told.answers.get? field = .none := by
    cases hanswer : told.answers.get? field with
    | none => rfl
    | some answer =>
        have hfound := (holds.answers field answer hanswer).2
        rw [Dict.contains, hfound] at hopen
        contradiction
  have hkept : ∀ other : FieldDefinition, before.fieldValues.contains other.key →
      state.fieldValues.get? other.key = before.fieldValues.get? other.key := by
    intro other hcontains
    rw [values, Dict.get?_set_of_ne]
    rintro hsame
    rw [hsame, hopen] at hcontains
    contradiction
  have hkeys : ∀ key, state.fieldValues.contains key → key = "phone" ∨ key = "address" ∨
      ∃ field ∈ pack.fields, field.key = key := by
    intro key hcontains
    rw [values, Dict.contains, Dict.get?_set] at hcontains
    by_cases hsame : key = field.key
    · exact .inr (.inr ⟨field, asks.1, hsame.symm⟩)
    · rw [if_neg hsame] at hcontains
      exact holds.keys key hcontains
  have haddress : state.fieldValues.get? "address" = told.address := by
    rw [values, Dict.get?_set_of_ne _ _ (Ne.symm asks.2.2)]
    exact holds.address
  have hcontains : ∀ other, told.answers.get? other ≠ .none →
      before.fieldValues.contains other.key := by
    intro other hsome
    obtain ⟨answer, hanswer⟩ := Option.ne_none_iff_exists'.mp hsome
    rw [Dict.contains, (holds.answers other answer hanswer).2]
    rfl
  have hstrays : ∀ other ∈ told.strays, Asks pack other ∧
      state.fieldValues.contains other.key ∧ told.answers.get? other = .none ∧ other ≠ field := by
    intro other hstray
    obtain ⟨hasks, hthere, hnone⟩ := holds.strays other hstray
    refine ⟨hasks, ?_, hnone, ?_⟩
    · rw [Dict.contains, hkept other hthere]
      exact hthere
    · rintro rfl
      rw [hopen] at hthere
      contradiction
  have hself : state.fieldValues.get? field.key = some value := by
    rw [values]
    exact Dict.get?_set_self _ _ _
  have hapart : pack.FieldsDistinct → ∀ other, Asks pack other → other ≠ field →
      state.fieldValues.get? other.key = before.fieldValues.get? other.key := by
    intro distinct other hasks hne
    rw [values, Dict.get?_set_of_ne]
    exact fun hsame => hne (List.inj_on_of_nodup_map distinct hasks.1 asks.1 hsame)
  cases own with
  | true =>
      refine ⟨opens, hkeys, fun other answer hanswer => ?_, fun other hstray => ?_,
        fun distinct other hasks hnot => ?_, haddress, location.trans holds.point⟩
      · change (told.answers.set field value).get? other = some answer at hanswer
        rw [Dict.get?_set] at hanswer
        by_cases hsame : other = field
        · rw [if_pos hsame] at hanswer
          cases hanswer
          rw [hsame]
          exact ⟨asks, hself⟩
        · rw [if_neg hsame] at hanswer
          obtain ⟨hasks, hfound⟩ := holds.answers other answer hanswer
          exact ⟨hasks, (hkept other (hcontains other (by simp [hanswer]))).trans hfound⟩
      · obtain ⟨hasks, hthere, hnone, hne⟩ := hstrays other hstray
        exact ⟨hasks, hthere, (Dict.get?_set_of_ne _ _ hne).trans hnone⟩
      · change _ = (told.answers.set field value).get? other
        rw [Dict.get?_set]
        by_cases hsame : other = field
        · rw [if_pos hsame, hsame]
          exact hself
        · rw [if_neg hsame, hapart distinct other hasks hsame]
          exact holds.heard distinct other hasks hnot
  | false =>
      refine ⟨opens, hkeys, fun other answer hanswer => ?_, fun other hstray => ?_,
        fun distinct other hasks hnot => ?_, haddress, location.trans holds.point⟩
      · obtain ⟨hasks, hfound⟩ := holds.answers other answer hanswer
        exact ⟨hasks, (hkept other (hcontains other (by
          change told.answers.get? other = some answer at hanswer
          simp [hanswer]))).trans hfound⟩
      · rcases List.mem_append.mp hstray with hold | hnew
        · obtain ⟨hasks, hthere, hnone, -⟩ := hstrays other hold
          exact ⟨hasks, hthere, hnone⟩
        · rw [List.mem_singleton] at hnew
          subst hnew
          exact ⟨asks, by rw [Dict.contains, hself]; rfl, hfree⟩
      · have hne : other ≠ field := by
          rintro rfl
          exact hnot (List.mem_append_right _ (List.mem_singleton_self _))
        rw [hapart distinct other hasks hne]
        exact holds.heard distinct other hasks fun hold => hnot (List.mem_append_left _ hold)

/-- A field that is asked has a question of its own: the phone and the address are there. -/
theorem asks_of_asked (fits : before.PinnedTo revision)
    (holds : told.Matches revision.definition before) {field : FieldDefinition}
    (asked : before.asked revision.definition = some field) : Asks revision.definition field := by
  have hopen := holds.opened field asked
  unfold IntakeState.asked at asked
  by_cases hstep : before.step = .fields
  · rw [if_pos hstep] at asked
    refine ⟨PackDefinition.mem_orderedFields.mp (List.mem_of_getElem? asked), ?_, ?_⟩
    · intro hkey
      obtain ⟨phone, hphone, -⟩ := fits.sound.phone (by simp [hstep])
      rw [hkey, Dict.contains, hphone] at hopen
      contradiction
    · intro hkey
      obtain ⟨address, haddress, -⟩ := fits.sound.address (by simp [hstep]) (by simp [hstep])
      rw [hkey, Dict.contains, haddress] at hopen
      contradiction
  · rw [if_neg hstep] at asked
    contradiction

theorem hearing_some {field : FieldDefinition} {words answer : String}
    {own : FieldDefinition → Bool} (asked : before.asked pack = some field)
    (heard : IntakeCoordinator.hears unicode field words = some answer) :
    told.hearing unicode pack before words own =
      if own field then { told with answers := told.answers.set field answer }
      else { told with strays := told.strays ++ [field] } := by
  simp only [hearing, asked, heard]

theorem hearing_silent {words : String} {own : FieldDefinition → Bool}
    (silent : ∀ field, before.asked pack = some field →
      IntakeCoordinator.hears unicode field words = .none) :
    told.hearing unicode pack before words own = told := by
  unfold hearing
  cases hasked : before.asked pack with
  | none => rfl
  | some field => simp only [silent field hasked]

/-- What is stored of an application that goes on, with what was said for it. -/
theorem Matches.written (fits : before.PinnedTo revision)
    (holds : told.Matches revision.definition before)
    (begins : event.begins (some before) = false)
    (written : Written unicode revision.definition event before state)
    (opens : state.Open revision.definition) :
    (told.after unicode event question (some before) (some revision)).Matches
      revision.definition state := by
  have hgoes : ¬event.begins (some before) = true := by simp [begins]
  cases written with
  | phone words step passed values location =>
      subst words
      simp only [Told.after, if_neg hgoes, step]
      rw [← location]
      exact holds.setBeside opens (.inl rfl) values
        ((Dict.get?_set_of_ne _ _ (by decide)).trans holds.address)
  | address words step passed values location =>
      subst words
      simp only [Told.after, if_neg hgoes, step]
      rw [← location]
      exact holds.setBeside opens (.inr rfl) values (Dict.get?_set_self _ _ _)
  | located point bounded step =>
      subst point
      simp only [Told.after, if_neg hgoes, bounded]
      exact holds.setBeside opens (.inr rfl) rfl (Dict.get?_set_self _ _ _)
  | @answered text answer field after words asked heard values location =>
      have hasks := asks_of_asked fits holds asked
      have hstep : before.step = .fields := by
        by_contra hother
        rw [IntakeState.asked_of_ne hother] at asked
        contradiction
      cases event with
      | start => contradiction
      | location => contradiction
      | text body =>
          cases words
          simp only [Told.after, if_neg hgoes, hstep]
          rw [hearing_some asked heard]
          exact holds.hear opens asked hasks values location true
      | callback action payload =>
          cases action with
          | fieldChoice =>
              cases words
              simp only [Told.after, if_neg hgoes]
              rw [hearing_some asked heard]
              exact holds.hear opens asked hasks values location _
          | _ => contradiction
  | kept elsewhere still silent values location =>
      have hsame : told.after unicode event question (some before) (some revision) = told := by
        cases event with
        | start => contradiction
        | location latitude longitude method address => exact absurd rfl (still _ _ _ _)
        | text body =>
            have hpast : before.step ≠ .phone ∧ before.step ≠ .address := by
              rcases elsewhere with hpast | ⟨action, payload, hother⟩
              · exact hpast
              · contradiction
            simp only [Told.after, if_neg hgoes]
            cases hstep : before.step with
            | phone => exact absurd hstep hpast.1
            | address => exact absurd hstep hpast.2
            | _ => exact hearing_silent (silent body rfl)
        | callback action payload =>
            cases action with
            | fieldChoice =>
                simp only [Told.after, if_neg hgoes]
                exact hearing_silent (silent _ rfl)
            | _ => simp only [Told.after, if_neg hgoes]
      rw [hsame]
      exact holds.same opens values location

theorem Matches.stored {read : Option IntakeState} {pinned : Option PackRevision}
    (holds : event.begins read = false → ∀ before ∈ read, ∃ revision, pinned = some revision ∧
      before.PinnedTo revision ∧ told.Matches revision.definition before)
    (stored : Stored unicode event read pinned state) :
    ∀ revision ∈ pinned,
      (told.after unicode event question read pinned).Matches revision.definition state := by
  cases stored with
  | begun begins phone values location =>
      intro revision _
      unfold Told.after
      rw [if_pos begins]
      exact matches_none phone values location
  | goesOn begins was written opens =>
      subst was
      obtain ⟨revision, hrevision, fits, hmatches⟩ := holds begins _ rfl
      cases hrevision
      intro other hother
      cases hother
      exact hmatches.written fits begins written (opens hmatches.opened)

end Told

/-! ### Runs -/

/-- Intake with what every session, handler and call for an order has been told. -/
structure HeardWorld where
  world : IntakeWorld
  told : Dict Key Told
  hearing : List (Option String × Told)
  asked : List (IntakeRequest × Told)

/-- A press comes with the key of the field whose button it is. -/
inductive HeardTurn
  | pack (action : PackAction)
  | arrive (identity : MessengerIdentity) (eventId : String) (event : ChatEvent)
      (question : Option String)
  | chat (index : Nat) (draw : IntakeDraw)
  | submit (token : String) (latitude longitude : Rat) (address : Option String)

def HeardTurn.turn : HeardTurn → IntakeTurn
  | pack action => .pack action
  | arrive identity eventId event _ => .arrive identity eventId event
  | chat index draw => .chat index draw
  | submit token latitude longitude address => .submit token latitude longitude address

namespace HeardWorld

def empty : HeardWorld := ⟨.empty, .empty, [], []⟩

/-- What is said of the session that a handler operates on. -/
def operate (heard : HeardWorld) (unicode : Unicode) (index : Nat) (flight : ChatFlight)
    (question : Option String) (told : Told) : IntakeOp → HeardWorld
  | .getSession =>
      { heard with
        hearing := heard.hearing.set index (question, (heard.told.get? flight.key).getD .none) }
  | .putSession _ =>
      { heard with
        told := heard.told.set flight.key
          (told.after unicode flight.event question flight.read flight.pinned) }
  | .clearSession => { heard with told := heard.told.erase flight.key }
  | .createOrderOnce orderId creation =>
      { heard with
        asked := heard.asked ++ [(⟨orderId, creation, flight.read, flight.pinned⟩, told)] }
  | _ => heard

def turn (setup : IntakeCoordinator.Setup) (heard : HeardWorld) (next : HeardTurn) : HeardWorld :=
  let world := heard.world.turn setup next.turn
  match next with
  | .pack _ => { heard with world }
  | .arrive _ _ _ question => { heard with world, hearing := heard.hearing ++ [(question, .none)] }
  | .chat index _ =>
      match heard.world.flights[index]?, heard.hearing[index]? with
      | some flight, some (question, told) =>
          match flight.program with
          | .call op _ => { heard.operate setup.unicode index flight question told op with world }
          | _ => { heard with world }
      | _, _ => { heard with world }
  | .submit token latitude longitude address =>
      match heard.world.addressSession token with
      | none => { heard with world }
      | some (key, _) =>
          { heard with
            world
            told := heard.told.set key
              { (heard.told.get? key).getD .none with
                address := some (pointLabel latitude longitude address)
                point := some ⟨latitude, longitude, "map"⟩ } }

def after (setup : IntakeCoordinator.Setup) (turns : List HeardTurn) : HeardWorld :=
  turns.foldl (turn setup) empty

variable {setup : IntakeCoordinator.Setup} {heard : HeardWorld}

@[simp] theorem world_turn (next : HeardTurn) :
    (heard.turn setup next).world = heard.world.turn setup next.turn := by
  cases next with
  | pack => rfl
  | arrive => rfl
  | chat index draw =>
      cases hflight : heard.world.flights[index]? with
      | none => simp only [HeardWorld.turn, hflight]
      | some flight =>
          cases hentry : heard.hearing[index]? with
          | none => simp only [HeardWorld.turn, hflight, hentry]
          | some entry =>
              cases hprogram : flight.program <;>
                simp only [HeardWorld.turn, hflight, hentry, hprogram]
  | submit token latitude longitude address =>
      cases hsession : heard.world.addressSession token <;>
        simp only [HeardWorld.turn, hsession]

/-- A handler, with what was said of the session it has read. -/
structure Follows (setup : IntakeCoordinator.Setup) (flight : ChatFlight) (told : Told) : Prop where
  keeps : Keeps setup.unicode flight.event flight.read flight.pinned flight.program
  holds : flight.event.begins flight.read = false → ∀ before ∈ flight.read,
    ∃ revision, flight.pinned = some revision ∧ before.PinnedTo revision ∧
      told.Matches revision.definition before

/-- A stored session, with what was said of it. -/
def Holds (told : Option Told) (session : IntakeSession) : Prop :=
  ∀ revision ∈ session.pinned, ∃ found, told = some found ∧
    found.Matches revision.definition session.state

structure Sound (setup : IntakeCoordinator.Setup) (heard : HeardWorld) : Prop where
  world : heard.world.Sound
  paired : heard.hearing.length = heard.world.flights.length
  sessions : ∀ key session, heard.world.sessions.get? key = some session →
    Holds (heard.told.get? key) session
  flights : ∀ (index : Nat) (flight : ChatFlight) (entry : Option String × Told),
    heard.world.flights[index]? = some flight → heard.hearing[index]? = some entry →
      Follows setup flight entry.2
  asked : ∀ entry ∈ heard.asked, ∃ state revision, entry.1.session = some state ∧
    entry.1.pinned = some revision ∧ entry.2.Matches revision.definition state
  requests : heard.asked.map Prod.fst = heard.world.requests

theorem sound_empty : Sound setup empty where
  world := IntakeWorld.sound_empty
  paired := rfl
  sessions _ _ h := by contradiction
  flights _ _ _ h := by contradiction
  asked _ h := by contradiction
  requests := rfl

section moves

variable {flights : List ChatFlight} {hearing : List (Option String × Told)} {index : Nat}
  {next : ChatFlight} {entry : Option String × Told}

/-- One handler goes on, and what it follows is known. -/
theorem follows_set
    (all : ∀ (other : Nat) (flight : ChatFlight) (entry : Option String × Told),
      flights[other]? = some flight → hearing[other]? = some entry → Follows setup flight entry.2)
    (follows : Follows setup next entry.2) :
    ∀ (other : Nat) (flight : ChatFlight) (entry' : Option String × Told),
      (flights.set index next)[other]? = some flight →
        (hearing.set index entry)[other]? = some entry' → Follows setup flight entry'.2 := by
  intro other flight entry' hflight hentry
  rw [List.getElem?_set] at hflight hentry
  by_cases hsame : index = other
  · rw [if_pos hsame] at hflight hentry
    by_cases hbound : index < flights.length
    · by_cases hreach : index < hearing.length
      · rw [if_pos hbound] at hflight
        rw [if_pos hreach] at hentry
        cases hflight
        cases hentry
        exact follows
      · rw [if_neg hreach] at hentry
        contradiction
    · rw [if_neg hbound] at hflight
      contradiction
  · rw [if_neg hsame] at hflight hentry
    exact all other flight entry' hflight hentry

/-- A handler goes on with what it has heard before. -/
theorem follows_moved
    (all : ∀ (other : Nat) (flight : ChatFlight) (entry : Option String × Told),
      flights[other]? = some flight → hearing[other]? = some entry → Follows setup flight entry.2)
    (here : hearing[index]? = some entry) (follows : Follows setup next entry.2) :
    ∀ (other : Nat) (flight : ChatFlight) (entry' : Option String × Told),
      (flights.set index next)[other]? = some flight →
        hearing[other]? = some entry' → Follows setup flight entry'.2 := by
  have hset : hearing.set index entry = hearing := by
    obtain ⟨hbound, hget⟩ := List.getElem?_eq_some_iff.mp here
    rw [← hget]
    exact List.set_getElem_self hbound
  have hmoved := @follows_set setup flights hearing index next entry all follows
  rw [hset] at hmoved
  exact hmoved

end moves

/-- A stored session is no session of a new event's last put. -/
theorem stamped_matches {told : Told} {pack : PackDefinition} {state : IntakeState}
    (holds : told.Matches pack state) (eventId : String) :
    told.Matches pack (stateWithSessionEvent eventId state) :=
  holds.same (holds.opened.same rfl rfl rfl) rfl rfl

variable {index : Nat} {flight : ChatFlight} {question : Option String} {told : Told}

/-- A handler goes on, and nothing is said. -/
theorem Sound.advanced (sound : Sound setup heard) (hears : heard.hearing[index]? = some (question, told))
    {next : ChatFlight} {world : IntakeWorld} (consistent : world.Sound)
    (flights : world.flights = heard.world.flights.set index next)
    (sessions : world.sessions = heard.world.sessions)
    (requests : world.requests = heard.world.requests) (follows : Follows setup next told) :
    Sound setup { heard with world := world } where
  world := consistent
  paired := by
    rw [flights, List.length_set]
    exact sound.paired
  sessions := by
    rw [sessions]
    exact sound.sessions
  flights := by
    rw [flights]
    exact follows_moved sound.flights hears follows
  asked := sound.asked
  requests := sound.requests.trans requests.symm

/-- One operation of a handler. -/
theorem Sound.chat (sound : Sound setup heard) (inFlight : heard.world.flights[index]? = some flight)
    (hears : heard.hearing[index]? = some (question, told)) {op : IntakeOp}
    {resume : op.Answer → IntakeProgram Reply} (draw : IntakeDraw)
    (program : flight.program = .call op resume)
    (world : (heard.world.turn setup (.chat index draw)).Sound) :
    Sound setup { heard.operate setup.unicode index flight question told op with
      world := heard.world.turn setup (.chat index draw) } := by
  obtain ⟨hkeeps, hholds⟩ := sound.flights index flight (question, told) inFlight hears
  obtain ⟨hcompletes, hpublished⟩ := sound.world.flights index flight inFlight
  rw [program] at hkeeps hcompletes
  have hturn : heard.world.turn setup (.chat index draw) =
      let result := heard.world.perform flight draw op
      { result.2.2 with
        flights := result.2.2.flights.set index
          { result.2.1 with program := resume result.1 } } := by
    simp only [IntakeWorld.turn, inFlight, program]
  rw [hturn] at world ⊢
  cases op with
  | getSession =>
      refine
        { world := world
          paired := ?_
          sessions := sound.sessions
          flights := follows_set sound.flights ?_
          asked := sound.asked
          requests := sound.requests }
      · change (heard.hearing.set index _).length = (heard.world.flights.set index _).length
        rw [List.length_set, List.length_set]
        exact sound.paired
      · cases hsession : heard.world.sessions.get? flight.key with
        | none =>
            refine ⟨hkeeps _ _ fun state hstate => ?_, fun _ before hbefore => ?_⟩
            · simp only [IntakeWorld.perform, hsession] at hstate
              contradiction
            · simp only [IntakeWorld.perform, hsession] at hbefore
              contradiction
        | some session =>
            obtain ⟨hpinned, -⟩ := sound.world.sessions flight.key session hsession
            simp only [IntakeWorld.perform, hsession, Option.map_some, Option.bind_some]
            refine ⟨hkeeps _ _ hpinned, fun _ before hbefore => ?_⟩
            cases hbefore
            obtain ⟨revision, hrevision, fits⟩ := hpinned _ rfl
            obtain ⟨found, hfound, hmatches⟩ :=
              sound.sessions flight.key session hsession revision hrevision
            rw [hfound]
            exact ⟨revision, hrevision, fits, hmatches⟩
  | putSession state =>
      refine
        { world := world
          paired := ?_
          sessions := fun key session hsession => ?_
          flights := follows_moved sound.flights hears ⟨hkeeps.2, hholds⟩
          asked := sound.asked
          requests := sound.requests }
      · change heard.hearing.length = (heard.world.flights.set index _).length
        rw [List.length_set]
        exact sound.paired
      · change (heard.world.sessions.set flight.key _).get? key = some session at hsession
        change Holds ((heard.told.set flight.key _).get? key) session
        rw [Dict.get?_set] at hsession ⊢
        by_cases hsame : key = flight.key
        · rw [if_pos hsame] at hsession ⊢
          cases hsession
          intro revision hrevision
          exact ⟨_, rfl, stamped_matches (Told.Matches.stored hholds hkeeps.1 revision hrevision)
            flight.eventId⟩
        · rw [if_neg hsame] at hsession ⊢
          exact sound.sessions key session hsession
  | clearSession =>
      refine
        { world := world
          paired := ?_
          sessions := fun key session hsession => ?_
          flights := follows_moved sound.flights hears ⟨hkeeps, hholds⟩
          asked := sound.asked
          requests := sound.requests }
      · change heard.hearing.length = (heard.world.flights.set index _).length
        rw [List.length_set]
        exact sound.paired
      · change (heard.world.sessions.erase flight.key).get? key = some session at hsession
        change Holds ((heard.told.erase flight.key).get? key) session
        rw [Dict.get?_erase] at hsession ⊢
        by_cases hsame : key = flight.key
        · rw [if_pos hsame] at hsession
          contradiction
        · rw [if_neg hsame] at hsession ⊢
          exact sound.sessions key session hsession
  | activeRevision =>
      exact sound.advanced hears world rfl rfl rfl ⟨hkeeps.2 _, fun hgoes => by
        change flight.event.begins flight.read = false at hgoes
        rw [hkeeps.1] at hgoes
        contradiction⟩
  | revision version =>
      exact sound.advanced hears world rfl rfl rfl
        ⟨hkeeps _ (hpublished.revision sound.world.packs.sound), hholds⟩
  | createOrderOnce orderId creation =>
      obtain ⟨⟨state, revision, hread, hpinned, -⟩, -⟩ := hcompletes
      obtain ⟨other, hother, -, hmatches⟩ := hholds hkeeps.1 state hread
      rw [hpinned] at hother
      cases hother
      refine
        { world := world
          paired := ?_
          sessions := sound.sessions
          flights := follows_moved sound.flights hears ⟨hkeeps.2 _, hholds⟩
          asked := fun entry hentry => ?_
          requests := ?_ }
      · change heard.hearing.length = (heard.world.flights.set index _).length
        rw [List.length_set]
        exact sound.paired
      · rcases List.mem_append.mp hentry with hold | hnew
        · exact sound.asked entry hold
        · obtain rfl := List.mem_singleton.mp hnew
          exact ⟨state, revision, hread, hpinned, hmatches⟩
      · change (heard.asked ++ [_]).map Prod.fst = heard.world.requests ++ [_]
        rw [List.map_append, sound.requests]
        rfl
  | uuid4 => exact sound.advanced hears world rfl rfl rfl ⟨hkeeps _, hholds⟩
  | tokenUrlsafe => exact sound.advanced hears world rfl rfl rfl ⟨hkeeps _, hholds⟩

/-- A point from the map. -/
theorem Sound.submit (sound : Sound setup heard) {token : String} {latitude longitude : Rat}
    {address : Option String}
    (world : (heard.turn setup (.submit token latitude longitude address)).world.Sound) :
    Sound setup (heard.turn setup (.submit token latitude longitude address)) := by
  rw [world_turn] at world
  cases hsession : heard.world.addressSession token with
  | none =>
      have hsame : heard.turn setup (.submit token latitude longitude address) = heard := by
        simp only [HeardWorld.turn, HeardTurn.turn, IntakeWorld.turn,
          IntakeWorld.selectAddressByToken, hsession]
      rw [hsame]
      exact sound
  | some entry =>
      obtain ⟨key, session⟩ := entry
      obtain ⟨hfound, -, hstep⟩ := IntakeWorld.addressSession_some hsession
      obtain ⟨hpinned, -⟩ := sound.world.sessions key session hfound
      obtain ⟨revision, hrevision, fits⟩ := hpinned _ rfl
      obtain ⟨told, htold, hmatches⟩ := sound.sessions key session hfound revision hrevision
      simp only [HeardWorld.turn, HeardTurn.turn, IntakeWorld.turn,
        IntakeWorld.selectAddressByToken, hsession, htold, Option.getD_some] at world ⊢
      refine
        { world := world
          paired := ?_
          sessions := fun other found hother => ?_
          flights := fun index flight entry hflight hentry => ?_
          asked := sound.asked
          requests := sound.requests }
      · rw [List.length_map]
        exact sound.paired
      · rw [Dict.get?_set] at hother ⊢
        by_cases hsame : other = key
        · rw [if_pos hsame] at hother ⊢
          cases hother
          intro pinned hpinned
          cases hrevision.symm.trans hpinned
          exact ⟨_, rfl, hmatches.setBeside (IntakeState.open_of_ne (by
            simp [IntakeCoordinator.located])) (.inr rfl) rfl (Dict.get?_set_self _ _ _)⟩
        · rw [if_neg hsame] at hother ⊢
          exact sound.sessions other found hother
      · rw [List.getElem?_map, Option.map_eq_some_iff] at hflight
        obtain ⟨before, hbefore, rfl⟩ := hflight
        obtain ⟨hkeeps, hholds⟩ := sound.flights index before entry hbefore hentry
        split
        · exact ⟨hkeeps, hholds⟩
        · exact ⟨hkeeps, hholds⟩

theorem Sound.turn (sound : Sound setup heard)
    (folds : ∀ text, setup.unicode.casefold text = setup.unicode.casefold "" → text = "")
    (next : HeardTurn) : Sound setup (heard.turn setup next) := by
  have world : (heard.turn setup next).world.Sound := by
    rw [world_turn]
    exact sound.world.turn folds next.turn
  cases next with
  | pack action =>
      exact
        { world := world
          paired := sound.paired
          sessions := sound.sessions
          flights := sound.flights
          asked := sound.asked
          requests := sound.requests }
  | arrive identity eventId event question =>
      refine
        { world := world
          paired := ?_
          sessions := sound.sessions
          flights := fun index flight entry hflight hentry => ?_
          asked := sound.asked
          requests := sound.requests }
      · change (heard.hearing ++ [_]).length = (heard.world.flights ++ [_]).length
        simp [sound.paired]
      · change (heard.world.flights ++ [_])[index]? = some flight at hflight
        change (heard.hearing ++ [(question, Told.none)])[index]? = some entry at hentry
        rcases Nat.lt_or_ge index heard.hearing.length with hold | hnew
        · rw [List.getElem?_append_left hold] at hentry
          rw [List.getElem?_append_left (sound.paired ▸ hold)] at hflight
          exact sound.flights index flight entry hflight hentry
        · rw [List.getElem?_append_right (sound.paired ▸ hnew)] at hflight
          obtain rfl := List.mem_singleton.mp (List.mem_of_getElem? hflight)
          exact ⟨IntakeCoordinator.keeps_program setup identity event, fun hgoes => by
            cases event <;> contradiction⟩
  | chat index draw =>
      cases hflight : heard.world.flights[index]? with
      | none =>
          have hsame : heard.turn setup (.chat index draw) = heard := by
            simp only [HeardWorld.turn, HeardTurn.turn, IntakeWorld.turn, hflight]
          rw [hsame]
          exact sound
      | some flight =>
          have hbound := (List.getElem?_eq_some_iff.mp hflight).1
          rw [← sound.paired] at hbound
          have hentry := List.getElem?_eq_getElem hbound
          cases hprogram : flight.program with
          | call op resume =>
              have hnext : heard.turn setup (.chat index draw) =
                  { heard.operate setup.unicode index flight heard.hearing[index].1
                      heard.hearing[index].2 op with
                    world := heard.world.turn setup (.chat index draw) } := by
                simp only [HeardWorld.turn, HeardTurn.turn, hflight, hentry, hprogram]
              rw [hnext] at world ⊢
              exact sound.chat hflight hentry draw hprogram world
          | done reply =>
              have hsame : heard.turn setup (.chat index draw) = heard := by
                simp only [HeardWorld.turn, HeardTurn.turn, IntakeWorld.turn, hflight, hentry,
                  hprogram]
              rw [hsame]
              exact sound
          | raise failure =>
              have hsame : heard.turn setup (.chat index draw) = heard := by
                simp only [HeardWorld.turn, HeardTurn.turn, IntakeWorld.turn, hflight, hentry,
                  hprogram]
              rw [hsame]
              exact sound
  | submit token latitude longitude address => exact sound.submit world

theorem Sound.run {heard : HeardWorld} (sound : Sound setup heard)
    (folds : ∀ text, setup.unicode.casefold text = setup.unicode.casefold "" → text = "")
    (turns : List HeardTurn) : Sound setup (turns.foldl (HeardWorld.turn setup) heard) := by
  induction turns generalizing heard with
  | nil => exact sound
  | cons next rest ih => exact ih (sound.turn folds next)

end HeardWorld
end DispatchCore.Messaging
