import DispatchCore.Messaging.IntakeAnswers

/-! An order is asked for only with everything that the pinned pack requires, unless the key
of a field is one that the details of an order use themselves. -/
namespace DispatchCore.Messaging

open DispatchCore.Library DispatchCore.Domain DispatchCore.Packs DispatchCore.Infrastructure
  DispatchCore.Application

/-- A session that a handler has read is pinned, and sound for the revision it is pinned to. -/
def Pinned (found : Option IntakeState) (pinned : Option PackRevision) : Prop :=
  ∀ state ∈ found, ∃ revision, pinned = some revision ∧ state.PinnedTo revision

/-- Whatever the rest of a handler is told, it stores sound sessions and asks for an order
only from a confirmed one. -/
def Completes (identity : MessengerIdentity) :
    Option IntakeState → Option PackRevision → IntakeProgram Reply → Prop
  | _, _, .done _ => True
  | _, _, .raise _ => True
  | _, _, .call .getSession resume => ∀ (found : Option IntakeState) (pinned : Option PackRevision),
      Pinned found pinned → Completes identity found pinned (resume found)
  | read, pinned, .call (.putSession state) resume =>
      Pinned (some state) pinned ∧ Completes identity read pinned (resume ())
  | read, pinned, .call .clearSession resume => Completes identity read pinned (resume ())
  | read, _, .call .activeRevision resume =>
      ∀ found : Option PackRevision, (∀ revision ∈ found, 0 < revision.version) →
        Completes identity read found (resume found)
  | read, pinned, .call (.revision version) resume => ∀ found : Option PackRevision,
      (∀ revision ∈ pinned, version = revision.version →
        ∃ stored, found = some stored ∧ stored.definition = revision.definition) →
        Completes identity read pinned (resume found)
  | read, pinned, .call (.createOrderOnce _ creation) resume =>
      (∃ state revision, read = some state ∧ pinned = some revision ∧ state.PinnedTo revision ∧
        state.step = .confirm ∧ state.selected ≠ [] ∧
        creation = IntakeCoordinator.orderCreation identity revision.definition state) ∧
        ∀ answer, Completes identity read pinned (resume answer)
  | read, pinned, .call .uuid4 resume => ∀ text, Completes identity read pinned (resume text)
  | read, pinned, .call .tokenUrlsafe resume =>
      ∀ token, Completes identity read pinned (resume token)

namespace IntakeCoordinator

variable {identity : MessengerIdentity} {read : Option IntakeState} {pinned : Option PackRevision}
  {revision : PackRevision} {before state : IntakeState}

theorem pinned_some (fits : state.PinnedTo revision) : Pinned (some state) (some revision) := by
  intro found hfound
  cases hfound
  exact ⟨revision, rfl, fits⟩

theorem completes_attempt (result : Except Failure Reply) :
    Completes identity read pinned (.attempt result) := by
  cases result <;> exact True.intro

theorem completes_start : Completes identity read pinned start := by
  intro found numbered
  cases found with
  | none => exact True.intro
  | some revision =>
      intro submissionId
      exact ⟨pinned_some ⟨numbered revision rfl, rfl, IntakeState.sound_start _ _⟩, True.intro⟩

/-- The session that was read is pinned, and its revision is still what it was. -/
theorem completes_packForState (fits : before.PinnedTo revision)
    {next : Option PackRevision × IntakeState → IntakeProgram Reply}
    (rest : ∀ stored : PackRevision, stored.definition = revision.definition →
      Completes identity read (some revision) (next (some stored, before))) :
    Completes identity read (some revision) (packForState before >>= next) := by
  have hversion : before.packVersion.getD 0 = (revision.version : Int) := by
    rw [fits.version]
    rfl
  have hnumbered := fits.numbered
  unfold packForState
  dsimp only
  rw [hversion, if_pos (by omega)]
  intro found htold
  obtain ⟨stored, rfl, hsame⟩ := htold revision rfl rfl
  exact rest stored hsame

theorem completes_toConfirmation {pack : PackDefinition}
    (fits : ({ state with step := .confirm } : IntakeState).PinnedTo revision) :
    Completes identity read (some revision) (toConfirmation pack state) :=
  ⟨pinned_some fits, True.intro⟩

/-- All required fields have a value: the session may be confirmed. -/
theorem confirmed_pinnedTo (fits : state.PinnedTo revision)
    (settled : state.step ≠ .phone ∧ state.step ≠ .address)
    (filled : state.Filled revision.definition.orderedFields) (index : Int) (counted : 0 ≤ index) :
    ({ state with step := .confirm, fieldIndex := index } : IntakeState).PinnedTo revision :=
  ⟨fits.numbered, fits.version,
    fits.sound.goOn settled rfl fits.sound.offered counted (fun h => by cases h) fun _ => filled⟩

theorem completes_finishServices (fits : before.PinnedTo revision)
    (settled : before.step ≠ .phone ∧ before.step ≠ .address) {selected : List String}
    (offered : ∀ key ∈ selected, revision.definition.Offers key) :
    Completes identity read (some revision)
      (finishServices revision.definition { before with selected := selected }) := by
  unfold finishServices
  split
  · exact True.intro
  · dsimp only
    split
    · rename_i hnone
      exact completes_toConfirmation ⟨fits.numbered, fits.version,
        fits.sound.goOn settled rfl offered fits.sound.counted (fun h => by cases h)
          fun _ => .of_findIdx_none hnone⟩
    · rename_i index hindex
      refine ⟨pinned_some ⟨fits.numbered, fits.version, fits.sound.goOn settled rfl offered
        (Int.natCast_nonneg _) (fun _ => .of_findIdx_some hindex) fun h => by cases h⟩, ?_⟩
      split
      · rename_i hmissing
        obtain ⟨hbound, _⟩ := List.findIdx?_eq_some_iff_getElem.mp hindex
        rw [List.getElem?_eq_getElem hbound] at hmissing
        cases hmissing
      · exact completes_attempt _

theorem completes_pickService (fits : before.PinnedTo revision)
    (settled : before.step ≠ .phone ∧ before.step ≠ .address) (key : String) :
    Completes identity read (some revision) (pickService revision.definition before key) := by
  unfold pickService
  split
  · exact True.intro
  · rename_i hlisted
    have hoffers : revision.definition.Offers key := by
      simpa [PackDefinition.Offers] using hlisted
    split
    · refine completes_finishServices fits settled fun other hother => ?_
      rw [List.mem_singleton.mp hother]
      exact hoffers
    · refine ⟨pinned_some ⟨fits.numbered, fits.version, fits.sound.goOn settled rfl ?_
        fits.sound.counted fits.sound.reached fits.sound.confirmed⟩, True.intro⟩
      intro other hother
      dsimp only at hother
      split at hother
      · exact fits.sound.offered other (List.mem_of_mem_erase hother)
      · rcases List.mem_append.mp hother with hold | hnew
        · exact fits.sound.offered other hold
        · rw [List.mem_singleton.mp hnew]
          exact hoffers

theorem completes_nextField (fits : state.PinnedTo revision) (asked : state.step = .fields)
    {index : Nat} (filled : state.Filled (revision.definition.orderedFields.take index)) :
    Completes identity read (some revision) (nextField revision.definition state index) := by
  have hsettled : state.step ≠ .phone ∧ state.step ≠ .address := by simp [asked]
  have hfilled := filled.skipAnswered
  unfold nextField
  dsimp only
  split
  · rename_i hnone
    rw [List.take_of_length_le (List.getElem?_eq_none_iff.mp hnone)] at hfilled
    exact completes_toConfirmation
      (confirmed_pinnedTo fits hsettled hfilled _ (Int.natCast_nonneg _))
  · refine ⟨pinned_some ⟨fits.numbered, fits.version, fits.sound.goOn hsettled rfl
      fits.sound.offered (Int.natCast_nonneg _) (fun _ => hfilled) fun h => ?_⟩,
      completes_attempt _⟩
    rw [show state.step = _ from h] at asked
    cases asked

/-- One field more has a value, or needs none. -/
theorem filled_succ {fields : List FieldDefinition} {index : Nat} {field : FieldDefinition}
    (filled : state.Filled (fields.take index)) (here : fields[index]? = some field)
    (present : field.required → state.fieldValues.contains field.key) :
    state.Filled (fields.take (index + 1)) := by
  intro other hother hrequired
  rw [List.take_add_one, here] at hother
  rcases List.mem_append.mp hother with hold | hnew
  · exact filled other hold hrequired
  · cases List.mem_singleton.mp hnew
    exact present hrequired

variable {unicode : Unicode}

theorem completes_answerField (folds : ∀ text, unicode.casefold text = unicode.casefold "" → text = "")
    (fits : state.PinnedTo revision) (asked : state.step = .fields) {field : FieldDefinition}
    (here : revision.definition.orderedFields[state.fieldIndex.toNat]? = some field)
    (value : String) :
    Completes identity read (some revision)
      (answerField unicode revision.definition state field value) := by
  have hsettled : state.step ≠ .phone ∧ state.step ≠ .address := by simp [asked]
  have hfilled := fits.sound.reached asked
  unfold answerField
  dsimp only
  split
  · split
    · exact True.intro
    · rename_i hoptional
      exact completes_nextField fits asked
        (filled_succ hfilled here fun hrequired => absurd hrequired hoptional)
  · rename_i hworded
    split
    · split
      · exact True.intro
      · cases askField field <;> exact True.intro
    · rename_i normalized hnormalized
      obtain ⟨hanswer, haccepted⟩ := normalize_accepts folds (fun h => hworded (.inl h)) hnormalized
      have hlisted := PackDefinition.mem_orderedFields.mp (List.mem_of_getElem? here)
      have hanswered : ({ state with
          fieldValues := state.fieldValues.set field.key normalized } :
          IntakeState).PinnedTo revision := by
        refine ⟨fits.numbered, fits.version, fits.sound.answer hsettled hanswer ?_⟩
        intro distinct other hother hkey _ _
        rw [List.inj_on_of_nodup_map distinct hother hlisted hkey]
        exact haccepted
      refine completes_nextField hanswered asked
        (filled_succ (IntakeState.Filled.set hfilled rfl) here fun _ => ?_)
      exact IntakeState.contains_set (.inr rfl)

theorem completes_fillField (folds : ∀ text, unicode.casefold text = unicode.casefold "" → text = "")
    (fits : state.PinnedTo revision) (asked : state.step = .fields) (text : String) :
    Completes identity read (some revision)
      (fillField unicode revision.definition state text) := by
  unfold fillField
  have hcounted := fits.sound.counted
  rw [if_neg (by omega)]
  split
  · rename_i hnone
    have hfilled := fits.sound.reached asked
    rw [List.take_of_length_le (List.getElem?_eq_none_iff.mp hnone)] at hfilled
    exact completes_toConfirmation (confirmed_pinnedTo fits (by simp [asked]) hfilled _ hcounted)
  · rename_i field hfield
    exact completes_answerField folds fits asked hfield _

theorem completes_fillPhone (publicBaseUrl : Option String) (fits : state.PinnedTo revision)
    (text : String) :
    Completes identity read (some revision) (fillPhone publicBaseUrl state text) := by
  unfold fillPhone
  dsimp only
  generalize ConfigEdits.limit text 500 = value
  split
  · exact True.intro
  · rename_i hvalue
    intro token
    exact ⟨pinned_some ⟨fits.numbered, fits.version,
      fits.sound.toAddress (fun h => hvalue (.inl h)) rfl rfl rfl rfl⟩, True.intro⟩

theorem completes_fillAddress (pack : PackDefinition) (fits : state.PinnedTo revision)
    (asked : state.step = .address) (text : String) :
    Completes identity read (some revision) (fillAddress pack state text) := by
  unfold fillAddress
  dsimp only
  generalize ConfigEdits.limit text 500 = value
  split
  · exact True.intro
  · rename_i hvalue
    exact ⟨pinned_some ⟨fits.numbered, fits.version,
      fits.sound.toServices asked (fun h => hvalue (.inl h)) rfl rfl rfl rfl⟩, True.intro⟩

theorem pointLabel_ne (latitude longitude : Rat) (address : Option String) :
    pointLabel latitude longitude address ≠ "" := by
  unfold pointLabel
  dsimp only
  split
  · intro hempty
    have hletters := congrArg String.toList hempty
    simp [toString, String.toList_append] at hletters
  · assumption

theorem located_pinnedTo (fits : state.PinnedTo revision) (asked : state.step = .address)
    (latitude longitude : Rat) (address : Option String) (location : ServiceLocation) :
    (located state (pointLabel latitude longitude address) location).PinnedTo revision :=
  ⟨fits.numbered, fits.version,
    fits.sound.toServices asked (pointLabel_ne latitude longitude address) rfl rfl rfl rfl⟩

theorem completes_handleText (setup : Setup)
    (folds : ∀ text, setup.unicode.casefold text = setup.unicode.casefold "" → text = "")
    (text : String) : Completes identity none none (handleText setup text) := by
  intro found pinned hpinned
  cases found with
  | none => exact completes_start
  | some before =>
      obtain ⟨revision, rfl, fits⟩ := hpinned before rfl
      refine completes_packForState fits fun stored hstored => ?_
      dsimp only
      rw [hstored]
      cases hstep : before.step with
      | phone => exact completes_fillPhone _ fits text
      | address => exact completes_fillAddress _ fits hstep text
      | services => exact True.intro
      | fields => exact completes_fillField folds fits hstep text
      | confirm => exact True.intro

theorem completes_handleLocation (latitude longitude : Reading) (method : String)
    (address : Option String) :
    Completes identity none none (handleLocation latitude longitude method address) := by
  unfold handleLocation
  split
  · exact True.intro
  · intro found pinned hpinned
    cases found with
    | none => exact completes_start
    | some before =>
        obtain ⟨revision, rfl, fits⟩ := hpinned before rfl
        refine completes_packForState fits fun stored hstored => ?_
        dsimp only
        split
        · exact True.intro
        · rename_i hstep
          have haddress : before.step = .address := by simpa using hstep
          exact ⟨pinned_some (located_pinnedTo fits haddress _ _ _ _), True.intro⟩

/-- A session whose answers, selection and place are as they were. -/
theorem same_pinnedTo (fits : before.PinnedTo revision)
    (version : state.packVersion = before.packVersion)
    (values : state.fieldValues = before.fieldValues) (selected : state.selected = before.selected)
    (step : state.step = before.step) (index : state.fieldIndex = before.fieldIndex) :
    state.PinnedTo revision :=
  ⟨fits.numbered, version.trans fits.version, fits.sound.same values selected step index⟩

theorem completes_submit (fits : before.PinnedTo revision) (asked : before.step = .confirm)
    (chosen : before.selected ≠ []) (submissionId : String) :
    Completes identity (some before) (some revision)
      (submit identity revision.definition before submissionId) := by
  refine ⟨⟨before, revision, rfl, rfl, fits, asked, chosen, rfl⟩, fun answer => ?_⟩
  cases answer with
  | error failure => exact True.intro
  | ok publicNumber => exact True.intro

theorem completes_confirm (fits : before.PinnedTo revision) (asked : before.step = .confirm) :
    Completes identity (some before) (some revision)
      (confirm identity revision.definition before) := by
  unfold confirm
  split
  · exact completes_start
  · rename_i hchosen
    split
    · exact completes_submit fits asked hchosen _
    · intro submissionId
      exact ⟨pinned_some (same_pinnedTo fits rfl rfl rfl rfl rfl),
        completes_submit fits asked hchosen _⟩

theorem completes_press (setup : Setup)
    (folds : ∀ text, setup.unicode.casefold text = setup.unicode.casefold "" → text = "")
    (fits : before.PinnedTo revision) (action : IntakeAction) (payload : Dict String Json) :
    Completes identity (some before) (some revision)
      (press setup identity revision.definition before action payload) := by
  unfold press
  cases action with
  | cancel => exact True.intro
  | requestLocation =>
      dsimp only
      split
      · exact True.intro
      · exact ⟨pinned_some (same_pinnedTo fits rfl rfl rfl rfl rfl), True.intro⟩
  | typeAddress =>
      dsimp only
      split
      · exact True.intro
      · exact ⟨pinned_some (same_pinnedTo fits rfl rfl rfl rfl rfl), True.intro⟩
  | continueAfterMap =>
      dsimp only
      split
      · exact True.intro
      · split <;> exact True.intro
  | pickService =>
      dsimp only
      split
      · exact True.intro
      · rename_i hstep
        refine completes_pickService fits ⟨fun h => hstep ?_, fun h => hstep ?_⟩ _ <;> simp [h]
  | fieldChoice =>
      dsimp only
      split
      · exact True.intro
      · rename_i hstep
        exact completes_fillField folds fits (by simpa using hstep) _
  | servicesDone =>
      dsimp only
      split
      · exact True.intro
      · rename_i hstep
        have hservices : before.step = .services := by simpa using hstep
        exact completes_finishServices fits (by simp [hservices]) fits.sound.offered
  | confirm =>
      dsimp only
      split
      · exact True.intro
      · rename_i hstep
        exact completes_confirm fits (by simpa using hstep)

theorem completes_handleCallback (setup : Setup)
    (folds : ∀ text, setup.unicode.casefold text = setup.unicode.casefold "" → text = "")
    (action : IntakeAction) (payload : Dict String Json) :
    Completes identity none none (handleCallback setup identity action payload) := by
  unfold handleCallback
  split
  · exact True.intro
  · intro found pinned hpinned
    cases found with
    | none => exact completes_start
    | some before =>
        obtain ⟨revision, rfl, fits⟩ := hpinned before rfl
        refine completes_packForState fits fun stored hstored => ?_
        dsimp only
        rw [hstored]
        exact completes_press setup folds fits action payload

theorem completes_program (setup : Setup)
    (folds : ∀ text, setup.unicode.casefold text = setup.unicode.casefold "" → text = "")
    (identity : MessengerIdentity) (event : ChatEvent) :
    Completes identity none none (event.program setup identity) := by
  cases event with
  | start => exact completes_start
  | text text => exact completes_handleText setup folds text
  | location latitude longitude method address =>
      exact completes_handleLocation latitude longitude method address
  | callback action payload => exact completes_handleCallback setup folds action payload

end IntakeCoordinator
end DispatchCore.Messaging
