import DispatchCore.Messaging.CompleteOrders

/-! Runs of intake: every call for an order is complete, or a field has taken a key of the
order's own details. -/
namespace DispatchCore.Messaging

open DispatchCore.Library DispatchCore.Domain DispatchCore.Packs DispatchCore.Infrastructure
  DispatchCore.Application

/-- What an order of a pack has to come with. -/
structure CompleteFor (pack : PackDefinition) (creation : Creation) : Prop where
  selection : ∃ selected : List String, selected ≠ [] ∧ (∀ key ∈ selected, pack.Offers key) ∧
    creation.workType = Text.join "," selected ∧
    creation.details.get? "service_keys" = some (.arr (selected.map Json.str))
  phone : ∃ phone, creation.details.get? "phone" = some (.str phone) ∧ phone ≠ ""
  address : ∃ address, creation.details.get? "address" = some (.str address) ∧ address ≠ ""
  evidence : creation.evidenceRequirements = some pack.evidence
  answers : ∀ field ∈ pack.fields, field.required → field.key ≠ "phone" → field.key ≠ "address" →
    ∃ answer, creation.details.get? field.key = some (.str answer) ∧ answer ≠ "" ∧
      field.Accepts answer

/-- The call is complete for the revision that its application was pinned to at the start. -/
def IntakeRequest.Complete (request : IntakeRequest) : Prop :=
  ∃ revision, request.pinned = some revision ∧
    CompleteFor revision.definition request.creation

/-- No answer stands under `service_keys`, and with a point none is required under
`service_location`. -/
def IntakeRequest.Unclashed (request : IntakeRequest) : Prop :=
  ∀ state ∈ request.session, state.fieldValues.contains "service_keys" = false ∧
    (state.serviceLocation.isSome → ∀ revision ∈ request.pinned,
      ∀ field ∈ revision.definition.fields, field.required → field.key ≠ "service_location")

namespace IntakeCoordinator

variable {pack : PackDefinition} {state : IntakeState} {key answer : String}

private theorem entries_distinct (state : IntakeState) :
    ((state.fieldValues.entries.map fun entry => (entry.1, Json.str entry.2)).map
      Prod.fst).Nodup := by
  rw [List.map_map]
  exact state.fieldValues.distinct

theorem orderDetails_answer (pack : PackDefinition) (found : state.fieldValues.get? key = some answer)
    (kept : key ≠ "service_location" ∨ state.serviceLocation = none) :
    (orderDetails pack state).get? key = some (.str answer) := by
  have hmem : (key, Json.str answer) ∈
      state.fieldValues.entries.map fun entry => (entry.1, Json.str entry.2) :=
    List.mem_map.mpr ⟨(key, answer), (Dict.get?_eq_some ..).mp found, rfl⟩
  unfold orderDetails
  dsimp only
  split
  · exact Dict.get?_update_of_mem _ _ _ _ (entries_distinct state) hmem
  · rename_i location hlocation
    rw [Dict.get?_set_of_ne _ _ (kept.resolve_right (by simp [hlocation]))]
    exact Dict.get?_update_of_mem _ _ _ _ (entries_distinct state) hmem

theorem orderDetails_selection (absent : state.fieldValues.get? "service_keys" = none) :
    (orderDetails pack state).get? "service_keys" =
      some (.arr (state.selected.map Json.str)) := by
  have hnot : "service_keys" ∉
      (state.fieldValues.entries.map fun entry => (entry.1, Json.str entry.2)).map Prod.fst := by
    rw [List.map_map]
    exact (Dict.get?_eq_none ..).mp absent
  unfold orderDetails
  dsimp only
  split
  · rw [Dict.get?_update_of_notMem _ _ _ hnot]
    rfl
  · rw [Dict.get?_set_of_ne _ _ (by decide), Dict.get?_update_of_notMem _ _ _ hnot]
    rfl

theorem orderDetails_point (pack : PackDefinition) {location : ServiceLocation}
    (chosen : state.serviceLocation = some location) :
    ∃ point, (orderDetails pack state).get? "service_location" = some (.obj point) := by
  unfold orderDetails
  simp only [chosen]
  exact ⟨_, Dict.get?_set_self ..⟩

/-- An order made from a confirmed session lacks only what its own details write over. -/
theorem completeFor_iff (identity : MessengerIdentity) (sound : state.Sound pack)
    (asked : state.step = .confirm) (chosen : state.selected ≠ [])
    (distinct : pack.FieldsDistinct) :
    CompleteFor pack (orderCreation identity pack state) ↔
      state.fieldValues.contains "service_keys" = false ∧
        (state.serviceLocation.isSome → ∀ field ∈ pack.fields, field.required →
          field.key ≠ "service_location") := by
  constructor
  · intro complete
    constructor
    · rw [Bool.eq_false_iff]
      intro hcontains
      obtain ⟨answer, hanswer⟩ := Option.isSome_iff_exists.mp hcontains
      obtain ⟨selected, _, _, _, hkeys⟩ := complete.selection
      have hwritten := orderDetails_answer pack hanswer (.inl (by decide))
      rw [show (orderCreation identity pack state).details = orderDetails pack state from rfl,
        hwritten] at hkeys
      cases hkeys
    · intro hsome field hfield hrequired hkey
      obtain ⟨location, hlocation⟩ := Option.isSome_iff_exists.mp hsome
      obtain ⟨point, hpoint⟩ := orderDetails_point pack hlocation
      obtain ⟨answer, hanswer, _⟩ := complete.answers field hfield hrequired
        (by simp [hkey]) (by simp [hkey])
      rw [show (orderCreation identity pack state).details = orderDetails pack state from rfl,
        hkey, hpoint] at hanswer
      cases hanswer
  · rintro ⟨habsent, hpoint⟩
    have hphone := sound.phone (by simp [asked])
    have haddress := sound.address (by simp [asked]) (by simp [asked])
    refine ⟨⟨state.selected, chosen, sound.offered, rfl, orderDetails_selection ?_⟩, ?_, ?_, rfl, ?_⟩
    · simpa [Dict.contains] using habsent
    · obtain ⟨phone, hfound, hworded⟩ := hphone
      exact ⟨phone, orderDetails_answer pack hfound (.inl (by decide)), hworded⟩
    · obtain ⟨address, hfound, hworded⟩ := haddress
      exact ⟨address, orderDetails_answer pack hfound (.inl (by decide)), hworded⟩
    · intro field hfield hrequired hnotPhone hnotAddress
      have hfilled := sound.confirmed asked field (PackDefinition.mem_orderedFields.mpr hfield)
        hrequired
      obtain ⟨answer, hanswer⟩ := Option.isSome_iff_exists.mp hfilled
      obtain ⟨hworded, haccepts⟩ :=
        sound.valid distinct field hfield hnotPhone hnotAddress answer hanswer
      refine ⟨answer, orderDetails_answer pack hanswer ?_, hworded, haccepts⟩
      cases hlocation : state.serviceLocation with
      | none => exact .inr rfl
      | some location => exact .inl (hpoint (by simp [hlocation]) field hfield hrequired)

end IntakeCoordinator
/-- The pinned revision stands in the rows of the packs, and stays there. -/
def Published (rows : PackRows) (organizationId : String) (pinned : Option PackRevision) : Prop :=
  ∀ revision ∈ pinned, ∃ place row, rows.get? place = some row ∧
    row.isPublished organizationId ∧ row.version = revision.version ∧
    row.definition = revision.definition

theorem Published.revision {rows : PackRows} {organizationId : String} {pinned : Option PackRevision}
    (published : Published rows organizationId pinned) (sound : rows.Sound) {version : Int} :
    ∀ revision ∈ pinned, version = revision.version →
      ∃ stored, PostgresPackStore.revision rows organizationId version = some stored ∧
        stored.definition = revision.definition := by
  rintro revision hrevision rfl
  obtain ⟨place, row, hrow, hpublished, hversion, hdefinition⟩ := published revision hrevision
  refine ⟨row.revision, ?_, hdefinition⟩
  rw [← hversion]
  exact sound.revision hrow hpublished

theorem published_activeRevision {rows : PackRows} {organizationId : String} :
    Published rows organizationId (PostgresPackStore.activeRevision rows organizationId) := by
  intro revision hrevision
  obtain ⟨entry, hentry, rfl⟩ := Option.map_eq_some_iff.mp hrevision
  obtain ⟨hstored, hactive⟩ := PackRows.find_some hentry
  exact ⟨entry.1, entry.2, hstored, ⟨hactive.1, .inl hactive.2⟩, rfl, rfl⟩

theorem Published.step {packs : PackWorld} (consistent : packs.Consistent) (action : PackAction)
    {organizationId : String} {pinned : Option PackRevision}
    (published : Published packs.rows organizationId pinned) :
    Published (packs.step action).rows organizationId pinned := by
  intro revision hrevision
  obtain ⟨place, row, hrow, hpublished, hversion, hdefinition⟩ := published revision hrevision
  obtain ⟨later, hlater, hstill, hsame, hkept⟩ := consistent.published_step action hrow hpublished
  exact ⟨place, later, hlater, hstill, hsame.trans hversion, hkept.trans hdefinition⟩

/-- A call was made from a confirmed session of the revision that it is pinned to. -/
def IntakeRequest.Confirmed (request : IntakeRequest) : Prop :=
  ∃ identity state revision, request.session = some state ∧ request.pinned = some revision ∧
    state.PinnedTo revision ∧ state.step = .confirm ∧ state.selected ≠ [] ∧
    request.creation = IntakeCoordinator.orderCreation identity revision.definition state

theorem IntakeRequest.Confirmed.complete_iff {request : IntakeRequest} (confirmed : request.Confirmed)
    (distinct : ∀ revision ∈ request.pinned, revision.definition.FieldsDistinct) :
    request.Complete ↔ request.Unclashed := by
  obtain ⟨identity, state, revision, hsession, hpinned, hfits, hstep, hchosen, hcreation⟩ :=
    confirmed
  have hiff := IntakeCoordinator.completeFor_iff identity hfits.sound hstep hchosen
    (distinct revision hpinned)
  unfold IntakeRequest.Complete IntakeRequest.Unclashed
  rw [hsession, hpinned, hcreation]
  constructor
  · rintro ⟨other, hother, hcomplete⟩
    cases hother
    obtain ⟨habsent, hpoint⟩ := hiff.mp hcomplete
    intro found hfound
    cases hfound
    refine ⟨habsent, fun hsome other hother => ?_⟩
    cases hother
    exact hpoint hsome
  · intro hunclashed
    obtain ⟨habsent, hpoint⟩ := hunclashed state rfl
    exact ⟨revision, rfl, hiff.mpr ⟨habsent, fun hsome => hpoint hsome revision rfl⟩⟩

namespace IntakeWorld

variable {world : IntakeWorld} {setup : IntakeCoordinator.Setup} {index : Nat}
  {flight : ChatFlight}

/-- What holds between the turns of a run. -/
structure Sound (world : IntakeWorld) : Prop where
  packs : world.packs.Consistent
  sessions : ∀ key session, world.sessions.get? key = some session →
    Pinned (some session.state) session.pinned ∧
      Published world.packs.rows key.1 session.pinned
  flights : ∀ (index : Nat) (flight : ChatFlight), world.flights[index]? = some flight →
    Completes flight.identity flight.read flight.pinned flight.program ∧
      Published world.packs.rows flight.identity.organizationId flight.pinned
  requests : ∀ request ∈ world.requests, request.Confirmed

theorem sound_empty : empty.Sound where
  packs := PackWorld.consistent_empty
  sessions _ _ h := by cases h
  flights _ _ h := by cases h
  requests _ h := by cases h

/-- One flight moves; the tokens and the points are not looked at. -/
theorem Sound.moved (sound : world.Sound) (next : ChatFlight) (index : Nat)
    (issued : List (String × Key))
    (completes : Completes next.identity next.read next.pinned next.program)
    (published : Published world.packs.rows next.identity.organizationId next.pinned) :
    ({ world with flights := world.flights.set index next, issued := issued } :
      IntakeWorld).Sound where
  packs := sound.packs
  sessions := sound.sessions
  flights other found hother := by
    rw [List.getElem?_set] at hother
    split at hother
    · split at hother
      · cases hother
        exact ⟨completes, published⟩
      · cases hother
    · exact sound.flights other found hother
  requests := sound.requests

theorem Sound.stored (sound : world.Sound) (key : Key) (session : IntakeSession)
    (standing : Dict Key ServiceLocation) (pinned : Pinned (some session.state) session.pinned)
    (published : Published world.packs.rows key.1 session.pinned) :
    ({ world with sessions := world.sessions.set key session, standing := standing } :
      IntakeWorld).Sound where
  packs := sound.packs
  sessions other found hfound := by
    simp only [Dict.get?_set] at hfound
    split at hfound
    · rename_i hkey
      cases hfound
      rw [hkey]
      exact ⟨pinned, published⟩
    · exact sound.sessions other found hfound
  flights := sound.flights
  requests := sound.requests

theorem Sound.cleared (sound : world.Sound) (key : Key) (standing : Dict Key ServiceLocation) :
    ({ world with sessions := world.sessions.erase key, standing := standing } :
      IntakeWorld).Sound where
  packs := sound.packs
  sessions other found hfound := by
    simp only [Dict.get?_erase] at hfound
    split at hfound
    · cases hfound
    · exact sound.sessions other found hfound
  flights := sound.flights
  requests := sound.requests

theorem Sound.asked (sound : world.Sound) {request : IntakeRequest}
    (confirmed : request.Confirmed) :
    ({ world with requests := world.requests ++ [request] } : IntakeWorld).Sound where
  packs := sound.packs
  sessions := sound.sessions
  flights := sound.flights
  requests other hother := by
    rcases List.mem_append.mp hother with hold | hnew
    · exact sound.requests other hold
    · rw [List.mem_singleton.mp hnew]
      exact confirmed

/-- The event of a put is no part of what a session knows. -/
theorem pinned_stamped {state : IntakeState} {pinned : Option PackRevision} (eventId : String)
    (fits : Pinned (some state) pinned) :
    Pinned (some (stateWithSessionEvent eventId state)) pinned := by
  intro found hfound
  cases hfound
  obtain ⟨revision, rfl, hfits⟩ := fits state rfl
  exact ⟨revision, rfl, IntakeCoordinator.same_pinnedTo hfits rfl rfl rfl rfl rfl⟩

theorem Sound.chat (sound : world.Sound) (inFlight : world.flights[index]? = some flight)
    {op : IntakeOp} {resume : op.Answer → IntakeProgram Reply} {draw : IntakeDraw}
    (program : flight.program = .call op resume) :
    let result := world.perform flight draw op
    ({ result.2.2 with
      flights := result.2.2.flights.set index { result.2.1 with program := resume result.1 } } :
      IntakeWorld).Sound := by
  obtain ⟨hcompletes, hpublished⟩ := sound.flights index flight inFlight
  rw [program] at hcompletes
  cases op with
  | getSession =>
      cases hsession : world.sessions.get? flight.key with
      | none =>
          have hmoved := sound.moved { flight with
              read := none, pinned := none, drawn := none, overtaken := false,
              program := resume none } index world.issued
            (hcompletes none none fun state h => by cases h) (fun revision h => by cases h)
          simpa only [perform, hsession, Option.map_none, Option.bind_none] using hmoved
      | some session =>
          obtain ⟨hfits, hstands⟩ := sound.sessions flight.key session hsession
          have hmoved := sound.moved { flight with
              read := some session.state, pinned := session.pinned, drawn := none,
              overtaken := false, program := resume (some session.state) } index world.issued
            (hcompletes _ _ hfits) hstands
          simpa only [perform, hsession, Option.map_some, Option.bind_some] using hmoved
  | putSession state =>
      obtain ⟨hfits, hrest⟩ := hcompletes
      have hstored := sound.stored flight.key
        ⟨flight.identity.provider, stateWithSessionEvent flight.eventId state, flight.pinned⟩
        (if flight.chooses then world.standing.erase flight.key else world.standing)
        (pinned_stamped flight.eventId hfits) hpublished
      exact hstored.moved _ index world.issued hrest hpublished
  | clearSession =>
      exact (sound.cleared flight.key _).moved _ index world.issued hcompletes hpublished
  | activeRevision =>
      exact sound.moved _ index world.issued
        (hcompletes _ sound.packs.sound.activeRevision_pos) published_activeRevision
  | revision version =>
      exact sound.moved _ index world.issued
        (hcompletes _ (hpublished.revision sound.packs.sound)) hpublished
  | createOrderOnce orderId creation =>
      obtain ⟨⟨state, revision, hread, hpinned, hfits, hstep, hchosen, hcreation⟩, hrest⟩ :=
        hcompletes
      exact (sound.asked ⟨flight.identity, state, revision, hread, hpinned, hfits, hstep,
        hchosen, hcreation⟩).moved _ index world.issued (hrest _) hpublished
  | uuid4 => exact sound.moved _ index world.issued (hcompletes _) hpublished
  | tokenUrlsafe => exact sound.moved _ index _ (hcompletes _) hpublished

theorem Sound.submit (sound : world.Sound) (token : String) (latitude longitude : Rat)
    (address : Option String) :
    (world.selectAddressByToken token latitude longitude address).Sound := by
  unfold selectAddressByToken
  cases hsession : world.addressSession token with
  | none => exact sound
  | some entry =>
      obtain ⟨key, session⟩ := entry
      obtain ⟨hfound, _, hstep⟩ := addressSession_some hsession
      obtain ⟨hfits, hpublished⟩ := sound.sessions key session hfound
      obtain ⟨revision, hpinned, hfits⟩ := hfits session.state rfl
      have hlocated : Pinned (some (IntakeCoordinator.located session.state
          (pointLabel latitude longitude address) ⟨latitude, longitude, "map"⟩))
          session.pinned := by
        rw [hpinned]
        exact IntakeCoordinator.pinned_some
          (IntakeCoordinator.located_pinnedTo hfits hstep latitude longitude address _)
      have hstored := sound.stored key { session with state := _ }
        (world.standing.set key ⟨latitude, longitude, "map"⟩) hlocated hpublished
      refine ⟨hstored.packs, hstored.sessions, fun index found hflight => ?_, hstored.requests⟩
      rw [List.getElem?_map, Option.map_eq_some_iff] at hflight
      obtain ⟨flight, hflight, rfl⟩ := hflight
      have hflight := sound.flights index flight hflight
      split
      · exact hflight
      · exact hflight

theorem Sound.turn (sound : world.Sound)
    (folds : ∀ text, setup.unicode.casefold text = setup.unicode.casefold "" → text = "")
    (turn : IntakeTurn) : (world.turn setup turn).Sound := by
  cases turn with
  | pack action =>
      exact
        { packs := sound.packs.step action
          sessions := fun key session hsession =>
            ⟨(sound.sessions key session hsession).1,
              (sound.sessions key session hsession).2.step sound.packs action⟩
          flights := fun index flight hflight =>
            ⟨(sound.flights index flight hflight).1,
              (sound.flights index flight hflight).2.step sound.packs action⟩
          requests := sound.requests }
  | arrive identity eventId event =>
      refine { sound with flights := ?_ }
      intro index found hfound
      rcases List.mem_append.mp (List.mem_of_getElem? hfound) with hold | hnew
      · obtain ⟨place, hplace⟩ := List.mem_iff_getElem?.mp hold
        exact sound.flights place found hplace
      · cases List.mem_singleton.mp hnew
        exact ⟨IntakeCoordinator.completes_program setup folds identity event,
          fun revision h => by cases h⟩
  | chat index draw =>
      unfold IntakeWorld.turn
      dsimp only
      cases hindex : world.flights[index]? with
      | none => exact sound
      | some flight =>
          dsimp only
          cases hprogram : flight.program with
          | done reply => exact sound
          | raise failure => exact sound
          | call op resume => exact sound.chat hindex hprogram
  | submit token latitude longitude address => exact sound.submit token latitude longitude address

theorem Sound.run (sound : world.Sound)
    (folds : ∀ text, setup.unicode.casefold text = setup.unicode.casefold "" → text = "")
    (turns : List IntakeTurn) : (world.run setup turns).Sound := by
  induction turns generalizing world with
  | nil => exact sound
  | cons turn rest ih => exact ih (sound.turn folds turn)

end IntakeWorld

/-- `folds` tells of `str.casefold` that only the empty text is folded to what it is folded to. -/
theorem intake_calls_complete_iff (setup : IntakeCoordinator.Setup)
    (folds : ∀ text, setup.unicode.casefold text = setup.unicode.casefold "" → text = "")
    (turns : List IntakeTurn) (request : IntakeRequest)
    (asked : request ∈ (IntakeWorld.after setup turns).requests)
    (distinct : ∀ revision ∈ request.pinned, revision.definition.FieldsDistinct) :
    request.Complete ↔ request.Unclashed :=
  ((IntakeWorld.sound_empty.run folds turns).requests request asked).complete_iff distinct

/-- A pack that requires one text. -/
def formPack (field : FieldDefinition) : PackDefinition where
  branding := ⟨"Сервис", "", ""⟩
  serviceCatalog := ⟨[⟨"repair", "Ремонт", repair_named⟩], false, repair_distinct⟩
  fields := [field]
  evidence := .default
  roleLabels := defaultRoleLabels
  defaultPoolMode := .curated

def formClient : MessengerIdentity :=
  ⟨⟨"org", "actor", .client⟩, "Анна", .telegram, "7", [.client]⟩

def formSetup : IntakeCoordinator.Setup := ⟨⟨id, id⟩, none⟩

/-- One event of the client, handled to the end. -/
def handled (index : Nat) (event : ChatEvent) : List IntakeTurn :=
  .arrive formClient "event" event :: List.replicate 6 (.chat index ⟨"drawn", .ok "W-1"⟩)

/-- The client gives a phone and a point, chooses the service, answers the field and confirms. -/
def formFilled (field : FieldDefinition) : List IntakeTurn :=
  [.pack (.begin "org" (.bootstrapActive (formPack field))), .pack (.advance 0),
    .pack (.advance 0)] ++
  handled 0 .start ++ handled 1 (.text "+79990000000") ++
  handled 2 (.location (.finite 55) (.finite 37) "native" none) ++
  handled 3 (.callback .pickService (.ofList [("service", .str "repair")])) ++
  handled 4 (.text "3") ++ handled 5 (.callback .confirm .empty)

instance (pack : PackDefinition) : Decidable pack.FieldsDistinct :=
  List.nodupDecidable _

instance (request : IntakeRequest) : Decidable request.Unclashed := by
  unfold IntakeRequest.Unclashed
  infer_instance

/-- The number of the floor. -/
def floorField : FieldDefinition :=
  ⟨"floor", "Этаж", .integer, true, [], "", 1, by decide, FieldType.integer_unlisted⟩

theorem intake_calls_complete_iff_floor :
    ∃ request ∈ (IntakeWorld.after formSetup (formFilled floorField)).requests,
      request.Complete := by
  obtain ⟨request, hrequests⟩ : ∃ request,
      (IntakeWorld.after formSetup (formFilled floorField)).requests = [request] :=
    List.length_eq_one_iff.mp (by decide +kernel)
  have hmem : request ∈ (IntakeWorld.after formSetup (formFilled floorField)).requests := by
    rw [hrequests]
    exact List.mem_singleton_self _
  have hclear : ∀ request ∈ (IntakeWorld.after formSetup (formFilled floorField)).requests,
      (∀ revision ∈ request.pinned, revision.definition.FieldsDistinct) ∧ request.Unclashed := by
    decide +kernel
  obtain ⟨hdistinct, hunclashed⟩ := hclear request hmem
  exact ⟨request, hmem, (intake_calls_complete_iff formSetup (fun _ h => h) (formFilled floorField)
    request hmem hdistinct).mpr hunclashed⟩

/-- What `slug` makes of the label "Service location". -/
def locationField : FieldDefinition :=
  ⟨"service_location", "Service location", .text, true, [], "", 1, by decide,
    FieldType.text_unlisted⟩

/-- The point writes over the answer. -/
theorem intake_call_incomplete :
    ∃ request ∈ (IntakeWorld.after formSetup (formFilled locationField)).requests,
      (∀ revision ∈ request.pinned, revision.definition.FieldsDistinct) ∧ ¬request.Complete := by
  obtain ⟨request, hrequests⟩ : ∃ request,
      (IntakeWorld.after formSetup (formFilled locationField)).requests = [request] :=
    List.length_eq_one_iff.mp (by decide +kernel)
  have hmem : request ∈ (IntakeWorld.after formSetup (formFilled locationField)).requests := by
    rw [hrequests]
    exact List.mem_singleton_self _
  have hclash : ∀ request ∈ (IntakeWorld.after formSetup (formFilled locationField)).requests,
      (∀ revision ∈ request.pinned, revision.definition.FieldsDistinct) ∧
        ¬request.Unclashed := by
    decide +kernel
  have hsound : (IntakeWorld.after formSetup (formFilled locationField)).Sound :=
    IntakeWorld.sound_empty.run (fun _ h => h) (formFilled locationField)
  have hconfirmed := hsound.requests request hmem
  obtain ⟨hdistinct, hclashed⟩ := hclash request hmem
  exact ⟨request, hmem, hdistinct, fun hcomplete =>
    hclashed ((hconfirmed.complete_iff hdistinct).mp hcomplete)⟩

end DispatchCore.Messaging
