import DispatchCore.Messaging.ConfiguredPacks
import DispatchCore.Messaging.HeardAnswers

/-! The details of an order tell what the client chose and said, unless a field of the pack has
taken a name that the details use themselves. -/
namespace DispatchCore.Messaging

open DispatchCore.Library DispatchCore.Domain DispatchCore.Packs DispatchCore.Infrastructure
  DispatchCore.Application

def ServiceLocation.json (location : ServiceLocation) : Json :=
  .obj [("latitude", .num location.latitude), ("longitude", .num location.longitude),
    ("method", .str location.method)]

/-- The answer to the field's own question.  The address of the work is asked for before the
fields, and is what an address field of that name is for. -/
def Told.own (told : Told) (field : FieldDefinition) : Option String :=
  if field.key = "address" ∧ field.fieldType = .address then told.address
  else told.answers.get? field

/-- The details tell of the selected services, the pinned revision, the point and the answers. -/
structure Faithful (told : Told) (revision : PackRevision) (selected : List String)
    (details : Dict String Json) : Prop where
  services : details.get? "services" =
    some (.arr ((selected.map revision.definition.serviceCatalog.labelFor).map Json.str))
  serviceKeys : details.get? "service_keys" = some (.arr (selected.map Json.str))
  packVersion : details.get? "pack_version" = some (.int revision.version)
  serviceLocation : details.get? "service_location" = told.point.map ServiceLocation.json
  answers : ∀ field ∈ revision.definition.fields,
    details.get? field.key = (told.own field).map Json.str

/-- The details of the call are faithful to what was said. -/
def IntakeRequest.FaithfulTo (request : IntakeRequest) (told : Told) : Prop :=
  ∃ state revision, request.session = some state ∧ request.pinned = some revision ∧
    Faithful told revision state.selected request.creation.details

/-- No field took another's choice, and none has a name the details use: of a field named after
the point there is neither an answer nor a point. -/
def Unmixed (told : Told) (revision : PackRevision) (state : IntakeState) : Prop :=
  told.strays = [] ∧ ∀ field ∈ revision.definition.fields,
    field.key ∉ ["services", "service_keys", "pack_version", "phone"] ∧
      (field.key = "address" → field.fieldType = .address) ∧
      (field.key = "service_location" → state.serviceLocation = none ∧
        state.fieldValues.contains "service_location" = false)

def IntakeRequest.Unmixed (request : IntakeRequest) (told : Told) : Prop :=
  ∀ state ∈ request.session, ∀ revision ∈ request.pinned, Messaging.Unmixed told revision state

namespace IntakeCoordinator

variable {pack : PackDefinition} {state : IntakeState} {key : String}

/-- Where the client said nothing, the details hold what they hold of themselves. -/
theorem orderDetails_silent (absent : state.fieldValues.get? key = none)
    (kept : key ≠ "service_location" ∨ state.serviceLocation = none) :
    (orderDetails pack state).get? key =
      (orderDetails pack { state with fieldValues := .empty, serviceLocation := none }).get?
        key := by
  have hnot : key ∉
      (state.fieldValues.entries.map fun entry => (entry.1, Json.str entry.2)).map Prod.fst := by
    rw [List.map_map]
    exact (Dict.get?_eq_none ..).mp absent
  unfold orderDetails
  cases hlocation : state.serviceLocation with
  | none => exact Dict.get?_update_of_notMem _ _ _ hnot
  | some location =>
      exact (Dict.get?_set_of_ne _ _ (kept.resolve_right (by simp [hlocation]))).trans
        (Dict.get?_update_of_notMem _ _ _ hnot)

theorem orderDetails_location (location : ServiceLocation)
    (chosen : state.serviceLocation = some location) :
    (orderDetails pack state).get? "service_location" = some location.json := by
  unfold orderDetails
  simp only [chosen]
  exact Dict.get?_set_self _ _ _

/-- A session that has answered the key has something to tell under it. -/
theorem orderDetails_answered (pack : PackDefinition) (answered : state.fieldValues.contains key) :
    (orderDetails pack state).get? key ≠ none := by
  obtain ⟨answer, hanswer⟩ := Option.isSome_iff_exists.mp answered
  by_cases hkept : key ≠ "service_location" ∨ state.serviceLocation = none
  · rw [orderDetails_answer pack hanswer hkept]
    simp
  · simp only [ne_eq, not_or, not_not] at hkept
    obtain ⟨location, hlocation⟩ := Option.ne_none_iff_exists'.mp hkept.2
    rw [hkept.1, orderDetails_location location hlocation]
    simp

end IntakeCoordinator

section faithful

open IntakeCoordinator

variable {told : Told} {revision : PackRevision} {state : IntakeState}

theorem own_of_asks {field : FieldDefinition} (asks : Asks revision.definition field) :
    told.own field = told.answers.get? field := if_neg fun both => asks.2.2 both.1

theorem Faithful.unmixed (fits : state.PinnedTo revision) (step : state.step = .confirm)
    (holds : told.Matches revision.definition state) (distinct : revision.definition.FieldsDistinct)
    (faithful : Faithful told revision state.selected (orderDetails revision.definition state)) :
    Unmixed told revision state := by
  have hstrays : told.strays = [] := by
    refine List.eq_nil_iff_forall_not_mem.mpr fun field hfield => ?_
    obtain ⟨hasks, hcontains, hnone⟩ := holds.strays field hfield
    have hanswer := faithful.answers field hasks.1
    rw [own_of_asks hasks, hnone] at hanswer
    exact orderDetails_answered _ hcontains hanswer
  refine ⟨hstrays, fun field hfield => ?_⟩
  have hanswer := faithful.answers field hfield
  -- the fields that are never asked have no answer of their own
  have hnever : ¬Asks revision.definition field → told.answers.get? field = none := by
    intro hnot
    cases hfound : told.answers.get? field with
    | none => rfl
    | some answer => exact absurd (holds.answers field answer hfound).1 hnot
  refine ⟨fun hkey => ?_, fun hkey => ?_, fun hkey => ?_⟩
  · simp only [List.mem_cons, List.not_mem_nil, or_false] at hkey
    rcases hkey with hkey | hkey | hkey | hkey
    · rw [hkey, faithful.services] at hanswer
      cases hown : told.own field <;> simp [hown] at hanswer
    · rw [hkey, faithful.serviceKeys] at hanswer
      cases hown : told.own field <;> simp [hown] at hanswer
    · rw [hkey, faithful.packVersion] at hanswer
      cases hown : told.own field <;> simp [hown] at hanswer
    · have hown : told.own field = none := by
        rw [Told.own, if_neg fun both => by rw [hkey] at both; exact absurd both.1 (by decide)]
        exact hnever fun hasks => hasks.2.1 hkey
      obtain ⟨phone, hphone, -⟩ := fits.sound.phone (by simp [step])
      rw [hown] at hanswer
      exact orderDetails_answered _ (by rw [hkey, Dict.contains, hphone]; rfl) hanswer
  · by_contra htype
    have hown : told.own field = none := by
      rw [Told.own, if_neg fun both => htype both.2]
      exact hnever fun hasks => hasks.2.2 hkey
    obtain ⟨address, haddress, -⟩ := fits.sound.address (by simp [step]) (by simp [step])
    rw [hown] at hanswer
    exact orderDetails_answered _ (by rw [hkey, Dict.contains, haddress]; rfl) hanswer
  · have hasks : Asks revision.definition field := ⟨hfield, by simp [hkey], by simp [hkey]⟩
    rw [own_of_asks hasks, hkey, faithful.serviceLocation] at hanswer
    have hheard := holds.heard distinct field hasks (by simp [hstrays])
    rw [hkey] at hheard
    cases hpoint : told.point with
    | some point =>
        cases hown : told.answers.get? field <;>
          simp [hpoint, hown, ServiceLocation.json] at hanswer
    | none =>
        cases hown : told.answers.get? field with
        | some answer => simp [hpoint, hown] at hanswer
        | none =>
            rw [hown] at hheard
            exact ⟨holds.point.trans hpoint, by rw [Dict.contains, hheard]; rfl⟩

theorem Unmixed.faithful (fits : state.PinnedTo revision) (step : state.step = .confirm)
    (holds : told.Matches revision.definition state) (distinct : revision.definition.FieldsDistinct)
    (unmixed : Unmixed told revision state) :
    Faithful told revision state.selected (orderDetails revision.definition state) := by
  obtain ⟨hstrays, hnames⟩ := unmixed
  -- no answer stands under a name that no field has
  have habsent : ∀ key, key ≠ "phone" → key ≠ "address" →
      (∀ field ∈ revision.definition.fields, field.key ≠ key) →
        state.fieldValues.get? key = none := by
    intro key hphone haddress hnone
    by_contra hsome
    rcases holds.keys key (Option.isSome_iff_ne_none.mpr hsome) with h | h | ⟨field, hfield, h⟩
    · exact hphone h
    · exact haddress h
    · exact hnone field hfield h
  have hcore : ∀ key ∈ ["services", "service_keys", "pack_version"],
      state.fieldValues.get? key = none := by
    intro key hkey
    refine habsent key ?_ ?_ fun field hfield hsame => (hnames field hfield).1 ?_
    · rintro rfl
      revert hkey
      decide
    · rintro rfl
      revert hkey
      decide
    · rw [hsame]
      simp only [List.mem_cons, List.not_mem_nil, or_false] at hkey ⊢
      tauto
  constructor
  · rw [orderDetails_silent (hcore _ (by decide)) (.inl (by decide))]
    rfl
  · rw [orderDetails_silent (hcore _ (by decide)) (.inl (by decide))]
    rfl
  · rw [orderDetails_silent (hcore _ (by decide)) (.inl (by decide))]
    simp only [orderDetails, fits.version]
    rfl
  · cases hpoint : told.point with
    | some point => exact orderDetails_location point (holds.point.trans hpoint)
    | none =>
        rw [orderDetails_silent _ (.inr (holds.point.trans hpoint))]
        · rfl
        · by_contra hsome
          have hcontains : state.fieldValues.contains "service_location" = true :=
            Option.isSome_iff_ne_none.mpr hsome
          rcases holds.keys _ hcontains with h | h | ⟨field, hfield, h⟩
          · exact absurd h (by decide)
          · exact absurd h (by decide)
          · rw [((hnames field hfield).2.2 h).2] at hcontains
            contradiction
  · intro field hfield
    obtain ⟨hreserved, htype, hlocated⟩ := hnames field hfield
    by_cases haddress : field.key = "address"
    · rw [Told.own, if_pos ⟨haddress, htype haddress⟩, ← holds.address, haddress]
      obtain ⟨address, hfound, -⟩ := fits.sound.address (by simp [step]) (by simp [step])
      rw [hfound]
      exact orderDetails_answer _ hfound (.inl (by decide))
    · have hasks : Asks revision.definition field :=
        ⟨hfield, fun hphone => hreserved (by simp [hphone]), haddress⟩
      rw [own_of_asks hasks, ← holds.heard distinct field hasks (by simp [hstrays])]
      have hkept : field.key ≠ "service_location" ∨ state.serviceLocation = none := by
        by_cases hname : field.key = "service_location"
        · exact .inr (hlocated hname).1
        · exact .inl hname
      cases hvalue : state.fieldValues.get? field.key with
      | some answer => exact orderDetails_answer _ hvalue hkept
      | none =>
          rw [orderDetails_silent hvalue hkept]
          simp only [List.mem_cons, List.not_mem_nil, or_false, not_or] at hreserved
          change (((Dict.empty.set _ _).set _ _).set _ _ : Dict String Json).get? field.key = none
          rw [Dict.get?_set_of_ne _ _ hreserved.2.2.1, Dict.get?_set_of_ne _ _ hreserved.2.1,
            Dict.get?_set_of_ne _ _ hreserved.1]
          rfl

end faithful

/-- One event of the client, handled to the end; no button of another field is pressed. -/
def heardEvent (index : Nat) (event : ChatEvent) : List HeardTurn :=
  .arrive formClient "event" event none :: List.replicate 6 (.chat index ⟨"drawn", .ok "W-1"⟩)

/-- The client gives a phone and a point, chooses the service, answers the field and confirms. -/
def heardForm (field : FieldDefinition) : List HeardTurn :=
  [.pack (.begin "org" (.bootstrapActive (formPack field))), .pack (.advance 0),
    .pack (.advance 0)] ++
  heardEvent 0 .start ++ heardEvent 1 (.text "+79990000000") ++
  heardEvent 2 (.location (.finite 55) (.finite 37) "native" none) ++
  heardEvent 3 (.callback .pickService (.ofList [("service", .str "repair")])) ++
  heardEvent 4 (.text "3") ++ heardEvent 5 (.callback .confirm .empty)

instance (told : Told) (revision : PackRevision) (state : IntakeState) :
    Decidable (Unmixed told revision state) := by
  unfold Unmixed
  infer_instance

instance (request : IntakeRequest) (told : Told) : Decidable (request.Unmixed told) := by
  unfold IntakeRequest.Unmixed
  infer_instance

/-- What the configurator makes of the label "Services". -/
def servicesField : FieldDefinition :=
  ⟨"services", "Services", .text, true, [], "Введите: Services", 1, by decide,
    FieldType.text_unlisted⟩

theorem fieldKey_services : ConfigEdits.fieldKey formSetup.unicode "" "Services"
    { formPack servicesField with fields := [] } = "services" := by
  decide +kernel

theorem configured_services : Configured formSetup.unicode (formPack servicesField) := by
  refine .edited (.template { formPack servicesField with fields := [] } List.nodup_nil)
    (.fieldRequired "" "Services" .text [] true) ?_
  unfold ConfigEdit.outcome
  simp only [ConfigEdits.fieldRequired, fieldKey_services]
  rfl

end DispatchCore.Messaging
