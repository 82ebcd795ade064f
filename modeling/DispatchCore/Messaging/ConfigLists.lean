import DispatchCore.Library.Runs
import DispatchCore.Messaging.ConfigRepeats
import DispatchCore.Messaging.OfferedChoices
import DispatchCore.Packs.DraftLists

/-! Services and fields edited through the configurator, by one member or by several, each with
a session of their own in each messenger. -/
namespace DispatchCore.Messaging

open DispatchCore.Library DispatchCore.Domain DispatchCore.Packs DispatchCore.Infrastructure
  DispatchCore.Application

open ChatDesk (performConfig)

namespace ConfigCoordinator

open ConfigReplies

variable (setup : Setup)

def serviceSave (itemKey itemLabel : String) (lastEvent : Option String) (text : String) :
    ConfigProgram Reply := do
  let label := ConfigEdits.limit text 120
  if label = "" then
    return asking "Название не может быть пустым. Введите название услуги:"
  let found ← ensureDraft
  if found.serviceCatalog.categories.any fun category => category.key = itemKey then
    clearSession
    services
  else
    if itemKey = "" ∨ itemLabel ≠ label then
      save ⟨.serviceAdd (ConfigEdits.serviceKey setup.unicode itemKey itemLabel label found) label,
        lastEvent⟩
    match ConfigEdits.serviceSave setup.unicode itemKey itemLabel text found with
    | .error failure => .raise (.failure failure)
    | .ok none =>
        clearSession
        services
    | .ok (some updated) =>
        updateDraft updated
        clearSession
        services

def fieldTypeLabel : FieldType → String
  | .text => "Текст"
  | .address => "Адрес"
  | .integer => "Число"
  | .assetReference => "Объект"
  | .route => "Маршрут"
  | .enum => "Выбор из списка"

theorem fieldTypeLabel_ne (fieldType : FieldType) : fieldTypeLabel fieldType ≠ "" := by
  cases fieldType <;> decide

def fieldTypeReply : Reply :=
  ⟨"Выберите тип поля:", (fieldTypes.mapIdx fun row fieldType =>
    button (fieldTypeLabel fieldType) .fieldType [("type", .str (fieldTypeValue fieldType))] row
      (fieldTypeLabel_ne fieldType)) ++
    [button "Отмена" .cancel [] fieldTypes.length cancel_worded]⟩

def fieldLabel (lastEvent : Option String) (text : String) : ConfigProgram Reply := do
  let label := ConfigEdits.limit text 120
  if label = "" then
    return asking "Название не может быть пустым. Введите название поля:"
  let found ← ensureDraft
  let key := slug setup.unicode label "field" (found.fields.map fun field => field.key)
  save ⟨.fieldAdd .type ⟨label, key, none, []⟩, lastEvent⟩
  return fieldTypeReply

def fieldPromptSave (key text : String) : ConfigProgram Reply := do
  let _ ← edited setup (.fieldPromptSave key text)
  clearSession
  fields

/-- The text of a step that edits the lists; `elsewhere` handles commands, other flows and
texts that nothing waits for. -/
def handleText (elsewhere : Option ConfigState → String → ConfigProgram Reply) (text : String) :
    ConfigProgram Reply := do
  let text := Text.strip text
  let found ← getSession
  if "/".toList.isPrefixOf text.toList then elsewhere found text
  else
    match found with
    | some ⟨.serviceAdd itemKey itemLabel, lastEvent⟩ =>
        serviceSave setup itemKey itemLabel lastEvent text
    | some ⟨.fieldAdd .label _, lastEvent⟩ => fieldLabel setup lastEvent text
    | some ⟨.fieldAdd .choices scratch, lastEvent⟩ =>
        fieldChoices setup.unicode scratch lastEvent text
    | some ⟨.fieldAdd _ _, _⟩ => return asking "Выберите вариант кнопкой ниже."
    | some ⟨.fieldPrompt key, _⟩ => fieldPromptSave setup key text
    | _ => elsewhere found text

end ConfigCoordinator

inductive ConfigInput
  | callback (action : ConfigAction) (payload : Dict String Json)
  | text (text : String)

structure ConfigEvent where
  identity : MessengerIdentity
  eventId : String
  draw : DeskDraw
  input : ConfigInput

/-- The store, and the sessions by member and messenger. -/
structure ConfigHall where
  house : ChatDesk
  sessions : String → Provider → Option ConfigState

namespace ConfigHall

/-- What one member finds. -/
def desk (hall : ConfigHall) (identity : MessengerIdentity) : ChatDesk :=
  { hall.house with config := hall.sessions identity.actorId identity.provider }

def left (hall : ConfigHall) (identity : MessengerIdentity) (desk : ChatDesk) : ConfigHall where
  house := desk
  sessions := fun actorId provider =>
    if actorId = identity.actorId ∧ provider = identity.provider then desk.config
    else hall.sessions actorId provider

def draft (hall : ConfigHall) (organizationId : String) : PackDefinition :=
  draftBaseline hall.house.table organizationId

end ConfigHall

namespace ConfigEvent

variable (setup : ConfigCoordinator.Setup)
  (elsewhere : Option ConfigState → String → ConfigProgram Reply)

def program (event : ConfigEvent) : ConfigProgram Reply :=
  match event.input with
  | .callback action payload =>
      ConfigCoordinator.handleCallback setup event.identity action payload
  | .text text => ConfigCoordinator.handleText setup elsewhere text

/-- One event handled from its first operation to its last. -/
def handled (hall : ConfigHall) (event : ConfigEvent) : ConfigHall :=
  hall.left event.identity ((event.program setup elsewhere).alone
    (performConfig event.identity event.eventId event.draw) (hall.desk event.identity)).2

/-- The buttons of the lists and of what is asked about them. -/
def listActions : List ConfigAction :=
  [.menu, .cancel, .services, .serviceAdd, .serviceDelete, .serviceMove, .fields, .fieldAdd,
    .fieldType, .fieldRequired, .fieldDelete, .fieldMove, .fieldPrompt]

def listFlow : ConfigFlow → Bool
  | .serviceAdd _ _ => true
  | .fieldAdd _ _ => true
  | .fieldPrompt _ => true
  | _ => false

/-- A button of the lists, or the text that one of their steps waits for. -/
def AboutLists (organizationId : String) (hall : ConfigHall) (event : ConfigEvent) : Prop :=
  event.identity.organizationId = organizationId ∧
    match event.input with
    | .callback action _ => action ∈ listActions
    | .text text => "/".toList.isPrefixOf (Text.strip text).toList = false ∧
        ((hall.sessions event.identity.actorId event.identity.provider).any fun state =>
          listFlow state.flow) = true

/-- The edit of the draft that an event is, given what its session holds. -/
def edit? (session : Option ConfigState) (input : ConfigInput) : Option ConfigEdit :=
  match input with
  | .callback .serviceDelete payload => some (.serviceDelete (payload.textAt "key"))
  | .callback .serviceMove payload =>
      some (.serviceMove (payload.textAt "key") (payload.textAt "direction"))
  | .callback .fieldDelete payload => some (.fieldDelete (payload.textAt "key"))
  | .callback .fieldMove payload =>
      some (.fieldMove (payload.textAt "key") (payload.textAt "direction"))
  | .callback .fieldRequired payload =>
      match session with
      | some ⟨.fieldAdd _ scratch, _⟩ =>
          some (.fieldRequired scratch.key scratch.label (scratch.fieldType.getD .text)
            scratch.choices (((payload.get? "required").map truthValue).getD false))
      | _ => none
  | .text text =>
      match session with
      | some ⟨.serviceAdd itemKey itemLabel, _⟩ =>
          some (.serviceSave itemKey itemLabel (Text.strip text))
      | some ⟨.fieldPrompt key, _⟩ => some (.fieldPromptSave key (Text.strip text))
      | _ => none
  | _ => none

/-- What an event is to the lists of the draft. -/
def listed (unicode : Unicode) (organizationId : String) (hall : ConfigHall) (event : ConfigEvent) :
    ListEdit :=
  match edit? (hall.sessions event.identity.actorId event.identity.provider) event.input with
  | some edit => edit.listed unicode (hall.draft organizationId)
  | none => .keep

instance (organizationId : String) (hall : ConfigHall) (event : ConfigEvent) :
    Decidable (event.AboutLists organizationId hall) := by
  unfold AboutLists
  cases event.input <;> infer_instance

end ConfigEvent

/-! ### One event -/

namespace ConfigCoordinator

open ConfigReplies

variable {setup : Setup} {identity : MessengerIdentity} {eventId : String} {draw : DeskDraw}
  {desk after : ChatDesk} {organizationId : String} {found : PackDefinition}

/-- The draft that is left. -/
structure Edited (organizationId : String) (found : PackDefinition) (after : ChatDesk) : Prop where
  sound : after.table.Sound
  draft : draftBaseline after.table organizationId = found

theorem Opened.edited {before : ChatDesk} (opened : Opened organizationId found before after) :
    Edited organizationId found after :=
  ⟨opened.sound, draftBaseline_some opened.draft⟩

theorem edited_of_draft (sound : after.table.Sound)
    (present : after.table.draft organizationId = some found) : Edited organizationId found after :=
  ⟨sound, draftBaseline_some present⟩

theorem SameDesk.edited (sound : desk.table.Sound) (same : SameDesk desk after) :
    Edited organizationId (draftBaseline desk.table organizationId) after := by
  constructor
  · rw [same.table]
    exact sound
  · rw [same.table]

theorem edited_showing (sound : desk.table.Sound) (reply : PackDefinition → Reply) :
    Edited identity.organizationId (draftBaseline desk.table identity.organizationId)
      ((showing reply).alone (performConfig identity eventId draw) desk).2 :=
  (opened_showing sound reply).edited

/-- Nothing follows an edit but its answer. -/
theorem edited_edit (edit : ConfigEdit) (sound : desk.table.Sound)
    {rest : PackDefinition → ConfigProgram Reply}
    (shows : ∀ updated after found, after.table.draft identity.organizationId = some found →
      ((rest updated).alone (performConfig identity eventId draw) after).2.table = after.table) :
    Edited identity.organizationId
      (edit.apply setup.unicode (draftBaseline desk.table identity.organizationId))
      ((edited setup edit >>= rest).alone (performConfig identity eventId draw) desk).2 := by
  obtain ⟨result, after, hedited, hopened⟩ :=
    @alone_edited setup identity eventId draw desk edit sound
  rw [Program.alone_bind, hedited]
  cases result with
  | error failure => exact hopened.edited
  | ok updated =>
      dsimp only
      have htable := shows updated after _ hopened.draft
      apply edited_of_draft
      · rw [htable]
        exact hopened.sound
      · rw [htable]
        exact hopened.draft

theorem table_showing (reply : PackDefinition → Reply) :
    ∀ (_ : PackDefinition) after found, after.table.draft identity.organizationId = some found →
      ((showing reply).alone (performConfig identity eventId draw) after).2.table = after.table :=
  fun _ _ _ present => by rw [alone_showing present]

/-- Open the draft, then ask for something. -/
theorem edited_asking (sound : desk.table.Sound) (flow : ConfigFlow) (reply : Reply) :
    Edited identity.organizationId (draftBaseline desk.table identity.organizationId)
      (Program.alone (performConfig identity eventId draw) (do
        let _ ← ensureDraft
        setSession flow
        return reply : ConfigProgram Reply) desk).2 := by
  obtain ⟨opened, hopen, hopened⟩ := @alone_ensureDraft identity eventId draw desk sound
  rw [Program.alone_bind, hopen]
  exact ⟨hopened.sound, draftBaseline_some hopened.draft⟩

theorem edited_fieldPrompt (sound : desk.table.Sound) (payload : Dict String Json) :
    Edited identity.organizationId (draftBaseline desk.table identity.organizationId)
      ((fieldPrompt payload).alone (performConfig identity eventId draw) desk).2 := by
  obtain ⟨opened, hopen, hopened⟩ := @alone_ensureDraft identity eventId draw desk sound
  unfold fieldPrompt
  rw [Program.alone_bind, hopen]
  dsimp only
  split
  · unfold fields
    rw [alone_showing hopened.draft]
    exact hopened.edited
  · exact ⟨hopened.sound, draftBaseline_some hopened.draft⟩

theorem edited_fieldType (sound : desk.table.Sound) (payload : Dict String Json) :
    Edited identity.organizationId (draftBaseline desk.table identity.organizationId)
      ((fieldType payload).alone (performConfig identity eventId draw) desk).2 := by
  by_cases hadding : ∃ step scratch lastEvent,
      desk.config = some ⟨.fieldAdd step scratch, lastEvent⟩
  · obtain ⟨step, scratch, lastEvent, hsession⟩ := hadding
    rw [fieldType_adding hsession]
    cases fieldTypeOf? (payload.textAt "type") with
    | none => exact ⟨sound, rfl⟩
    | some type =>
        obtain ⟨taken, after, htaken, hsound, hdraft, -, -⟩ :=
          @alone_addressTaken identity eventId draw desk sound type
        dsimp only
        rw [alone_chooseType htaken]
        exact ⟨hsound, hdraft⟩
  · have hshape : ∃ adding, fieldType payload = whileAdding adding := ⟨_, rfl⟩
    obtain ⟨adding, hshape⟩ := hshape
    rw [hshape, alone_whileAdding fun step scratch lastEvent hsession =>
      hadding ⟨step, scratch, lastEvent, hsession⟩]
    exact edited_showing sound _

/-- A key that a field has is the key it gets. -/
theorem outcome_keyed (scratch : FieldScratch) (required : Bool) (base : PackDefinition) :
    requiredOutcome setup required scratch base = (ConfigEdit.fieldRequired scratch.key scratch.label
      (scratch.fieldType.getD .text) scratch.choices required).outcome setup.unicode base := by
  have hkey : ConfigEdits.fieldKey setup.unicode (keyed setup scratch base) scratch.label base =
      keyed setup scratch base :=
    if_neg (ConfigEdits.fieldKey_ne_empty scratch.key scratch.label)
  show ConfigEdits.fieldRequired setup.unicode (keyed setup scratch base) scratch.label
    (scratch.fieldType.getD .text) scratch.choices required base =
      ConfigEdits.fieldRequired setup.unicode scratch.key scratch.label
        (scratch.fieldType.getD .text) scratch.choices required base
  unfold ConfigEdits.fieldRequired
  rw [hkey]
  rfl

theorem edited_fieldRequired {step : FieldAddStep} {scratch : FieldScratch}
    {lastEvent : Option String} (sound : desk.table.Sound)
    (adding : desk.config = some ⟨.fieldAdd step scratch, lastEvent⟩) (payload : Dict String Json) :
    Edited identity.organizationId
      ((ConfigEdit.fieldRequired scratch.key scratch.label (scratch.fieldType.getD .text)
        scratch.choices (((payload.get? "required").map truthValue).getD false)).apply setup.unicode
          (draftBaseline desk.table identity.organizationId))
      ((fieldRequired setup payload).alone (performConfig identity eventId draw) desk).2 := by
  let required := ((payload.get? "required").map truthValue).getD false
  have hshape : fieldRequired setup payload = whileAdding (requireField setup required) := rfl
  obtain ⟨hsound, -, hresult⟩ := @alone_requireField setup identity eventId draw desk
    required step scratch lastEvent sound adding
  rw [hshape, alone_adding adding]
  refine ⟨hsound, ?_⟩
  rw [outcome_keyed] at hresult
  cases houtcome : (ConfigEdit.fieldRequired scratch.key scratch.label
      (scratch.fieldType.getD .text) scratch.choices required).outcome setup.unicode
        (draftBaseline desk.table identity.organizationId) with
  | error failure =>
      rw [houtcome] at hresult
      rw [draftBaseline_some hresult.1]
      unfold ConfigEdit.apply
      rw [houtcome]
  | ok stored =>
      rw [houtcome] at hresult
      rw [draftBaseline_some hresult.1]
      cases stored with
      | none => exact (ConfigEdit.apply_of_shown houtcome).symm
      | some updated => exact (ConfigEdit.apply_of_stored houtcome).symm

theorem edited_fieldRequired_idle (sound : desk.table.Sound) (payload : Dict String Json)
    (idle : ∀ step scratch lastEvent, desk.config ≠ some ⟨.fieldAdd step scratch, lastEvent⟩) :
    Edited identity.organizationId (draftBaseline desk.table identity.organizationId)
      ((fieldRequired setup payload).alone (performConfig identity eventId draw) desk).2 := by
  have hshape : fieldRequired setup payload = whileAdding (requireField setup
    (((payload.get? "required").map truthValue).getD false)) := rfl
  rw [hshape, alone_whileAdding idle]
  exact edited_showing sound _

/-- The outcome of an edit is stored, and the session of a stored one ends. -/
theorem edited_outcome (edit : ConfigEdit) (sound : desk.table.Sound)
    (present : desk.table.draft identity.organizationId = some found)
    (reply : PackDefinition → Reply) :
    Edited identity.organizationId (edit.apply setup.unicode found)
      (Program.alone (performConfig identity eventId draw)
        (match edit.outcome setup.unicode found with
        | .error failure => .raise (.failure failure)
        | .ok none => do
            clearSession
            showing reply
        | .ok (some updated) => do
            updateDraft updated
            clearSession
            showing reply : ConfigProgram Reply) desk).2 := by
  cases houtcome : edit.outcome setup.unicode found with
  | error failure =>
      have hkept : edit.apply setup.unicode found = found := by
        unfold ConfigEdit.apply
        rw [houtcome]
      rw [hkept]
      exact edited_of_draft sound present
  | ok stored =>
      cases stored with
      | none =>
          rw [ConfigEdit.apply_of_shown houtcome]
          simp only [clearSession, Program.call_bind, Program.done_bind, Program.alone_call,
            ChatDesk.performConfig_clearSession]
          rw [@alone_showing identity eventId draw { desk with config := none } _ present]
          exact edited_of_draft sound present
      | some updated =>
          rw [ConfigEdit.apply_of_stored houtcome]
          obtain ⟨table, hcall, hlaterSound, hlater, -⟩ :=
            @PackTable.alone_updateDraft _ _ updated _ sound present
          simp only [clearSession, updateDraft, Program.call_bind, Program.done_bind,
            Program.alone_call, ChatDesk.performConfig_clearSession,
            ChatDesk.performConfig_updateDraft, ChatDesk.transacted_eq hcall]
          rw [@alone_showing identity eventId draw { desk with table, config := none } _ hlater]
          exact edited_of_draft hlaterSound hlater

theorem edited_serviceSave (sound : desk.table.Sound) (itemKey itemLabel : String)
    (lastEvent : Option String) (text : String) :
    Edited identity.organizationId
      ((ConfigEdit.serviceSave itemKey itemLabel text).apply setup.unicode
        (draftBaseline desk.table identity.organizationId))
      ((serviceSave setup itemKey itemLabel lastEvent text).alone
        (performConfig identity eventId draw) desk).2 := by
  by_cases hempty : ConfigEdits.limit text 120 = ""
  · have hshown : (ConfigEdit.serviceSave itemKey itemLabel text).outcome setup.unicode
        (draftBaseline desk.table identity.organizationId) = .ok none := by
      show ConfigEdits.serviceSave _ _ _ _ _ = _
      unfold ConfigEdits.serviceSave
      simp only [if_pos hempty]
      rfl
    rw [ConfigEdit.apply_of_shown hshown]
    unfold serviceSave
    dsimp only
    rw [if_pos hempty]
    exact ⟨sound, rfl⟩
  · obtain ⟨opened, hopen, hopened⟩ := @alone_ensureDraft identity eventId draw desk sound
    unfold serviceSave
    dsimp only
    rw [if_neg hempty, Program.alone_bind, hopen]
    dsimp only
    generalize draftBaseline desk.table identity.organizationId = base at hopened
    by_cases hthere : base.serviceCatalog.categories.any fun category => category.key = itemKey
    · have hshown : (ConfigEdit.serviceSave itemKey itemLabel text).outcome setup.unicode base =
          .ok none := by
        show ConfigEdits.serviceSave _ _ _ _ _ = _
        unfold ConfigEdits.serviceSave
        simp only [if_neg hempty, if_pos hthere]
        rfl
      rw [ConfigEdit.apply_of_shown hshown, if_pos hthere]
      simp only [clearSession, services, Program.call_bind, Program.done_bind, Program.alone_call,
        ChatDesk.performConfig_clearSession]
      rw [@alone_showing identity eventId draw { opened with config := none } _ hopened.draft]
      exact ⟨hopened.sound, draftBaseline_some hopened.draft⟩
    · rw [if_neg hthere]
      by_cases hkey : itemKey = "" ∨ itemLabel ≠ ConfigEdits.limit text 120
      · rw [if_pos hkey]
        exact @edited_outcome setup identity eventId draw { opened with
          config := some (ConfigState.withSessionEvent eventId ⟨.serviceAdd
            (ConfigEdits.serviceKey setup.unicode itemKey itemLabel (ConfigEdits.limit text 120) base)
            (ConfigEdits.limit text 120), lastEvent⟩) } base (.serviceSave itemKey itemLabel text)
          hopened.sound hopened.draft servicesReply
      · rw [if_neg hkey]
        exact @edited_outcome setup identity eventId draw opened base
          (.serviceSave itemKey itemLabel text) hopened.sound hopened.draft servicesReply

theorem edited_fieldLabel (sound : desk.table.Sound) (lastEvent : Option String) (text : String) :
    Edited identity.organizationId (draftBaseline desk.table identity.organizationId)
      ((fieldLabel setup lastEvent text).alone (performConfig identity eventId draw) desk).2 := by
  unfold fieldLabel
  dsimp only
  by_cases hempty : ConfigEdits.limit text 120 = ""
  · rw [if_pos hempty]
    exact ⟨sound, rfl⟩
  · obtain ⟨opened, hopen, hopened⟩ := @alone_ensureDraft identity eventId draw desk sound
    rw [if_neg hempty, Program.alone_bind, hopen]
    exact ⟨hopened.sound, draftBaseline_some hopened.draft⟩

theorem edited_fieldChoices (sound : desk.table.Sound) (scratch : FieldScratch)
    (lastEvent : Option String) (text : String) :
    Edited identity.organizationId (draftBaseline desk.table identity.organizationId)
      ((fieldChoices setup.unicode scratch lastEvent text).alone
        (performConfig identity eventId draw) desk).2 := by
  unfold fieldChoices
  dsimp only
  by_cases hfew : (choiceValues setup.unicode text).length < 2
  · rw [if_pos hfew]
    exact ⟨sound, rfl⟩
  · rw [if_neg hfew]
    by_cases hmany : (choiceValues setup.unicode text).length > 20
    · rw [if_pos hmany]
      exact ⟨sound, rfl⟩
    · rw [if_neg hmany]
      exact ⟨sound, rfl⟩

theorem edited_fieldPromptSave (sound : desk.table.Sound) (key text : String) :
    Edited identity.organizationId
      ((ConfigEdit.fieldPromptSave key text).apply setup.unicode
        (draftBaseline desk.table identity.organizationId))
      ((fieldPromptSave setup key text).alone (performConfig identity eventId draw) desk).2 := by
  refine edited_edit _ sound fun _ after found present => ?_
  simp only [clearSession, fields, Program.call_bind, Program.done_bind, Program.alone_call,
    ChatDesk.performConfig_clearSession]
  rw [@alone_showing identity eventId draw { after with config := none } _ present]

theorem edited_cancel (sound : desk.table.Sound) (payload : Dict String Json) :
    Edited identity.organizationId (draftBaseline desk.table identity.organizationId)
      ((handleCallback setup identity .cancel payload).alone
        (performConfig identity eventId draw) desk).2 := by
  have hsame := @sameDesk_of_quiet identity eventId draw { desk with config := none } _ _
    (@quiet_menu identity (some "Действие отменено."))
  have htable : ((handleCallback setup identity .cancel payload).alone
      (performConfig identity eventId draw) desk).2.table = desk.table := hsame.table
  constructor
  · rw [htable]
    exact sound
  · rw [htable]

end ConfigCoordinator

namespace ConfigEvent

open ConfigCoordinator ConfigReplies

variable {setup : Setup} {elsewhere : Option ConfigState → String → ConfigProgram Reply}
  {organizationId : String} {hall : ConfigHall} {event : ConfigEvent}

/-- The draft after an event is what the edit that the event is makes of it. -/
theorem edited_handled (sound : hall.house.table.Sound)
    (about : event.AboutLists organizationId hall) :
    Edited organizationId
      (match edit? (hall.sessions event.identity.actorId event.identity.provider) event.input with
      | some edit => edit.apply setup.unicode (hall.draft organizationId)
      | none => hall.draft organizationId)
      (event.handled setup elsewhere hall).house := by
  obtain ⟨identity, eventId, draw, input⟩ := event
  obtain ⟨rfl, habout⟩ := about
  have hsound : (hall.desk identity).table.Sound := sound
  unfold handled program
  dsimp only
  show Edited identity.organizationId _ (Program.alone (performConfig identity eventId draw) _
    (hall.desk identity)).2
  cases input with
  | callback action payload =>
      simp only [listActions, List.mem_cons, List.not_mem_nil, or_false] at habout
      rcases habout with rfl | rfl | rfl | rfl | rfl | rfl | rfl | rfl | rfl | rfl | rfl | rfl | rfl
      · exact @SameDesk.edited (hall.desk identity) _ _ hsound (sameDesk_of_quiet (quiet_menu none))
      · exact edited_cancel hsound payload
      · exact edited_showing hsound _
      · exact edited_asking hsound _ _
      · exact edited_edit _ hsound (table_showing _)
      · exact edited_edit _ hsound (table_showing _)
      · exact edited_showing hsound _
      · exact edited_asking hsound _ _
      · exact edited_fieldType hsound payload
      · by_cases hadding : ∃ step scratch lastEvent,
            hall.sessions identity.actorId identity.provider =
              some ⟨.fieldAdd step scratch, lastEvent⟩
        · obtain ⟨step, scratch, lastEvent, hsession⟩ := hadding
          simp only [edit?, hsession]
          exact @edited_fieldRequired setup identity eventId draw (hall.desk identity) step scratch
            lastEvent hsound hsession payload
        · have hidle : ∀ step scratch lastEvent, hall.sessions identity.actorId identity.provider ≠
              some ⟨.fieldAdd step scratch, lastEvent⟩ := fun step scratch lastEvent hsession =>
            hadding ⟨step, scratch, lastEvent, hsession⟩
          simp only [edit?]
          exact edited_fieldRequired_idle hsound payload hidle
      · exact edited_edit _ hsound (table_showing _)
      · exact edited_edit _ hsound (table_showing _)
      · exact edited_fieldPrompt hsound payload
  | text text =>
      obtain ⟨hplain, hlist⟩ := habout
      cases hsession : hall.sessions identity.actorId identity.provider with
      | none =>
          rw [hsession] at hlist
          contradiction
      | some state =>
          rw [hsession] at hlist
          have hread : (hall.desk identity).config = some state := hsession
          have hprogram : (handleText setup elsewhere text).alone
              (performConfig identity eventId draw) (hall.desk identity) = Program.alone
              (performConfig identity eventId draw) (match some state with
                | some ⟨.serviceAdd itemKey itemLabel, lastEvent⟩ =>
                    serviceSave setup itemKey itemLabel lastEvent (Text.strip text)
                | some ⟨.fieldAdd .label _, lastEvent⟩ => fieldLabel setup lastEvent (Text.strip text)
                | some ⟨.fieldAdd .choices scratch, lastEvent⟩ =>
                    fieldChoices setup.unicode scratch lastEvent (Text.strip text)
                | some ⟨.fieldAdd _ _, _⟩ => return asking "Выберите вариант кнопкой ниже."
                | some ⟨.fieldPrompt key, _⟩ => fieldPromptSave setup key (Text.strip text)
                | _ => elsewhere (some state) (Text.strip text)) (hall.desk identity) := by
            simp only [handleText, getSession, Program.call_bind, Program.done_bind,
              Program.alone_call, ChatDesk.performConfig_getSession, hread, hplain]
            rfl
          show Edited identity.organizationId _ ((handleText setup elsewhere text).alone
            (performConfig identity eventId draw) (hall.desk identity)).2
          rw [hprogram]
          obtain ⟨flow, lastEvent⟩ := state
          cases flow with
          | serviceAdd itemKey itemLabel => exact edited_serviceSave hsound itemKey itemLabel _ _
          | fieldAdd step scratch =>
              cases step with
              | label => exact edited_fieldLabel hsound lastEvent _
              | type => exact ⟨hsound, rfl⟩
              | choices => exact edited_fieldChoices hsound scratch lastEvent _
              | required => exact ⟨hsound, rfl⟩
          | fieldPrompt key => exact edited_fieldPromptSave hsound key _
          | _ => cases hlist

end ConfigEvent

/-! ### Runs -/

section runs

variable (setup : ConfigCoordinator.Setup)
  (elsewhere : Option ConfigState → String → ConfigProgram Reply) (organizationId : String)
  (start : ConfigHall)

/-- The state after some events. -/
def ConfigHall.after (events : List ConfigEvent) : ConfigHall :=
  events.foldl (ConfigEvent.handled setup elsewhere) start

/-- The services and the fields are lists, and the edits do to them what they say. -/
structure ListsKept (events : List ConfigEvent) : Prop where
  distinct : ∀ before, before <+: events →
    let draft := (start.after setup elsewhere before).draft organizationId
    (draft.serviceCatalog.categories.map fun category => category.key).Nodup ∧ draft.FieldsDistinct
  edited : ∀ before event, before ++ [event] <+: events →
    let hall := start.after setup elsewhere before
    ((start.after setup elsewhere (before ++ [event])).draft organizationId).lists =
      (event.listed setup.unicode organizationId hall).onLists (hall.draft organizationId).lists
  unlisted : ∀ before, before <+: events →
    ((start.after setup elsewhere before).draft organizationId).unlisted =
      (start.draft organizationId).unlisted
  /-- What went up comes back down. -/
  restored : ∀ before, before <+: events →
    let lists := ((start.after setup elsewhere before).draft organizationId).lists
    ∀ key, ((∀ service ∈ lists.services.head?, service.key ≠ key) →
        (ListEdit.moveService key "down").onLists
          ((ListEdit.moveService key "up").onLists lists) = lists) ∧
      ((∀ field ∈ lists.fields.head?, field.key ≠ key) →
        (ListEdit.moveField key "down").onLists ((ListEdit.moveField key "up").onLists lists) =
          lists)
  fresh : ∀ label fallback taken, slug setup.unicode label fallback taken ∉ taken

variable {setup elsewhere organizationId start}

/-- What holds of every state of a run. -/
structure ConfigHall.Listing (organizationId : String) (start hall : ConfigHall) : Prop where
  sound : hall.house.table.Sound
  distinct : (hall.draft organizationId).FieldsDistinct
  unlisted : (hall.draft organizationId).unlisted = (start.draft organizationId).unlisted

/-- The edit of an event edits the lists. -/
theorem ConfigEvent.editsLists {session : Option ConfigState} {input : ConfigInput}
    {edit : ConfigEdit} (found : edit? session input = some edit) : edit.EditsLists := by
  unfold edit? at found
  split at found
  · cases found
    trivial
  · cases found
    trivial
  · cases found
    trivial
  · cases found
    trivial
  · split at found
    · cases found
      trivial
    · cases found
  · split at found
    · cases found
      trivial
    · cases found
      trivial
    · cases found
  · cases found

theorem ConfigHall.Listing.step {hall : ConfigHall} (listing : Listing organizationId start hall)
    {event : ConfigEvent} (about : event.AboutLists organizationId hall) :
    Listing organizationId start (event.handled setup elsewhere hall) := by
  obtain ⟨hsound, hdraft⟩ := @ConfigEvent.edited_handled setup elsewhere _ _ _ listing.sound about
  change (event.handled setup elsewhere hall).draft organizationId = _ at hdraft
  cases hedit : ConfigEvent.edit? (hall.sessions event.identity.actorId event.identity.provider)
      event.input with
  | none =>
      rw [hedit] at hdraft
      refine ⟨hsound, ?_, ?_⟩
      · rw [hdraft]
        exact listing.distinct
      · rw [hdraft]
        exact listing.unlisted
  | some edit =>
      rw [hedit] at hdraft
      refine ⟨hsound, ?_, ?_⟩
      · rw [hdraft]
        exact edit.distinct_apply listing.distinct
      · rw [hdraft]
        exact (edit.apply_unlisted (ConfigEvent.editsLists hedit)).trans listing.unlisted

theorem ConfigHall.Listing.edited {hall : ConfigHall} (listing : Listing organizationId start hall)
    {event : ConfigEvent} (about : event.AboutLists organizationId hall) :
    ((event.handled setup elsewhere hall).draft organizationId).lists =
      (event.listed setup.unicode organizationId hall).onLists (hall.draft organizationId).lists := by
  have hdraft := (@ConfigEvent.edited_handled setup elsewhere _ _ _ listing.sound about).draft
  change (event.handled setup elsewhere hall).draft organizationId = _ at hdraft
  rw [hdraft]
  unfold ConfigEvent.listed
  cases hedit : ConfigEvent.edit? (hall.sessions event.identity.actorId event.identity.provider)
      event.input with
  | none => rfl
  | some edit => exact edit.apply_lists listing.distinct (ConfigEvent.editsLists hedit)

end runs

section example_runs

/-- Every letter outside ASCII folds to nothing. -/
def asciiUnicode : Unicode where
  asciiFold text := String.ofList (text.toList.filter fun letter => letter.toNat < 128)
  casefold := id

def plainSetup : ConfigCoordinator.Setup := ⟨asciiUnicode, false⟩

def emptyHall : ConfigHall where
  house := ⟨⟨.empty, 0⟩, none, none, .empty, .empty⟩
  sessions _ _ := none

def adminEvent (provider : Provider) (input : ConfigInput) : ConfigEvent where
  identity :=
    { organizationId := "org", actorId := "admin", role := .admin, displayName := "Анна"
      provider, externalUserId := "7", roles := [.admin] }
  eventId := "e"
  draw := ⟨"u", by decide, "t", ⟨⟨0⟩, "e"⟩, "A-1", by decide⟩
  input

def pressing (action : ConfigAction) (payload : List (String × Json)) : ConfigInput :=
  .callback action (Dict.ofList payload)

/-- Two services. -/
def twoServices : List ConfigEvent :=
  [pressing .serviceAdd [], .text "Wash", pressing .serviceAdd [], .text "Dry"].map
    (adminEvent .telegram)

/-- Two services, of which the second goes up and down, and two fields. -/
def listedEvents : List ConfigEvent :=
  twoServices ++ [pressing .serviceMove [("key", .str "dry"), ("direction", .str "up")],
    pressing .serviceMove [("key", .str "dry"), ("direction", .str "down")],
    pressing .fieldAdd [], .text "Цвет", pressing .fieldType [("type", .str "text")],
    pressing .fieldRequired [("required", .bool true)],
    pressing .fieldAdd [], .text "Размер", pressing .fieldType [("type", .str "text")],
    pressing .fieldRequired [("required", .bool false)],
    pressing .fieldPrompt [("key", .str "field_2")], .text "Какой размер?",
    pressing .fieldMove [("key", .str "field_2"), ("direction", .str "up")],
    pressing .fieldDelete [("key", .str "field")]].map (adminEvent .telegram)

/-- The field that is added in one messenger takes the key that was held for the other one. -/
def bothMessengers : List ConfigEvent :=
  [adminEvent .telegram (pressing .fieldAdd []), adminEvent .telegram (.text "Цвет"),
    adminEvent .max (pressing .fieldAdd []), adminEvent .max (.text "Размер"),
    adminEvent .max (pressing .fieldType [("type", .str "text")]),
    adminEvent .max (pressing .fieldRequired [("required", .bool true)]),
    adminEvent .telegram (pressing .fieldType [("type", .str "text")]),
    adminEvent .telegram (pressing .fieldRequired [("required", .bool true)])]

end example_runs

end DispatchCore.Messaging
