import DispatchCore.Messaging.CallbackDesk
import DispatchCore.Packs.RepeatedEdits

/-! The buttons of the configurator, each pressed once and handled twice. -/
namespace DispatchCore.Messaging

open DispatchCore.Library DispatchCore.Domain DispatchCore.Packs DispatchCore.Infrastructure
  DispatchCore.Application

open ChatDesk (performConfig)

/-- Operations that leave the packs and the sessions alone. -/
def ConfigOp.Quiet : ConfigOp → Prop
  | ensureDraft _ => False
  | updateDraft _ => False
  | discardDraft => False
  | restoreAsDraft _ => False
  | publishDraft => False
  | putSession _ => False
  | clearSession => False
  | _ => True

/-- Every operation of the program leaves the packs and the sessions alone. -/
abbrev ConfigProgram.Quiet {α : Type} (program : ConfigProgram α) : Prop :=
  program.Obeys ConfigOp.Quiet (fun _ _ => True) (fun _ => True) fun _ => True

section repeats

variable (identity : MessengerIdentity) (eventId : String) (once twice : DeskDraw)

/-- Handled again, the program shows what it showed after the first time. -/
def ConfigProgram.Repeats {α : Type} (program : ConfigProgram α) (desk : ChatDesk) : Prop :=
  let first := (program.alone (performConfig identity eventId once) desk).2
  (program.alone (performConfig identity eventId twice) first).2.shown identity.organizationId =
    first.shown identity.organizationId

end repeats

namespace ConfigCoordinator

open ConfigReplies

variable {setup : Setup} {identity : MessengerIdentity} {eventId : String}
  {once twice draw : DeskDraw} {desk : ChatDesk} {α : Type}

/-! ### Programs that only look -/

/-- What both desks hold of the packs and of the sessions. -/
structure SameDesk (before after : ChatDesk) : Prop where
  table : after.table = before.table
  config : after.config = before.config
  intake : after.intake = before.intake

theorem SameDesk.shown {before after : ChatDesk} (same : SameDesk before after)
    (organizationId : String) : after.shown organizationId = before.shown organizationId := by
  unfold ChatDesk.shown
  rw [same.table, same.config, same.intake]

theorem sameDesk_perform (op : ConfigOp) (quiet : op.Quiet) (before : ChatDesk) :
    SameDesk before (performConfig identity eventId draw op before).2 := by
  cases op with
  | grantRole role =>
      simp only [performConfig]
      split <;> exact ⟨rfl, rfl, rfl⟩
  | ensureDraft _ => exact quiet.elim
  | updateDraft _ => exact quiet.elim
  | discardDraft => exact quiet.elim
  | restoreAsDraft _ => exact quiet.elim
  | publishDraft => exact quiet.elim
  | putSession _ => exact quiet.elim
  | clearSession => exact quiet.elim
  | _ => exact ⟨rfl, rfl, rfl⟩

theorem sameDesk_of_quiet {program : ConfigProgram α} (quiet : program.Quiet) :
    SameDesk desk (program.alone (performConfig identity eventId draw) desk).2 := by
  have hkept : ∀ op before, ConfigOp.Quiet op → SameDesk desk before →
      True ∧ SameDesk desk (performConfig identity eventId draw op before).2 := by
    intro op before hquiet hsame
    have hstep := @sameDesk_perform identity eventId draw op hquiet before
    exact ⟨trivial, hstep.table.trans hsame.table, hstep.config.trans hsame.config,
      hstep.intake.trans hsame.intake⟩
  exact quiet.alone hkept ⟨rfl, rfl, rfl⟩

theorem repeats_of_quiet {program : ConfigProgram α} (quiet : program.Quiet) :
    program.Repeats identity eventId once twice desk :=
  (sameDesk_of_quiet quiet).shown _

theorem quiet_menu (note : Option String) : (menu identity note).Quiet :=
  ⟨trivial, fun _ _ => ⟨trivial, fun _ _ => trivial⟩⟩

theorem quiet_versions : (versions identity).Quiet := by
  refine ⟨trivial, fun found _ => ?_⟩
  cases found with
  | nil => exact quiet_menu _
  | cons first others => trivial

theorem quiet_discardDraft : (discardDraft identity).Quiet := by
  refine ⟨trivial, fun found _ => ?_⟩
  cases found with
  | none => exact quiet_versions
  | some found => trivial

theorem quiet_restoreVersion (payload : Dict String Json) :
    (restoreVersion identity payload).Quiet := by
  unfold restoreVersion
  split
  · exact quiet_versions
  · refine ⟨trivial, fun found _ => ?_⟩
    cases found with
    | none => exact quiet_versions
    | some found => trivial

theorem quiet_preview : (preview identity).Quiet := by
  refine ⟨trivial, fun found _ => ?_⟩
  cases found with
  | some found => trivial
  | none =>
      refine ⟨trivial, fun found _ => ?_⟩
      cases found with
      | some found => trivial
      | none => exact quiet_menu _

theorem quiet_managing {refusal : String} {program : ConfigProgram Reply}
    (quiet : program.Quiet) : (managing setup refusal program).Quiet := by
  unfold managing
  split
  · exact quiet
  · trivial

theorem quiet_listOperators : (listOperators setup).Quiet :=
  quiet_managing ⟨trivial, fun _ _ => trivial⟩

theorem quiet_withOperator {payload : Dict String Json}
    {program : String → Identities.ActorCard → ConfigProgram Reply}
    (quiet : ∀ actorId actor, (program actorId actor).Quiet) :
    (withOperator setup payload program).Quiet := by
  refine quiet_managing ⟨trivial, fun found _ => ?_⟩
  cases found with
  | none => exact quiet_listOperators
  | some actor =>
      show (if Role.operator ∈ actor.roles then program (payload.textAt "actor_id") actor
        else listOperators setup).Quiet
      split
      · exact quiet _ _
      · exact quiet_listOperators

theorem quiet_delOperator (payload : Dict String Json) : (delOperator setup payload).Quiet := by
  refine quiet_managing ?_
  dsimp only
  split
  · exact quiet_listOperators
  · refine ⟨trivial, fun found _ => ?_⟩
    cases found with
    | none => exact quiet_listOperators
    | some actor => trivial

theorem quiet_delOperatorConfirm (payload : Dict String Json) :
    (delOperatorConfirm setup payload).Quiet := by
  refine quiet_managing ?_
  dsimp only
  split
  · exact ⟨trivial, fun _ _ => quiet_listOperators⟩
  · exact quiet_listOperators

theorem quiet_ownerRoles (note : Option String) : (ownerRoles setup identity note).Quiet := by
  refine quiet_managing ⟨trivial, fun found _ => ?_⟩
  cases found with
  | none => trivial
  | some actor => trivial

theorem quiet_grantRole {role : Role} {next : Bool → ConfigProgram α}
    (quiet : ∀ granted, (next granted).Quiet) : (grantRole role >>= next).Quiet := by
  refine ⟨trivial, fun answer _ => ?_⟩
  cases answer with
  | ok granted => exact quiet granted
  | error failure => trivial

theorem quiet_grantOwnerRole (role : Role) : (grantOwnerRole setup identity role).Quiet :=
  quiet_managing (quiet_grantRole fun _ => quiet_ownerRoles _)

theorem quiet_ownerNano : (ownerNano setup identity).Quiet :=
  quiet_managing (quiet_grantRole fun _ => quiet_grantRole fun _ => quiet_ownerRoles _)

/-! ### Programs that open the draft -/

section drafts

variable {found : PackDefinition}

theorem alone_ensureDraft_some (present : desk.table.draft identity.organizationId = some found) :
    ensureDraft.alone (performConfig identity eventId draw) desk = (.ok found, desk) := by
  simp only [ensureDraft, draft, Program.call_bind, Program.done_bind, Program.alone_call,
    ChatDesk.performConfig_draft, present]
  rfl

/-- The draft is there, and is what it was made of. -/
structure Opened (organizationId : String) (found : PackDefinition) (before after : ChatDesk) :
    Prop where
  sound : after.table.Sound
  draft : after.table.draft organizationId = some found
  config : after.config = before.config
  intake : after.intake = before.intake

theorem alone_ensureDraft (sound : desk.table.Sound) :
    ∃ after, ensureDraft.alone (performConfig identity eventId draw) desk =
        (.ok (draftBaseline desk.table identity.organizationId), after) ∧
      Opened identity.organizationId (draftBaseline desk.table identity.organizationId) desk after := by
  cases hdraft : desk.table.draft identity.organizationId with
  | some found =>
      rw [draftBaseline_some hdraft]
      exact ⟨desk, alone_ensureDraft_some hdraft, sound, hdraft, rfl, rfl⟩
  | none =>
      obtain ⟨table, hcall, hsound, hlater, -⟩ := @PackTable.alone_ensureDraft_none _ _
        (draftBaseline desk.table identity.organizationId) sound hdraft
      refine ⟨{ desk with table }, ?_, hsound, hlater, rfl, rfl⟩
      simp only [ensureDraft, draft, active, Program.call_bind, Program.done_bind,
        Program.alone_call, ChatDesk.performConfig_draft, ChatDesk.performConfig_active, hdraft,
        ChatDesk.performConfig_ensureDraft]
      rw [← draftBaseline_none hdraft, ChatDesk.transacted_eq hcall]
      rfl

/-- A program that shows the draft leaves one there is alone. -/
theorem alone_showing (present : desk.table.draft identity.organizationId = some found)
    (reply : PackDefinition → Reply) :
    (showing reply).alone (performConfig identity eventId draw) desk = (.ok (reply found), desk) := by
  unfold showing
  rw [Program.alone_bind, alone_ensureDraft_some present]
  rfl

theorem opened_showing (sound : desk.table.Sound) (reply : PackDefinition → Reply) :
    Opened identity.organizationId (draftBaseline desk.table identity.organizationId) desk
      ((showing reply).alone (performConfig identity eventId draw) desk).2 := by
  obtain ⟨after, hopen, hopened⟩ := @alone_ensureDraft identity eventId draw desk sound
  unfold showing
  rw [Program.alone_bind, hopen]
  exact hopened

theorem repeats_showing (sound : desk.table.Sound) (reply : PackDefinition → Reply) :
    (showing reply).Repeats identity eventId once twice desk := by
  have hopened := @opened_showing identity eventId once desk sound reply
  unfold ConfigProgram.Repeats
  dsimp only
  rw [alone_showing hopened.draft]

/-- Open the draft, then go on with it and leave it. -/
theorem repeats_opened (sound : desk.table.Sound) {next : PackDefinition → ConfigProgram Reply}
    (settled : ∀ after, after.table.draft identity.organizationId =
        some (draftBaseline desk.table identity.organizationId) →
      let rest := next (draftBaseline desk.table identity.organizationId)
      let first := (rest.alone (performConfig identity eventId once) after).2
      first.table.draft identity.organizationId =
          some (draftBaseline desk.table identity.organizationId) ∧
        (rest.alone (performConfig identity eventId twice) first).2.shown identity.organizationId =
          first.shown identity.organizationId) :
    (ensureDraft >>= next).Repeats identity eventId once twice desk := by
  obtain ⟨after, hopen, hopened⟩ := @alone_ensureDraft identity eventId once desk sound
  obtain ⟨hdraft, hshown⟩ := settled after hopened.draft
  unfold ConfigProgram.Repeats
  simp only [Program.alone_bind, hopen]
  rw [alone_ensureDraft_some hdraft]
  exact hshown

/-- Open the draft, then store a session that depends on the draft alone. -/
theorem repeats_asking (sound : desk.table.Sound) (flow : ConfigFlow) (reply : Reply) :
    ConfigProgram.Repeats identity eventId once twice (do
      let _ ← ensureDraft
      setSession flow
      return reply) desk :=
  repeats_opened sound fun _ present => ⟨present, rfl⟩

/-- An edit leaves the draft as it makes it. -/
theorem alone_edited (edit : ConfigEdit) (sound : desk.table.Sound) :
    ∃ result after, (edited setup edit).alone (performConfig identity eventId draw) desk =
        (result, after) ∧
      Opened identity.organizationId
        (edit.apply setup.unicode (draftBaseline desk.table identity.organizationId)) desk after := by
  obtain ⟨opened, hopen, hopened⟩ := @alone_ensureDraft identity eventId draw desk sound
  unfold edited
  simp only [Program.alone_bind, hopen]
  cases houtcome : edit.outcome setup.unicode
      (draftBaseline desk.table identity.organizationId) with
  | error failure =>
      refine ⟨_, opened, rfl, ?_⟩
      have hkept : edit.apply setup.unicode (draftBaseline desk.table identity.organizationId) =
          draftBaseline desk.table identity.organizationId := by
        unfold ConfigEdit.apply
        rw [houtcome]
      rwa [hkept]
  | ok stored =>
      cases stored with
      | none =>
          refine ⟨_, opened, rfl, ?_⟩
          rwa [ConfigEdit.apply_of_shown houtcome]
      | some updated =>
          obtain ⟨table, hcall, hsound, hlater, -⟩ :=
            @PackTable.alone_updateDraft _ _ updated _ hopened.sound hopened.draft
          refine ⟨.ok updated, { opened with table }, ?_, hsound, ?_, hopened.config,
            hopened.intake⟩
          · simp only [updateDraft, Program.call_bind, Program.alone_call,
              ChatDesk.performConfig_updateDraft, ChatDesk.transacted_eq hcall]
            rfl
          · rwa [ConfigEdit.apply_of_stored houtcome]

theorem Opened.shown {first second : ChatDesk} {organizationId : String} {before : ChatDesk}
    {left right : PackDefinition} (once : Opened organizationId left before first)
    (again : Opened organizationId right first second) :
    second.shown organizationId = first.shown organizationId ↔ right = left := by
  unfold ChatDesk.shown
  rw [again.draft, once.draft, again.config, again.intake]
  simp

/-- An edit that is then shown is the same the second time if it settles. -/
theorem repeats_edited_iff (edit : ConfigEdit) (sound : desk.table.Sound)
    {rest : PackDefinition → ConfigProgram Reply}
    (shows : ∀ draw updated after found, after.table.draft identity.organizationId = some found →
      ((rest updated).alone (performConfig identity eventId draw) after).2 = after) :
    (edited setup edit >>= rest).Repeats identity eventId once twice desk ↔
      edit.Settles setup.unicode (draftBaseline desk.table identity.organizationId) := by
  have hhandled : ∀ draw (before : ChatDesk), before.table.Sound →
      Opened identity.organizationId
        (edit.apply setup.unicode (draftBaseline before.table identity.organizationId)) before
        ((edited setup edit >>= rest).alone (performConfig identity eventId draw) before).2 := by
    intro draw before hbefore
    obtain ⟨result, after, hedited, hopened⟩ :=
      @alone_edited setup identity eventId draw before edit hbefore
    rw [Program.alone_bind, hedited]
    cases result with
    | error failure => exact hopened
    | ok updated =>
        dsimp only
        rw [shows draw updated after _ hopened.draft]
        exact hopened
  have hfirst := hhandled once desk sound
  have hsecond := hhandled twice _ hfirst.sound
  rw [draftBaseline_some hfirst.draft] at hsecond
  unfold ConfigProgram.Repeats ConfigEdit.Settles
  exact hfirst.shown hsecond

theorem shows_showing (reply : PackDefinition → Reply) :
    ∀ draw (_ : PackDefinition) after found,
      after.table.draft identity.organizationId = some found →
      ((showing reply).alone (performConfig identity eventId draw) after).2 = after :=
  fun _ _ _ _ present => congrArg Prod.snd (alone_showing present reply)

theorem repeats_serviceDelete (sound : desk.table.Sound) (payload : Dict String Json) :
    (serviceDelete setup payload).Repeats identity eventId once twice desk :=
  (repeats_edited_iff _ sound (shows_showing _)).mpr (ConfigEdit.settles_serviceDelete _)

theorem repeats_serviceMultiSelect (sound : desk.table.Sound) :
    ¬(serviceMultiSelect setup).Repeats identity eventId once twice desk := by
  intro hrepeats
  exact ConfigEdit.settles_serviceMultiSelect
    ((repeats_edited_iff _ sound (shows_showing _)).mp hrepeats)

theorem repeats_serviceMove (sound : desk.table.Sound) (payload : Dict String Json) :
    (serviceMove setup payload).Repeats identity eventId once twice desk ↔
      ¬MovesOn ServiceCategory.key
        (draftBaseline desk.table identity.organizationId).serviceCatalog.categories
        (payload.textAt "key") (payload.textAt "direction") :=
  (repeats_edited_iff _ sound (shows_showing _)).trans (ConfigEdit.settles_serviceMove _ _)

theorem repeats_fieldDelete (sound : desk.table.Sound) (payload : Dict String Json) :
    (fieldDelete setup payload).Repeats identity eventId once twice desk :=
  (repeats_edited_iff _ sound (shows_showing _)).mpr (ConfigEdit.settles_fieldDelete _)

theorem repeats_fieldMove (sound : desk.table.Sound) (payload : Dict String Json) :
    (fieldMove setup payload).Repeats identity eventId once twice desk ↔
      ¬MovesOn FieldDefinition.key
        ((draftBaseline desk.table identity.organizationId).orderedFields.map FieldDefinition.face)
        (payload.textAt "key") (payload.textAt "direction") :=
  (repeats_edited_iff _ sound (shows_showing _)).trans (ConfigEdit.settles_fieldMove _ _)

theorem repeats_evidenceToggle (sound : desk.table.Sound) (toggle : ConfigEdits.EvidenceAction) :
    (evidenceToggle setup toggle).Repeats identity eventId once twice desk ↔
      toggle.Settled (draftBaseline desk.table identity.organizationId).evidence :=
  (repeats_edited_iff _ sound fun _ _ _ _ _ => rfl).trans (ConfigEdit.settles_evidenceToggle _)

theorem repeats_poolMode (sound : desk.table.Sound) (payload : Dict String Json) :
    (poolMode setup payload).Repeats identity eventId once twice desk := by
  unfold poolMode
  split
  · exact repeats_showing sound _
  · exact (repeats_edited_iff _ sound (shows_showing _)).mpr (ConfigEdit.settles_poolMode _)

/-! ### Programs that end or replace the draft -/

/-- What the first operation leaves is what it leaves the second time, and the rest looks. -/
theorem repeats_call {op : ConfigOp} {resume : op.Answer → ConfigProgram Reply}
    (quiet : ∀ answer, (resume answer).Quiet)
    (again : ∀ after, SameDesk (performConfig identity eventId once op desk).2 after →
      (performConfig identity eventId twice op after).2.shown identity.organizationId =
        after.shown identity.organizationId) :
    ConfigProgram.Repeats identity eventId once twice (.call op resume) desk := by
  unfold ConfigProgram.Repeats
  simp only [Program.alone_call]
  have hfirst := @sameDesk_of_quiet identity eventId once
    (performConfig identity eventId once op desk).2 _ _
    (quiet (performConfig identity eventId once op desk).1)
  generalize ((resume (performConfig identity eventId once op desk).1).alone
    (performConfig identity eventId once) (performConfig identity eventId once op desk).2).2 =
    after at hfirst
  rw [(sameDesk_of_quiet (quiet _)).shown]
  exact again after hfirst

/-- A transaction on the packs that changes nothing the second time. -/
theorem repeats_transacted {transaction : PackTransaction} {op : ConfigOp}
    {resume : op.Answer → ConfigProgram Reply} (quiet : ∀ answer, (resume answer).Quiet)
    (performs : ∀ draw before, (performConfig identity eventId draw op before).2 =
      (before.transacted transaction).2)
    (settled : let later := (transaction.alone desk.table).2
      (transaction.alone later).2.draft identity.organizationId =
        later.draft identity.organizationId) :
    ConfigProgram.Repeats identity eventId once twice (.call op resume) desk := by
  refine repeats_call quiet fun after same => ?_
  rw [performs] at same
  rw [performs]
  have htable : after.table = (transaction.alone desk.table).2 := same.table
  unfold ChatDesk.shown ChatDesk.transacted
  rw [htable]
  dsimp only
  rw [settled]

theorem repeats_discardDraftConfirm (sound : desk.table.Sound) :
    (discardDraftConfirm identity).Repeats identity eventId once twice desk := by
  refine repeats_transacted (fun answer => ?_) (fun _ _ => rfl) ?_
  · cases answer with
    | error failure => trivial
    | ok reply =>
        split
        · exact quiet_menu _
        · exact quiet_menu _
        · trivial
  · dsimp only
    rw [PackTable.alone_discardDraft_none (PackTable.alone_discardDraft sound)]

theorem repeats_restoreVersionConfirm (sound : desk.table.Sound) (payload : Dict String Json) :
    (restoreVersionConfirm identity payload).Repeats identity eventId once twice desk := by
  unfold restoreVersionConfirm
  split
  · exact repeats_of_quiet quiet_versions
  · rename_i version hversion
    refine repeats_transacted (fun answer => ?_) (fun _ _ => rfl) ?_
    · split
      · exact quiet_menu _
      · trivial
      · exact quiet_versions
      · trivial
    · dsimp only
      cases hrevision : PostgresPackStore.revision desk.table.rows identity.organizationId
          version with
      | none =>
          rw [PackTable.alone_restoreAsDraft_missing hrevision]
          dsimp only
          rw [PackTable.alone_restoreAsDraft_missing hrevision]
      | some source =>
          obtain ⟨_, later, hcall, hsound, ⟨_, hstored⟩, again, hagain, hsame⟩ :=
            PackTable.alone_restoreAsDraft sound hrevision
          obtain ⟨_, last, hlast, hsoundLast, ⟨_, hstoredLast⟩, -⟩ :=
            PackTable.alone_restoreAsDraft hsound hagain
          have hdraft := PackTable.draft_of_stored hsound hstored ⟨rfl, rfl⟩
          have hdraftLast := PackTable.draft_of_stored hsoundLast hstoredLast ⟨rfl, rfl⟩
          rw [hcall]
          dsimp only
          rw [hlast, hdraft]
          dsimp only
          rw [hdraftLast, hsame]

theorem repeats_publish (sound : desk.table.Sound) :
    (publish identity).Repeats identity eventId once twice desk := by
  refine repeats_transacted (fun answer => ?_) (fun _ _ => rfl) ?_
  · split
    · trivial
    · trivial
    · trivial
    · exact quiet_menu _
    · trivial
  · rcases @PackTable.alone_publishDraft _ identity.organizationId sound with hsame | hnone
    · dsimp only
      rw [hsame, hsame]
    · dsimp only
      rw [PackTable.alone_publishDraft_none hnone]

/-! ### Programs of the session -/

theorem repeats_cancel : ConfigProgram.Repeats identity eventId once twice (do
    clearSession
    menu identity (some "Действие отменено.")) desk := by
  refine repeats_call (fun _ => quiet_menu _) fun after same => ?_
  unfold ChatDesk.shown
  rw [ChatDesk.performConfig_clearSession, same.config]
  rfl

theorem repeats_fieldPrompt (sound : desk.table.Sound) (payload : Dict String Json) :
    (fieldPrompt payload).Repeats identity eventId once twice desk := by
  refine repeats_opened sound fun after present => ?_
  dsimp only
  split
  · unfold fields
    rw [alone_showing present]
    exact ⟨present, congrArg _ (congrArg Prod.snd (alone_showing present _))⟩
  · exact ⟨present, rfl⟩

theorem repeats_roleLabelEdit (sound : desk.table.Sound) (payload : Dict String Json) :
    (roleLabelEdit payload).Repeats identity eventId once twice desk := by
  unfold roleLabelEdit
  dsimp only
  split
  · exact repeats_showing sound _
  · exact repeats_call (fun _ => trivial) fun _ same => by
      unfold ChatDesk.shown
      rw [same.config]
      rfl

theorem typedScratch_twice (scratch : FieldScratch) (type : FieldType) (taken : Bool) :
    typedScratch (typedScratch scratch type taken) type taken = typedScratch scratch type taken := by
  unfold typedScratch
  split <;> rfl

/-- A session that was stored while an event was handled is stored as it is. -/
theorem withSessionEvent_twice (state : ConfigState) :
    (state.withSessionEvent eventId).withSessionEvent eventId = state.withSessionEvent eventId := by
  unfold ConfigState.withSessionEvent
  split <;> rfl

/-- Whether the key of an address is taken already; nothing else asks. -/
def addressTaken (type : FieldType) : ConfigProgram Bool :=
  if type = .address then do
    let found ← ensureDraft
    pure (found.fields.any fun item => item.key = "address")
  else pure true

theorem alone_addressTaken (sound : desk.table.Sound) (type : FieldType) :
    ∃ taken after, (addressTaken type).alone (performConfig identity eventId draw) desk =
        (.ok taken, after) ∧ after.table.Sound ∧
      draftBaseline after.table identity.organizationId =
        draftBaseline desk.table identity.organizationId ∧ after.config = desk.config ∧
      ∀ draw (later : ChatDesk), later.table = after.table →
        (addressTaken type).alone (performConfig identity eventId draw) later = (.ok taken, later) := by
  unfold addressTaken
  split
  · obtain ⟨after, hopen, hopened⟩ := @alone_ensureDraft identity eventId draw desk sound
    refine ⟨(draftBaseline desk.table identity.organizationId).fields.any fun item =>
      item.key = "address", after, ?_, hopened.sound, draftBaseline_some hopened.draft,
      hopened.config, fun draw later same => ?_⟩
    · simp only [Program.alone_bind, hopen]
      rfl
    · have hdraft := hopened.draft
      rw [← same] at hdraft
      simp only [Program.alone_bind, alone_ensureDraft_some hdraft]
      rfl
  · exact ⟨true, desk, rfl, sound, rfl, rfl, fun _ _ _ => rfl⟩

/-- The session of a field whose type is chosen. -/
def typedFlow (scratch : FieldScratch) (type : FieldType) (taken : Bool) : ConfigFlow :=
  .fieldAdd (if type = .enum then .choices else .required) (typedScratch scratch type taken)

/-- What a known type does to a field that is being added. -/
def chooseType (scratch : FieldScratch) (lastEvent : Option String) (type : FieldType) :
    ConfigProgram Reply := do
  let taken ← addressTaken type
  save ⟨typedFlow scratch type taken, lastEvent⟩
  return if type = .enum then asking "Введите варианты через запятую (минимум два):"
    else requiredFieldReply

theorem fieldType_adding {scratch : FieldScratch} {step : FieldAddStep} {lastEvent : Option String}
    (adding : desk.config = some ⟨.fieldAdd step scratch, lastEvent⟩) (payload : Dict String Json) :
    (fieldType payload).alone (performConfig identity eventId draw) desk =
      match fieldTypeOf? (payload.textAt "type") with
      | none => (.ok (asking "Неизвестный тип поля."), desk)
      | some type =>
          (chooseType scratch lastEvent type).alone (performConfig identity eventId draw) desk := by
  unfold fieldType getSession
  simp only [Program.call_bind, Program.done_bind, Program.alone_call,
    ChatDesk.performConfig_getSession, adding]
  cases fieldTypeOf? (payload.textAt "type") with
  | none => rfl
  | some type =>
      unfold chooseType addressTaken typedFlow
      by_cases henum : type = .enum
      · subst henum
        rfl
      · by_cases haddress : type = .address
        · subst haddress
          simp only [if_true, if_neg henum, Program.alone_bind]
          cases ensureDraft.alone (performConfig identity eventId draw) desk with
          | mk result after => cases result <;> rfl
        · simp only [if_neg henum, if_neg haddress]

theorem alone_chooseType {scratch : FieldScratch} {lastEvent : Option String} {type : FieldType}
    {taken : Bool} {after : ChatDesk}
    (answered : (addressTaken type).alone (performConfig identity eventId draw) desk =
      (.ok taken, after)) :
    ((chooseType scratch lastEvent type).alone (performConfig identity eventId draw) desk).2 =
      { after with
        config := some (ConfigState.withSessionEvent eventId
          ⟨typedFlow scratch type taken, lastEvent⟩) } := by
  unfold chooseType
  rw [Program.alone_bind, answered]
  rfl

/-- A button of a field that is being added shows the fields where none is. -/
def whileAdding (adding : FieldAddStep → FieldScratch → Option String → ConfigProgram Reply) :
    ConfigProgram Reply := do
  match ← getSession with
  | some ⟨.fieldAdd step scratch, lastEvent⟩ => adding step scratch lastEvent
  | _ => fields

theorem alone_whileAdding {adding : FieldAddStep → FieldScratch → Option String → ConfigProgram Reply}
    (idle : ∀ step scratch lastEvent, desk.config ≠ some ⟨.fieldAdd step scratch, lastEvent⟩) :
    (whileAdding adding).alone (performConfig identity eventId draw) desk =
      fields.alone (performConfig identity eventId draw) desk := by
  unfold whileAdding getSession
  simp only [Program.call_bind, Program.done_bind, Program.alone_call,
    ChatDesk.performConfig_getSession]

theorem alone_adding {adding : FieldAddStep → FieldScratch → Option String → ConfigProgram Reply}
    {step : FieldAddStep} {scratch : FieldScratch} {lastEvent : Option String}
    (session : desk.config = some ⟨.fieldAdd step scratch, lastEvent⟩) :
    (whileAdding adding).alone (performConfig identity eventId draw) desk =
      (adding step scratch lastEvent).alone (performConfig identity eventId draw) desk := by
  unfold whileAdding getSession
  simp only [Program.call_bind, Program.done_bind, Program.alone_call,
    ChatDesk.performConfig_getSession, session]

theorem repeats_idle {adding : FieldAddStep → FieldScratch → Option String → ConfigProgram Reply}
    (sound : desk.table.Sound)
    (idle : ∀ step scratch lastEvent, desk.config ≠ some ⟨.fieldAdd step scratch, lastEvent⟩) :
    (whileAdding adding).Repeats identity eventId once twice desk := by
  have hopened := @opened_showing identity eventId once desk sound fieldsReply
  unfold ConfigProgram.Repeats
  rw [alone_whileAdding idle]
  dsimp only
  have hidle : ∀ step scratch lastEvent,
      (fields.alone (performConfig identity eventId once) desk).2.config ≠
        some ⟨.fieldAdd step scratch, lastEvent⟩ := by
    intro step scratch lastEvent
    unfold fields
    rw [hopened.config]
    exact idle step scratch lastEvent
  rw [alone_whileAdding hidle]
  unfold fields
  rw [alone_showing hopened.draft]

theorem repeats_fieldType (sound : desk.table.Sound) (payload : Dict String Json) :
    (fieldType payload).Repeats identity eventId once twice desk := by
  by_cases hadding : ∃ step scratch lastEvent,
      desk.config = some ⟨.fieldAdd step scratch, lastEvent⟩
  · obtain ⟨step, scratch, lastEvent, hsession⟩ := hadding
    unfold ConfigProgram.Repeats
    rw [fieldType_adding hsession]
    cases htype : fieldTypeOf? (payload.textAt "type") with
    | none =>
        dsimp only
        rw [fieldType_adding hsession, htype]
    | some type =>
        obtain ⟨taken, after, htaken, -, -, -, hagain⟩ :=
          @alone_addressTaken identity eventId once desk sound type
        dsimp only
        rw [alone_chooseType htaken]
        generalize hstored : ({ after with
          config := some (ConfigState.withSessionEvent eventId
            ⟨typedFlow scratch type taken, lastEvent⟩) } : ChatDesk) = stored
        have hconfig : stored.config = some (ConfigState.withSessionEvent eventId
            ⟨typedFlow scratch type taken, lastEvent⟩) := by
          rw [← hstored]
        have htable : stored.table = after.table := by
          rw [← hstored]
        rw [fieldType_adding hconfig, htype]
        dsimp only
        rw [alone_chooseType (hagain twice stored htable)]
        have hflow : typedFlow (typedScratch scratch type taken) type taken =
            typedFlow scratch type taken := by
          unfold typedFlow
          rw [typedScratch_twice]
        unfold ChatDesk.shown
        rw [hflow, hconfig]
        exact congrArg (fun session => (_, some session, _))
          (withSessionEvent_twice ⟨typedFlow scratch type taken, lastEvent⟩)
  · exact repeats_idle sound fun step scratch lastEvent hsession =>
      hadding ⟨step, scratch, lastEvent, hsession⟩

/-- What an answer about the last question of a field does. -/
def requireField (setup : Setup) (required : Bool) (step : FieldAddStep) (scratch : FieldScratch)
    (lastEvent : Option String) : ConfigProgram Reply := do
  let found ← ensureDraft
  let key := ConfigEdits.fieldKey setup.unicode scratch.key scratch.label found
  if scratch.key = "" then
    save ⟨.fieldAdd step { scratch with key }, lastEvent⟩
  match ConfigEdits.fieldRequired setup.unicode key scratch.label
      (scratch.fieldType.getD .text) scratch.choices required found with
  | .error failure => .raise (.failure failure)
  | .ok none =>
      clearSession
      fields
  | .ok (some updated) =>
      updateDraft updated
      clearSession
      fields

/-- The key that a field being added has or gets. -/
def keyed (setup : Setup) (scratch : FieldScratch) (base : PackDefinition) : String :=
  ConfigEdits.fieldKey setup.unicode scratch.key scratch.label base

def requiredOutcome (setup : Setup) (required : Bool) (scratch : FieldScratch)
    (base : PackDefinition) : ConfigEdits.Outcome :=
  ConfigEdits.fieldRequired setup.unicode (keyed setup scratch base) scratch.label
    (scratch.fieldType.getD .text) scratch.choices required base

/-- The session that the answer finds, with a key of its own. -/
def keyedSession (setup : Setup) (eventId : String) (step : FieldAddStep) (scratch : FieldScratch)
    (lastEvent : Option String) (base : PackDefinition) : ConfigState :=
  if scratch.key = "" then ConfigState.withSessionEvent eventId
    ⟨.fieldAdd step { scratch with key := keyed setup scratch base }, lastEvent⟩
  else ⟨.fieldAdd step scratch, lastEvent⟩

/-- A refused field keeps its session; a field that was stored, now or before, ends it. -/
theorem alone_requireField {required : Bool} {step : FieldAddStep} {scratch : FieldScratch}
    {lastEvent : Option String} (sound : desk.table.Sound)
    (adding : desk.config = some ⟨.fieldAdd step scratch, lastEvent⟩) :
    let base := draftBaseline desk.table identity.organizationId
    let after := ((requireField setup required step scratch lastEvent).alone
      (performConfig identity eventId draw) desk).2
    after.table.Sound ∧ after.intake = desk.intake ∧
      match requiredOutcome setup required scratch base with
      | .error _ => after.table.draft identity.organizationId = some base ∧
          after.config = some (keyedSession setup eventId step scratch lastEvent base)
      | .ok stored => after.table.draft identity.organizationId = some (stored.getD base) ∧
          after.config = none := by
  obtain ⟨opened, hopen, hopened⟩ := @alone_ensureDraft identity eventId draw desk sound
  dsimp only
  generalize draftBaseline desk.table identity.organizationId = base at hopen hopened
  have hkeyed : ∃ kept, kept.table = opened.table ∧ kept.intake = desk.intake ∧
      kept.config = some (keyedSession setup eventId step scratch lastEvent base) ∧
      (requireField setup required step scratch lastEvent).alone
        (performConfig identity eventId draw) desk = Program.alone (performConfig identity eventId draw)
        (match requiredOutcome setup required scratch base with
        | .error failure => .raise (.failure failure)
        | .ok none => do
            clearSession
            fields
        | .ok (some updated) => do
            updateDraft updated
            clearSession
            fields) kept := by
    unfold requireField keyedSession
    simp only [Program.alone_bind, hopen]
    by_cases hkey : scratch.key = ""
    · rw [if_pos hkey, if_pos hkey]
      exact ⟨{ opened with config := some (ConfigState.withSessionEvent eventId
        ⟨.fieldAdd step { scratch with key := keyed setup scratch base }, lastEvent⟩) }, rfl,
        hopened.intake, rfl, rfl⟩
    · rw [if_neg hkey, if_neg hkey]
      exact ⟨opened, rfl, hopened.intake, hopened.config.trans adding, rfl⟩
  obtain ⟨kept, htable, hintake, hconfig, halone⟩ := hkeyed
  have hdraft : kept.table.draft identity.organizationId = some base := by
    rw [htable]
    exact hopened.draft
  have hsound : kept.table.Sound := by
    rw [htable]
    exact hopened.sound
  rw [halone]
  cases requiredOutcome setup required scratch base with
  | error failure => exact ⟨hsound, hintake, hdraft, hconfig⟩
  | ok stored =>
      cases stored with
      | none =>
          simp only [clearSession, fields, Program.call_bind, Program.done_bind,
            Program.alone_call, ChatDesk.performConfig_clearSession]
          rw [@alone_showing identity eventId draw { kept with config := none } _ hdraft]
          exact ⟨hsound, hintake, hdraft, rfl⟩
      | some updated =>
          obtain ⟨table, hcall, hlaterSound, hlater, -⟩ :=
            @PackTable.alone_updateDraft _ _ updated _ hsound hdraft
          simp only [clearSession, fields, updateDraft, Program.call_bind, Program.done_bind,
            Program.alone_call, ChatDesk.performConfig_clearSession,
            ChatDesk.performConfig_updateDraft, ChatDesk.transacted_eq hcall]
          rw [@alone_showing identity eventId draw { kept with table, config := none } _ hlater]
          exact ⟨hlaterSound, hintake, hlater, rfl⟩

theorem keyed_twice (scratch : FieldScratch) (base : PackDefinition) :
    keyed setup { scratch with key := keyed setup scratch base } base = keyed setup scratch base := by
  unfold keyed ConfigEdits.fieldKey
  dsimp only
  by_cases hkey : scratch.key = ""
  · rw [if_pos hkey]
    split <;> rfl
  · rw [if_neg hkey, if_neg hkey]

/-- A refused field is found as it was left. -/
theorem keyedSession_twice (step : FieldAddStep) (scratch : FieldScratch)
    (lastEvent : Option String) (base : PackDefinition) :
    ∃ again lastAgain, keyedSession setup eventId step scratch lastEvent base =
        ⟨.fieldAdd step again, lastAgain⟩ ∧
      keyedSession setup eventId step again lastAgain base =
        keyedSession setup eventId step scratch lastEvent base ∧
      ∀ required, requiredOutcome setup required again base =
        requiredOutcome setup required scratch base := by
  by_cases hkey : scratch.key = ""
  · refine ⟨{ scratch with key := keyed setup scratch base }, _, if_pos hkey, ?_, fun required => ?_⟩
    · unfold keyedSession
      rw [if_pos hkey, keyed_twice]
      split
      · exact withSessionEvent_twice ⟨.fieldAdd step _, lastEvent⟩
      · rfl
    · unfold requiredOutcome
      rw [keyed_twice]
  · exact ⟨scratch, lastEvent, if_neg hkey, rfl, fun _ => rfl⟩

theorem repeats_fieldRequired (sound : desk.table.Sound) (payload : Dict String Json) :
    (fieldRequired setup payload).Repeats identity eventId once twice desk := by
  let required := ((payload.get? "required").map truthValue).getD false
  have hshape : fieldRequired setup payload = whileAdding (requireField setup required) := rfl
  rw [hshape]
  by_cases hsession : ∃ step scratch lastEvent, desk.config = some ⟨.fieldAdd step scratch, lastEvent⟩
  · obtain ⟨step, scratch, lastEvent, hconfig⟩ := hsession
    obtain ⟨hsound, hintake, hresult⟩ := @alone_requireField setup identity eventId once desk
      required step scratch lastEvent sound hconfig
    unfold ConfigProgram.Repeats
    rw [alone_adding hconfig]
    generalize ((requireField setup required step scratch lastEvent).alone
      (performConfig identity eventId once) desk).2 = first at hsound hintake hresult
    dsimp only
    cases houtcome : requiredOutcome setup required scratch
        (draftBaseline desk.table identity.organizationId) with
    | ok stored =>
        rw [houtcome] at hresult
        obtain ⟨hdraft, hended⟩ := hresult
        rw [alone_whileAdding fun step scratch lastEvent hother => by rw [hended] at hother; cases hother]
        unfold fields
        rw [alone_showing hdraft]
    | error failure =>
        rw [houtcome] at hresult
        obtain ⟨hdraft, hkept⟩ := hresult
        obtain ⟨again, lastAgain, hagain, hsame, houtcomes⟩ := @keyedSession_twice setup eventId step
          scratch lastEvent (draftBaseline desk.table identity.organizationId)
        rw [hagain] at hkept
        obtain ⟨-, hintakeAgain, hresultAgain⟩ := @alone_requireField setup identity eventId twice
          first required step again lastAgain hsound hkept
        rw [draftBaseline_some hdraft, houtcomes, houtcome] at hresultAgain
        rw [alone_adding hkept]
        unfold ChatDesk.shown
        rw [hresultAgain.1, hresultAgain.2, hdraft, hkept, hintakeAgain, hsame, hagain]
  · exact repeats_idle sound fun step scratch lastEvent hconfig =>
      hsession ⟨step, scratch, lastEvent, hconfig⟩

end drafts

theorem quiet_operatorInfo (payload : Dict String Json) : (operatorInfo setup payload).Quiet :=
  quiet_withOperator fun actorId actor =>
    show ConfigProgram.Quiet (.done (operatorReply actorId actor)) from trivial

theorem quiet_callOperator (payload : Dict String Json) : (callOperator setup payload).Quiet :=
  quiet_withOperator fun actorId actor =>
    show ConfigProgram.Quiet (.done (callReply actorId actor)) from trivial

theorem alone_listOperators :
    ((listOperators setup).alone (performConfig identity eventId draw) desk).2 = desk := by
  unfold listOperators managing
  split <;> rfl

theorem repeats_editOperatorPhone (payload : Dict String Json) :
    (editOperatorPhone setup payload).Repeats identity eventId once twice desk := by
  unfold editOperatorPhone withOperator managing
  split
  · unfold ConfigProgram.Repeats getActor
    dsimp only
    simp only [Program.call_bind, Program.done_bind, Program.alone_call,
      ChatDesk.performConfig_getActor]
    cases hactor : desk.identities.getActor
        (identity.organizationId, payload.textAt "actor_id") with
    | none =>
        dsimp only
        rw [alone_listOperators, hactor]
        dsimp only
        rw [alone_listOperators]
    | some actor =>
        dsimp only
        by_cases hoperator : Role.operator ∈ actor.roles
        · simp only [if_pos hoperator, setSession, Program.call_bind, Program.done_bind,
            Program.alone_call, Program.alone_done, Program.pure_eq,
            ChatDesk.performConfig_putSession, hactor]
        · simp only [if_neg hoperator, alone_listOperators, hactor]
  · rfl

/-- The name of a request is drawn anew each time. -/
theorem repeats_addOperator : (addOperator setup identity).Repeats identity eventId once twice desk ↔
    (setup.managed = true → once.uuid4 = twice.uuid4) := by
  unfold addOperator managing
  split
  · rename_i hmanaged
    unfold ConfigProgram.Repeats uuid4 setSession
    simp only [Program.call_bind, Program.done_bind, Program.alone_call, Program.alone_done,
      Program.pure_eq, ChatDesk.performConfig_uuid4, ChatDesk.performConfig_putSession,
      ChatDesk.shown, Prod.mk.injEq, and_true, true_and, hmanaged, forall_const,
      Option.some.injEq, ConfigState.withSessionEvent, ConfigState.mk.injEq,
      ConfigFlow.addOperator.injEq]
    constructor
    · intro hsame
      exact (String.append_right_inj _).mp hsame.symm
    · rintro hsame
      rw [hsame]
  · rename_i hmanaged
    exact ⟨fun _ hother => absurd hother hmanaged, fun _ => rfl⟩

end ConfigCoordinator

/-- The button asks for the same when it is handled again, on the draft that it finds. -/
def ConfigAction.Repeatable (setup : ConfigCoordinator.Setup) (draft : PackDefinition)
    (payload : Dict String Json) (once twice : DeskDraw) : ConfigAction → Prop
  | serviceMultiSelect => False
  | serviceMove => ¬MovesOn ServiceCategory.key draft.serviceCatalog.categories
      (payload.textAt "key") (payload.textAt "direction")
  | fieldMove => ¬MovesOn FieldDefinition.key (draft.orderedFields.map FieldDefinition.face)
      (payload.textAt "key") (payload.textAt "direction")
  | evidenceToggle toggle => toggle.Settled draft.evidence
  | addOperator => setup.managed = true → once.uuid4 = twice.uuid4
  | _ => True

namespace ConfigCoordinator

theorem repeats_handleCallback_iff {setup : Setup} {identity : MessengerIdentity}
    {eventId : String} {once twice : DeskDraw} {desk : ChatDesk} (sound : desk.table.Sound)
    (action : ConfigAction) (payload : Dict String Json) :
    (handleCallback setup identity action payload).Repeats identity eventId once twice desk ↔
      action.Repeatable setup (draftBaseline desk.table identity.organizationId) payload once
        twice := by
  cases action with
  | serviceMultiSelect => exact iff_of_false (repeats_serviceMultiSelect sound) id
  | serviceMove => exact repeats_serviceMove sound payload
  | fieldMove => exact repeats_fieldMove sound payload
  | evidenceToggle toggle => exact repeats_evidenceToggle sound toggle
  | addOperator => exact repeats_addOperator
  | cancel => exact iff_of_true repeats_cancel trivial
  | menu => exact iff_of_true (repeats_of_quiet (quiet_menu _)) trivial
  | brand => exact iff_of_true (repeats_asking sound _ _) trivial
  | services => exact iff_of_true (repeats_showing sound _) trivial
  | serviceAdd => exact iff_of_true (repeats_asking sound _ _) trivial
  | serviceDelete => exact iff_of_true (repeats_serviceDelete sound payload) trivial
  | fields => exact iff_of_true (repeats_showing sound _) trivial
  | fieldAdd => exact iff_of_true (repeats_asking sound _ _) trivial
  | fieldDelete => exact iff_of_true (repeats_fieldDelete sound payload) trivial
  | fieldPrompt => exact iff_of_true (repeats_fieldPrompt sound payload) trivial
  | fieldType => exact iff_of_true (repeats_fieldType sound payload) trivial
  | fieldRequired => exact iff_of_true (repeats_fieldRequired sound payload) trivial
  | evidence => exact iff_of_true (repeats_showing sound _) trivial
  | allocation => exact iff_of_true (repeats_showing sound _) trivial
  | poolMode => exact iff_of_true (repeats_poolMode sound payload) trivial
  | roleLabels => exact iff_of_true (repeats_showing sound _) trivial
  | roleLabelEdit => exact iff_of_true (repeats_roleLabelEdit sound payload) trivial
  | versions => exact iff_of_true (repeats_of_quiet quiet_versions) trivial
  | discardDraft => exact iff_of_true (repeats_of_quiet quiet_discardDraft) trivial
  | discardDraftConfirm => exact iff_of_true (repeats_discardDraftConfirm sound) trivial
  | restoreVersion => exact iff_of_true (repeats_of_quiet (quiet_restoreVersion payload)) trivial
  | restoreVersionConfirm =>
      exact iff_of_true (repeats_restoreVersionConfirm sound payload) trivial
  | preview => exact iff_of_true (repeats_of_quiet quiet_preview) trivial
  | publish => exact iff_of_true (repeats_publish sound) trivial
  | listOperators => exact iff_of_true (repeats_of_quiet quiet_listOperators) trivial
  | operatorInfo =>
      exact iff_of_true (repeats_of_quiet (quiet_operatorInfo payload)) trivial
  | callOperator =>
      exact iff_of_true (repeats_of_quiet (quiet_callOperator payload)) trivial
  | editOperatorPhone => exact iff_of_true (repeats_editOperatorPhone payload) trivial
  | delOperator => exact iff_of_true (repeats_of_quiet (quiet_delOperator payload)) trivial
  | delOperatorConfirm =>
      exact iff_of_true (repeats_of_quiet (quiet_delOperatorConfirm payload)) trivial
  | ownerRoles => exact iff_of_true (repeats_of_quiet (quiet_ownerRoles _)) trivial
  | ownerAddOperator => exact iff_of_true (repeats_of_quiet (quiet_grantOwnerRole _)) trivial
  | ownerAddMaster => exact iff_of_true (repeats_of_quiet (quiet_grantOwnerRole _)) trivial
  | ownerNano => exact iff_of_true (repeats_of_quiet quiet_ownerNano) trivial

end ConfigCoordinator
end DispatchCore.Messaging
