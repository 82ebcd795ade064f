import DispatchCore.Application.Submissions
import DispatchCore.Messaging.CallbackDesk
import DispatchCore.Messaging.IntakePresses

/-! The buttons of the guided flow, each pressed once and handled twice. -/
namespace DispatchCore.Messaging

open DispatchCore.Library DispatchCore.Domain DispatchCore.Packs DispatchCore.Infrastructure
  DispatchCore.Application

open ChatDesk (performIntake)

namespace IntakeCoordinator

variable {setup : Setup} {identity : MessengerIdentity} {eventId : String}
  {once twice draw : DeskDraw} {desk : ChatDesk}

/-- The session as a handler of the event stores it. -/
def storing (eventId : String) (desk : ChatDesk) (state : IntakeState) : ChatDesk :=
  { desk with intake := some (stateWithSessionEvent eventId state) }

theorem alone_attempt (result : Except Failure Reply) :
    ((Program.attempt result : IntakeProgram Reply).alone (performIntake identity eventId draw)
      desk).2 = desk := by
  cases result <;> rfl

theorem alone_finishServices (pack : PackDefinition) (state : IntakeState) :
    ((finishServices pack state).alone (performIntake identity eventId draw) desk).2 =
      match finished pack state with
      | none => desk
      | some next => storing eventId desk next := by
  unfold finishServices finished
  split
  · rfl
  · dsimp only
    cases pack.orderedFields.findIdx? fun field => ¬state.fieldValues.contains field.key with
    | none => rfl
    | some index =>
        unfold asking
        dsimp only
        cases pack.orderedFields[index]? with
        | none => rfl
        | some field => exact alone_attempt _

theorem alone_nextField (pack : PackDefinition) (state : IntakeState) (index : Nat) :
    ((nextField pack state index).alone (performIntake identity eventId draw) desk).2 =
      storing eventId desk (asking pack.orderedFields state
        (skipAnswered pack.orderedFields state.fieldValues index)) := by
  unfold nextField asking
  dsimp only
  cases pack.orderedFields[skipAnswered pack.orderedFields state.fieldValues index]? with
  | none => rfl
  | some field => exact alone_attempt _

theorem alone_answerField (unicode : Unicode) (pack : PackDefinition) (state : IntakeState)
    (field : FieldDefinition) (value : String) :
    ((answerField unicode pack state field value).alone (performIntake identity eventId draw)
      desk).2 =
      if takes unicode field value then
        storing eventId desk (asking pack.orderedFields
          { state with fieldValues := taken unicode state field value }
          (nextIndex unicode pack state field value))
      else desk := by
  unfold answerField takes nextIndex taken
  dsimp only
  by_cases hblank : value = "" ∨ value = "-"
  · simp only [if_pos hblank]
    cases field.required with
    | true => rfl
    | false => exact alone_nextField pack state _
  · simp only [if_neg hblank]
    cases hvalue : normalizeFieldValue unicode field value with
    | none =>
        dsimp only
        split
        · rfl
        · cases askField field <;> rfl
    | some normalized =>
        exact alone_nextField pack { state with
          fieldValues := state.fieldValues.set field.key normalized } _

theorem alone_fillField (unicode : Unicode) (pack : PackDefinition) (state : IntakeState)
    (text : String) :
    ((fillField unicode pack state text).alone (performIntake identity eventId draw) desk).2 =
      match filled unicode pack state (ConfigEdits.limit text 500) with
      | none => desk
      | some next => storing eventId desk next := by
  unfold fillField filled
  split
  · rfl
  · cases pack.orderedFields[state.fieldIndex.toNat]? with
    | none => rfl
    | some field =>
        dsimp only
        rw [alone_answerField]
        split <;> rfl

theorem alone_press (pack : PackDefinition) (state : IntakeState) (action : IntakeAction)
    (payload : Dict String Json) (plain : action ≠ .confirm ∧ action ≠ .cancel) :
    ((press setup identity pack state action payload).alone (performIntake identity eventId draw)
      desk).2 =
      match pressed setup.unicode pack state action payload with
      | none => desk
      | some next => storing eventId desk next := by
  cases action with
  | confirm => exact absurd rfl plain.1
  | cancel => exact absurd rfl plain.2
  | requestLocation =>
      unfold press pressed
      dsimp only
      split <;> rfl
  | typeAddress =>
      unfold press pressed
      dsimp only
      split <;> rfl
  | continueAfterMap =>
      unfold press pressed
      dsimp only
      split
      · rfl
      · split <;> rfl
  | servicesDone =>
      unfold press pressed
      dsimp only
      split
      · rfl
      · exact alone_finishServices pack state
  | fieldChoice =>
      unfold press pressed
      dsimp only
      split
      · rfl
      · exact alone_fillField _ _ _ _
  | pickService =>
      unfold press pressed
      dsimp only
      split
      · rfl
      · unfold pickService picked
        split
        · rfl
        · split
          · exact alone_finishServices _ _
          · rfl

/-! ### The session as it is stored -/

theorem withSessionEvent_eq (eventId : String) (state : IntakeState) :
    stateWithSessionEvent eventId state =
      since (if eventId = "" then state.lastEvent else some eventId) state := rfl

theorem withSessionEvent_twice (state : IntakeState) :
    stateWithSessionEvent eventId (stateWithSessionEvent eventId state) =
      stateWithSessionEvent eventId state := by
  unfold stateWithSessionEvent
  split <;> rfl

theorem withSessionEvent_inj {left right : IntakeState} (event : left.lastEvent = right.lastEvent) :
    stateWithSessionEvent eventId left = stateWithSessionEvent eventId right ↔ left = right := by
  constructor
  · intro hsame
    cases left
    cases right
    cases event
    simp only [stateWithSessionEvent, IntakeState.mk.injEq] at hsame ⊢
    simp only [hsame, and_self]
  · rintro rfl
    rfl

theorem pressed_withSessionEvent (unicode : Unicode) (pack : PackDefinition) (state : IntakeState)
    (action : IntakeAction) (payload : Dict String Json) :
    pressed unicode pack (stateWithSessionEvent eventId state) action payload =
      (pressed unicode pack state action payload).map (stateWithSessionEvent eventId) := by
  rw [withSessionEvent_eq, pressed_since]
  cases hpressed : pressed unicode pack state action payload with
  | none => rfl
  | some next =>
      rw [Option.map_some, Option.map_some, withSessionEvent_eq, (pressed_kept hpressed).2]

/-! ### The revision of a session -/

/-- The revision a session is pinned to, and the session with it. -/
def pinnedTo (table : PackTable) (organizationId : String) (state : IntakeState) :
    Option (PackRevision × IntakeState) :=
  if state.packVersion.getD 0 > 0 then
    (PostgresPackStore.revision table.rows organizationId (state.packVersion.getD 0)).map
      fun revision => (revision, state)
  else
    (table.activeRevision organizationId).map fun revision =>
      (revision, { state with packVersion := some (revision.version : Int) })

/-- The revision stands for the version that the session names. -/
def PinnedAt (table : PackTable) (organizationId : String) (revision : PackRevision)
    (state : IntakeState) : Prop :=
  state.packVersion.getD 0 > 0 ∧
    PostgresPackStore.revision table.rows organizationId (state.packVersion.getD 0) = some revision

theorem PinnedAt.pinnedTo {table : PackTable} {organizationId : String} {revision : PackRevision}
    {state : IntakeState} (pinned : PinnedAt table organizationId revision state) :
    pinnedTo table organizationId state = some (revision, state) := by
  unfold IntakeCoordinator.pinnedTo
  rw [if_pos pinned.1, pinned.2]
  rfl

theorem PinnedAt.congr {table : PackTable} {organizationId : String} {revision : PackRevision}
    {state next : IntakeState} (pinned : PinnedAt table organizationId revision state)
    (same : next.packVersion = state.packVersion) : PinnedAt table organizationId revision next := by
  unfold PinnedAt
  rw [same]
  exact pinned

/-- The active revision is found under its version. -/
theorem activeRevision_pinned {table : PackTable} {organizationId : String} {revision : PackRevision}
    (sound : table.Sound) (active : table.activeRevision organizationId = some revision) :
    0 < (revision.version : Int) ∧
      PostgresPackStore.revision table.rows organizationId revision.version = some revision := by
  have hpositive := sound.rows.activeRevision_pos revision active
  obtain ⟨entry, hentry, rfl⟩ := Option.map_eq_some_iff.mp active
  obtain ⟨hstored, hactive⟩ := PackRows.find_some hentry
  refine ⟨by omega, ?_⟩
  exact sound.rows.revision hstored ⟨hactive.1, .inl hactive.2⟩

theorem pinnedAt_of_pinnedTo {table : PackTable} {organizationId : String}
    {revision : PackRevision} {state pinned : IntakeState} (sound : table.Sound)
    (found : pinnedTo table organizationId state = some (revision, pinned)) :
    PinnedAt table organizationId revision pinned := by
  unfold pinnedTo at found
  split at found
  · rename_i hpositive
    obtain ⟨source, hsource, hsame⟩ := Option.map_eq_some_iff.mp found
    cases hsame
    exact ⟨hpositive, hsource⟩
  · obtain ⟨source, hsource, hsame⟩ := Option.map_eq_some_iff.mp found
    cases hsame
    exact activeRevision_pinned sound hsource

/-- The session before the button is looked at: it is stored when it gets its revision. -/
def kept (eventId : String) (state pinned : IntakeState) : IntakeState :=
  if state.packVersion.getD 0 > 0 then pinned else stateWithSessionEvent eventId pinned

theorem alone_packForState (state : IntakeState) :
    (packForState state).alone (performIntake identity eventId draw) desk =
      match pinnedTo desk.table identity.organizationId state with
      | none => (.ok (none, state), desk)
      | some (revision, pinned) => (.ok (some revision, pinned),
          if state.packVersion.getD 0 > 0 then desk else storing eventId desk pinned) := by
  unfold packForState pinnedTo
  dsimp only
  split
  · simp only [IntakeProgram.revision, Program.call_bind, Program.done_bind, Program.alone_call,
      ChatDesk.performIntake_revision, Program.pure_eq, Program.alone_done]
    cases PostgresPackStore.revision desk.table.rows identity.organizationId
        (state.packVersion.getD 0) <;> rfl
  · simp only [IntakeProgram.activeRevision, Program.call_bind, Program.done_bind,
      Program.alone_call, ChatDesk.performIntake_activeRevision]
    cases desk.table.activeRevision identity.organizationId <;> rfl

/-- A button that finds a session. -/
theorem alone_handleCallback {state : IntakeState} (session : desk.intake = some state)
    {action : IntakeAction} (looks : action ≠ .cancel) (payload : Dict String Json) :
    ((handleCallback setup identity action payload).alone (performIntake identity eventId draw)
      desk).2 =
      match pinnedTo desk.table identity.organizationId state with
      | none => desk
      | some (revision, pinned) =>
          ((press setup identity revision.definition pinned action payload).alone
            (performIntake identity eventId draw)
            { desk with intake := some (kept eventId state pinned) }).2 := by
  have hhere : ({ desk with intake := some state } : ChatDesk) = desk := by
    rw [← session]
  unfold handleCallback kept
  simp only [if_neg looks, IntakeProgram.getSession, Program.call_bind, Program.done_bind,
    Program.alone_call, ChatDesk.performIntake_getSession, session, Program.alone_bind,
    alone_packForState]
  cases hpinned : pinnedTo desk.table identity.organizationId state with
  | none => rfl
  | some found =>
      dsimp only
      split
      · rename_i hpositive
        unfold pinnedTo at hpinned
        rw [if_pos hpositive] at hpinned
        obtain ⟨source, -, rfl⟩ := Option.map_eq_some_iff.mp hpinned
        rw [hhere]
      · rfl

theorem alone_handleCallback_none (session : desk.intake = none) {action : IntakeAction}
    (looks : action ≠ .cancel) (payload : Dict String Json) :
    ((handleCallback setup identity action payload).alone (performIntake identity eventId draw)
      desk).2 = (start.alone (performIntake identity eventId draw) desk).2 := by
  unfold handleCallback
  simp only [if_neg looks, IntakeProgram.getSession, Program.call_bind, Program.done_bind,
    Program.alone_call, ChatDesk.performIntake_getSession, session]

/-- The session of a new application. -/
def opened (revision : PackRevision) (submissionId : String) : IntakeState :=
  { step := .phone
    fieldValues := .empty
    submissionId := some submissionId
    packVersion := some revision.version
    selected := []
    fieldIndex := 0
    addressToken := none
    addressMode := none
    serviceLocation := none
    lastEvent := none }

theorem alone_start :
    (start.alone (performIntake identity eventId draw) desk).2 =
      match desk.table.activeRevision identity.organizationId with
      | none => desk
      | some revision => storing eventId desk (opened revision draw.uuid4) := by
  unfold start
  simp only [IntakeProgram.activeRevision, Program.call_bind, Program.done_bind,
    Program.alone_call, ChatDesk.performIntake_activeRevision]
  cases desk.table.activeRevision identity.organizationId <;> rfl

/-! ### The same button again -/

/-- Handled again, the button shows what it showed after the first time. -/
def Repeats (setup : Setup) (identity : MessengerIdentity) (eventId : String)
    (once twice : DeskDraw) (action : IntakeAction) (payload : Dict String Json)
    (desk : ChatDesk) : Prop :=
  let first := ((handleCallback setup identity action payload).alone
    (performIntake identity eventId once) desk).2
  ((handleCallback setup identity action payload).alone (performIntake identity eventId twice)
    first).2.shown identity.organizationId = first.shown identity.organizationId

theorem shown_storing (organizationId : String) (left right : IntakeState) (before : ChatDesk) :
    (storing eventId before left).shown organizationId =
        (storing eventId before right).shown organizationId ↔
      stateWithSessionEvent eventId left = stateWithSessionEvent eventId right := by
  unfold ChatDesk.shown storing
  simp

/-- At the phone no button stores anything. -/
theorem alone_press_phone (pack : PackDefinition) {state : IntakeState}
    (phone : state.step = .phone) {action : IntakeAction} (looks : action ≠ .cancel)
    (payload : Dict String Json) :
    ((press setup identity pack state action payload).alone (performIntake identity eventId draw)
      desk).2 = desk := by
  cases action with
  | cancel => exact absurd rfl looks
  | confirm =>
      unfold press
      dsimp only
      rw [if_pos (by rw [phone]; decide)]
      rfl
  | _ =>
      rw [alone_press _ _ _ _ ⟨by decide, by decide⟩]
      simp [pressed, phone]

/-- A button that opens an application stores nothing after that. -/
theorem repeats_opened {first : ChatDesk} {revision : PackRevision} {submissionId : String}
    (sound : first.table.Sound)
    (active : first.table.activeRevision identity.organizationId = some revision)
    (session : first.intake = some (stateWithSessionEvent eventId (opened revision submissionId)))
    {action : IntakeAction} (looks : action ≠ .cancel) (payload : Dict String Json) :
    ((handleCallback setup identity action payload).alone (performIntake identity eventId draw)
      first).2 = first := by
  have hpinned : PinnedAt first.table identity.organizationId revision
      (stateWithSessionEvent eventId (opened revision submissionId)) :=
    activeRevision_pinned sound active
  rw [alone_handleCallback session looks, hpinned.pinnedTo]
  dsimp only
  rw [alone_press_phone]
  · unfold kept
    rw [if_pos hpinned.1, ← session]
  · rfl
  · exact looks

theorem repeats_none (sound : desk.table.Sound) (session : desk.intake = none)
    {action : IntakeAction} (looks : action ≠ .cancel) (payload : Dict String Json) :
    Repeats setup identity eventId once twice action payload desk := by
  unfold Repeats
  rw [alone_handleCallback_none session looks, alone_start]
  cases hactive : desk.table.activeRevision identity.organizationId with
  | none =>
      dsimp only
      rw [alone_handleCallback_none session looks, alone_start, hactive]
  | some revision =>
      dsimp only
      rw [@repeats_opened setup identity eventId twice (storing eventId desk _) revision
        once.uuid4 sound hactive rfl action looks]

/-- A button that finds a session at its revision. -/
theorem alone_handleCallback_pinned {held : IntakeState} {revision : PackRevision}
    (session : desk.intake = some held)
    (pinned : PinnedAt desk.table identity.organizationId revision held) {action : IntakeAction}
    (looks : action ≠ .cancel) (payload : Dict String Json) :
    ((handleCallback setup identity action payload).alone (performIntake identity eventId draw)
      desk).2 =
      ((press setup identity revision.definition held action payload).alone
        (performIntake identity eventId draw) desk).2 := by
  have hhere : ({ desk with intake := some held } : ChatDesk) = desk := by
    rw [← session]
  rw [alone_handleCallback session looks, pinned.pinnedTo]
  dsimp only
  unfold kept
  rw [if_pos pinned.1, hhere]

theorem kept_pinned {table : PackTable} {revision : PackRevision} {state pinned : IntakeState}
    (found : PinnedAt table identity.organizationId revision pinned) :
    PinnedAt table identity.organizationId revision (kept eventId state pinned) := by
  unfold kept
  split
  · exact found
  · exact found

theorem pressed_kept_none {unicode : Unicode} {pack : PackDefinition} {state pinned : IntakeState}
    {action : IntakeAction} {payload : Dict String Json}
    (none : pressed unicode pack pinned action payload = none) :
    pressed unicode pack (kept eventId state pinned) action payload = Option.none := by
  unfold kept
  split
  · exact none
  · rw [pressed_withSessionEvent, none]
    rfl

theorem repeats_plain_iff (sound : desk.table.Sound) {state pinned : IntakeState}
    {revision : PackRevision} (session : desk.intake = some state)
    (found : pinnedTo desk.table identity.organizationId state = some (revision, pinned))
    {action : IntakeAction} (plain : action ≠ .confirm ∧ action ≠ .cancel)
    (payload : Dict String Json) :
    Repeats setup identity eventId once twice action payload desk ↔
      Settles setup.unicode revision.definition pinned action payload := by
  have hpinned := pinnedAt_of_pinnedTo sound found
  unfold Repeats
  rw [alone_handleCallback session plain.2, found]
  dsimp only
  rw [alone_press _ _ _ _ plain]
  cases hpressed : pressed setup.unicode revision.definition pinned action payload with
  | none =>
      refine iff_of_true ?_ fun next hnext => by rw [hpressed] at hnext; cases hnext
      dsimp only
      rw [@alone_handleCallback_pinned setup identity eventId twice
        { desk with intake := some (kept eventId state pinned) } _ _ rfl (kept_pinned hpinned) _
        plain.2, alone_press _ _ _ _ plain, pressed_kept_none hpressed]
  | some next =>
      dsimp only
      have hnext : PinnedAt desk.table identity.organizationId revision
          (stateWithSessionEvent eventId next) := hpinned.congr (pressed_kept hpressed).1
      rw [@alone_handleCallback_pinned setup identity eventId twice
        (storing eventId { desk with intake := some (kept eventId state pinned) } next) _ _ rfl
        hnext _ plain.2, alone_press _ _ _ _ plain, pressed_withSessionEvent]
      cases hlater : pressed setup.unicode revision.definition next action payload with
      | none =>
          refine iff_of_true rfl fun other hother later hlast => ?_
          rw [hpressed] at hother
          cases hother
          rw [hlater] at hlast
          cases hlast
      | some later =>
          rw [Option.map_some]
          refine (shown_storing _ (stateWithSessionEvent eventId later) next _).trans ?_
          rw [withSessionEvent_twice, withSessionEvent_inj (pressed_kept hlater).2]
          constructor
          · intro hsame other hother last hlast
            rw [hpressed] at hother
            cases hother
            rw [hlater] at hlast
            cases hlast
            exact hsame
          · intro hsettles
            exact hsettles next hpressed later hlater

/-! ### The confirmation -/

/-- The name that a confirmation submits under. -/
def submissionName (state : IntakeState) (draw : DeskDraw) : String :=
  (truthy state.submissionId).getD draw.uuid4

theorem submissionName_ne (state : IntakeState) (draw : DeskDraw) :
    submissionName state draw ≠ "" := by
  unfold submissionName truthy
  split
  · exact draw.drawn
  · rename_i hnonempty
    cases hname : state.submissionId with
    | none => exact draw.drawn
    | some name =>
        rintro rfl
        exact hnonempty hname

/-- The session that a confirmation submits from. -/
def submitting (eventId : String) (draw : DeskDraw) (held state : IntakeState) : IntakeState :=
  match truthy state.submissionId with
  | some _ => held
  | none => stateWithSessionEvent eventId { state with submissionId := some draw.uuid4 }

theorem alone_confirm (consistent : Consistent desk.records) {pack : PackDefinition}
    {held state : IntakeState} (session : desk.intake = some held) (step : state.step = .confirm)
    (chosen : state.selected ≠ []) (payload : Dict String Json) :
    let after := ((press setup identity pack state .confirm payload).alone
      (performIntake identity eventId draw) desk).2
    after.table = desk.table ∧ after.config = desk.config ∧
      (Acceptable desk.records (submissionName state draw) (orderCreation identity pack state) →
        after.intake = none) ∧
      (¬Acceptable desk.records (submissionName state draw) (orderCreation identity pack state) →
        after.records = desk.records ∧
          after.intake = some (submitting eventId draw held state)) := by
  have hsubmit : ∀ (before : ChatDesk) orderId, before.records = desk.records →
      let after := ((submit identity pack state orderId).alone
        (performIntake identity eventId draw) before).2
      after.table = before.table ∧ after.config = before.config ∧
        (Acceptable desk.records orderId (orderCreation identity pack state) →
          after.intake = none) ∧
        (¬Acceptable desk.records orderId (orderCreation identity pack state) →
          after.records = desk.records ∧ after.intake = before.intake) := by
    intro before orderId hrecords
    have hiff := @createOrderOnce_ok_iff desk.records consistent.valid consistent.capacity
      (orderCreation identity pack state) draw.ambient orderId draw.publicNumber draw.numbered
    cases happly : (Command.createOrderOnce draw.ambient orderId
        (orderCreation identity pack state)).apply ⟨draw.publicNumber, false⟩ before.records with
    | ok records =>
        have hacceptable := hiff.mp ⟨records, by rw [← hrecords]; exact happly⟩
        unfold submit IntakeProgram.createOrderOnce IntakeProgram.clearSession
        simp only [Program.call_bind, Program.alone_call, ChatDesk.performIntake_created _ happly,
          Program.attempt_ok, Program.done_bind, ChatDesk.performIntake_clearSession,
          Program.pure_eq, Program.alone_done]
        exact ⟨trivial, trivial, fun _ => trivial, fun hnot => absurd hacceptable hnot⟩
    | error failure =>
        have hrefused : ¬Acceptable desk.records orderId (orderCreation identity pack state) := by
          intro hacceptable
          obtain ⟨records, hok⟩ := hiff.mpr hacceptable
          rw [← hrecords] at hok
          change (Command.createOrderOnce draw.ambient orderId
            (orderCreation identity pack state)).apply ⟨draw.publicNumber, false⟩ before.records =
              .ok records at hok
          rw [happly] at hok
          cases hok
        unfold submit IntakeProgram.createOrderOnce IntakeProgram.clearSession
        simp only [Program.call_bind, Program.alone_call, ChatDesk.performIntake_refused _ happly,
          Program.attempt_error, Program.raise_bind, Program.alone_raise]
        exact ⟨trivial, trivial, fun hacceptable => absurd hacceptable hrefused,
          fun _ => ⟨hrecords, trivial⟩⟩
  unfold press confirm submissionName submitting
  dsimp only
  rw [if_neg (not_not.mpr step), if_neg chosen]
  cases hname : truthy state.submissionId with
  | some name =>
      obtain ⟨htable, hconfig, htaken, hrefused⟩ := hsubmit desk name rfl
      exact ⟨htable, hconfig, htaken, fun hnot =>
        ⟨(hrefused hnot).1, (hrefused hnot).2.trans session⟩⟩
  | none =>
      exact hsubmit (storing eventId desk { state with submissionId := some draw.uuid4 })
        draw.uuid4 rfl

theorem kept_same (state pinned : IntakeState) :
    (kept eventId state pinned).step = pinned.step ∧
      (kept eventId state pinned).selected = pinned.selected ∧
      (kept eventId state pinned).submissionId = pinned.submissionId ∧
      ∀ pack, orderCreation identity pack (kept eventId state pinned) =
        orderCreation identity pack pinned := by
  unfold kept
  split <;> exact ⟨rfl, rfl, rfl, fun _ => rfl⟩

/-- The session of a refused submission is found as it was left. -/
theorem submitting_again (draw again : DeskDraw) (state pinned : IntakeState) :
    let held := submitting eventId draw (kept eventId state pinned) pinned
    held.step = pinned.step ∧ held.selected = pinned.selected ∧
      held.packVersion = pinned.packVersion ∧
      (∀ pack, orderCreation identity pack held = orderCreation identity pack pinned) ∧
      submissionName held again = submissionName pinned draw ∧
      submitting eventId again held held = held := by
  obtain ⟨hstep, hselected, hname, hcreation⟩ := @kept_same identity eventId state pinned
  unfold submitting submissionName
  cases hsubmission : truthy pinned.submissionId with
  | some name =>
      dsimp only
      rw [hname, hsubmission]
      refine ⟨hstep, hselected, ?_, hcreation, rfl, rfl⟩
      unfold kept
      split <;> rfl
  | none =>
      have hdrawn : truthy (some draw.uuid4) = some draw.uuid4 := by
        unfold truthy
        split
        · rename_i hempty
          exact absurd (Option.some.inj hempty) draw.drawn
        · rfl
      dsimp only [stateWithSessionEvent]
      rw [hdrawn]
      exact ⟨rfl, rfl, rfl, fun _ => rfl, rfl, rfl⟩

/-- What was found pinned leaves an active revision to start from. -/
theorem active_of_pinned {table : PackTable} {organizationId : String} {revision : PackRevision}
    {state : IntakeState} (sound : table.Sound)
    (pinned : PinnedAt table organizationId revision state) :
    ∃ active, table.activeRevision organizationId = some active := by
  obtain ⟨entry, hentry, -⟩ := Option.map_eq_some_iff.mp pinned.2
  obtain ⟨hstored, hpublished, -⟩ := PackRows.find_some hentry
  obtain ⟨place, row, hrow, hactive⟩ := sound.rows.led organizationId entry.1 entry.2 hstored
    hpublished
  refine ⟨row.revision, ?_⟩
  show (table.rows.find fun row => row.isActive organizationId).map _ = _
  rw [sound.rows.find_active hrow hactive]
  rfl

/-- A confirmation that has nothing to confirm. -/
theorem alone_press_idle {pack : PackDefinition} {state : IntakeState} (early : state.step ≠ .confirm)
    (payload : Dict String Json) :
    ((press setup identity pack state .confirm payload).alone (performIntake identity eventId draw)
      desk).2 = desk := by
  unfold press
  dsimp only
  rw [if_pos early]
  rfl

theorem alone_press_empty {pack : PackDefinition} {state : IntakeState} (step : state.step = .confirm)
    (empty : state.selected = []) (payload : Dict String Json) :
    (press setup identity pack state .confirm payload).alone (performIntake identity eventId draw)
      desk = start.alone (performIntake identity eventId draw) desk := by
  unfold press confirm
  dsimp only
  rw [if_neg (not_not.mpr step), if_pos empty]

theorem repeats_confirm_iff (sound : desk.table.Sound) (consistent : Consistent desk.records)
    {state pinned : IntakeState} {revision : PackRevision} (session : desk.intake = some state)
    (found : pinnedTo desk.table identity.organizationId state = some (revision, pinned))
    (payload : Dict String Json) :
    Repeats setup identity eventId once twice .confirm payload desk ↔
      ¬(pinned.step = .confirm ∧ pinned.selected ≠ [] ∧
        Acceptable desk.records (submissionName pinned once)
          (orderCreation identity revision.definition pinned)) := by
  have hlooks : IntakeAction.confirm ≠ .cancel := by decide
  have hpinned := pinnedAt_of_pinnedTo sound found
  have hkept := @kept_pinned identity eventId desk.table revision state pinned hpinned
  obtain ⟨hstep, hselected, -, -⟩ := @kept_same identity eventId state pinned
  let before : ChatDesk := { desk with intake := some (kept eventId state pinned) }
  have hagain := @alone_handleCallback_pinned setup identity eventId twice before _ _ rfl hkept
    _ hlooks payload
  unfold Repeats
  rw [alone_handleCallback session hlooks, found]
  dsimp only
  change _ = _ ↔ _
  by_cases hconfirm : pinned.step = .confirm
  · by_cases hempty : pinned.selected = []
    · refine iff_of_true ?_ fun hall => hall.2.1 hempty
      rw [alone_press_empty hconfirm hempty, alone_start]
      cases hactive : desk.table.activeRevision identity.organizationId with
      | none =>
          dsimp only
          rw [hagain, alone_press_empty (hstep.trans hconfirm) (hselected.trans hempty),
            alone_start, show before.table = desk.table from rfl, hactive]
      | some active =>
          dsimp only
          rw [@repeats_opened setup identity eventId twice (storing eventId before _) active
            once.uuid4 sound hactive rfl .confirm hlooks]
    · obtain ⟨htable, hconfig, htaken, hrefused⟩ := @alone_confirm setup identity eventId once
        before consistent revision.definition _ pinned rfl hconfirm hempty payload
      generalize ((press setup identity revision.definition pinned .confirm payload).alone
        (performIntake identity eventId once) before).2 = first at htable hconfig htaken hrefused
      by_cases hacceptable : Acceptable desk.records (submissionName pinned once)
          (orderCreation identity revision.definition pinned)
      · refine iff_of_false (fun hshown => ?_) fun hnot => hnot ⟨hconfirm, hempty, hacceptable⟩
        have hended := htaken hacceptable
        obtain ⟨active, hactive⟩ := active_of_pinned sound hpinned
        have hsame := congrArg (fun shown => shown.2.2) hshown
        change ((handleCallback setup identity .confirm payload).alone
          (performIntake identity eventId twice) first).2.intake = first.intake at hsame
        rw [alone_handleCallback_none hended hlooks, alone_start, htable,
          show before.table = desk.table from rfl, hactive, hended] at hsame
        cases hsame
      · refine iff_of_true ?_ fun hall => hacceptable hall.2.2
        obtain ⟨hrecords, hheld⟩ := hrefused hacceptable
        obtain ⟨hsubStep, hsubSelected, hsubVersion, hsubCreation, hsubName, hsubAgain⟩ :=
          @submitting_again identity eventId once twice state pinned
        have hfirst : PinnedAt first.table identity.organizationId revision
            (submitting eventId once (kept eventId state pinned) pinned) := by
          rw [htable]
          exact hpinned.congr hsubVersion
        have hconsistent : Consistent first.records := by
          rw [hrecords]
          exact consistent
        rw [alone_handleCallback_pinned hheld hfirst hlooks]
        obtain ⟨hlastTable, hlastConfig, -, hlast⟩ := @alone_confirm setup identity eventId twice
          first hconsistent revision.definition _ _ hheld (hsubStep.trans hconfirm)
          (by rw [hsubSelected]; exact hempty) payload
        rw [hrecords, hsubName, hsubCreation] at hlast
        obtain ⟨-, hlastHeld⟩ := hlast hacceptable
        unfold ChatDesk.shown
        rw [hlastTable, hlastConfig, hlastHeld, hheld, hsubAgain]
  · refine iff_of_true ?_ fun hall => hconfirm hall.1
    rw [alone_press_idle hconfirm, hagain, alone_press_idle (hstep.trans_ne hconfirm)]

end IntakeCoordinator
end DispatchCore.Messaging
