import DispatchCore.Infrastructure.PackPinning
import DispatchCore.Infrastructure.PackCalls
import DispatchCore.Packs.ConfigEdits

/-! Configurator sessions at work on one draft.  Each edit reads the whole draft, and stores
a whole definition with a call of its own; a session edits one thing after the other. -/
namespace DispatchCore.Messaging

open DispatchCore.Library DispatchCore.Domain DispatchCore.Packs DispatchCore.Infrastructure

/-- How far an edit is.  `_ensure_draft` looks for the draft, then for the active revision,
then has a draft made of what it found. -/
inductive EditStage
  | idle
  | absent
  | seeding (seed : PackDefinition)
  | holding (draft updated : PackDefinition)

structure Editor where
  edits : List ConfigEdit
  stage : EditStage

/-- `acknowledged` holds the edits that were answered, in the order of their last calls. -/
structure EditorWorld where
  table : PackTable
  editors : List Editor
  acknowledged : List ConfigEdit

namespace Editor

variable (unicode : Unicode)

/-- An edit that raises stays to be delivered again; one that stores nothing is answered. -/
def received (edit : ConfigEdit) (rest : List ConfigEdit) (draft : PackDefinition) :
    Editor × List ConfigEdit :=
  match edit.outcome unicode draft with
  | .error _ => (⟨edit :: rest, .idle⟩, [])
  | .ok none => (⟨rest, .idle⟩, [edit])
  | .ok (some updated) => (⟨edit :: rest, .holding draft updated⟩, [])

/-- The next call of an editor. -/
def turn (organizationId : String) (table : PackTable) (editor : Editor) :
    Editor × PackTable × List ConfigEdit :=
  match editor.edits with
  | [] => (editor, table, [])
  | edit :: rest =>
      match editor.stage with
      | .idle =>
          match table.draft organizationId with
          | some draft =>
              let (next, answered) := received unicode edit rest draft
              (next, table, answered)
          | none => (⟨edit :: rest, .absent⟩, table, [])
      | .absent =>
          let active := (table.activeRevision organizationId).map fun found => found.definition
          (⟨edit :: rest, .seeding (active.getD blankDefinition)⟩, table, [])
      | .seeding seed =>
          match (PostgresPackStore.ensureDraft organizationId seed).alone table with
          | (.ok (.definition draft), later) =>
              let (next, answered) := received unicode edit rest draft
              (next, later, answered)
          | (_, later) => (⟨edit :: rest, .idle⟩, later, [])
      | .holding _ updated =>
          match (PostgresPackStore.updateDraft organizationId updated).alone table with
          | (.ok _, later) => (⟨rest, .idle⟩, later, [edit])
          | (.error _, later) => (⟨edit :: rest, .idle⟩, later, [])

end Editor

namespace EditorWorld

variable (unicode : Unicode) (organizationId : String)

def start (table : PackTable) (sequences : List (List ConfigEdit)) : EditorWorld :=
  ⟨table, sequences.map fun edits => ⟨edits, .idle⟩, []⟩

def advance (world : EditorWorld) (index : Nat) : EditorWorld :=
  match world.editors[index]? with
  | none => world
  | some editor =>
      let (next, table, answered) := editor.turn unicode organizationId world.table
      ⟨table, world.editors.set index next, world.acknowledged ++ answered⟩

def run (world : EditorWorld) (schedule : List Nat) : EditorWorld :=
  schedule.foldl (advance unicode organizationId) world

end EditorWorld

/-- The draft, or what `_ensure_draft` makes it of. -/
def draftBaseline (table : PackTable) (organizationId : String) : PackDefinition :=
  (table.draft organizationId).getD
    (((table.activeRevision organizationId).map fun found => found.definition).getD blankDefinition)

/-- The draft is what the acknowledged edits make of the first one in some order. -/
def EditsSerial (unicode : Unicode) (organizationId : String) (initial : PackTable)
    (world : EditorWorld) : Prop :=
  ∃ order : List ConfigEdit, order.Perm world.acknowledged ∧
    draftBaseline world.table organizationId =
      order.foldl (fun draft edit => edit.apply unicode draft)
        (draftBaseline initial organizationId)

/-- An update to come finds the draft that its edit has read. -/
def EditorWorld.Undisturbed (organizationId : String) (world : EditorWorld) (index : Nat) : Prop :=
  match world.editors[index]? with
  | some ⟨_ :: _, .holding draft _⟩ => world.table.draft organizationId = some draft
  | _ => True

instance (organizationId : String) (world : EditorWorld) (index : Nat) :
    Decidable (world.Undisturbed organizationId index) := by
  unfold EditorWorld.Undisturbed
  split <;> infer_instance

/-- Every update of a run finds the draft that its edit has read. -/
def EditorWorld.UndisturbedRun (unicode : Unicode) (organizationId : String) :
    EditorWorld → List Nat → Prop
  | _, [] => True
  | world, index :: rest => world.Undisturbed organizationId index ∧
      UndisturbedRun unicode organizationId (world.advance unicode organizationId index) rest

instance EditorWorld.decidableUndisturbedRun (unicode : Unicode) (organizationId : String) :
    ∀ (world : EditorWorld) (schedule : List Nat),
      Decidable (UndisturbedRun unicode organizationId world schedule)
  | _, [] => instDecidableTrue
  | world, index :: rest =>
      @instDecidableAnd _ _ inferInstance
        (decidableUndisturbedRun unicode organizationId (world.advance unicode organizationId index)
          rest)

/-! ### One call -/

section call

variable {unicode : Unicode} {organizationId : String} {initial : PackTable}

/-- What an editor has in hand fits what it was made of. -/
def Editor.Fit (unicode : Unicode) (organizationId : String) (initial : PackTable)
    (editor : Editor) : Prop :=
  match editor.stage with
  | .idle => True
  | .absent => True
  | .seeding seed => seed = ((initial.activeRevision organizationId).map
      fun found => found.definition).getD blankDefinition
  | .holding draft updated => ∀ edit rest, editor.edits = edit :: rest →
      edit.outcome unicode draft = .ok (some updated)

/-- The acknowledged edits one after the other, and what every editor goes on with. -/
structure EditorWorld.Serial (unicode : Unicode) (organizationId : String) (initial : PackTable)
    (world : EditorWorld) : Prop where
  sound : world.table.Sound
  active : world.table.activeRevision organizationId = initial.activeRevision organizationId
  fit : ∀ (index : Nat) (editor : Editor), world.editors[index]? = some editor →
    editor.Fit unicode organizationId initial
  folded : draftBaseline world.table organizationId =
    world.acknowledged.foldl (fun draft edit => edit.apply unicode draft)
      (draftBaseline initial organizationId)

theorem draftBaseline_some {table : PackTable} {draft : PackDefinition}
    (present : table.draft organizationId = some draft) :
    draftBaseline table organizationId = draft := by
  unfold draftBaseline
  rw [present]
  rfl

theorem draftBaseline_none {table : PackTable} (missing : table.draft organizationId = none) :
    draftBaseline table organizationId = ((table.activeRevision organizationId).map
      fun found => found.definition).getD blankDefinition := by
  unfold draftBaseline
  rw [missing]
  rfl

theorem Editor.received_fit (edit : ConfigEdit) (rest : List ConfigEdit) (draft : PackDefinition) :
    (received unicode edit rest draft).1.Fit unicode organizationId initial := by
  unfold received
  cases houtcome : edit.outcome unicode draft with
  | error failure => trivial
  | ok stored =>
      cases stored with
      | none => trivial
      | some updated =>
          intro other others hsame
          cases hsame
          exact houtcome

/-- Reading a draft answers only an edit that leaves it as it is. -/
theorem Editor.received_folded (edit : ConfigEdit) (rest : List ConfigEdit)
    (draft : PackDefinition) :
    (received unicode edit rest draft).2.foldl (fun draft edit => edit.apply unicode draft) draft =
      draft := by
  unfold received
  cases houtcome : edit.outcome unicode draft with
  | error failure => rfl
  | ok stored =>
      cases stored with
      | none => exact ConfigEdit.apply_of_shown houtcome
      | some updated => rfl

/-- What one undisturbed call does: the editor stays fit, and the draft becomes what the
edits answered by the call make of it. -/
theorem Editor.turn_serial {table : PackTable} {editor : Editor} (sound : table.Sound)
    (active : table.activeRevision organizationId = initial.activeRevision organizationId)
    (fit : editor.Fit unicode organizationId initial)
    (undisturbed : ∀ draft updated, editor.edits ≠ [] → editor.stage = .holding draft updated →
      table.draft organizationId = some draft) :
    let result := editor.turn unicode organizationId table
    result.1.Fit unicode organizationId initial ∧ result.2.1.Sound ∧
      result.2.1.activeRevision organizationId = initial.activeRevision organizationId ∧
      draftBaseline result.2.1 organizationId =
        result.2.2.foldl (fun draft edit => edit.apply unicode draft)
          (draftBaseline table organizationId) := by
  obtain ⟨edits, stage⟩ := editor
  unfold Editor.turn
  cases edits with
  | nil => exact ⟨fit, sound, active, rfl⟩
  | cons edit rest =>
      cases stage with
      | idle =>
          dsimp only
          cases hdraft : table.draft organizationId with
          | none => exact ⟨trivial, sound, active, rfl⟩
          | some draft =>
              refine ⟨received_fit edit rest draft, sound, active, ?_⟩
              rw [draftBaseline_some hdraft]
              exact (received_folded edit rest draft).symm
      | absent =>
          refine ⟨?_, sound, active, rfl⟩
          show _ = _
          rw [active]
      | seeding seed =>
          dsimp only
          cases hdraft : table.draft organizationId with
          | some draft =>
              rw [PackTable.alone_ensureDraft_some hdraft]
              refine ⟨received_fit edit rest draft, sound, active, ?_⟩
              rw [draftBaseline_some hdraft]
              exact (received_folded edit rest draft).symm
          | none =>
              obtain ⟨later, hcall, hsound, hlater, hkept⟩ :=
                @PackTable.alone_ensureDraft_none _ _ seed sound hdraft
              rw [hcall]
              refine ⟨received_fit edit rest seed, hsound, hkept.trans active, ?_⟩
              have hseed : seed = draftBaseline table organizationId := by
                rw [draftBaseline_none hdraft, active]
                exact fit
              rw [draftBaseline_some hlater, ← hseed]
              exact (received_folded edit rest seed).symm
      | holding draft updated =>
          dsimp only
          have hdraft := undisturbed draft updated (List.cons_ne_nil _ _) rfl
          obtain ⟨later, hcall, hsound, hlater, hkept⟩ :=
            @PackTable.alone_updateDraft _ _ updated _ sound hdraft
          rw [hcall]
          refine ⟨trivial, hsound, hkept.trans active, ?_⟩
          rw [draftBaseline_some hlater, draftBaseline_some hdraft]
          exact (ConfigEdit.apply_of_stored (fit edit rest rfl)).symm

end call

/-! ### Runs -/

namespace EditorWorld

variable {unicode : Unicode} {organizationId : String} {initial : PackTable} {world : EditorWorld}

theorem Serial.advance (serial : world.Serial unicode organizationId initial) {index : Nat}
    (undisturbed : world.Undisturbed organizationId index) :
    (world.advance unicode organizationId index).Serial unicode organizationId initial := by
  unfold EditorWorld.advance
  cases hindex : world.editors[index]? with
  | none => exact serial
  | some editor =>
      obtain ⟨hfit, hsound, hactive, hfolded⟩ := Editor.turn_serial serial.sound serial.active
        (serial.fit index editor hindex) fun draft updated hedits hstage => by
          unfold Undisturbed at undisturbed
          rw [hindex] at undisturbed
          obtain ⟨edits, stage⟩ := editor
          cases hstage
          cases edits with
          | nil => exact absurd rfl hedits
          | cons edit rest => exact undisturbed
      refine ⟨hsound, hactive, fun other found hother => ?_, ?_⟩
      · rw [List.getElem?_set] at hother
        split at hother
        · split at hother
          · cases hother
            exact hfit
          · cases hother
        · exact serial.fit other found hother
      · rw [List.foldl_append, ← serial.folded]
        exact hfolded

theorem serial_start (sound : initial.Sound) (sequences : List (List ConfigEdit)) :
    (start initial sequences).Serial unicode organizationId initial := by
  refine ⟨sound, rfl, fun index editor hindex => ?_, rfl⟩
  obtain ⟨edits, _, rfl⟩ := List.mem_map.mp (List.mem_of_getElem? hindex)
  trivial

theorem Serial.run (serial : world.Serial unicode organizationId initial) {schedule : List Nat}
    (undisturbed : UndisturbedRun unicode organizationId world schedule) :
    ∀ before, before <+: schedule →
      (world.run unicode organizationId before).Serial unicode organizationId initial := by
  induction schedule generalizing world with
  | nil =>
      intro before hprefix
      rw [List.prefix_nil.mp hprefix]
      exact serial
  | cons index rest ih =>
      intro before hprefix
      cases before with
      | nil => exact serial
      | cons first others =>
          obtain ⟨rfl, hrest⟩ := List.cons_prefix_cons.mp hprefix
          exact ih (serial.advance undisturbed.1) undisturbed.2 others hrest

end EditorWorld

/-- Wherever the pack transactions have led. -/
def reachedTable (actions : List PackAction) : PackTable :=
  ⟨(PackWorld.after actions).rows, (PackWorld.after actions).serial⟩

theorem sound_reachedTable (actions : List PackAction) : (reachedTable actions).Sound :=
  ⟨(PackWorld.consistent_after actions).sound, (PackWorld.consistent_after actions).placed⟩

theorem undisturbed_edits_serial (unicode : Unicode) (organizationId : String)
    (actions : List PackAction) (sequences : List (List ConfigEdit)) (schedule : List Nat)
    (undisturbed : EditorWorld.UndisturbedRun unicode organizationId
      (.start (reachedTable actions) sequences) schedule) :
    ∀ before, before <+: schedule →
      EditsSerial unicode organizationId (reachedTable actions)
        ((EditorWorld.start (reachedTable actions) sequences).run unicode organizationId before) := by
  intro before hprefix
  have hserial := (EditorWorld.serial_start (sound_reachedTable actions) sequences).run undisturbed
    before hprefix
  exact ⟨_, .refl _, hserial.folded⟩

/-- A published pack, and a draft of it. -/
def openDraft : List PackAction :=
  [.begin "org" (.bootstrapActive smallDefinition), .advance 0, .advance 0,
    .begin "org" (.ensureDraft smallDefinition), .advance 1, .advance 1, .advance 1, .advance 1]

/-- The owner switches multiple selection in Telegram, and required comments in MAX. -/
def twoMessengers : List (List ConfigEdit) := [[.serviceMultiSelect], [.evidenceToggle .comment]]

/-- Texts of ASCII letters in lower case are what they are folded to. -/
def plainUnicode : Unicode := ⟨id, id⟩

theorem undisturbed_edits_serial_in_turn :
    EditorWorld.UndisturbedRun plainUnicode "org" (.start (reachedTable openDraft) twoMessengers)
        [0, 0, 1, 1] ∧
      EditsSerial plainUnicode "org" (reachedTable openDraft)
        ((EditorWorld.start (reachedTable openDraft) twoMessengers).run plainUnicode "org"
          [0, 0, 1, 1]) := by
  have hquiet : EditorWorld.UndisturbedRun plainUnicode "org"
      (.start (reachedTable openDraft) twoMessengers) [0, 0, 1, 1] := by
    decide
  exact ⟨hquiet, undisturbed_edits_serial plainUnicode "org" openDraft twoMessengers [0, 0, 1, 1]
    hquiet _ (List.prefix_refl _)⟩

/-- Both sessions read the draft before either stores it. -/
theorem overlapping_edit_lost :
    ¬EditsSerial plainUnicode "org" (reachedTable openDraft)
      ((EditorWorld.start (reachedTable openDraft) twoMessengers).run plainUnicode "org"
        [0, 1, 0, 1]) := by
  rintro ⟨order, hperm, hdraft⟩
  have hacknowledged : ((EditorWorld.start (reachedTable openDraft) twoMessengers).run plainUnicode
      "org" [0, 1, 0, 1]).acknowledged = [.serviceMultiSelect, .evidenceToggle .comment] := by
    decide
  rw [hacknowledged] at hperm
  obtain ⟨first, second, rfl⟩ := List.length_eq_two.mp hperm.length_eq
  have hfirst := hperm.subset (List.mem_cons_self ..)
  have hsecond := hperm.subset (List.mem_cons_of_mem _ (List.mem_cons_self ..))
  simp only [List.mem_cons, List.not_mem_nil, or_false] at hfirst hsecond
  rcases hfirst with rfl | rfl <;> rcases hsecond with rfl | rfl <;> revert hdraft <;> decide

end DispatchCore.Messaging
