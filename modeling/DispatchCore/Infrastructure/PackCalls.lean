import DispatchCore.Infrastructure.PackPinning

/-! A pack transaction on its own, from its first statement to its last. -/
namespace DispatchCore.Infrastructure

open DispatchCore.Library DispatchCore.Domain DispatchCore.Packs

/-- The table, and the place of its next row. -/
structure PackTable where
  rows : PackRows
  serial : Nat

def PackTable.recheck (table : PackTable) (organizationId : String) (candidate : Option Nat) :
    Option (Nat × PackRow) :=
  PackWorld.recheck ⟨table.rows, table.serial, []⟩ organizationId candidate

def PackTransaction.alone (table : PackTable) :
    PackTransaction → Except PackFailure PackReply × PackTable
  | returned reply => (.ok reply, table)
  | raised failure => (.error failure, table)
  | select look => (look table.rows).alone table
  | selectDraft organizationId resume =>
      (resume (table.rows.find fun row => row.isDraft organizationId)).alone table
  | awaitDraft organizationId candidate resume =>
      (resume (table.recheck organizationId candidate)).alone table
  | insert row inserted conflict =>
      if table.rows.Admits row then
        (.ok inserted, ⟨table.rows.set table.serial row, table.serial + 1⟩)
      else
        conflict.alone table
  | commit change reply => (.ok reply, ⟨change table.rows, table.serial⟩)

structure PackTable.Sound (table : PackTable) : Prop where
  rows : table.rows.Sound
  placed : ∀ place row, table.rows.get? place = some row → place < table.serial

namespace PackRows

variable {rows : PackRows} {organizationId : String} {place : Nat} {row : PackRow}

/-- A lookup finds the draft there is. -/
theorem Sound.find_draft (sound : rows.Sound) (found : rows.get? place = some row)
    (draft : row.isDraft organizationId) :
    rows.find (fun row => row.isDraft organizationId) = some (place, row) := by
  obtain ⟨entry, hentry⟩ : ∃ entry, rows.find (fun row => row.isDraft organizationId) = some entry :=
    find_isSome found draft
  obtain ⟨hstored, hdraft⟩ := find_some hentry
  have hplace := sound.oneDraft organizationId entry.1 place entry.2 row hstored found hdraft draft
  rw [hplace, found] at hstored
  cases hstored
  rw [hentry, ← hplace]

theorem Sound.find_active (sound : rows.Sound) (found : rows.get? place = some row)
    (active : row.isActive organizationId) :
    rows.find (fun row => row.isActive organizationId) = some (place, row) := by
  obtain ⟨entry, hentry⟩ : ∃ entry, rows.find (fun row => row.isActive organizationId) = some entry :=
    find_isSome found active
  obtain ⟨hstored, hactive⟩ := find_some hentry
  have hplace := sound.oneActive organizationId entry.1 place entry.2 row hstored found hactive active
  rw [hplace, found] at hstored
  cases hstored
  rw [hentry, ← hplace]

/-- A publication makes the draft active. -/
theorem get?_activate (stored : rows.get? place = some row) (drafted : row.isDraft organizationId) :
    (PostgresPackStore.activate organizationId row.version rows).get? place =
      some { row with state := .active } := by
  have hpassive : ¬row.isActive organizationId := fun hactive => by
    have hstate := hactive.2.symm.trans drafted.2
    contradiction
  unfold PostgresPackStore.activate
  rw [get?_update, get?_update, stored, Option.map_some, Option.map_some, if_neg hpassive,
    if_pos ⟨drafted.1, rfl⟩]

/-- A table with no draft admits the next version as one. -/
theorem admits_next (missing : rows.find (fun row => row.isDraft organizationId) = none)
    (definition : PackDefinition) :
    rows.Admits ⟨organizationId, PostgresPackStore.nextVersion rows organizationId, .draft,
      definition⟩ := by
  intro entry hentry horganization
  have hstored : rows.get? entry.1 = some entry.2 := (Dict.get?_eq_some ..).mpr hentry
  have hbelow := (nextVersion_le_iff PostgresPackStore.nextVersion_pos).mp (Nat.le_refl _)
    entry.1 entry.2 hstored horganization
  refine ⟨Nat.ne_of_lt hbelow, fun hdrafts => ?_, fun hactives => ?_⟩
  · exact find_none missing hstored ⟨horganization, hdrafts.1⟩
  · have hstate := hactives.2
    contradiction

end PackRows

namespace PackTable

section transactions

variable {table : PackTable} {organizationId : String}

theorem alone_returned {reply : PackReply} :
    (PackTransaction.returned reply).alone table = (.ok reply, table) := rfl

theorem alone_raised {failure : PackFailure} :
    (PackTransaction.raised failure).alone table = (.error failure, table) := rfl

theorem alone_select {look : PackRows → PackTransaction} :
    (PackTransaction.select look).alone table = (look table.rows).alone table := rfl

theorem alone_selectDraft {resume : Option (Nat × PackRow) → PackTransaction} :
    (PackTransaction.selectDraft organizationId resume).alone table =
      (resume (table.rows.find fun row => row.isDraft organizationId)).alone table := rfl

theorem alone_insert {row : PackRow} {inserted : PackReply} {conflict : PackTransaction} :
    (PackTransaction.insert row inserted conflict).alone table =
      if table.rows.Admits row then
        (.ok inserted, ⟨table.rows.set table.serial row, table.serial + 1⟩)
      else conflict.alone table := rfl

theorem alone_commit {change : PackRows → PackRows} {reply : PackReply} :
    (PackTransaction.commit change reply).alone table =
      (.ok reply, ⟨change table.rows, table.serial⟩) := rfl

end transactions

variable {table : PackTable} {organizationId : String} {definition seed : PackDefinition}

/-- The revision clients see. -/
def activeRevision (table : PackTable) (organizationId : String) : Option PackRevision :=
  PostgresPackStore.activeRevision table.rows organizationId

def draft (table : PackTable) (organizationId : String) : Option PackDefinition :=
  PostgresPackStore.draft table.rows organizationId

theorem draft_eq_some (sound : table.Sound) :
    table.draft organizationId = some definition ↔ ∃ place row,
      table.rows.get? place = some row ∧ row.isDraft organizationId ∧ row.definition = definition := by
  unfold draft PostgresPackStore.draft
  rw [Option.map_eq_some_iff]
  constructor
  · rintro ⟨entry, hentry, hdefinition⟩
    obtain ⟨hstored, hdraft⟩ := PackRows.find_some hentry
    exact ⟨entry.1, entry.2, hstored, hdraft, hdefinition⟩
  · rintro ⟨place, row, hstored, hdraft, hdefinition⟩
    exact ⟨(place, row), sound.rows.find_draft hstored hdraft, hdefinition⟩

theorem draft_of_stored (sound : table.Sound) {place : Nat} {row : PackRow}
    (stored : table.rows.get? place = some row) (drafted : row.isDraft organizationId) :
    table.draft organizationId = some row.definition :=
  (draft_eq_some sound).mpr ⟨place, row, stored, drafted, rfl⟩

theorem draft_eq_none : table.draft organizationId = none ↔
    table.rows.find (fun row => row.isDraft organizationId) = none := by
  unfold draft PostgresPackStore.draft
  exact Option.map_eq_none_iff

theorem Sound.vacant (sound : table.Sound) : table.rows.get? table.serial = none := by
  cases hrow : table.rows.get? table.serial with
  | none => rfl
  | some row =>
      have hplaced := sound.placed _ row hrow
      omega

theorem Sound.written (sound : table.Sound) {rows : PackRows} {serial place : Nat}
    (change : PackChange table.rows place rows) (bound : place < serial)
    (grows : table.serial ≤ serial) : Sound ⟨rows, serial⟩ := by
  refine ⟨change.sound sound.rows, fun other row hrow => ?_⟩
  rcases change.placed hrow with rfl | ⟨old, hold⟩
  · exact bound
  · have hplaced := sound.placed other old hold
    show other < serial
    omega

/-- What a change of drafts leaves active. -/
theorem activeRevision_congr {later : PackTable} (after : later.Sound)
    (same : ∀ place row, row.isActive organizationId →
      (later.rows.get? place = some row ↔ table.rows.get? place = some row)) :
    later.activeRevision organizationId = table.activeRevision organizationId := by
  unfold activeRevision PostgresPackStore.activeRevision
  cases hbefore : table.rows.find fun row => row.isActive organizationId with
  | some entry =>
      obtain ⟨hstored, hactive⟩ := PackRows.find_some hbefore
      rw [after.rows.find_active ((same entry.1 entry.2 hactive).mpr hstored) hactive]
  | none =>
      cases hlater : later.rows.find fun row => row.isActive organizationId with
      | none => rfl
      | some entry =>
          obtain ⟨hstored, hactive⟩ := PackRows.find_some hlater
          exact absurd hactive
            (PackRows.find_none hbefore ((same entry.1 entry.2 hactive).mp hstored))

theorem alone_updateDraft (sound : table.Sound)
    (present : table.draft organizationId = some seed) :
    ∃ later, (PostgresPackStore.updateDraft organizationId definition).alone table =
        (.ok .updated, later) ∧ later.Sound ∧ later.draft organizationId = some definition ∧
      later.activeRevision organizationId = table.activeRevision organizationId := by
  obtain ⟨place, row, hstored, hdraft, rfl⟩ := (draft_eq_some sound).mp present
  have hchange := PostgresPackStore.change_updateDraft definition hstored hdraft.2
  have hsound : Sound ⟨table.rows.set place { row with definition := definition }, table.serial⟩ :=
    sound.written hchange (sound.placed place row hstored) (Nat.le_refl _)
  refine ⟨_, ?_, hsound, ?_, activeRevision_congr hsound fun other second hactive => ?_⟩
  · simp only [PostgresPackStore.updateDraft, alone_selectDraft, alone_commit,
      sound.rows.find_draft hstored hdraft]
  · exact (draft_eq_some hsound).mpr
      ⟨place, { row with definition := definition }, Dict.get?_set_self .., hdraft, rfl⟩
  · show (table.rows.set place _).get? other = _ ↔ _
    rw [Dict.get?_set]
    split
    · rename_i hplace
      rw [hplace, hstored]
      constructor
      · intro hsame
        cases hsame
        have hstate := hactive.2.symm.trans hdraft.2
        contradiction
      · intro hsame
        cases hsame
        have hstate := hactive.2.symm.trans hdraft.2
        contradiction
    · rfl

theorem alone_updateDraft_none (missing : table.draft organizationId = none) :
    (PostgresPackStore.updateDraft organizationId definition).alone table =
      (.error (.failure (.notFound
        s!"no draft pack for organization {Text.repr organizationId}")), table) := by
  simp only [PostgresPackStore.updateDraft, alone_selectDraft, draft_eq_none.mp missing]
  rfl

theorem alone_ensureDraft_some (present : table.draft organizationId = some definition) :
    (PostgresPackStore.ensureDraft organizationId seed).alone table =
      (.ok (.definition definition), table) := by
  unfold draft PostgresPackStore.draft at present
  obtain ⟨entry, hentry, rfl⟩ := Option.map_eq_some_iff.mp present
  simp only [PostgresPackStore.ensureDraft, alone_selectDraft, alone_returned, hentry]

theorem alone_ensureDraft_none (sound : table.Sound) (missing : table.draft organizationId = none) :
    ∃ later, (PostgresPackStore.ensureDraft organizationId seed).alone table =
        (.ok (.definition seed), later) ∧ later.Sound ∧
      later.draft organizationId = some seed ∧
      later.activeRevision organizationId = table.activeRevision organizationId := by
  have hnone := draft_eq_none.mp missing
  have hadmits := PackRows.admits_next hnone seed
  let row : PackRow :=
    ⟨organizationId, PostgresPackStore.nextVersion table.rows organizationId, .draft, seed⟩
  have hchange : PackChange table.rows table.serial (table.rows.set table.serial row) :=
    .insert sound.vacant hadmits (.inl ⟨rfl, PostgresPackStore.nextVersion_pos⟩)
  have hsound : Sound ⟨table.rows.set table.serial row, table.serial + 1⟩ :=
    sound.written hchange (Nat.lt_succ_self _) (Nat.le_succ _)
  refine ⟨_, ?_, hsound, ?_, activeRevision_congr hsound fun other second hactive => ?_⟩
  · simp only [PostgresPackStore.ensureDraft, alone_selectDraft, alone_select, alone_insert, hnone,
      if_pos hadmits]
    rfl
  · exact (draft_eq_some hsound).mpr
      ⟨table.serial, row, Dict.get?_set_self .., ⟨rfl, rfl⟩, rfl⟩
  · show (table.rows.set table.serial row).get? other = _ ↔ _
    rw [Dict.get?_set]
    split
    · rename_i hplace
      rw [hplace, sound.vacant]
      constructor
      · intro hsame
        cases hsame
        have hstate : PackState.draft = .active := hactive.2
        contradiction
      · intro hsame
        contradiction
    · rfl

/-- No draft is left where the change takes the draft away. -/
theorem draft_none_of_change (sound : table.Sound) {later : PackTable} {touched : Nat}
    {row : PackRow} (after : later.Sound) (change : PackChange table.rows touched later.rows)
    (drafted : table.rows.get? touched = some row ∧ row.isDraft organizationId)
    (gone : ∀ left, later.rows.get? touched = some left → ¬left.isDraft organizationId) :
    later.draft organizationId = none := by
  by_contra hpresent
  obtain ⟨definition, hdefinition⟩ := Option.ne_none_iff_exists'.mp hpresent
  obtain ⟨place, found, hfound, hdraft, -⟩ := (draft_eq_some after).mp hdefinition
  have hplace : place ≠ touched := by
    rintro rfl
    exact gone found hfound hdraft
  rcases change.origin hfound with ⟨old, hold, hevolves⟩ | ⟨hnone, _, _, _⟩
  · exact hplace (sound.rows.oneDraft organizationId place touched old row hold drafted.1
      (hevolves.draft hdraft) drafted.2)
  · rcases change.placed hfound with hsame | ⟨old, hold⟩
    · exact hplace hsame
    · rw [hnone] at hold
      cases hold

theorem alone_discardDraft (sound : table.Sound) :
    ((PostgresPackStore.discardDraft organizationId).alone table).2.draft organizationId = none := by
  cases hdraft : table.rows.find fun row => row.isDraft organizationId with
  | none =>
      simp only [PostgresPackStore.discardDraft, alone_selectDraft, alone_returned, hdraft]
      exact draft_eq_none.mpr hdraft
  | some entry =>
      obtain ⟨hstored, hentry⟩ := PackRows.find_some hdraft
      have hchange : PackChange table.rows entry.1 (table.rows.erase entry.1) :=
        .remove hstored hentry.2
      have hsound : Sound ⟨table.rows.erase entry.1, table.serial⟩ :=
        sound.written hchange (sound.placed _ _ hstored) (Nat.le_refl _)
      simp only [PostgresPackStore.discardDraft, alone_selectDraft, alone_commit, hdraft]
      apply draft_none_of_change sound hsound hchange ⟨hstored, hentry⟩
      intro left hleft
      change (table.rows.erase entry.1).get? entry.1 = some left at hleft
      rw [Dict.get?_erase_self] at hleft
      cases hleft

theorem alone_discardDraft_none (missing : table.draft organizationId = none) :
    (PostgresPackStore.discardDraft organizationId).alone table =
      (.ok (.discarded false), table) := by
  simp only [PostgresPackStore.discardDraft, alone_selectDraft, alone_returned,
    draft_eq_none.mp missing]

/-- A publication that does something leaves no draft. -/
theorem alone_publishDraft (sound : table.Sound) :
    let later := ((PostgresPackStore.publishDraft organizationId).alone table).2
    later = table ∨ later.draft organizationId = none := by
  cases hdraft : table.rows.find fun row => row.isDraft organizationId with
  | none =>
      simp only [PostgresPackStore.publishDraft, alone_selectDraft, hdraft]
      exact .inl rfl
  | some entry =>
      obtain ⟨hstored, hentry⟩ := PackRows.find_some hdraft
      simp only [PostgresPackStore.publishDraft, alone_selectDraft, hdraft]
      cases validateDefinition entry.2.definition with
      | error failure => exact .inl rfl
      | ok _ =>
          right
          have hchange := PostgresPackStore.change_activate sound.rows hstored hentry
          have hsound : Sound ⟨PostgresPackStore.activate organizationId entry.2.version table.rows,
              table.serial⟩ :=
            sound.written hchange (sound.placed _ _ hstored) (Nat.le_refl _)
          apply draft_none_of_change sound hsound hchange ⟨hstored, hentry⟩
          intro left hleft hdrafted
          cases (PackRows.get?_activate hstored hentry).symm.trans hleft
          have hstate : PackState.active = .draft := hdrafted.2
          contradiction

theorem alone_publishDraft_none (missing : table.draft organizationId = none) :
    (PostgresPackStore.publishDraft organizationId).alone table =
      (.error (.failure (.notFound
        s!"no draft pack for organization {Text.repr organizationId}")), table) := by
  simp only [PostgresPackStore.publishDraft, alone_selectDraft, draft_eq_none.mp missing]
  rfl

theorem alone_restoreAsDraft_missing {version : Int}
    (missing : PostgresPackStore.revision table.rows organizationId version = none) :
    (PostgresPackStore.restoreAsDraft organizationId version).alone table =
      (.error (.failure (.notFound (s!"pack version {version} was not found for " ++
        s!"organization {Text.repr organizationId}"))), table) := by
  simp only [PostgresPackStore.restoreAsDraft, alone_select, alone_raised, missing]

/-- A version that was published is found again, with its definition. -/
theorem revision_of_change {later : PackTable} {touched : Nat} {version : Int}
    {source : PackRevision} (after : later.Sound)
    (change : PackChange table.rows touched later.rows)
    (found : PostgresPackStore.revision table.rows organizationId version = some source) :
    ∃ again, PostgresPackStore.revision later.rows organizationId version = some again ∧
      again.definition = source.definition := by
  obtain ⟨entry, hentry, rfl⟩ := Option.map_eq_some_iff.mp found
  obtain ⟨hstored, hpublished, rfl⟩ := PackRows.find_some hentry
  rcases change.forward hstored hpublished with hkept | ⟨-, harchived, -⟩
  · exact ⟨_, after.rows.revision hkept hpublished, rfl⟩
  · have hpast : PackRow.isPublished { entry.2 with state := .archived } organizationId :=
      ⟨hpublished.1, .inr rfl⟩
    have hagain := after.rows.revision harchived hpast
    exact ⟨_, hagain, rfl⟩

theorem alone_restoreAsDraft (sound : table.Sound) {version : Int} {source : PackRevision}
    (found : PostgresPackStore.revision table.rows organizationId version = some source) :
    ∃ drafted later, (PostgresPackStore.restoreAsDraft organizationId version).alone table =
        (.ok (.version drafted), later) ∧ later.Sound ∧
      (∃ place, later.rows.get? place =
        some ⟨organizationId, drafted, .draft, source.definition⟩) ∧
      ∃ again, PostgresPackStore.revision later.rows organizationId version = some again ∧
        again.definition = source.definition := by
  cases hdraft : table.rows.find fun row => row.isDraft organizationId with
  | none =>
      have hadmits := PackRows.admits_next hdraft source.definition
      let row : PackRow := ⟨organizationId,
        PostgresPackStore.nextVersion table.rows organizationId, .draft, source.definition⟩
      have hchange : PackChange table.rows table.serial (table.rows.set table.serial row) :=
        .insert sound.vacant hadmits (.inl ⟨rfl, PostgresPackStore.nextVersion_pos⟩)
      have hsound : Sound ⟨table.rows.set table.serial row, table.serial + 1⟩ :=
        sound.written hchange (Nat.lt_succ_self _) (Nat.le_succ _)
      refine ⟨row.version, _, ?_, hsound, ⟨table.serial, Dict.get?_set_self ..⟩,
        revision_of_change hsound hchange found⟩
      simp only [PostgresPackStore.restoreAsDraft, alone_select, alone_selectDraft, alone_insert,
        found, hdraft, if_pos hadmits]
      rfl
  | some entry =>
      obtain ⟨hstored, hentry⟩ := PackRows.find_some hdraft
      have hchange := PostgresPackStore.change_overwrite source.definition sound.rows hstored hentry
      have hsound : Sound ⟨table.rows.update
          (fun other => other.organizationId = organizationId ∧ other.version = entry.2.version)
          fun other => { other with definition := source.definition }, table.serial⟩ :=
        sound.written hchange (sound.placed _ _ hstored) (Nat.le_refl _)
      refine ⟨entry.2.version, _, ?_, hsound, ⟨entry.1, ?_⟩, revision_of_change hsound hchange found⟩
      · simp only [PostgresPackStore.restoreAsDraft, alone_select, alone_selectDraft, alone_commit,
          found, hdraft]
      · show (table.rows.update _ _).get? entry.1 = _
        rw [PackRows.get?_update, hstored, Option.map_some, if_pos ⟨hentry.1, rfl⟩, ← hentry.1,
          ← hentry.2]

/-- A draft that passes the check is published, and becomes what clients see. -/
theorem alone_publishDraft_valid (sound : table.Sound) {place : Nat} {row : PackRow}
    (stored : table.rows.get? place = some row) (drafted : row.isDraft organizationId)
    (valid : validateDefinition row.definition = .ok ()) :
    ∃ later, (PostgresPackStore.publishDraft organizationId).alone table =
        (.ok (.version row.version), later) ∧
      later.activeRevision organizationId = some ⟨row.version, .active, row.definition⟩ := by
  have hchange := PostgresPackStore.change_activate sound.rows stored drafted
  have hsound : Sound ⟨PostgresPackStore.activate organizationId row.version table.rows,
      table.serial⟩ :=
    sound.written hchange (sound.placed _ _ stored) (Nat.le_refl _)
  have hstored := PackRows.get?_activate stored drafted
  refine ⟨⟨PostgresPackStore.activate organizationId row.version table.rows, table.serial⟩, ?_, ?_⟩
  · simp only [PostgresPackStore.publishDraft, alone_selectDraft, alone_commit,
      sound.rows.find_draft stored drafted, valid]
  · unfold activeRevision PostgresPackStore.activeRevision
    rw [hsound.rows.find_active hstored ⟨drafted.1, rfl⟩]
    rfl

end PackTable
end DispatchCore.Infrastructure
