import DispatchCore.Infrastructure.PackRevisions
import Mathlib.Data.List.Induction

/-! Pack transactions in flight: their statements interleave under read committed, and a
draft is locked from the statement that finds it to the commit. -/
namespace DispatchCore.Infrastructure

open DispatchCore.Library DispatchCore.Domain DispatchCore.Packs

inductive PackCall
  | ensureDraft (seed : PackDefinition)
  | updateDraft (definition : PackDefinition)
  | discardDraft
  | restoreAsDraft (version : Int)
  | publishDraft
  | bootstrapActive (seed : PackDefinition)

def PackCall.start (organizationId : String) : PackCall → PackTransaction
  | ensureDraft seed => PostgresPackStore.ensureDraft organizationId seed
  | updateDraft definition => PostgresPackStore.updateDraft organizationId definition
  | discardDraft => PostgresPackStore.discardDraft organizationId
  | restoreAsDraft version => PostgresPackStore.restoreAsDraft organizationId version
  | publishDraft => PostgresPackStore.publishDraft organizationId
  | bootstrapActive seed => PostgresPackStore.bootstrapActive organizationId seed

def PackTransaction.finished : PackTransaction → Bool
  | returned _ => true
  | raised _ => true
  | _ => false

/-- A transaction in flight, and the draft it has locked. -/
structure PackSession where
  organizationId : String
  call : PackCall
  held : Option (Nat × PackRow)
  transaction : PackTransaction

def PackSession.locks (session : PackSession) (place : Nat) : Bool :=
  !session.transaction.finished && session.held.any fun entry => entry.1 = place

/-- `serial` is the place of the next row. -/
structure PackWorld where
  rows : PackRows
  serial : Nat
  sessions : List PackSession

inductive PackAction
  | begin (organizationId : String) (call : PackCall)
  | advance (index : Nat)

namespace PackWorld

def empty : PackWorld := ⟨.empty, 0, []⟩

def locked (world : PackWorld) (place : Nat) : Bool :=
  world.sessions.any fun session => session.locks place

/-- What a candidate is after the wait: the row as it is now, if it is still the draft. -/
def recheck (world : PackWorld) (organizationId : String) (candidate : Option Nat) :
    Option (Nat × PackRow) := do
  let place ← candidate
  let row ← world.rows.get? place
  if row.isDraft organizationId then some (place, row) else none

/-- One statement of one session. -/
def statement (world : PackWorld) (session : PackSession) : PackSession × PackRows × Nat :=
  match session.transaction with
  | .returned _ | .raised _ => (session, world.rows, world.serial)
  | .select look => ({ session with transaction := look world.rows }, world.rows, world.serial)
  | .selectDraft organizationId resume =>
      let candidate := (world.rows.find fun row => row.isDraft organizationId).map Prod.fst
      ({ session with transaction := .awaitDraft organizationId candidate resume }, world.rows,
        world.serial)
  | .awaitDraft organizationId candidate resume =>
      if candidate.any world.locked then
        (session, world.rows, world.serial)
      else
        let existing := world.recheck organizationId candidate
        ({ session with held := existing, transaction := resume existing }, world.rows,
          world.serial)
  | .insert row inserted conflict =>
      if world.rows.Admits row then
        ({ session with transaction := .returned inserted }, world.rows.set world.serial row,
          world.serial + 1)
      else
        ({ session with transaction := conflict }, world.rows, world.serial)
  | .commit change reply =>
      ({ session with transaction := .returned reply }, change world.rows, world.serial)

def step (world : PackWorld) : PackAction → PackWorld
  | .begin organizationId call =>
      { world with
        sessions := world.sessions ++ [⟨organizationId, call, none, call.start organizationId⟩] }
  | .advance index =>
      match world.sessions[index]? with
      | none => world
      | some session =>
          let (next, rows, serial) := world.statement session
          ⟨rows, serial, world.sessions.set index next⟩

def run (world : PackWorld) (actions : List PackAction) : PackWorld := actions.foldl step world

def after (actions : List PackAction) : PackWorld := empty.run actions

end PackWorld

/-! ### What a transaction may still do -/

/-- A transaction writes only rows it may write: new ones of a fit shape, or the draft it
has locked. -/
def PackTransaction.Lawful : Option (Nat × PackRow) → PackTransaction → Prop
  | _, returned _ => True
  | _, raised _ => True
  | held, select look => ∀ rows, Lawful held (look rows)
  | held, selectDraft organizationId resume => held = none ∧ ∀ existing,
      (∀ entry ∈ existing, entry.2.isDraft organizationId) → Lawful existing (resume existing)
  | held, awaitDraft organizationId _ resume => held = none ∧ ∀ existing,
      (∀ entry ∈ existing, entry.2.isDraft organizationId) → Lawful existing (resume existing)
  | held, insert row _ conflict => held = none ∧ conflict.finished ∧
      ((row.state = .draft ∧ 1 ≤ row.version) ∨ (row.state = .active ∧ row.version = 1))
  | held, commit change _ => ∃ entry, held = some entry ∧ ∀ rows : PackRows, rows.Sound →
      rows.get? entry.1 = some entry.2 → PackChange rows entry.1 (change rows)

namespace PostgresPackStore

variable {rows : PackRows} {organizationId : String} {place : Nat} {row : PackRow}

theorem nextVersion_pos : 1 ≤ nextVersion rows organizationId := by
  unfold nextVersion
  omega

theorem change_updateDraft (definition : PackDefinition) (found : rows.get? place = some row)
    (draft : row.state = .draft) :
    PackChange rows place (rows.set place { row with definition := definition }) :=
  .rewrite definition found draft fun _ => Dict.get?_set ..

/-- The version of a locked draft finds the draft. -/
theorem change_overwrite (definition : PackDefinition) (sound : rows.Sound)
    (found : rows.get? place = some row) (draft : row.isDraft organizationId) :
    PackChange rows place (rows.update
      (fun other => other.organizationId = organizationId ∧ other.version = row.version)
      fun other => { other with definition := definition }) := by
  refine .rewrite definition found draft.2 fun other => ?_
  rw [PackRows.get?_update]
  by_cases hplace : other = place
  · rw [if_pos hplace, hplace, found, Option.map_some, if_pos ⟨draft.1, rfl⟩]
  · rw [if_neg hplace]
    cases hother : rows.get? other with
    | none => rfl
    | some second =>
        rw [Option.map_some, if_neg]
        rintro ⟨horganization, hversion⟩
        exact hplace (sound.keyed other place second row hother found
          (horganization.trans draft.1.symm) hversion)

theorem change_activate (sound : rows.Sound) (found : rows.get? place = some row)
    (draft : row.isDraft organizationId) :
    PackChange rows place (activate organizationId row.version rows) := by
  refine .publish found draft.2 fun other => ?_
  unfold activate
  rw [PackRows.get?_update, PackRows.get?_update, draft.1]
  by_cases hplace : other = place
  · have hpassive : ¬row.isActive organizationId := fun hactive => by
      have hstate := hactive.2.symm.trans draft.2
      contradiction
    rw [if_pos hplace, hplace, found, Option.map_some, Option.map_some, if_neg hpassive,
      if_pos ⟨draft.1, rfl⟩, draft.1]
  · rw [if_neg hplace]
    cases hother : rows.get? other with
    | none => rfl
    | some second =>
        have hkey : second.organizationId = organizationId → second.version ≠ row.version :=
          fun horganization hversion => hplace (sound.keyed other place second row hother found
            (horganization.trans draft.1.symm) hversion)
        rw [Option.map_some, Option.map_some, if_neg]
        rintro ⟨horganization, hversion⟩
        by_cases hactive : second.isActive organizationId
        · rw [if_pos hactive] at horganization hversion
          exact hkey horganization hversion
        · rw [if_neg hactive] at horganization hversion
          exact hkey horganization hversion

theorem lawful_insertDraft (definition : PackDefinition) (reply : PackReply) :
    (PackTransaction.insert ⟨organizationId, nextVersion rows organizationId, .draft, definition⟩
      reply (.raised .uniqueViolation)).Lawful none :=
  ⟨rfl, rfl, .inl ⟨rfl, nextVersion_pos⟩⟩

theorem lawful_ensureDraft (seed : PackDefinition) : (ensureDraft organizationId seed).Lawful none := by
  refine ⟨rfl, fun existing _ => ?_⟩
  cases existing with
  | none => exact fun rows => lawful_insertDraft seed _
  | some entry => trivial

theorem lawful_updateDraft (definition : PackDefinition) :
    (updateDraft organizationId definition).Lawful none := by
  refine ⟨rfl, fun existing drafted => ?_⟩
  cases existing with
  | none => trivial
  | some entry =>
      exact ⟨entry, rfl, fun rows _ found =>
        change_updateDraft definition found (drafted entry rfl).2⟩

theorem lawful_discardDraft : (discardDraft organizationId).Lawful none := by
  refine ⟨rfl, fun existing drafted => ?_⟩
  cases existing with
  | none => trivial
  | some entry => exact ⟨entry, rfl, fun rows _ found => .remove found (drafted entry rfl).2⟩

theorem lawful_restoreAsDraft (version : Int) :
    (restoreAsDraft organizationId version).Lawful none := by
  intro rows
  dsimp only
  cases revision rows organizationId version with
  | none => trivial
  | some source =>
      refine ⟨rfl, fun existing drafted => ?_⟩
      cases existing with
      | none => exact fun rows => lawful_insertDraft source.definition _
      | some entry =>
          exact ⟨entry, rfl, fun rows sound found =>
            change_overwrite source.definition sound found (drafted entry rfl)⟩

theorem lawful_publishDraft : (publishDraft organizationId).Lawful none := by
  refine ⟨rfl, fun existing drafted => ?_⟩
  cases existing with
  | none => trivial
  | some entry =>
      dsimp only
      cases validateDefinition entry.2.definition with
      | error failure => trivial
      | ok _ =>
          exact ⟨entry, rfl, fun rows sound found =>
            change_activate sound found (drafted entry rfl)⟩

theorem lawful_bootstrapActive (seed : PackDefinition) :
    (bootstrapActive organizationId seed).Lawful none := by
  intro rows
  dsimp only
  split
  · trivial
  · exact ⟨rfl, rfl, .inr ⟨rfl, rfl⟩⟩

end PostgresPackStore

theorem PackCall.start_lawful (organizationId : String) (call : PackCall) :
    (call.start organizationId).Lawful none := by
  cases call with
  | ensureDraft seed => exact PostgresPackStore.lawful_ensureDraft seed
  | updateDraft definition => exact PostgresPackStore.lawful_updateDraft definition
  | discardDraft => exact PostgresPackStore.lawful_discardDraft
  | restoreAsDraft version => exact PostgresPackStore.lawful_restoreAsDraft version
  | publishDraft => exact PostgresPackStore.lawful_publishDraft
  | bootstrapActive seed => exact PostgresPackStore.lawful_bootstrapActive seed

/-! ### One statement -/

/-- Every transaction in flight is lawful, and has a lock of its own on the draft it holds. -/
structure PackWorld.Consistent (world : PackWorld) : Prop where
  sound : world.rows.Sound
  placed : ∀ place row, world.rows.get? place = some row → place < world.serial
  lawful : ∀ (index : Nat) (session : PackSession), world.sessions[index]? = some session →
    session.transaction.Lawful session.held
  guarded : ∀ (index : Nat) (session : PackSession), world.sessions[index]? = some session →
    session.transaction.finished = false → ∀ entry ∈ session.held,
      world.rows.get? entry.1 = some entry.2 ∧ entry.2.state = .draft
  exclusive : ∀ (left right : Nat) (first second : PackSession), world.sessions[left]? = some first →
    world.sessions[right]? = some second → ∀ place, first.locks place → second.locks place →
    left = right

/-- A statement that leaves the rows alone, or the one that writes and commits. -/
inductive PackTurn (world : PackWorld) (session : PackSession) :
    PackSession × PackRows × Nat → Prop
  | quiet {next : PackSession} (lawful : next.transaction.Lawful next.held)
      (guarded : next.transaction.finished = false → ∀ entry ∈ next.held,
        world.rows.get? entry.1 = some entry.2 ∧ entry.2.state = .draft)
      (locks : ∀ place, next.locks place → session.locks place ∨ world.locked place = false) :
      PackTurn world session (next, world.rows, world.serial)
  | insert {row : PackRow} {inserted : PackReply} {conflict : PackTransaction}
      (ready : session.transaction = .insert row inserted conflict)
      (admitted : world.rows.Admits row)
      (lawful : PackChange world.rows world.serial (world.rows.set world.serial row)) :
      PackTurn world session ({ session with transaction := .returned inserted },
        world.rows.set world.serial row, world.serial + 1)
  | commit {entry : Nat × PackRow} {change : PackRows → PackRows} {reply : PackReply}
      (ready : session.transaction = .commit change reply) (held : session.held = some entry)
      (lawful : PackChange world.rows entry.1 (change world.rows)) :
      PackTurn world session ({ session with transaction := .returned reply },
        change world.rows, world.serial)

namespace PackWorld

variable {world : PackWorld} {session : PackSession} {index : Nat}

theorem mem_recheck {organizationId : String} {candidate : Option Nat} {entry : Nat × PackRow}
    (rechecked : entry ∈ world.recheck organizationId candidate) :
    candidate = some entry.1 ∧ world.rows.get? entry.1 = some entry.2 ∧
      entry.2.isDraft organizationId := by
  unfold PackWorld.recheck at rechecked
  cases candidate with
  | none => contradiction
  | some place =>
      cases hrow : world.rows.get? place with
      | none => simp [hrow] at rechecked
      | some row =>
          simp only [hrow, Option.bind_eq_bind, Option.bind_some, Option.mem_def,
            Option.ite_none_right_eq_some, Option.some.injEq] at rechecked
          obtain ⟨hdraft, rfl⟩ := rechecked
          exact ⟨rfl, hrow, hdraft⟩

theorem Consistent.turn (consistent : world.Consistent)
    (inFlight : world.sessions[index]? = some session) :
    PackTurn world session (world.statement session) := by
  have hlawful := consistent.lawful index session inFlight
  have hguarded := consistent.guarded index session inFlight
  obtain ⟨organizationId, call, held, transaction⟩ := session
  cases transaction with
  | returned reply => exact .quiet hlawful hguarded fun place hlocks => .inl hlocks
  | raised failure => exact .quiet hlawful hguarded fun place hlocks => .inl hlocks
  | select look =>
      refine .quiet (hlawful world.rows) (fun _ => hguarded rfl) fun place hlocks => .inl ?_
      unfold PackSession.locks at hlocks ⊢
      simp only [Bool.and_eq_true] at hlocks ⊢
      exact ⟨rfl, hlocks.2⟩
  | selectDraft organizationId resume =>
      exact .quiet hlawful (fun _ => hguarded rfl) fun place hlocks => .inl hlocks
  | awaitDraft organizationId candidate resume =>
      unfold PackWorld.statement
      dsimp only
      split
      · exact .quiet hlawful hguarded fun place hlocks => .inl hlocks
      · rename_i hfree
        have hexisting : ∀ entry ∈ world.recheck organizationId candidate,
            candidate = some entry.1 ∧ world.rows.get? entry.1 = some entry.2 ∧
              entry.2.isDraft organizationId := fun entry => mem_recheck
        refine .quiet (hlawful.2 _ fun entry hentry => (hexisting entry hentry).2.2)
          (fun _ entry hentry => ⟨(hexisting entry hentry).2.1, (hexisting entry hentry).2.2.2⟩)
          fun place hlocks => .inr ?_
        unfold PackSession.locks at hlocks
        simp only [Bool.and_eq_true, Option.any_eq_true, decide_eq_true_eq] at hlocks
        obtain ⟨_, entry, hentry, rfl⟩ := hlocks
        rw [(hexisting entry hentry).1] at hfree
        simpa using hfree
  | insert row inserted conflict =>
      obtain ⟨_, hfinished, hshape⟩ := hlawful
      unfold PackWorld.statement
      dsimp only
      split
      · rename_i hadmitted
        refine .insert rfl hadmitted (.insert ?_ hadmitted hshape)
        cases hrow : world.rows.get? world.serial with
        | none => rfl
        | some row =>
            have hplaced := consistent.placed _ row hrow
            omega
      · refine .quiet ?_ (fun hopen => ?_) fun place hlocks => ?_
        · dsimp only
          cases conflict <;> trivial
        · dsimp only at hopen
          rw [hfinished] at hopen
          contradiction
        · unfold PackSession.locks at hlocks
          dsimp only at hlocks
          rw [hfinished] at hlocks
          contradiction
  | commit change reply =>
      obtain ⟨entry, rfl, hchange⟩ := hlawful
      exact .commit rfl rfl (hchange world.rows consistent.sound (hguarded rfl entry rfl).1)

/-! ### Runs -/

theorem of_set {next found : PackSession} {other : Nat}
    (h : (world.sessions.set index next)[other]? = some found) :
    (other = index ∧ found = next) ∨ (other ≠ index ∧ world.sessions[other]? = some found) := by
  rw [List.getElem?_set] at h
  split at h
  · rename_i hindex
    split at h
    · cases h
      exact .inl ⟨hindex.symm, rfl⟩
    · cases h
  · rename_i hindex
    exact .inr ⟨fun hsame => hindex hsame.symm, h⟩

theorem not_locks_of_finished {place : Nat} (finished : session.transaction.finished = true) :
    session.locks place = false := by
  unfold PackSession.locks
  rw [finished]
  rfl

theorem locks_of_held {entry : Nat × PackRow} (opened : session.transaction.finished = false)
    (held : session.held = some entry) : session.locks entry.1 = true := by
  unfold PackSession.locks
  simp [opened, held]

theorem locked_of_locks {place : Nat} (inFlight : world.sessions[index]? = some session)
    (locks : session.locks place = true) : world.locked place = true :=
  List.any_eq_true.mpr ⟨session, List.mem_of_getElem? inFlight, locks⟩

theorem Consistent.begin (consistent : world.Consistent) (organizationId : String)
    (call : PackCall) : (world.step (.begin organizationId call)).Consistent := by
  let fresh : PackSession := ⟨organizationId, call, none, call.start organizationId⟩
  have hsession : ∀ {other : Nat} {session : PackSession},
      (world.sessions ++ [fresh])[other]? = some session →
        world.sessions[other]? = some session ∨ session = fresh := by
    intro other session hother
    rw [List.getElem?_append] at hother
    split at hother
    · exact .inl hother
    · exact .inr (List.mem_singleton.mp (List.mem_of_getElem? hother))
  have hlocks : ∀ place, fresh.locks place = false := fun place => by
    unfold PackSession.locks
    simp [fresh]
  refine ⟨consistent.sound, consistent.placed, fun other session hother => ?_,
    fun other session hother hopen => ?_, fun left right first second hleft hright place hfirst
      hsecond => ?_⟩
  · rcases hsession hother with hold | rfl
    · exact consistent.lawful other session hold
    · exact call.start_lawful organizationId
  · rcases hsession hother with hold | rfl
    · exact consistent.guarded other session hold hopen
    · intro entry hentry
      cases hentry
  · rcases hsession hleft with hfirstOld | rfl
    · rcases hsession hright with hsecondOld | rfl
      · exact consistent.exclusive left right first second hfirstOld hsecondOld place hfirst hsecond
      · rw [hlocks] at hsecond
        contradiction
    · rw [hlocks] at hfirst
      contradiction

/-- A write at a place no other session has locked, by a session that it finishes. -/
theorem Consistent.written (consistent : world.Consistent) {rows : PackRows}
    {serial touched : Nat} {next : PackSession}
    (change : PackChange world.rows touched rows) (finished : next.transaction.finished = true)
    (lawful : next.transaction.Lawful next.held) (bound : touched < serial)
    (grows : world.serial ≤ serial)
    (own : ∀ other session, other ≠ index → world.sessions[other]? = some session →
      session.locks touched = false) :
    PackWorld.Consistent ⟨rows, serial, world.sessions.set index next⟩ := by
  refine ⟨change.sound consistent.sound, fun place row hrow => ?_, fun other session hother => ?_,
    fun other session hother hopen entry hentry => ?_,
    fun left right first second hleft hright place hfirst hsecond => ?_⟩
  · rcases change.placed hrow with rfl | ⟨old, hold⟩
    · exact bound
    · have hplace := consistent.placed place old hold
      show place < serial
      omega
  · rcases of_set hother with ⟨_, rfl⟩ | ⟨_, hold⟩
    · exact lawful
    · exact consistent.lawful other session hold
  · rcases of_set hother with ⟨_, rfl⟩ | ⟨hne, hold⟩
    · rw [finished] at hopen
      contradiction
    · obtain ⟨hrow, hdraft⟩ := consistent.guarded other session hold hopen entry hentry
      refine ⟨change.elsewhere ?_ hrow hdraft, hdraft⟩
      intro hplace
      have hlocks := locks_of_held hopen hentry
      rw [hplace, own other session hne hold] at hlocks
      contradiction
  · rcases of_set hleft with ⟨_, rfl⟩ | ⟨_, hfirstOld⟩
    · rw [not_locks_of_finished finished] at hfirst
      contradiction
    · rcases of_set hright with ⟨_, rfl⟩ | ⟨_, hsecondOld⟩
      · rw [not_locks_of_finished finished] at hsecond
        contradiction
      · exact consistent.exclusive left right first second hfirstOld hsecondOld place hfirst hsecond

theorem Consistent.advance (consistent : world.Consistent) (index : Nat) :
    (world.step (.advance index)).Consistent := by
  cases hindex : world.sessions[index]? with
  | none =>
      rw [show world.step (.advance index) = world by simp only [PackWorld.step, hindex]]
      exact consistent
  | some session =>
      have hstep : world.step (.advance index) = ⟨(world.statement session).2.1,
          (world.statement session).2.2, world.sessions.set index (world.statement session).1⟩ := by
        simp only [PackWorld.step, hindex]
      have hturn := consistent.turn hindex
      rw [hstep]
      generalize world.statement session = result at hturn
      cases hturn with
      | @quiet next lawful guarded locks =>
          refine ⟨consistent.sound, consistent.placed, fun other found hother => ?_,
            fun other found hother hopen => ?_,
            fun left right first second hleft hright place hfirst hsecond => ?_⟩
          · rcases of_set hother with ⟨_, rfl⟩ | ⟨_, hold⟩
            · exact lawful
            · exact consistent.lawful other found hold
          · rcases of_set hother with ⟨_, rfl⟩ | ⟨_, hold⟩
            · exact guarded hopen
            · exact consistent.guarded other found hold hopen
          · have hown : ∀ other second, world.sessions[other]? = some second →
                second.locks place = true → next.locks place = true → other = index := by
              intro other second hsecondOld hsecond hnext
              rcases locks place hnext with hbefore | hfree
              · exact consistent.exclusive other index second session hsecondOld hindex place
                  hsecond hbefore
              · rw [locked_of_locks hsecondOld hsecond] at hfree
                contradiction
            rcases of_set hleft with ⟨hleftIndex, rfl⟩ | ⟨_, hfirstOld⟩
            · rcases of_set hright with ⟨hrightIndex, _⟩ | ⟨_, hsecondOld⟩
              · rw [hleftIndex, hrightIndex]
              · rw [hleftIndex, hown right second hsecondOld hsecond hfirst]
            · rcases of_set hright with ⟨hrightIndex, rfl⟩ | ⟨_, hsecondOld⟩
              · rw [hrightIndex, hown left first hfirstOld hfirst hsecond]
              · exact consistent.exclusive left right first second hfirstOld hsecondOld place hfirst
                  hsecond
      | insert ready admitted change =>
          refine consistent.written change rfl trivial (Nat.lt_succ_self _) (Nat.le_succ _)
            fun other found _ hold => ?_
          by_contra hlocks
          have hlocks : found.locks world.serial = true := by simpa using hlocks
          unfold PackSession.locks at hlocks
          simp only [Bool.and_eq_true, Bool.not_eq_true', Option.any_eq_true,
            decide_eq_true_eq] at hlocks
          obtain ⟨hopen, entry, hentry, hplace⟩ := hlocks
          have hrow := (consistent.guarded other found hold hopen entry hentry).1
          have hbound := consistent.placed entry.1 entry.2 hrow
          omega
      | @commit entry change reply ready held lawful =>
          have hopen : session.transaction.finished = false := by
            rw [ready]
            rfl
          have hrow := (consistent.guarded index session hindex hopen entry held).1
          refine consistent.written lawful rfl trivial (consistent.placed _ _ hrow) (Nat.le_refl _)
            fun other found hne hold => ?_
          by_contra hlocks
          exact hne (consistent.exclusive other index found session hold hindex entry.1
            (by simpa using hlocks) (locks_of_held hopen held))

theorem Consistent.step (consistent : world.Consistent) (action : PackAction) :
    (world.step action).Consistent := by
  cases action with
  | begin organizationId call => exact consistent.begin organizationId call
  | advance index => exact consistent.advance index

theorem consistent_empty : empty.Consistent := by
  refine ⟨⟨?_, ?_, ?_, ?_, ?_⟩, ?_, ?_, ?_, ?_⟩ <;> intros <;> contradiction

theorem after_concat (actions : List PackAction) (action : PackAction) :
    after (actions ++ [action]) = (after actions).step action := by
  unfold after run
  rw [List.foldl_append]
  rfl

theorem consistent_after (actions : List PackAction) : (after actions).Consistent := by
  induction actions using List.reverseRecOn with
  | nil => exact consistent_empty
  | append_singleton actions action ih =>
      rw [after_concat]
      exact ih.step action

end PackWorld

end DispatchCore.Infrastructure
