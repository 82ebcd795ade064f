import DispatchCore.Infrastructure.PackCalls
import DispatchCore.Library.Runs
import DispatchCore.Packs.IndustryPacks

/-! Published revisions and the check of a publication: a publication makes it, the
bootstrap of an organization does not. -/
namespace DispatchCore.Infrastructure

open DispatchCore.Library DispatchCore.Domain DispatchCore.Packs

open PackWorld (after)

/-- Whatever is active or archived passes the check, and so does a draft copied from it. -/
structure PackWorld.ValidPacks (world : PackWorld) : Prop where
  valid : ∀ organizationId place row, world.rows.get? place = some row →
    row.isPublished organizationId → validateDefinition row.definition = .ok ()
  copied : ∀ organizationId version source definition,
    PostgresPackStore.revision world.rows organizationId version = some source →
    PostgresPackStore.draft world.rows organizationId = some definition →
    definition = source.definition →
    ∃ drafted published, (PostgresPackStore.publishDraft organizationId).alone
        ⟨world.rows, world.serial⟩ = (.ok (.version drafted), published) ∧
      published.activeRevision organizationId = some ⟨drafted, .active, definition⟩
  restored : ∀ organizationId version source,
    PostgresPackStore.revision world.rows organizationId version = some source →
    ∃ drafted restored published, (PostgresPackStore.restoreAsDraft organizationId version).alone
        ⟨world.rows, world.serial⟩ = (.ok (.version drafted), restored) ∧
      (PostgresPackStore.publishDraft organizationId).alone restored =
        (.ok (.version drafted), published) ∧
      published.activeRevision organizationId = some ⟨drafted, .active, source.definition⟩
  /-- However the statements interleave, no publication refuses a copy of what is published. -/
  refused : ∀ (index : Nat) (session : PackSession) failure, world.sessions[index]? = some session →
    session.call = .publishDraft → session.transaction = .raised failure →
    ∀ entry ∈ session.held, ∀ organizationId place row, world.rows.get? place = some row →
      row.isPublished organizationId → entry.2.definition ≠ row.definition

/-- The seed that a bootstrap inserts with its next statement. -/
def PackWorld.installs (world : PackWorld) : PackAction → Option PackDefinition
  | .begin _ _ => none
  | .advance index =>
      match world.sessions[index]? with
      | some ⟨_, .bootstrapActive seed, _, .insert row _ _⟩ =>
          if world.rows.Admits row then some seed else none
      | _ => none

/-- Every bootstrap is seeded from the packs the program comes with. -/
def SeedsBuiltIn (actions : List PackAction) : Prop :=
  ∀ organizationId seed, PackAction.begin organizationId (.bootstrapActive seed) ∈ actions →
    ∃ packId, seedDefinition packId = .ok seed

/-! ### The seeds -/

theorem validateDefinition_seed {packId : String} {seed : PackDefinition}
    (builtIn : seedDefinition packId = .ok seed) :
    validateDefinition seed = .ok () ↔ seed ≠ municipalWork.toDefinition := by
  obtain ⟨pack, hmem, -, rfl⟩ := seedDefinition_ok.mp builtIn
  simp only [industryPacks, List.mem_cons, List.not_mem_nil, or_false] at hmem
  rcases hmem with rfl | rfl | rfl | rfl <;> decide +kernel

/-! ### What a transaction may still publish -/

/-- A transaction makes active what it has validated, or the seed of its bootstrap. -/
def PackTransaction.Cleared (organizationId : String) (call : PackCall) :
    Option (Nat × PackRow) → PackTransaction → Prop
  | _, returned _ => True
  | held, raised _ =>
      call = .publishDraft → ∀ entry ∈ held, validateDefinition entry.2.definition ≠ .ok ()
  | held, select look => ∀ rows, Cleared organizationId call held (look rows)
  | _, selectDraft _ resume => ∀ existing, (∀ entry ∈ existing, entry.2.state = .draft) →
      Cleared organizationId call existing (resume existing)
  | _, awaitDraft _ _ resume => ∀ existing, (∀ entry ∈ existing, entry.2.state = .draft) →
      Cleared organizationId call existing (resume existing)
  | held, insert row _ conflict => Cleared organizationId call held conflict ∧
      (row.state = .active → ∃ seed, call = .bootstrapActive seed) ∧
      ∀ seed, call = .bootstrapActive seed → row = ⟨organizationId, 1, .active, seed⟩
  | held, commit change _ => ∀ entry ∈ held, ∀ (rows : PackRows) row,
      rows.get? entry.1 = some entry.2 → (change rows).get? entry.1 = some row →
      row.state = .active → validateDefinition row.definition = .ok ()

namespace PostgresPackStore

variable {organizationId : String} {call : PackCall}

theorem cleared_insertDraft (unchecked : call ≠ .publishDraft)
    (other : ∀ seed, call ≠ .bootstrapActive seed) (held : Option (Nat × PackRow))
    (rows : PackRows) (definition : PackDefinition) (reply : PackReply) :
    (PackTransaction.insert ⟨organizationId, nextVersion rows organizationId, .draft, definition⟩
      reply (.raised .uniqueViolation)).Cleared organizationId call held := by
  refine ⟨fun hcall => absurd hcall unchecked, fun hactive => ?_,
    fun seed hcall => absurd hcall (other seed)⟩
  contradiction

theorem cleared_restoreAsDraft (version : Int) :
    (restoreAsDraft organizationId version).Cleared organizationId (.restoreAsDraft version)
      none := by
  intro rows
  dsimp only
  cases revision rows organizationId version with
  | none =>
      intro hcall
      cases hcall
  | some source =>
      intro existing drafted
      cases existing with
      | none =>
          intro later
          exact cleared_insertDraft (by simp) (by simp) none later source.definition _
      | some entry =>
          intro held hheld later row hstored hafter hactive
          cases hheld
          rw [PackRows.get?_update, hstored, Option.map_some] at hafter
          cases hafter
          have hstate := drafted entry rfl
          split at hactive
          · rw [hstate] at hactive
            contradiction
          · rw [hstate] at hactive
            contradiction

theorem cleared_publishDraft :
    (publishDraft organizationId).Cleared organizationId .publishDraft none := by
  intro existing drafted
  cases existing with
  | none =>
      intro _ entry hentry
      cases hentry
  | some entry =>
      dsimp only
      cases hvalid : validateDefinition entry.2.definition with
      | error failure =>
          intro _ held hheld
          cases hheld
          rw [hvalid]
          simp
      | ok _ =>
          intro held hheld rows row hstored hafter _
          cases hheld
          have hdefinition : row.definition = entry.2.definition := by
            unfold activate at hafter
            rw [PackRows.get?_update, PackRows.get?_update, hstored, Option.map_some,
              Option.map_some] at hafter
            cases hafter
            split <;> split <;> rfl
          rw [hdefinition]
          exact hvalid

theorem cleared_bootstrapActive (seed : PackDefinition) :
    (bootstrapActive organizationId seed).Cleared organizationId (.bootstrapActive seed)
      none := by
  intro rows
  dsimp only
  by_cases hthere : rows.values.any fun row => row.organizationId = organizationId
  · rw [if_pos hthere]
    trivial
  · rw [if_neg hthere]
    refine ⟨trivial, fun _ => ⟨seed, rfl⟩, fun other hcall => ?_⟩
    cases hcall
    rfl

end PostgresPackStore

theorem PackCall.start_cleared (organizationId : String) (call : PackCall) :
    (call.start organizationId).Cleared organizationId call none := by
  cases call with
  | ensureDraft seed =>
      intro existing _
      cases existing with
      | none =>
          intro rows
          exact PostgresPackStore.cleared_insertDraft (by simp) (by simp) none rows seed _
      | some entry => trivial
  | updateDraft definition =>
      intro existing drafted
      cases existing with
      | none =>
          intro hcall
          cases hcall
      | some entry =>
          intro held hheld rows row hstored hafter hactive
          cases hheld
          rw [Dict.get?_set_self] at hafter
          cases hafter
          have hstate := (drafted entry rfl).symm.trans hactive
          contradiction
  | discardDraft =>
      intro existing _
      cases existing with
      | none => trivial
      | some entry =>
          intro held hheld rows row _ hafter _
          cases hheld
          rw [Dict.get?_erase_self] at hafter
          cases hafter
  | restoreAsDraft version => exact PostgresPackStore.cleared_restoreAsDraft version
  | publishDraft => exact PostgresPackStore.cleared_publishDraft
  | bootstrapActive seed => exact PostgresPackStore.cleared_bootstrapActive seed

/-! ### One statement -/

def PackSession.Cleared (session : PackSession) : Prop :=
  session.transaction.Cleared session.organizationId session.call session.held

/-- What is published after a change was published before, or became active just there. -/
theorem PackChange.published {rows later : PackRows} {touched place : Nat} {row : PackRow}
    {organizationId : String} (change : PackChange rows touched later)
    (found : later.get? place = some row) (published : row.isPublished organizationId) :
    (place = touched ∧ row.state = .active) ∨ ∃ old, rows.get? place = some old ∧
      old.isPublished organizationId ∧ old.definition = row.definition := by
  have hdraft : row.state ≠ .draft := by
    rcases published.2 with hstate | hstate <;> rw [hstate] <;> decide
  cases change with
  | insert fresh admitted shape =>
      rw [Dict.get?_set] at found
      split at found
      · rename_i hplace
        cases found
        rcases shape with ⟨hstate, _⟩ | ⟨hstate, _⟩
        · exact absurd hstate hdraft
        · exact .inl ⟨hplace, hstate⟩
      · exact .inr ⟨row, found, published, rfl⟩
  | rewrite definition stored drafted written =>
      rw [written] at found
      split at found
      · cases found
        exact absurd drafted hdraft
      · exact .inr ⟨row, found, published, rfl⟩
  | remove stored drafted =>
      rw [Dict.get?_erase] at found
      split at found
      · cases found
      · exact .inr ⟨row, found, published, rfl⟩
  | publish stored drafted written =>
      rw [written] at found
      split at found
      · rename_i hplace
        cases found
        exact .inl ⟨hplace, rfl⟩
      · obtain ⟨old, hold, hrow⟩ := Option.map_eq_some_iff.mp found
        split at hrow
        · rename_i hactive
          subst hrow
          exact .inr ⟨old, hold, ⟨published.1, .inl hactive.2⟩, rfl⟩
        · subst hrow
          exact .inr ⟨old, hold, published, rfl⟩

namespace PackWorld

variable {world : PackWorld} {session : PackSession} {action : PackAction}

theorem statement_cleared (cleared : session.Cleared) :
    (world.statement session).1.Cleared := by
  obtain ⟨organizationId, call, held, transaction⟩ := session
  unfold PackSession.Cleared PackWorld.statement
  cases transaction with
  | returned reply => trivial
  | raised failure => exact cleared
  | select look => exact cleared world.rows
  | selectDraft name resume => exact cleared
  | awaitDraft name candidate resume =>
      dsimp only
      by_cases hlocked : candidate.any world.locked
      · rw [if_pos hlocked]
        exact cleared
      · rw [if_neg hlocked]
        exact cleared _ fun entry hentry => (mem_recheck hentry).2.2.2
  | insert row inserted conflict =>
      dsimp only
      by_cases hadmitted : world.rows.Admits row
      · rw [if_pos hadmitted]
        trivial
      · rw [if_neg hadmitted]
        exact cleared.1
  | commit change reply => trivial

/-- The state of the run: locks as they should be, and only cleared transactions in flight. -/
structure Supervised (world : PackWorld) : Prop where
  consistent : world.Consistent
  cleared : ∀ session ∈ world.sessions, session.Cleared

theorem step_advance {index : Nat} (inFlight : world.sessions[index]? = some session) :
    world.step (.advance index) = ⟨(world.statement session).2.1, (world.statement session).2.2,
      world.sessions.set index (world.statement session).1⟩ := by
  simp only [PackWorld.step, inFlight]

theorem Supervised.step (supervised : world.Supervised) (action : PackAction) :
    (world.step action).Supervised := by
  refine ⟨supervised.consistent.step action, fun session hmem => ?_⟩
  cases action with
  | begin organizationId call =>
      rcases List.mem_append.mp hmem with hold | hnew
      · exact supervised.cleared session hold
      · rw [List.mem_singleton.mp hnew]
        exact call.start_cleared organizationId
  | advance index =>
      cases hindex : world.sessions[index]? with
      | none =>
          simp only [PackWorld.step, hindex] at hmem
          exact supervised.cleared session hmem
      | some acting =>
          rw [step_advance hindex] at hmem
          rcases List.mem_or_eq_of_mem_set hmem with hold | rfl
          · exact supervised.cleared session hold
          · exact statement_cleared
              (supervised.cleared acting (List.mem_of_getElem? hindex))

/-- A publication is new in a step only if it was validated or a bootstrap installs it. -/
theorem Supervised.published_step (supervised : world.Supervised) {organizationId : String}
    {place : Nat} {row : PackRow} (found : (world.step action).rows.get? place = some row)
    (published : row.isPublished organizationId) :
    (∃ old, world.rows.get? place = some old ∧ old.isPublished organizationId ∧
        old.definition = row.definition) ∨
      validateDefinition row.definition = .ok () ∨
      world.installs action = some row.definition := by
  cases action with
  | begin name call => exact .inl ⟨row, found, published, rfl⟩
  | advance index =>
      cases hindex : world.sessions[index]? with
      | none =>
          simp only [PackWorld.step, hindex] at found
          exact .inl ⟨row, found, published, rfl⟩
      | some session =>
          have hcleared := supervised.cleared session (List.mem_of_getElem? hindex)
          have hturn := supervised.consistent.turn hindex
          rw [step_advance hindex] at found
          generalize world.statement session = result at found hturn
          cases hturn with
          | quiet lawful guarded locks => exact .inl ⟨row, found, published, rfl⟩
          | @insert inserted reply conflict ready admitted change =>
              rcases change.published found published with ⟨rfl, hactive⟩ | hold
              · have hrow : inserted = row := by
                  rw [Dict.get?_set_self] at found
                  exact Option.some.inj found
                subst hrow
                obtain ⟨name, call, held, transaction⟩ := session
                cases ready
                obtain ⟨_, hseeded, hseed⟩ := hcleared
                obtain ⟨seed, rfl⟩ := hseeded hactive
                have hrow := hseed seed rfl
                refine .inr (.inr ?_)
                simp only [PackWorld.installs, hindex, if_pos admitted]
                rw [hrow]
              · exact .inl hold
          | @commit entry change reply ready held lawful =>
              rcases lawful.published found published with ⟨rfl, hactive⟩ | hold
              · have hopen : session.transaction.finished = false := by
                  rw [ready]
                  rfl
                have hstored :=
                  (supervised.consistent.guarded index session hindex hopen entry held).1
                unfold PackSession.Cleared at hcleared
                rw [ready] at hcleared
                exact .inr (.inl (hcleared entry held world.rows row hstored found hactive))
              · exact .inl hold

/-- A seed that a bootstrap installs is published. -/
theorem Supervised.installed_step (supervised : world.Supervised) {seed : PackDefinition}
    (installs : world.installs action = some seed) :
    ∃ organizationId place row, (world.step action).rows.get? place = some row ∧
      row.isPublished organizationId ∧ row.definition = seed := by
  cases action with
  | begin name call => cases installs
  | advance index =>
      cases hindex : world.sessions[index]? with
      | none =>
          simp only [PackWorld.installs, hindex] at installs
          cases installs
      | some session =>
          have hcleared := supervised.cleared session (List.mem_of_getElem? hindex)
          obtain ⟨name, call, held, transaction⟩ := session
          cases call with
          | bootstrapActive given =>
              cases transaction with
              | insert row inserted conflict =>
                  by_cases hadmitted : world.rows.Admits row
                  · simp only [PackWorld.installs, hindex, if_pos hadmitted] at installs
                    cases installs
                    have hrow := hcleared.2.2 seed rfl
                    refine ⟨name, world.serial, row, ?_, ?_, ?_⟩
                    · simp only [PackWorld.step, hindex, PackWorld.statement, if_pos hadmitted]
                      exact Dict.get?_set_self ..
                    · rw [hrow]
                      exact ⟨rfl, .inl rfl⟩
                    · rw [hrow]
                  · simp only [PackWorld.installs, hindex, if_neg hadmitted] at installs
                    cases installs
              | _ =>
                  simp only [PackWorld.installs, hindex] at installs
                  cases installs
          | _ =>
              simp only [PackWorld.installs, hindex] at installs
              cases installs

theorem supervised_empty : empty.Supervised :=
  ⟨consistent_empty, fun session hmem => by cases hmem⟩

theorem supervised_after (actions : List PackAction) : (after actions).Supervised := by
  induction actions using List.reverseRecOn with
  | nil => exact supervised_empty
  | append_singleton actions action ih =>
      rw [after_concat]
      exact ih.step action

/-- Only a bootstrap makes something active that was not validated. -/
theorem Supervised.valid_step_iff (supervised : world.Supervised)
    (valid : ∀ organizationId place row, world.rows.get? place = some row →
      row.isPublished organizationId → validateDefinition row.definition = .ok ()) :
    (∀ organizationId place row, (world.step action).rows.get? place = some row →
        row.isPublished organizationId → validateDefinition row.definition = .ok ()) ↔
      ∀ seed, world.installs action = some seed → validateDefinition seed = .ok () := by
  constructor
  · intro hvalid seed hinstalls
    obtain ⟨organizationId, place, row, hrow, hpublished, rfl⟩ :=
      supervised.installed_step hinstalls
    exact hvalid organizationId place row hrow hpublished
  · intro hseeds organizationId place row hrow hpublished
    rcases supervised.published_step hrow hpublished with
      ⟨old, hold, hbefore, hsame⟩ | hvalidated | hinstalls
    · rw [← hsame]
      exact valid organizationId place old hold hbefore
    · exact hvalidated
    · exact hseeds _ hinstalls

theorem Supervised.table_sound (supervised : world.Supervised) :
    PackTable.Sound ⟨world.rows, world.serial⟩ :=
  ⟨supervised.consistent.sound, supervised.consistent.placed⟩

/-- What a publication refused was invalid when it was held. -/
theorem Supervised.refused (supervised : world.Supervised) {failure : PackFailure}
    {entry : Nat × PackRow} (inFlight : session ∈ world.sessions)
    (call : session.call = .publishDraft) (raised : session.transaction = .raised failure)
    (held : entry ∈ session.held) : validateDefinition entry.2.definition ≠ .ok () := by
  have hcleared := supervised.cleared session inFlight
  unfold PackSession.Cleared at hcleared
  rw [raised] at hcleared
  exact hcleared call entry held

theorem Supervised.validPacks_iff (supervised : world.Supervised) :
    world.ValidPacks ↔ ∀ organizationId place row, world.rows.get? place = some row →
      row.isPublished organizationId → validateDefinition row.definition = .ok () := by
  refine ⟨fun packs => packs.valid, fun valid => ?_⟩
  have hsource : ∀ {organizationId : String} {version : Int} {source : PackRevision},
      PostgresPackStore.revision world.rows organizationId version = some source →
        validateDefinition source.definition = .ok () := by
    intro organizationId version source hfound
    obtain ⟨entry, hentry, rfl⟩ := Option.map_eq_some_iff.mp hfound
    obtain ⟨hstored, hpublished, -⟩ := PackRows.find_some hentry
    exact valid organizationId entry.1 entry.2 hstored hpublished
  have hsound := supervised.table_sound
  constructor
  · exact valid
  · intro organizationId version source definition hfound hdraft hcopy
    obtain ⟨place, row, hstored, hdrafted, rfl⟩ := (PackTable.draft_eq_some hsound).mp hdraft
    obtain ⟨later, hpublish, hactive⟩ := PackTable.alone_publishDraft_valid hsound hstored hdrafted
      (by rw [hcopy]; exact hsource hfound)
    exact ⟨row.version, later, hpublish, hactive⟩
  · intro organizationId version source hfound
    obtain ⟨drafted, restored, hrestore, hrestored, ⟨place, hstored⟩, -⟩ :=
      PackTable.alone_restoreAsDraft hsound hfound
    obtain ⟨later, hpublish, hactive⟩ :=
      PackTable.alone_publishDraft_valid hrestored hstored ⟨rfl, rfl⟩ (hsource hfound)
    exact ⟨drafted, restored, later, hrestore, hpublish, hactive⟩
  · intro index session failure hindex hcall hraised entry hentry organizationId place row hrow
      hpublished hcopy
    apply supervised.refused (List.mem_of_getElem? hindex) hcall hraised hentry
    rw [hcopy]
    exact valid organizationId place row hrow hpublished

/-! ### Runs -/

/-- The seeds of the bootstraps in flight come with the program. -/
def SeededBuiltIn (world : PackWorld) : Prop :=
  ∀ session ∈ world.sessions, ∀ seed, session.call = .bootstrapActive seed →
    ∃ packId, seedDefinition packId = .ok seed

theorem statement_call : (world.statement session).1.call = session.call := by
  obtain ⟨organizationId, call, held, transaction⟩ := session
  unfold PackWorld.statement
  cases transaction with
  | awaitDraft name candidate resume =>
      dsimp only
      by_cases hlocked : candidate.any world.locked
      · rw [if_pos hlocked]
      · rw [if_neg hlocked]
  | insert row inserted conflict =>
      dsimp only
      by_cases hadmitted : world.rows.Admits row
      · rw [if_pos hadmitted]
      · rw [if_neg hadmitted]
  | _ => rfl

theorem SeededBuiltIn.step (seeded : world.SeededBuiltIn)
    (builtIn : ∀ organizationId seed, action = .begin organizationId (.bootstrapActive seed) →
      ∃ packId, seedDefinition packId = .ok seed) : (world.step action).SeededBuiltIn := by
  intro session hmem seed hcall
  cases action with
  | begin organizationId call =>
      rcases List.mem_append.mp hmem with hold | hnew
      · exact seeded session hold seed hcall
      · rw [List.mem_singleton.mp hnew] at hcall
        cases hcall
        exact builtIn organizationId seed rfl
  | advance index =>
      cases hindex : world.sessions[index]? with
      | none =>
          simp only [PackWorld.step, hindex] at hmem
          exact seeded session hmem seed hcall
      | some acting =>
          rw [step_advance hindex] at hmem
          rcases List.mem_or_eq_of_mem_set hmem with hold | rfl
          · exact seeded session hold seed hcall
          · rw [statement_call] at hcall
            exact seeded acting (List.mem_of_getElem? hindex) seed hcall

theorem SeededBuiltIn.installs (seeded : world.SeededBuiltIn) {seed : PackDefinition}
    (installed : world.installs action = some seed) :
    ∃ packId, seedDefinition packId = .ok seed := by
  cases action with
  | begin name call => cases installed
  | advance index =>
      cases hindex : world.sessions[index]? with
      | none =>
          simp only [PackWorld.installs, hindex] at installed
          cases installed
      | some session =>
          have hseeds := seeded session (List.mem_of_getElem? hindex)
          simp only [PackWorld.installs, hindex] at installed
          split at installed
          · rename_i name given held row inserted conflict hsession
            cases hsession
            split at installed
            · cases installed
              exact hseeds seed rfl
            · cases installed
          · cases installed

end PackWorld

/-- Every published revision is valid exactly when no bootstrap installs the one pack of the
catalog that has no address field. -/
theorem published_packs_valid_iff (actions : List PackAction) (builtIn : SeedsBuiltIn actions) :
    (∀ before, before <+: actions → (after before).ValidPacks) ↔
      Throughout PackWorld.step
        (fun world action => world.installs action ≠ some municipalWork.toDefinition)
        .empty actions := by
  let valid (world : PackWorld) : Prop := ∀ organizationId place row,
    world.rows.get? place = some row → row.isPublished organizationId →
      validateDefinition row.definition = .ok ()
  have hvalid : (∀ before, before <+: actions → (after before).ValidPacks) ↔
      ∀ before, before <+: actions → valid (before.foldl PackWorld.step .empty) :=
    forall₂_congr fun before _ => (PackWorld.supervised_after before).validPacks_iff
  have hgood : (∀ before, before <+: actions → valid (before.foldl PackWorld.step .empty)) ↔
      Throughout PackWorld.step
        (fun world action => ∀ seed, world.installs action = some seed →
          validateDefinition seed = .ok ()) .empty actions := by
    refine @Throughout.iff_good _ _ _ _ _ _ PackWorld.Supervised valid
      (fun world action supervised => supervised.step action)
      (fun world action supervised hworld => supervised.valid_step_iff hworld)
      PackWorld.supervised_empty ?_
    intro _ _ row hrow
    contradiction
  have hseeds : Throughout PackWorld.step
      (fun world action => ∀ seed, world.installs action = some seed →
        validateDefinition seed = .ok ()) .empty actions ↔
      Throughout PackWorld.step
        (fun world action => world.installs action ≠ some municipalWork.toDefinition)
        .empty actions := by
    refine @Throughout.congr _ _ _ _ _ _ PackWorld.SeededBuiltIn _
      (fun world action hmem seeded => seeded.step fun organizationId seed haction =>
        builtIn organizationId seed (haction ▸ hmem)) ?_ ?_
    · intro world action seeded
      constructor
      · intro hinstalls hmunicipal
        obtain ⟨packId, hseed⟩ := seeded.installs hmunicipal
        exact (validateDefinition_seed hseed).mp (hinstalls _ hmunicipal) rfl
      · intro hother seed hinstalls
        obtain ⟨packId, hseed⟩ := seeded.installs hinstalls
        refine (validateDefinition_seed hseed).mpr fun hmunicipal => hother ?_
        rw [hinstalls, hmunicipal]
    · intro session hmem
      cases hmem
  rw [hvalid, hgood, hseeds]

/-- Two organizations begin with packs that have an address; one restores its first revision
and publishes it again, while the bootstrap of another pack comes too late. -/
def addressedPacks : List PackAction :=
  [.begin "org" (.bootstrapActive fieldService.toDefinition),
    .begin "town" (.bootstrapActive guidedRoute.toDefinition), .advance 0, .advance 1, .advance 1,
    .advance 0, .begin "org" (.bootstrapActive municipalWork.toDefinition), .advance 2,
    .begin "org" (.restoreAsDraft 1), .advance 3, .advance 3, .advance 3, .advance 3, .advance 3,
    .begin "org" .publishDraft, .advance 4, .advance 4, .advance 4]

theorem seedsBuiltIn_addressedPacks : SeedsBuiltIn addressedPacks := by
  intro organizationId seed hmem
  simp only [addressedPacks, List.mem_cons, PackAction.begin.injEq, PackCall.bootstrapActive.injEq,
    List.not_mem_nil, or_false, reduceCtorEq, and_false, false_or] at hmem
  rcases hmem with ⟨-, rfl⟩ | ⟨-, rfl⟩ | ⟨-, rfl⟩
  · exact ⟨"field_service", rfl⟩
  · exact ⟨"guided_route", rfl⟩
  · exact ⟨"municipal_work", rfl⟩

theorem addressed_packs_valid :
    PostgresPackStore.activeRevision (after addressedPacks).rows "org" =
        some ⟨2, .active, fieldService.toDefinition⟩ ∧
      ∀ before, before <+: addressedPacks → (after before).ValidPacks :=
  ⟨by decide +kernel, (published_packs_valid_iff addressedPacks seedsBuiltIn_addressedPacks).mpr
    (by decide +kernel)⟩

def municipalStart : List PackAction :=
  [.begin "org" (.bootstrapActive municipalWork.toDefinition), .advance 0, .advance 0]

/-- The first revision of an organization that begins with the municipal pack is invalid, and a
copy of it cannot be published again. -/
theorem municipal_start_invalid :
    SeedsBuiltIn municipalStart ∧ ¬(after municipalStart).ValidPacks ∧
      let table : PackTable := ⟨(after municipalStart).rows, (after municipalStart).serial⟩
      let restored := (PostgresPackStore.restoreAsDraft "org" 1).alone table
      restored.1 = .ok (.version 2) ∧
        ((PostgresPackStore.publishDraft "org").alone restored.2).1 =
          .error (.failure (.packValidation "нужно хотя бы одно адресное поле")) := by
  refine ⟨?_, fun packs => ?_, by decide +kernel, by decide +kernel⟩
  · intro organizationId seed hmem
    simp only [municipalStart, List.mem_cons, PackAction.begin.injEq,
      PackCall.bootstrapActive.injEq, List.not_mem_nil, or_false, reduceCtorEq] at hmem
    obtain ⟨-, rfl⟩ := hmem
    exact ⟨"municipal_work", rfl⟩
  · have hinvalid : validateDefinition municipalWork.toDefinition ≠ .ok () := by decide +kernel
    apply hinvalid
    refine packs.valid "org" 0 ⟨"org", 1, .active, municipalWork.toDefinition⟩ ?_ ⟨rfl, .inl rfl⟩
    decide +kernel

end DispatchCore.Infrastructure
