import DispatchCore.Infrastructure.PackSessions

/-! What holds of an organization's revisions in every state of a run, and the numbers it
hangs on. -/
namespace DispatchCore.Infrastructure

open DispatchCore.Library DispatchCore.Domain DispatchCore.Packs

open PackWorld (after)

structure PackRevisionsKept (actions : List PackAction) (organizationId : String) : Prop where
  oneDraft : ∀ before, before <+: actions → ∀ left right first second,
    (after before).rows.get? left = some first → (after before).rows.get? right = some second →
    first.isDraft organizationId → second.isDraft organizationId → left = right
  oneActive : ∀ before, before <+: actions → ∀ left right first second,
    (after before).rows.get? left = some first → (after before).rows.get? right = some second →
    first.isActive organizationId → second.isActive organizationId → left = right
  ordered : ∀ before, before <+: actions → (after before).rows.Ordered organizationId
  /-- A version that was published is there for ever, with its definition, and as no draft. -/
  permanent : ∀ before later, before <+: later → later <+: actions →
    ∀ place row, (after before).rows.get? place = some row → row.isPublished organizationId →
      (∃ found, (after later).rows.get? place = some found ∧ found.version = row.version ∧
        found.organizationId = organizationId) ∧
      ∀ other found, (after later).rows.get? other = some found →
        found.organizationId = organizationId → found.version = row.version →
        found.isPublished organizationId ∧ found.definition = row.definition
  failedPublish : ∀ before index rest, before ++ .advance index :: rest = actions →
    ∀ session failure, (after actions).sessions[index]? = some session →
      session.call = .publishDraft → session.transaction = .raised failure →
      (after (before ++ [.advance index])).rows = (after before).rows
  pinned : ∀ before later, before <+: later → later <+: actions → ∀ active,
    PostgresPackStore.activeRevision (after before).rows organizationId = some active →
    ∃ found, PostgresPackStore.revision (after later).rows organizationId active.version =
      some found ∧ found.definition = active.definition

/-- The action is no insertion of a draft under a number below one that is stored. -/
def PackWorld.NumbersAfresh (world : PackWorld) (organizationId : String) (action : PackAction) :
    Prop :=
  ∀ index session row inserted conflict, action = .advance index →
    world.sessions[index]? = some session → session.transaction = .insert row inserted conflict →
    row.isDraft organizationId → world.rows.Admits row →
    PostgresPackStore.nextVersion world.rows organizationId ≤ row.version

namespace PackWorld

variable {world : PackWorld} {organizationId : String}

/-- What an action does to the rows. -/
theorem Consistent.rows_step (consistent : world.Consistent) (action : PackAction) :
    (world.step action).rows = world.rows ∨
      ∃ index session next reply touched, action = .advance index ∧
        world.sessions[index]? = some session ∧
        (world.step action).sessions = world.sessions.set index next ∧
        next.transaction = .returned reply ∧
        PackChange world.rows touched (world.step action).rows ∧
        ((∃ row inserted conflict, session.transaction = .insert row inserted conflict ∧
            world.rows.Admits row ∧ touched = world.serial ∧
            (world.step action).rows = world.rows.set touched row) ∨
          ((∀ row inserted conflict, session.transaction ≠ .insert row inserted conflict) ∧
            ∃ row, world.rows.get? touched = some row)) := by
  cases action with
  | begin organizationId call => exact .inl rfl
  | advance index =>
      cases hindex : world.sessions[index]? with
      | none =>
          refine .inl ?_
          simp only [PackWorld.step, hindex]
      | some session =>
          have hstep : world.step (.advance index) = ⟨(world.statement session).2.1,
              (world.statement session).2.2,
              world.sessions.set index (world.statement session).1⟩ := by
            simp only [PackWorld.step, hindex]
          have hturn := consistent.turn hindex
          rw [hstep]
          generalize world.statement session = result at hturn
          cases hturn with
          | quiet lawful guarded locks => exact .inl rfl
          | insert ready admitted change =>
              exact .inr ⟨index, session, _, _, _, rfl, hindex, rfl, rfl, change,
                .inl ⟨_, _, _, ready, admitted, rfl, rfl⟩⟩
          | @commit entry change reply ready held lawful =>
              have hopen : session.transaction.finished = false := by
                rw [ready]
                rfl
              refine .inr ⟨index, session, _, _, _, rfl, hindex, rfl, rfl, lawful,
                .inr ⟨fun row inserted conflict hready => ?_, entry.2,
                  (consistent.guarded index session hindex hopen entry held).1⟩⟩
              rw [ready] at hready
              contradiction

/-- The order survives an action exactly if the action numbers afresh. -/
theorem Consistent.ordered_step_iff (consistent : world.Consistent)
    (ordered : world.rows.Ordered organizationId) (action : PackAction) :
    (world.step action).rows.Ordered organizationId ↔
      world.NumbersAfresh organizationId action := by
  rcases consistent.rows_step action with hrows | ⟨index, session, next, reply, touched, rfl,
    hindex, _, _, hchange, ⟨row, inserted, conflict, hready, hadmitted, rfl, hrows⟩ |
      ⟨hready, old, hold⟩⟩
  · rw [hrows]
    refine ⟨fun _ index session row inserted conflict haction hindex hready hdraft hadmitted => ?_,
      fun _ => ordered⟩
    -- an insertion that is admitted does write
    subst haction
    have hwritten : (world.step (.advance index)).rows = world.rows.set world.serial row := by
      simp only [PackWorld.step, hindex, PackWorld.statement, hready, if_pos hadmitted]
    have hthere : world.rows.get? world.serial = some row := by
      rw [← hrows, hwritten, Dict.get?_set_self]
    have hplaced := consistent.placed _ row hthere
    omega
  · rw [hchange.ordered_iff consistent.sound ordered, hrows]
    have hnew : world.rows.get? world.serial = none := by
      cases hrow : world.rows.get? world.serial with
      | none => rfl
      | some row =>
          have hplaced := consistent.placed _ row hrow
          omega
    constructor
    · intro hnumbers other found row' inserted' conflict' haction hfound hready' hdraft _
      cases haction
      rw [hindex] at hfound
      cases hfound
      rw [hready] at hready'
      cases hready'
      exact hnumbers world.serial row hnew (Dict.get?_set_self ..) hdraft
    · intro hafresh place found hnone hfound hdraft
      rw [Dict.get?_set] at hfound
      split at hfound
      · cases hfound
        exact hafresh index session row inserted conflict rfl hindex hready hdraft hadmitted
      · rw [hnone] at hfound
        contradiction
  · rw [hchange.ordered_iff consistent.sound ordered]
    constructor
    · intro _ other found row inserted conflict haction hfound hready'
      cases haction
      rw [hindex] at hfound
      cases hfound
      exact absurd hready' (hready row inserted conflict)
    · intro _ place row hnone hrow _
      rcases hchange.placed hrow with rfl | ⟨before, hbefore⟩
      · rw [hnone] at hold
        contradiction
      · rw [hnone] at hbefore
        contradiction

theorem Consistent.published_step (consistent : world.Consistent) (action : PackAction)
    {place : Nat} {row : PackRow} (found : world.rows.get? place = some row)
    (published : row.isPublished organizationId) :
    ∃ next, (world.step action).rows.get? place = some next ∧ next.isPublished organizationId ∧
      next.version = row.version ∧ next.definition = row.definition := by
  rcases consistent.rows_step action with hrows | ⟨_, _, _, _, touched, _, _, _, _, hchange, _⟩
  · rw [hrows]
    exact ⟨row, found, published, rfl, rfl⟩
  · rcases hchange.forward found published with hstays | ⟨_, harchived, _⟩
    · exact ⟨row, hstays, published, rfl, rfl⟩
    · exact ⟨_, harchived, ⟨published.1, .inr rfl⟩, rfl, rfl⟩

theorem after_append (actions later : List PackAction) :
    after (actions ++ later) = (after actions).run later := by
  unfold after run
  rw [List.foldl_append]

theorem Consistent.run (consistent : world.Consistent) (actions : List PackAction) :
    (world.run actions).Consistent := by
  induction actions generalizing world with
  | nil => exact consistent
  | cons action rest ih => exact ih (consistent.step action)

theorem Consistent.published_run (consistent : world.Consistent) (actions : List PackAction)
    {place : Nat} {row : PackRow} (found : world.rows.get? place = some row)
    (published : row.isPublished organizationId) :
    ∃ next, (world.run actions).rows.get? place = some next ∧ next.isPublished organizationId ∧
      next.version = row.version ∧ next.definition = row.definition := by
  induction actions generalizing world row with
  | nil => exact ⟨row, found, published, rfl, rfl⟩
  | cons action rest ih =>
      obtain ⟨middle, hmiddle, hpublished, hversion, hdefinition⟩ :=
        consistent.published_step action found published
      obtain ⟨next, hnext, hnextPublished, hsame, hkept⟩ :=
        ih (consistent.step action) hmiddle hpublished
      exact ⟨next, hnext, hnextPublished, hsame.trans hversion, hkept.trans hdefinition⟩

/-- A session that returned stays as it is. -/
theorem returned_step {index : Nat} {session : PackSession} {reply : PackReply}
    (inFlight : world.sessions[index]? = some session)
    (returned : session.transaction = .returned reply) (action : PackAction) :
    (world.step action).sessions[index]? = some session := by
  cases action with
  | begin organizationId call =>
      have hbound : index < world.sessions.length := List.getElem?_eq_some_iff.mp inFlight |>.1
      exact (List.getElem?_append_left hbound).trans inFlight
  | advance other =>
      cases hother : world.sessions[other]? with
      | none => simpa only [PackWorld.step, hother] using inFlight
      | some found =>
          by_cases hsame : other = index
          · subst hsame
            rw [inFlight] at hother
            cases hother
            have hbound : other < world.sessions.length :=
              List.getElem?_eq_some_iff.mp inFlight |>.1
            simp only [PackWorld.step, inFlight, PackWorld.statement, returned]
            exact List.getElem?_set_self hbound
          · simp only [PackWorld.step, hother]
            rw [List.getElem?_set_ne hsame]
            exact inFlight

theorem returned_run {index : Nat} {session : PackSession} {reply : PackReply}
    (inFlight : world.sessions[index]? = some session)
    (returned : session.transaction = .returned reply) (actions : List PackAction) :
    (world.run actions).sessions[index]? = some session := by
  induction actions generalizing world with
  | nil => exact inFlight
  | cons action rest ih => exact ih (returned_step inFlight returned action)

end PackWorld

namespace PackRows

variable {rows : PackRows} {organizationId : String} {place : Nat} {row : PackRow}

theorem find_isSome {selects : PackRow → Prop} [DecidablePred selects]
    (stored : rows.get? place = some row) (selected : selects row) :
    ∃ entry, rows.find selects = some entry := by
  rw [← Option.isSome_iff_exists]
  exact List.find?_isSome.mpr ⟨_, (Dict.get?_eq_some ..).mp stored, decide_eq_true selected⟩

/-- The published row of a version is the one `revision` finds. -/
theorem Sound.revision (sound : rows.Sound) (found : rows.get? place = some row)
    (published : row.isPublished organizationId) :
    PostgresPackStore.revision rows organizationId row.version = some row.revision := by
  obtain ⟨entry, hentry⟩ := @find_isSome _ _ _
    (fun other => other.isPublished organizationId ∧ (other.version : Int) = row.version) _
    found ⟨published, rfl⟩
  unfold PostgresPackStore.revision
  rw [hentry]
  obtain ⟨hstored, hpublished, hversion⟩ := find_some hentry
  have hplace : entry.1 = place := sound.keyed entry.1 place entry.2 row hstored found
    (hpublished.1.trans published.1.symm) (by omega)
  rw [hplace, found] at hstored
  cases hstored
  rfl

theorem Sound.activeRevision_pos (sound : rows.Sound) :
    ∀ revision ∈ PostgresPackStore.activeRevision rows organizationId, 0 < revision.version := by
  intro revision hrevision
  obtain ⟨entry, hentry, rfl⟩ := Option.map_eq_some_iff.mp hrevision
  exact sound.numbered entry.1 entry.2 (find_some hentry).1

end PackRows

/-- Every draft that a run inserts is numbered by the rows it comes to. -/
def DraftsNumberedAfresh (actions : List PackAction) (organizationId : String) : Prop :=
  ∀ before action, before ++ [action] <+: actions →
    (after before).NumbersAfresh organizationId action

section kept

variable {actions : List PackAction} {organizationId : String}

/-- The run up to `later` goes on from the run up to `before`. -/
private theorem run_of_prefix {before later : List PackAction} (h : before <+: later) :
    ∃ rest, after later = (after before).run rest := by
  obtain ⟨rest, rfl⟩ := h
  exact ⟨rest, PackWorld.after_append before rest⟩

private theorem ordered_of_afresh (afresh : DraftsNumberedAfresh actions organizationId) :
    ∀ before, before <+: actions → (after before).rows.Ordered organizationId := by
  intro before
  induction before using List.reverseRecOn with
  | nil =>
      intro _
      constructor <;> intros <;> contradiction
  | append_singleton before action ih =>
      intro hprefix
      rw [PackWorld.after_concat]
      have hordered := ih ((List.prefix_append before [action]).trans hprefix)
      exact ((PackWorld.consistent_after before).ordered_step_iff hordered action).mpr
        (afresh before action hprefix)

private theorem permanent {before later : List PackAction} (h : before <+: later) {place : Nat}
    {row : PackRow} (found : (after before).rows.get? place = some row)
    (published : row.isPublished organizationId) :
    ∃ next, (after later).rows.get? place = some next ∧ next.isPublished organizationId ∧
      next.version = row.version ∧ next.definition = row.definition := by
  obtain ⟨rest, hlater⟩ := run_of_prefix h
  rw [hlater]
  exact (PackWorld.consistent_after before).published_run rest found published

private theorem pinned {before later : List PackAction} (h : before <+: later)
    {active : PackRevision}
    (read : PostgresPackStore.activeRevision (after before).rows organizationId = some active) :
    ∃ found, PostgresPackStore.revision (after later).rows organizationId active.version =
      some found ∧ found.definition = active.definition := by
  unfold PostgresPackStore.activeRevision at read
  obtain ⟨entry, hentry, rfl⟩ := Option.map_eq_some_iff.mp read
  obtain ⟨hstored, hactive⟩ := PackRows.find_some hentry
  obtain ⟨next, hnext, hpublished, hversion, hdefinition⟩ :=
    permanent h hstored ⟨hactive.1, .inl hactive.2⟩
  refine ⟨next.revision, ?_, hdefinition⟩
  have hfound := (PackWorld.consistent_after later).sound.revision hnext hpublished
  rwa [hversion] at hfound

private theorem failed_publish {before rest : List PackAction} {index : Nat}
    (split : before ++ .advance index :: rest = actions) {session : PackSession}
    {failure : PackFailure} (inFlight : (after actions).sessions[index]? = some session)
    (raised : session.transaction = .raised failure) :
    (after (before ++ [.advance index])).rows = (after before).rows := by
  rw [PackWorld.after_concat]
  rcases (PackWorld.consistent_after before).rows_step (.advance index) with
    hrows | ⟨other, found, next, reply, _, haction, hindex, hsessions, hreturned, _⟩
  · exact hrows
  · cases haction
    have hthere : (after (before ++ [.advance index])).sessions[index]? = some next := by
      rw [PackWorld.after_concat, hsessions]
      exact List.getElem?_set_self (List.getElem?_eq_some_iff.mp hindex).1
    have hlater := PackWorld.returned_run hthere hreturned rest
    rw [← PackWorld.after_append, List.append_assoc, List.singleton_append, split,
      inFlight] at hlater
    cases hlater
    rw [raised] at hreturned
    contradiction

theorem pack_revisions_kept_iff (actions : List PackAction) (organizationId : String) :
    PackRevisionsKept actions organizationId ↔ DraftsNumberedAfresh actions organizationId := by
  constructor
  · intro kept before action hprefix
    have hbefore := kept.ordered before ((List.prefix_append before [action]).trans hprefix)
    have hafter := kept.ordered (before ++ [action]) hprefix
    rw [PackWorld.after_concat] at hafter
    exact ((PackWorld.consistent_after before).ordered_step_iff hbefore action).mp hafter
  · intro afresh
    constructor
    · intro before _
      exact (PackWorld.consistent_after before).sound.oneDraft organizationId
    · intro before _
      exact (PackWorld.consistent_after before).sound.oneActive organizationId
    · exact ordered_of_afresh afresh
    · intro before later hlater _ place row hrow hpublished
      obtain ⟨next, hnext, hnextPublished, hversion, hdefinition⟩ :=
        permanent hlater hrow hpublished
      refine ⟨⟨next, hnext, hversion, hnextPublished.1⟩,
        fun other found hfound horganization hsame => ?_⟩
      have hplace := (PackWorld.consistent_after later).sound.keyed other place found next hfound
        hnext (horganization.trans hnextPublished.1.symm) (hsame.trans hversion.symm)
      rw [hplace, hnext] at hfound
      cases hfound
      exact ⟨hnextPublished, hdefinition⟩
    · intro before index rest hsplit session failure hsession _ hraised
      exact failed_publish hsplit hsession hraised
    · intro before later hlater _ active hactive
      exact pinned hlater hactive

end kept

theorem repair_named : "repair" ≠ "" ∧ "Ремонт" ≠ "" := by decide

theorem repair_distinct : ([(⟨"repair", "Ремонт", repair_named⟩ : ServiceCategory)].map
    fun category => category.key).Nodup := List.nodup_singleton _

theorem address_named : "address" ≠ "" ∧ "Адрес" ≠ "" := by decide

/-- One service and one address field. -/
def smallDefinition : PackDefinition where
  branding := ⟨"Сервис", "", ""⟩
  serviceCatalog := ⟨[⟨"repair", "Ремонт", repair_named⟩], true, repair_distinct⟩
  fields := [⟨"address", "Адрес", .address, true, [], "", 1, address_named,
    FieldType.address_unlisted⟩]
  evidence := .default
  roleLabels := defaultRoleLabels
  defaultPoolMode := .curated

/-- Session 1 reads the number 2 and waits; session 2 finds no draft, session 3 inserts
draft 2, session 2 reads the number 3, draft 2 is discarded, draft 3 inserted and published,
and session 1 inserts its draft 2. -/
def overtakenDraft : List PackAction :=
  [.begin "org" (.bootstrapActive smallDefinition), .advance 0, .advance 0,
    .begin "org" (.ensureDraft smallDefinition), .advance 1, .advance 1, .advance 1,
    .begin "org" (.ensureDraft smallDefinition), .advance 2, .advance 2,
    .begin "org" (.ensureDraft smallDefinition), .advance 3, .advance 3, .advance 3, .advance 3,
    .advance 2,
    .begin "org" .discardDraft, .advance 4, .advance 4, .advance 4,
    .advance 2,
    .begin "org" .publishDraft, .advance 5, .advance 5, .advance 5,
    .advance 1]

theorem overtaken_draft_behind : ¬PackRevisionsKept overtakenDraft "org" := by
  intro kept
  have hrows : (after overtakenDraft).rows.entries =
      [(0, ⟨"org", 1, .archived, smallDefinition⟩), (2, ⟨"org", 3, .active, smallDefinition⟩),
        (3, ⟨"org", 2, .draft, smallDefinition⟩)] := by
    decide
  have hstored : ∀ place row, (after overtakenDraft).rows.get? place = some row ↔
      (place, row) ∈ (after overtakenDraft).rows.entries := Dict.get?_eq_some _
  rw [hrows] at hstored
  have hless := (kept.ordered overtakenDraft (List.prefix_refl _)).draftGreatest 3 2
    ⟨"org", 2, .draft, smallDefinition⟩ ⟨"org", 3, .active, smallDefinition⟩
    ((hstored 3 _).mpr (by simp)) ((hstored 2 _).mpr (by simp)) ⟨rfl, rfl⟩ rfl (by decide)
  contradiction

end DispatchCore.Infrastructure
