import DispatchCore.Infrastructure.BindTransactions
import DispatchCore.Infrastructure.Workers

/-! Bindings by code that run at once: what each of them may rely on from its first lock to its
commit, and what it leaves. -/
namespace DispatchCore.Infrastructure

open DispatchCore.Library DispatchCore.Domain Identities

/-! ### The answer -/

section answer

variable {call : BindCall} {pending : Pending} {roles : List Role}

@[simp] theorem requestedRole_value (role : Role) : requestedRole role.value = some role := by
  cases role <;> rfl

theorem bindable_roles {consumerKey : String} (h : bindable roles consumerKey = true) :
    roles ≠ [] ∧ (∀ role, requestedRole consumerKey = some role → role ∈ roles) ∧
      (consumerKey = "" ∨ consumerKey = "staff" ∨
        ∃ role, requestedRole consumerKey = some role) := by
  unfold bindable at h
  simp only [Bool.and_eq_true, Bool.not_eq_true', Bool.or_eq_false_iff,
    decide_eq_false_iff_not] at h
  obtain ⟨⟨hnamed, hsome, hmissing⟩, -⟩ := h
  refine ⟨hsome, fun role hrole => ?_, ?_⟩
  · rw [hrole, Option.any_some, decide_eq_false_iff_not, not_not] at hmissing
    exact hmissing
  · cases hrequested : requestedRole consumerKey with
    | some role => exact .inr (.inr ⟨role, rfl⟩)
    | none =>
        by_contra hunnamed
        simp only [not_or] at hunnamed
        simp [hrequested, hunnamed.1, hunnamed.2.1] at hnamed

theorem effectiveRole_requested {primaryRole role : Role} {consumerKey : String}
    (requested : requestedRole consumerKey = some role) (mem : role ∈ roles) :
    effectiveRole primaryRole roles consumerKey = some role := by
  unfold effectiveRole
  rw [requested]
  exact if_pos mem

/-- The name of one of the roles that the pending actor has. -/
theorem pendingRole_mem (some : pending.roles ≠ []) : ∃ role ∈ pending.roles,
    (if pending.row.role ∈ pending.roles then pending.row.role.value
      else (pending.roles.head?.map Role.value).getD "") = role.value := by
  by_cases hprimary : pending.row.role ∈ pending.roles
  · exact ⟨pending.row.role, hprimary, if_pos hprimary⟩
  · rw [if_neg hprimary]
    cases hroles : pending.roles with
    | nil => exact absurd hroles some
    | cons first rest => exact ⟨first, List.mem_cons_self, rfl⟩

/-- Whoever may be bound is answered with one of the roles of the actor. -/
theorem answer_some {view : List Role} (entitled : bindable pending.roles call.consumerKey = true)
    (within : ∀ role ∈ pending.roles, role ∈ view) (actor : Key) (row : ActorRow) :
    ∃ identity, call.answer pending actor (some row) view = some identity ∧
      identity.actorId = actor.2 ∧ identity.role ∈ view := by
  obtain ⟨hsome, hrequested, hnamed⟩ := bindable_roles entitled
  obtain ⟨first, hfirst, hvalue⟩ := pendingRole_mem hsome
  unfold BindCall.answer
  simp only
  rw [hvalue]
  have hshared := @effectiveRole_requested view row.role first first.value
    (requestedRole_value first) (within first hfirst)
  by_cases hstaff : call.consumerKey = "staff"
  · rw [if_pos hstaff, hshared]
    exact ⟨_, rfl, rfl, within first hfirst⟩
  · rw [if_neg hstaff]
    by_cases hblank : call.consumerKey = ""
    · rw [if_pos hblank, hshared]
      exact ⟨_, rfl, rfl, within first hfirst⟩
    · rw [if_neg hblank]
      obtain hempty | hname | ⟨role, hrole⟩ := hnamed
      · exact absurd hempty hblank
      · exact absurd hname hstaff
      · have hmem := within role (hrequested role hrole)
        rw [effectiveRole_requested hrole hmem]
        exact ⟨_, rfl, rfl, hmem⟩

end answer

/-! ### What a binding relies on -/

/-- The pending actor is locked, and as it was read. -/
structure Selected (call : BindCall) (pending : Pending) (locks : List RowLock)
    (tables : Identities) : Prop where
  locked : .actor pending.actor ∈ locks
  stored : tables.actors.get? pending.actor = some pending.row
  code : pending.row.bindCode = some call.bindCode
  active : pending.row.active = true
  here : pending.actor.1 = call.organizationId

/-- The roles that were read are held still, and let the actor in. -/
structure Entitled (call : BindCall) (pending : Pending) (locks : List RowLock)
    (tables : Identities) : Prop extends Selected call pending locks tables where
  roles : ∀ role ∈ pending.roles, tables.hasRole pending.actor role = true
  bindable : bindable pending.roles call.consumerKey = true

/-- The account is bound to another actor of the organization. -/
structure Joining (call : BindCall) (pending : Pending) (actor : Key) (tables : Identities) :
    Prop where
  bound : tables.externalIdentities.get? call.account = some actor.2
  here : actor.1 = call.organizationId
  other : actor ≠ pending.actor

def Unbound (pending : Pending) (tables : Identities) : Prop :=
  ∀ account actorId, tables.externalIdentities.get? account = some actorId →
    (account.1, actorId) ≠ pending.actor

def Copied (pending : Pending) (roles : List Role) (tables : Identities) : Prop :=
  ∀ role, role ∈ roles ↔ tables.hasRole pending.actor role = true

def mergeWrites (roles : List Role) (actor pending : Key) : List IdentityWrite :=
  roles.map (.grant actor) ++ [.activate actor] ++ [.delete pending]

/-- What has been written when nothing is left to write: a merge, a new binding, or a binding
that was there. -/
inductive Written (call : BindCall) (pending : Pending) (locks : List RowLock)
    (tables : Identities) : Key → List IdentityWrite → Prop
  | merged {actor : Key} {roles : List Role} (joining : Joining call pending actor tables)
      (unbound : Unbound pending tables) (locked : .actor actor ∈ locks)
      (copied : Copied pending roles tables) :
      Written call pending locks tables actor
        (mergeWrites roles actor pending.actor)
  | bound (locked : .account call.account ∈ locks)
      (free : tables.externalIdentities.get? call.account = none) :
      Written call pending locks tables pending.actor
        ([.bind call.account pending.actor.2] ++ [.clearCode pending.actor])
  | already (bound : tables.externalIdentities.get? call.account = some pending.actor.2) :
      Written call pending locks tables pending.actor ([] ++ [.clearCode pending.actor])

def CodeGone (call : BindCall) (tables : Identities) : Prop :=
  ∀ key row, tables.actors.get? key = some row → key.1 = call.organizationId →
    row.bindCode ≠ some call.bindCode

/-- What a session may claim of the tables, by how far it has come. -/
def BindSession.Claims (session : BindSession) (tables : Identities) : Prop :=
  match session.stage.stage with
  | .selecting => session.writes = []
  | .readingRoles pending =>
      session.writes = [] ∧ Selected session.stage.call pending session.locks tables
  | .readingAccount pending | .inserting pending =>
      session.writes = [] ∧ Entitled session.stage.call pending session.locks tables
  | .checkingBindings pending actor =>
      session.writes = [] ∧ Entitled session.stage.call pending session.locks tables ∧
        Joining session.stage.call pending actor tables
  | .granting pending actor =>
      session.writes = [] ∧ Entitled session.stage.call pending session.locks tables ∧
        Joining session.stage.call pending actor tables ∧ Unbound pending tables
  | .activating pending actor =>
      Entitled session.stage.call pending session.locks tables ∧
        Joining session.stage.call pending actor tables ∧ Unbound pending tables ∧
        ∃ roles, Copied pending roles tables ∧ session.writes = roles.map (.grant actor)
  | .deleting pending actor =>
      Entitled session.stage.call pending session.locks tables ∧
        Joining session.stage.call pending actor tables ∧ Unbound pending tables ∧
        .actor actor ∈ session.locks ∧ ∃ roles, Copied pending roles tables ∧
          session.writes = roles.map (.grant actor) ++ [.activate actor]
  | .clearingCode pending =>
      Entitled session.stage.call pending session.locks tables ∧
        ((.account session.stage.call.account ∈ session.locks ∧
            tables.externalIdentities.get? session.stage.call.account = none ∧
            session.writes = [.bind session.stage.call.account pending.actor.2]) ∨
          (tables.externalIdentities.get? session.stage.call.account = some pending.actor.2 ∧
            session.writes = []))
  | .readingActor pending actor =>
      Entitled session.stage.call pending session.locks tables ∧
        Written session.stage.call pending session.locks tables actor session.writes
  | .readingActive pending actor found =>
      Entitled session.stage.call pending session.locks tables ∧
        Written session.stage.call pending session.locks tables actor session.writes ∧
        found.isSome
  | .committing none => session.writes = []
  | .committing (some identity) =>
      ∃ pending actor, Entitled session.stage.call pending session.locks tables ∧
        Written session.stage.call pending session.locks tables actor session.writes ∧
        actor = (session.stage.call.organizationId, identity.actorId) ∧
        (tables.hasRole actor identity.role = true ∨
          tables.hasRole pending.actor identity.role = true)
  | .returned (some _) => CodeGone session.stage.call tables
  | .returned none | .violated | .aborted => True

/-! ### What a commit does -/

/-- The change of the tables, by a binding to an actor that takes the place of the pending one
or is the pending one. -/
structure Moved (call : BindCall) (pending actor : Key) (before after : Identities) : Prop where
  actors : ∀ key, key ≠ pending → key ≠ actor → after.actors.get? key = before.actors.get? key
  codes : ∀ key row code, after.actors.get? key = some row → row.bindCode = some code →
    key ≠ pending ∧ ∃ old, before.actors.get? key = some old ∧ old.bindCode = some code
  present : ∃ row, after.actors.get? actor = some row ∧ row.active = true
  roles : ∀ key role, key ≠ pending → key ≠ actor →
    after.hasRole key role = before.hasRole key role
  united : ∀ role, after.hasRole actor role = true ↔
    before.hasRole actor role = true ∨ before.hasRole pending role = true
  bindings : ∀ account actorId, before.externalIdentities.get? account = some actorId →
    after.externalIdentities.get? account = some actorId
  fresh : ∀ account actorId, after.externalIdentities.get? account = some actorId →
    before.externalIdentities.get? account = some actorId ∨
      (account = call.account ∧ actor = pending ∧ (account.1, actorId) = pending ∧
        before.externalIdentities.get? call.account = none)
  account : after.externalIdentities.get? call.account = some actor.2
  left : actor ≠ pending → ∀ account actorId,
    before.externalIdentities.get? account = some actorId → (account.1, actorId) ≠ pending

section commit

variable {call : BindCall} {pending : Pending} {actor : Key} {roles : List Role}
  {locks : List RowLock} {writes : List IdentityWrite} {tables : Identities}

theorem grants_apply (actor : Key) (roles : List Role) (tables : Identities) :
    ((roles.map (.grant actor)).foldl IdentityWrite.apply tables).actors = tables.actors ∧
    ((roles.map (.grant actor)).foldl IdentityWrite.apply tables).externalIdentities =
      tables.externalIdentities ∧
    ∀ key role, ((roles.map (.grant actor)).foldl IdentityWrite.apply tables).hasRole key role =
      (tables.hasRole key role || decide (key = actor ∧ role ∈ roles)) := by
  induction roles generalizing tables with
  | nil => simp
  | cons first rest ih =>
      obtain ⟨hactors, haccounts, hroles⟩ := ih ((IdentityWrite.grant actor first).apply tables)
      rw [List.map_cons, List.foldl_cons]
      refine ⟨hactors, haccounts, fun key role => ?_⟩
      rw [hroles, hasRole_set rfl]
      by_cases hkey : key = actor
      · by_cases hrole : role = first <;> simp [hkey, hrole]
      · simp [hkey]

theorem hasRole_delete (actor key : Key) (role : Role) :
    ((IdentityWrite.delete actor).apply tables).hasRole key role =
      (decide (key ≠ actor) && tables.hasRole key role) := by
  unfold IdentityWrite.apply Identities.hasRole
  simp only
  rw [Dict.get?_restrict]
  cases tables.actorRoles.get? (key, role) with
  | none => simp
  | some active => by_cases h : key = actor <;> simp [h, Option.filter]

/-- The rows of the actors after a merge. -/
theorem actors_merged (actor pending : Key) (roles : List Role) (key : Key) :
    ((mergeWrites roles actor pending).foldl IdentityWrite.apply tables).actors.get? key =
      if key = pending then none
      else (tables.actors.get? key).map fun row =>
        if key = actor then { row with active := true } else row := by
  obtain ⟨hactors, -, -⟩ := grants_apply actor roles tables
  rw [mergeWrites, List.foldl_append, List.foldl_append]
  simp only [List.foldl_cons, List.foldl_nil, IdentityWrite.apply]
  rw [Dict.get?_erase, Dict.get?_mapValues, hactors]

theorem hasRole_merged (actor pending : Key) (roles : List Role) (key : Key) (role : Role) :
    ((mergeWrites roles actor pending).foldl IdentityWrite.apply tables).hasRole key role =
      (decide (key ≠ pending) &&
        (tables.hasRole key role || decide (key = actor ∧ role ∈ roles))) := by
  obtain ⟨-, -, hroles⟩ := grants_apply actor roles tables
  rw [mergeWrites, List.foldl_append, List.foldl_append]
  simp only [List.foldl_cons, List.foldl_nil]
  rw [hasRole_delete, ← hroles]
  rfl

/-- A merge leaves every account as it was. -/
theorem accounts_merged (unbound : Unbound pending tables) (actor : Key) (roles : List Role)
    (account : Account) :
    ((mergeWrites roles actor pending.actor).foldl IdentityWrite.apply tables).externalIdentities.get? account =
      tables.externalIdentities.get? account := by
  obtain ⟨-, haccounts, -⟩ := grants_apply actor roles tables
  rw [mergeWrites, List.foldl_append, List.foldl_append]
  simp only [List.foldl_cons, List.foldl_nil, IdentityWrite.apply]
  rw [Dict.get?_restrict, haccounts]
  cases hbound : tables.externalIdentities.get? account with
  | none => rfl
  | some actorId => rw [Option.filter_some, if_pos (decide_eq_true (unbound account actorId hbound))]

theorem moved_merged (keys : IdentityKeys tables)
    (joining : Joining call pending actor tables) (unbound : Unbound pending tables)
    (copied : Copied pending roles tables) :
    Moved call pending.actor actor tables
      ((mergeWrites roles actor pending.actor).foldl IdentityWrite.apply tables) where
  actors key hpending hactor := by
    rw [actors_merged, if_neg hpending]
    simp [hactor]
  codes key row code hrow hcode := by
    rw [actors_merged] at hrow
    by_cases hpending : key = pending.actor
    · rw [if_pos hpending] at hrow
      contradiction
    · rw [if_neg hpending] at hrow
      obtain ⟨old, hold, rfl⟩ := Option.map_eq_some_iff.mp hrow
      refine ⟨hpending, old, hold, ?_⟩
      split at hcode <;> exact hcode
  present := by
    obtain ⟨row, hrow⟩ := keys.accounts call.account actor.2 joining.bound
    have hactor : (call.account.1, actor.2) = actor := by
      rw [show call.account.1 = actor.1 from joining.here.symm]
    rw [hactor] at hrow
    refine ⟨{ row with active := true }, ?_, rfl⟩
    rw [actors_merged, if_neg joining.other, hrow, Option.map_some, if_pos rfl]
  roles key role hpending hactor := by
    rw [hasRole_merged]
    simp [hpending, hactor]
  united role := by
    rw [hasRole_merged]
    simp [joining.other, copied role]
  bindings account actorId hbound := by
    rw [accounts_merged unbound]
    exact hbound
  fresh account actorId hbound := by
    rw [accounts_merged unbound] at hbound
    exact .inl hbound
  account := by
    rw [accounts_merged unbound]
    exact joining.bound
  left _ := unbound

/-- A code that is cleared leaves the rest as it is. -/
theorem actors_cleared (pending key : Key) :
    ((IdentityWrite.clearCode pending).apply tables).actors.get? key =
      (tables.actors.get? key).map fun row =>
        if key = pending then { row with bindCode := none, bindCodeExpiresAt := none } else row :=
  Dict.get?_mapValues _ _ _

/-- The account is bound to the pending actor, whose code is cleared. -/
theorem moved_inserted (selected : Selected call pending locks tables) {bound : Identities}
    (same : bound.actors = tables.actors ∧ bound.actorRoles = tables.actorRoles)
    (kept : ∀ account actorId, tables.externalIdentities.get? account = some actorId →
      bound.externalIdentities.get? account = some actorId)
    (fresh : ∀ account actorId, bound.externalIdentities.get? account = some actorId →
      tables.externalIdentities.get? account = some actorId ∨
        (account = call.account ∧ actorId = pending.actor.2 ∧
          tables.externalIdentities.get? call.account = none))
    (account : bound.externalIdentities.get? call.account = some pending.actor.2) :
    Moved call pending.actor pending.actor tables
      ((IdentityWrite.clearCode pending.actor).apply bound) where
  actors key hpending _ := by
    rw [actors_cleared, same.1]
    simp [hpending]
  codes key row code hrow hcode := by
    rw [actors_cleared, same.1] at hrow
    obtain ⟨old, hold, rfl⟩ := Option.map_eq_some_iff.mp hrow
    by_cases hpending : key = pending.actor
    · rw [if_pos hpending] at hcode
      contradiction
    · rw [if_neg hpending] at hcode
      exact ⟨hpending, old, hold, hcode⟩
  present := by
    refine ⟨{ pending.row with bindCode := none, bindCodeExpiresAt := none }, ?_,
      selected.active⟩
    rw [actors_cleared, same.1, selected.stored, Option.map_some, if_pos rfl]
  roles key role _ _ := by
    unfold Identities.hasRole
    rw [← same.2]
    rfl
  united role := by
    have hrole : ((IdentityWrite.clearCode pending.actor).apply bound).hasRole pending.actor role =
        tables.hasRole pending.actor role := by
      unfold Identities.hasRole
      rw [← same.2]
      rfl
    rw [hrole, or_self]
  bindings := kept
  fresh other actorId hbound := by
    rcases fresh other actorId hbound with hold | ⟨hsame, hactor, hnone⟩
    · exact .inl hold
    · refine .inr ⟨hsame, rfl, ?_, hnone⟩
      rw [hsame, hactor, show call.account.1 = pending.actor.1 from selected.here.symm]
  account := account
  left hne := absurd rfl hne

theorem Written.moved (keys : IdentityKeys tables) (selected : Selected call pending locks tables)
    (written : Written call pending locks tables actor writes) :
    Moved call pending.actor actor tables (writes.foldl IdentityWrite.apply tables) := by
  cases written with
  | merged joining unbound locked copied => exact moved_merged keys joining unbound copied
  | bound locked free =>
      refine moved_inserted selected ⟨rfl, rfl⟩ (fun account actorId hbound => ?_)
        (fun account actorId hbound => ?_) (Dict.get?_set_self _ _ _)
      · simp only [IdentityWrite.apply]
        rw [Dict.get?_set_of_ne, hbound]
        rintro rfl
        rw [free] at hbound
        contradiction
      · simp only [IdentityWrite.apply] at hbound
        rw [Dict.get?_set] at hbound
        by_cases hsame : account = call.account
        · rw [if_pos hsame, Option.some.injEq] at hbound
          exact .inr ⟨hsame, hbound.symm, free⟩
        · rw [if_neg hsame] at hbound
          exact .inl hbound
  | already bound =>
      exact moved_inserted selected ⟨rfl, rfl⟩ (fun _ _ hbound => hbound)
        (fun _ _ hbound => .inl hbound) bound

/-- The keys of the tables hold after a commit. -/
theorem Moved.keys {pending : Key} {after : Identities} (keys : IdentityKeys tables)
    (moved : Moved call pending actor tables after) : IdentityKeys after where
  codes left right leftRow rightRow code hleft hright horganization hleftCode hrightCode := by
    obtain ⟨-, leftOld, hleftOld, hleftOldCode⟩ := moved.codes left leftRow code hleft hleftCode
    obtain ⟨-, rightOld, hrightOld, hrightOldCode⟩ :=
      moved.codes right rightRow code hright hrightCode
    exact keys.codes left right leftOld rightOld code hleftOld hrightOld horganization
      hleftOldCode hrightOldCode
  accounts account actorId hbound := by
    by_cases hactor : (account.1, actorId) = actor
    · obtain ⟨row, hrow, -⟩ := moved.present
      exact ⟨row, hactor ▸ hrow⟩
    · rcases moved.fresh account actorId hbound with hold | ⟨-, hsame, hpending, -⟩
      · obtain ⟨row, hrow⟩ := keys.accounts account actorId hold
        refine ⟨row, ?_⟩
        rw [moved.actors _ (fun hpending => ?_) hactor, hrow]
        by_cases hsame : actor = pending
        · exact hactor (hpending.trans hsame.symm)
        · exact moved.left hsame account actorId hold hpending
      · exact absurd (hpending.trans hsame.symm) hactor

end commit

/-! ### What a commit of somebody else leaves -/

section others

variable {call other : BindCall} {pending : Pending} {actor mine : Key} {own : Pending}
  {locks : List RowLock} {before after : Identities}

/-- A commit of a binding, seen by a session that holds none of the locks. -/
structure Foreign (call : BindCall) (pending actor : Key) (locks : List RowLock)
    (before after : Identities) : Prop extends Moved call pending actor before after where
  pendingLock : .actor pending ∉ locks
  actorLock : .actor actor ∉ locks
  accountLock : before.externalIdentities.get? call.account = none → .account call.account ∉ locks

variable (foreign : Foreign call pending.actor actor locks before after)
include foreign

theorem Foreign.apart {key : Key} (held : .actor key ∈ locks) :
    key ≠ pending.actor ∧ key ≠ actor := by
  refine ⟨?_, ?_⟩
  · rintro rfl
    exact foreign.pendingLock held
  · rintro rfl
    exact foreign.actorLock held

theorem Foreign.granted {key : Key} {role : Role}
    (spared : key = pending.actor → actor = pending.actor)
    (has : before.hasRole key role = true) : after.hasRole key role = true := by
  by_cases hactor : key = actor
  · rw [hactor] at has ⊢
    exact (foreign.united role).mpr (.inl has)
  · rw [foreign.roles key role (fun hpending => hactor ?_) hactor]
    · exact has
    · exact hpending.trans (spared hpending).symm

theorem Selected.kept (selected : Selected other own locks before) :
    Selected other own locks after := by
  obtain ⟨hpending, hactor⟩ := foreign.apart selected.locked
  refine ⟨selected.locked, ?_, selected.code, selected.active, selected.here⟩
  rw [foreign.actors _ hpending hactor]
  exact selected.stored

theorem Entitled.kept (entitled : Entitled other own locks before) :
    Entitled other own locks after := by
  obtain ⟨hpending, hactor⟩ := foreign.apart entitled.locked
  refine ⟨entitled.toSelected.kept foreign, fun role hrole => ?_, entitled.bindable⟩
  rw [foreign.roles _ _ hpending hactor]
  exact entitled.roles role hrole

theorem Joining.kept (joining : Joining other own mine before) : Joining other own mine after :=
  ⟨foreign.bindings _ _ joining.bound, joining.here, joining.other⟩

theorem Unbound.kept (held : .actor own.actor ∈ locks) (unbound : Unbound own before) :
    Unbound own after := by
  intro account actorId hbound
  rcases foreign.fresh account actorId hbound with hold | ⟨-, -, hpending, -⟩
  · exact unbound account actorId hold
  · rw [hpending]
    exact (foreign.apart held).1.symm

theorem Copied.kept {roles : List Role} (held : .actor own.actor ∈ locks)
    (copied : Copied own roles before) : Copied own roles after := by
  intro role
  obtain ⟨hpending, hactor⟩ := foreign.apart held
  rw [foreign.roles _ _ hpending hactor]
  exact copied role

theorem Foreign.free (held : .account other.account ∈ locks)
    (free : before.externalIdentities.get? other.account = none) :
    after.externalIdentities.get? other.account = none := by
  cases hafter : after.externalIdentities.get? other.account with
  | none => rfl
  | some actorId =>
      rcases foreign.fresh _ _ hafter with hold | ⟨hsame, -, -, hnone⟩
      · rw [free] at hold
        contradiction
      · exact absurd (hsame ▸ held) (foreign.accountLock hnone)

theorem Written.kept {writes : List IdentityWrite} (held : .actor own.actor ∈ locks)
    (written : Written other own locks before mine writes) :
    Written other own locks after mine writes := by
  cases written with
  | merged joining unbound locked copied =>
      exact .merged (joining.kept foreign) (unbound.kept foreign held) locked
        (copied.kept foreign held)
  | bound locked free => exact .bound locked (foreign.free locked free)
  | already bound => exact .already (foreign.bindings _ _ bound)

/-- The roles of the actor that a session binds to stay. -/
theorem Written.granted {writes : List IdentityWrite} {role : Role}
    (held : .actor own.actor ∈ locks) (written : Written other own locks before mine writes)
    (has : before.hasRole mine role = true) : after.hasRole mine role = true := by
  refine foreign.granted (fun hpending => ?_) has
  cases written with
  | merged joining unbound locked copied =>
      by_contra hne
      refine foreign.left hne _ _ joining.bound (Eq.trans ?_ hpending)
      rw [show other.account.1 = mine.1 from joining.here.symm]
  | bound locked free => exact absurd hpending (foreign.apart held).1
  | already bound => exact absurd hpending (foreign.apart held).1

theorem CodeGone.kept (gone : CodeGone other before) : CodeGone other after := by
  intro key row hrow hhere hcode
  obtain ⟨-, old, hold, holdCode⟩ := foreign.codes key row _ hrow hcode
  exact gone key old hold hhere holdCode

omit foreign in
/-- Nobody has to take back a claim. -/
theorem claims_kept {session : BindSession}
    (foreign : Foreign call pending.actor actor session.locks before after)
    (claims : session.Claims before) : session.Claims after := by
  obtain ⟨⟨other, stage⟩, writes, locks⟩ := session
  cases stage with
  | selecting => exact claims
  | readingRoles own => exact ⟨claims.1, claims.2.kept foreign⟩
  | readingAccount own => exact ⟨claims.1, claims.2.kept foreign⟩
  | inserting own => exact ⟨claims.1, claims.2.kept foreign⟩
  | checkingBindings own mine =>
      exact ⟨claims.1, claims.2.1.kept foreign, claims.2.2.kept foreign⟩
  | granting own mine =>
      obtain ⟨hwrites, hentitled, hjoining, hunbound⟩ := claims
      exact ⟨hwrites, hentitled.kept foreign, hjoining.kept foreign,
        hunbound.kept foreign hentitled.locked⟩
  | activating own mine =>
      obtain ⟨hentitled, hjoining, hunbound, roles, hcopied, hwrites⟩ := claims
      exact ⟨hentitled.kept foreign, hjoining.kept foreign,
        hunbound.kept foreign hentitled.locked, roles, hcopied.kept foreign hentitled.locked,
        hwrites⟩
  | deleting own mine =>
      obtain ⟨hentitled, hjoining, hunbound, hlocked, roles, hcopied, hwrites⟩ := claims
      exact ⟨hentitled.kept foreign, hjoining.kept foreign,
        hunbound.kept foreign hentitled.locked, hlocked, roles,
        hcopied.kept foreign hentitled.locked, hwrites⟩
  | clearingCode own =>
      obtain ⟨hentitled, ⟨hlocked, hfree, hwrites⟩ | ⟨hbound, hwrites⟩⟩ := claims
      · exact ⟨hentitled.kept foreign, .inl ⟨hlocked, foreign.free hlocked hfree, hwrites⟩⟩
      · exact ⟨hentitled.kept foreign, .inr ⟨foreign.bindings _ _ hbound, hwrites⟩⟩
  | readingActor own mine =>
      exact ⟨claims.1.kept foreign, claims.2.kept foreign claims.1.locked⟩
  | readingActive own mine found =>
      exact ⟨claims.1.kept foreign, claims.2.1.kept foreign claims.1.locked, claims.2.2⟩
  | committing answer =>
      cases answer with
      | none => exact claims
      | some identity =>
          obtain ⟨own, mine, hentitled, hwritten, hmine, hrole⟩ := claims
          refine ⟨own, mine, hentitled.kept foreign, hwritten.kept foreign hentitled.locked,
            hmine, ?_⟩
          obtain ⟨hpending, hactor⟩ := foreign.apart hentitled.locked
          rw [foreign.roles _ _ hpending hactor]
          exact hrole.imp_left (hwritten.granted foreign hentitled.locked)
  | returned answer =>
      cases answer with
      | none => exact claims
      | some identity => exact CodeGone.kept foreign claims
  | violated => exact claims
  | aborted => exact claims

end others

/-! ### What a statement adds -/

section own

variable {call : BindCall} {pending : Pending} {actor : Key} {locks : List RowLock}
  {writes : List IdentityWrite} {tables : Identities}

theorem Selected.append (selected : Selected call pending locks tables) (more : List RowLock) :
    Selected call pending (locks ++ more) tables :=
  { selected with locked := List.mem_append_left _ selected.locked }

theorem Entitled.append (entitled : Entitled call pending locks tables) (more : List RowLock) :
    Entitled call pending (locks ++ more) tables :=
  { entitled with toSelected := entitled.toSelected.append more }

theorem Written.append (written : Written call pending locks tables actor writes)
    (more : List RowLock) : Written call pending (locks ++ more) tables actor writes := by
  cases written with
  | merged joining unbound locked copied =>
      exact .merged joining unbound (List.mem_append_left _ locked) copied
  | bound locked free => exact .bound (List.mem_append_left _ locked) free
  | already bound => exact .already bound

/-- The pending actor is the one who has the code. -/
theorem selected_pendingActor {row : ActorRow}
    (found : tables.pendingActor call.now call.organizationId call.bindCode = some (actor, row))
    (more : List RowLock) :
    Selected call ⟨actor, row, []⟩ (more ++ [.actor actor]) tables := by
  unfold Identities.pendingActor at found
  have hcondition := List.find?_some found
  have hstored := List.mem_of_find?_eq_some found
  simp only [Bool.and_eq_true, decide_eq_true_eq] at hcondition
  obtain ⟨⟨⟨hhere, hcode⟩, -⟩, hactive⟩ := hcondition
  exact ⟨by simp, (Dict.get?_eq_some _ _ _).mpr hstored, hcode, hactive, hhere⟩

/-- The answer of a binding whose writes are done. -/
theorem answered (keys : IdentityKeys tables) (entitled : Entitled call pending locks tables)
    (written : Written call pending locks tables actor writes) (row : ActorRow) :
    ∃ identity, call.answer pending actor (some row)
        ((writes.foldl IdentityWrite.apply tables).roleSet actor) = some identity ∧
      actor = (call.organizationId, identity.actorId) ∧
      (tables.hasRole actor identity.role = true ∨
        tables.hasRole pending.actor identity.role = true) := by
  have hmoved := written.moved keys entitled.toSelected
  obtain ⟨identity, hanswer, hactor, hrole⟩ := @answer_some call pending
    ((writes.foldl IdentityWrite.apply tables).roleSet actor) entitled.bindable
    (fun role hmem => mem_roleSet.mpr ((hmoved.united role).mpr (.inr (entitled.roles role hmem))))
    actor row
  refine ⟨identity, hanswer, ?_, (hmoved.united _).mp (mem_roleSet.mp hrole)⟩
  have hhere : actor.1 = call.organizationId := by
    cases written with
    | merged joining unbound locked copied => exact joining.here
    | bound locked free => exact entitled.here
    | already bound => exact entitled.here
  rw [hactor, ← hhere]

theorem view_nil {session : BindSession} (none : session.writes = []) :
    BindDesk.view tables session = tables := by
  unfold BindDesk.view Database.view
  rw [none]
  rfl

/-- The statement of a session, where it runs. -/
theorem statement_run {job next : BindJob} {view : Identities} :
    job.statement view = .run locks writes next ↔
      job.call.statement job.stage view = .run locks writes next.stage ∧ next.call = job.call := by
  obtain ⟨call, stage⟩ := job
  obtain ⟨other, later⟩ := next
  unfold BindJob.statement
  simp only
  cases call.statement stage view with
  | run locks' writes' stage' =>
      simp only [TransactionStep.run.injEq, BindJob.mk.injEq]
      constructor
      · rintro ⟨rfl, rfl, rfl, rfl⟩
        exact ⟨⟨rfl, rfl, rfl⟩, rfl⟩
      · rintro ⟨⟨rfl, rfl, rfl⟩, rfl⟩
        exact ⟨rfl, rfl, rfl, rfl⟩
  | commit stage' => simp
  | rollback stage' => simp

/-- The pending actor is there still when its roles have been granted to the other one. -/
theorem stored_granted {roles : List Role} (selected : Selected call pending locks tables)
    (joining : Joining call pending actor tables) :
    ((roles.map (IdentityWrite.grant actor) ++ [IdentityWrite.activate actor]).foldl
      IdentityWrite.apply tables).actors.get? pending.actor = some pending.row := by
  obtain ⟨hactors, -, -⟩ := grants_apply actor roles tables
  rw [List.foldl_append]
  simp only [List.foldl_cons, List.foldl_nil, IdentityWrite.apply]
  rw [Dict.get?_mapValues, hactors, selected.stored, Option.map_some, if_neg joining.other.symm]

/-- What a session that is about to insert relies on. -/
def Unrivalled (call : BindCall) (stage : BindStage) (tables : Identities) : Prop :=
  ∀ pending, stage = .inserting pending → ∀ actorId,
    tables.externalIdentities.get? call.account = some actorId → actorId = pending.actor.2

theorem claims_run (keys : IdentityKeys tables) {stage later : BindStage}
    {taken : List RowLock} {written : List IdentityWrite}
    (claims : BindSession.Claims ⟨⟨call, stage⟩, writes, locks⟩ tables)
    (careful : Unrivalled call stage tables)
    (h : call.statement stage (writes.foldl IdentityWrite.apply tables) =
      .run taken written later) :
    BindSession.Claims ⟨⟨call, later⟩, writes ++ written, locks ++ taken⟩ tables := by
  cases stage with
  | selecting =>
      obtain rfl : writes = [] := claims
      rw [List.foldl_nil] at h
      simp only [BindCall.statement] at h
      cases hfound : tables.pendingActor call.now call.organizationId call.bindCode with
      | none =>
          rw [hfound] at h
          cases h
          rfl
      | some found =>
          rw [hfound] at h
          cases h
          exact ⟨rfl, selected_pendingActor hfound locks⟩
  | readingRoles pending =>
      obtain ⟨hwrites, hselected⟩ := claims
      obtain rfl : writes = [] := hwrites
      rw [List.foldl_nil] at h
      simp only [BindCall.statement] at h
      split at h
      · rename_i hbindable
        cases h
        refine ⟨rfl, ?_⟩
        exact {
          toSelected := { hselected with locked := List.mem_append_left _ hselected.locked }
          roles := fun role hmem => mem_roleSet.mp hmem
          bindable := hbindable }
      · cases h
        rfl
  | readingAccount pending =>
      obtain ⟨hwrites, hentitled⟩ := claims
      obtain rfl : writes = [] := hwrites
      rw [List.foldl_nil] at h
      simp only [BindCall.statement] at h
      cases hbound : tables.externalIdentities.get? call.account with
      | none =>
          rw [hbound] at h
          cases h
          exact ⟨rfl, hentitled.append _⟩
      | some actorId =>
          rw [hbound] at h
          simp only at h
          split at h
          · rename_i hother
            cases h
            exact ⟨rfl, hentitled.append _, hbound, rfl, hother.2⟩
          · cases h
            exact ⟨rfl, hentitled.append _⟩
  | checkingBindings pending actor =>
      obtain ⟨hwrites, hentitled, hjoining⟩ := claims
      obtain rfl : writes = [] := hwrites
      rw [List.foldl_nil] at h
      simp only [BindCall.statement] at h
      split at h
      · cases h
        rfl
      · rename_i hnobody
        cases h
        refine ⟨rfl, hentitled.append _, hjoining, fun account actorId hbound hpending => ?_⟩
        refine hnobody (List.any_eq_true.mpr ⟨(account, actorId), ?_, decide_eq_true hpending⟩)
        exact (Dict.get?_eq_some _ _ _).mp hbound
  | granting pending actor =>
      obtain ⟨hwrites, hentitled, hjoining, hunbound⟩ := claims
      obtain rfl : writes = [] := hwrites
      rw [List.foldl_nil] at h
      simp only [BindCall.statement] at h
      split at h
      · cases h
        exact ⟨hentitled.append _, hjoining, hunbound, _, fun role => mem_roleSet, rfl⟩
      · contradiction
  | activating pending actor =>
      obtain ⟨hentitled, hjoining, hunbound, roles, hcopied, hwrites⟩ := claims
      obtain rfl : writes = roles.map (.grant actor) := hwrites
      simp only [BindCall.statement] at h
      cases h
      exact ⟨hentitled.append _, hjoining, hunbound, by simp, roles, hcopied, rfl⟩
  | deleting pending actor =>
      obtain ⟨hentitled, hjoining, hunbound, hlocked, roles, hcopied, hwrites⟩ := claims
      obtain rfl : writes = roles.map (.grant actor) ++ [.activate actor] := hwrites
      simp only [BindCall.statement] at h
      rw [stored_granted hentitled.toSelected hjoining, Option.any_some,
        if_pos (decide_eq_true hentitled.code)] at h
      cases h
      exact ⟨hentitled.append _, .merged hjoining hunbound (List.mem_append_left _ hlocked) hcopied⟩
  | inserting pending =>
      obtain ⟨hwrites, hentitled⟩ := claims
      obtain rfl : writes = [] := hwrites
      rw [List.foldl_nil] at h
      simp only [BindCall.statement] at h
      cases hbound : tables.externalIdentities.get? call.account with
      | none =>
          rw [if_neg (by simp [Dict.contains, hbound])] at h
          cases h
          exact ⟨hentitled.append _, .inl ⟨by simp, hbound, rfl⟩⟩
      | some actorId =>
          rw [if_pos (by simp [Dict.contains, hbound])] at h
          cases h
          refine ⟨hentitled.append _, .inr ⟨?_, rfl⟩⟩
          rw [hbound, careful pending rfl actorId hbound]
  | clearingCode pending =>
      obtain ⟨hentitled, ⟨hlocked, hfree, hwrites⟩ | ⟨hbound, hwrites⟩⟩ := claims
      · obtain rfl : writes = [.bind call.account pending.actor.2] := hwrites
        simp only [BindCall.statement] at h
        cases h
        exact ⟨hentitled.append _, .bound (List.mem_append_left _ hlocked) hfree⟩
      · obtain rfl : writes = [] := hwrites
        simp only [BindCall.statement] at h
        cases h
        exact ⟨hentitled.append _, .already hbound⟩
  | readingActor pending actor =>
      obtain ⟨hentitled, hwritten⟩ := claims
      simp only [BindCall.statement] at h
      cases h
      obtain ⟨row, hrow, hactive⟩ := (hwritten.moved keys hentitled.toSelected).present
      rw [List.append_nil, List.append_nil]
      refine ⟨hentitled, hwritten, ?_⟩
      rw [hrow, Option.filter_some, if_pos hactive]
      rfl
  | readingActive pending actor found =>
      obtain ⟨hentitled, hwritten, hfound⟩ := claims
      obtain ⟨row, rfl⟩ := Option.isSome_iff_exists.mp hfound
      simp only [BindCall.statement] at h
      cases h
      obtain ⟨identity, hanswer, hactor, hrole⟩ := answered keys hentitled hwritten row
      rw [hanswer, List.append_nil, List.append_nil]
      exact ⟨pending, actor, hentitled, hwritten, hactor, hrole⟩
  | committing answer => contradiction
  | returned answer =>
      simp only [BindCall.statement] at h
      cases h
      cases answer <;> exact claims
  | violated =>
      simp only [BindCall.statement] at h
      cases h
      trivial
  | aborted =>
      simp only [BindCall.statement] at h
      cases h
      trivial

end own

/-! ### Runs -/

section runs

variable {call : BindCall} {pending : Pending} {actor : Key} {locks : List RowLock}
  {writes : List IdentityWrite} {tables : Identities} {desk : BindDesk}

/-- A commit of what a binding has written is foreign to every session without its locks. -/
theorem Written.foreign (keys : IdentityKeys tables)
    (selected : Selected call pending locks tables)
    (written : Written call pending locks tables actor writes) {others : List RowLock}
    (disjoint : ∀ lock ∈ locks, lock ∉ others) :
    Foreign call pending.actor actor others tables
      (writes.foldl IdentityWrite.apply tables) where
  toMoved := written.moved keys selected
  pendingLock := disjoint _ selected.locked
  actorLock := by
    cases written with
    | merged joining unbound locked copied => exact disjoint _ locked
    | bound locked free => exact disjoint _ selected.locked
    | already bound => exact disjoint _ selected.locked
  accountLock none := by
    cases written with
    | merged joining unbound locked copied =>
        rw [joining.bound] at none
        contradiction
    | bound locked free => exact disjoint _ locked
    | already bound =>
        rw [bound] at none
        contradiction

/-- Nobody has the code of a binding that was committed. -/
theorem Written.codeGone (keys : IdentityKeys tables)
    (selected : Selected call pending locks tables)
    (written : Written call pending locks tables actor writes) :
    CodeGone call (writes.foldl IdentityWrite.apply tables) := by
  intro key row hrow hhere hcode
  obtain ⟨hother, old, hold, holdCode⟩ := (written.moved keys selected).codes key row _ hrow hcode
  exact hother (keys.codes _ _ _ _ _ hold selected.stored (hhere.trans selected.here.symm)
    holdCode selected.code)

/-- Only a commit makes a call return, and only a grant can fail. -/
theorem statement_outcome (call : BindCall) (stage : BindStage) (view : Identities) :
    match call.statement stage view with
    | .run _ _ later => ∀ answer, later = .returned answer → stage = .returned answer
    | .commit later => ∃ answer, stage = .committing answer ∧ later = .returned answer
    | .rollback later => later = .violated := by
  cases stage with
  | committing answer => exact ⟨answer, rfl, rfl⟩
  | returned other => exact fun answer h => h
  | selecting =>
      simp only [BindCall.statement]
      cases view.pendingActor call.now call.organizationId call.bindCode <;>
        exact fun answer h => by cases h
  | readingRoles pending =>
      simp only [BindCall.statement]
      cases bindable (view.roleSet pending.actor) call.consumerKey <;>
        exact fun answer h => by cases h
  | readingAccount pending =>
      simp only [BindCall.statement]
      cases view.externalIdentities.get? call.account with
      | none => exact fun answer h => by cases h
      | some actorId =>
          by_cases hother : actorId ≠ "" ∧ (call.organizationId, actorId) ≠ pending.actor
          · simp only [if_pos hother]
            exact fun answer h => by cases h
          · simp only [if_neg hother]
            exact fun answer h => by cases h
  | checkingBindings pending actor =>
      simp only [BindCall.statement]
      cases view.externalIdentities.entries.any fun entry =>
        decide ((entry.1.1, entry.2) = pending.actor) <;> exact fun answer h => by cases h
  | granting pending actor =>
      simp only [BindCall.statement]
      cases (view.roleSet pending.actor).all (view.admitsRole actor) with
      | false => rfl
      | true => exact fun answer h => by cases h
  | deleting pending actor =>
      simp only [BindCall.statement]
      cases (view.actors.get? pending.actor).any fun row =>
        decide (row.bindCode = some call.bindCode) <;> exact fun answer h => by cases h
  | inserting pending =>
      simp only [BindCall.statement]
      cases view.externalIdentities.contains call.account <;> exact fun answer h => by cases h
  | activating pending actor => exact fun answer h => by cases h
  | clearingCode pending => exact fun answer h => by cases h
  | readingActor pending actor => exact fun answer h => by cases h
  | readingActive pending actor found => exact fun answer h => by cases h
  | violated => exact fun answer h => by cases h
  | aborted => exact fun answer h => by cases h

def BindDesk.Sound (desk : BindDesk) : Prop :=
  Database.Sound IdentityKeys BindSession.Claims desk

/-- A commit keeps the keys, and leaves every session what it relies on. -/
theorem claims_commit (keys : IdentityKeys tables) {answer : Option Resolved}
    (claims : BindSession.Claims ⟨⟨call, .committing answer⟩, writes, locks⟩ tables) :
    IdentityKeys (writes.foldl IdentityWrite.apply tables) ∧
      BindSession.Claims ⟨⟨call, .returned answer⟩, [], []⟩
        (writes.foldl IdentityWrite.apply tables) ∧
      ∀ other : BindSession, other.Claims tables → (∀ lock ∈ locks, lock ∉ other.locks) →
        other.Claims (writes.foldl IdentityWrite.apply tables) := by
  cases answer with
  | none =>
      obtain rfl : writes = [] := claims
      exact ⟨keys, trivial, fun _ claims _ => claims⟩
  | some identity =>
      obtain ⟨pending, actor, hentitled, hwritten, -, -⟩ := claims
      refine ⟨(hwritten.moved keys hentitled.toSelected).keys keys,
        hwritten.codeGone keys hentitled.toSelected, fun other hclaims hdisjoint => ?_⟩
      exact claims_kept (hwritten.foreign keys hentitled.toSelected hdisjoint) hclaims

theorem sound_turn (sound : desk.Sound) {next : Database.Turn} (careful : desk.Careful next) :
    (desk.turn next).Sound := by
  refine Database.Sound.turn sound ?_ ?_ ?_ ?_
  · rintro index ⟨⟨call, stage⟩, writes, locks⟩ taken written ⟨other, later⟩ rfl hsession h
    obtain ⟨hstatement, hcall⟩ := statement_run.mp h
    obtain rfl : other = call := hcall
    refine claims_run sound.valid (sound.claims index _ hsession) ?_ hstatement
    rintro pending rfl actorId hbound
    exact careful _ hsession actorId hbound
  · rintro index ⟨⟨call, stage⟩, writes, locks⟩ ⟨other, later⟩ rfl hsession h
    have houtcome := statement_outcome call stage (BindDesk.view desk.tables ⟨⟨call, stage⟩, writes,
      locks⟩)
    change BindJob.statement ⟨call, stage⟩ (BindDesk.view _ _) = _ at h
    unfold BindJob.statement at h
    simp only at h
    cases hstatement : call.statement stage (BindDesk.view desk.tables ⟨⟨call, stage⟩, writes,
        locks⟩) with
    | commit later =>
        rw [hstatement] at h houtcome
        cases h
        obtain ⟨answer, rfl, rfl⟩ := houtcome
        exact claims_commit sound.valid (sound.claims index _ hsession)
    | run =>
        rw [hstatement] at h
        contradiction
    | rollback =>
        rw [hstatement] at h
        contradiction
  · rintro index ⟨⟨call, stage⟩, writes, locks⟩ ⟨other, later⟩ hsession h
    have houtcome := statement_outcome call stage (BindDesk.view desk.tables ⟨⟨call, stage⟩, writes,
      locks⟩)
    change BindJob.statement ⟨call, stage⟩ (BindDesk.view _ _) = _ at h
    unfold BindJob.statement at h
    simp only at h
    cases hstatement : call.statement stage (BindDesk.view desk.tables ⟨⟨call, stage⟩, writes,
        locks⟩) with
    | rollback later =>
        rw [hstatement] at h houtcome
        cases h
        obtain rfl := houtcome
        trivial
    | run =>
        rw [hstatement] at h
        contradiction
    | commit =>
        rw [hstatement] at h
        contradiction
  · rintro index ⟨⟨call, stage⟩, writes, locks⟩ ⟨other, later⟩ hsession h
    cases stage <;> cases h <;> trivial

/-- Where one session moves on without returning, no call returns. -/
theorem not_returns {next : Database.Turn} {index : Nat} {session later : BindSession}
    {tables : Identities} (h : desk.sessions[index]? = some session)
    (turned : desk.turn next = ⟨tables, desk.sessions.set index later⟩)
    (silent : ∀ answer, later.stage.stage = .returned answer →
      session.stage.stage = .returned answer) (other : Nat) (call : BindCall)
    (answer : Option Resolved) : ¬desk.Returns next other call answer := by
  rintro ⟨⟨stage, writes, locks, hbefore, hstage⟩, writes', locks', hafter⟩
  rw [turned] at hafter
  simp only at hafter
  rw [Database.getElem?_put h] at hafter
  by_cases hsame : other = index
  · rw [if_pos hsame, Option.some.injEq] at hafter
    rw [hsame, h, Option.some.injEq] at hbefore
    refine hstage answer ?_
    have hreturned := silent answer (by rw [hafter])
    rwa [hbefore] at hreturned
  · rw [if_neg hsame, hbefore, Option.some.injEq] at hafter
    cases hafter
    exact hstage answer rfl

theorem not_returns_idle {next : Database.Turn} (turned : desk.turn next = desk) (index : Nat)
    (call : BindCall) (answer : Option Resolved) : ¬desk.Returns next index call answer := by
  rintro ⟨⟨stage, writes, locks, hbefore, hstage⟩, writes', locks', hafter⟩
  rw [turned, hbefore, Option.some.injEq] at hafter
  cases hafter
  exact hstage answer rfl

/-- A turn is a commit, or it leaves the tables alone and no call returns. -/
theorem turn_cases (desk : BindDesk) (next : Database.Turn) :
    ((desk.turn next).tables = desk.tables ∧
      ∀ index call answer, ¬desk.Returns next index call answer) ∨
    ∃ (index : Nat) (call : BindCall) (answer : Option Resolved) (writes : List IdentityWrite)
      (locks : List RowLock),
      desk.sessions[index]? = some ⟨⟨call, .committing answer⟩, writes, locks⟩ ∧
      desk.turn next = ⟨writes.foldl IdentityWrite.apply desk.tables,
        desk.sessions.set index ⟨⟨call, .returned answer⟩, [], []⟩⟩ := by
  cases next with
  | step index =>
      cases hsession : desk.sessions[index]? with
      | none =>
          have hturn : desk.turn (.step index) = desk := by
            simp only [BindDesk.turn, Database.turn, hsession]
          exact .inl ⟨by rw [hturn], not_returns_idle hturn⟩
      | some session =>
          obtain ⟨⟨call, stage⟩, writes, locks⟩ := session
          have houtcome := statement_outcome call stage
            (writes.foldl IdentityWrite.apply desk.tables)
          have hturn : desk.turn (.step index) = Database.perform IdentityWrite.apply
              BindJob.statement desk index ⟨⟨call, stage⟩, writes, locks⟩ := by
            simp only [BindDesk.turn, Database.turn, hsession]
          unfold Database.perform Database.view BindJob.statement at hturn
          simp only at hturn
          cases hstatement : call.statement stage (writes.foldl IdentityWrite.apply desk.tables) with
          | run taken written later =>
              rw [hstatement] at hturn houtcome
              simp only at hturn
              split at hturn
              · exact .inl ⟨by rw [hturn], not_returns hsession hturn houtcome⟩
              · exact .inl ⟨by rw [hturn], not_returns_idle hturn⟩
          | rollback later =>
              rw [hstatement] at hturn houtcome
              obtain rfl := houtcome
              exact .inl ⟨by rw [hturn], not_returns hsession hturn fun answer h => by cases h⟩
          | commit later =>
              rw [hstatement] at hturn houtcome
              obtain ⟨answer, rfl, rfl⟩ := houtcome
              exact .inr ⟨index, call, answer, writes, locks, hsession, hturn⟩
  | abort index =>
      cases hsession : desk.sessions[index]? with
      | none =>
          have hturn : desk.turn (.abort index) = desk := by
            simp only [BindDesk.turn, Database.turn, hsession]
          exact .inl ⟨by rw [hturn], not_returns_idle hturn⟩
      | some session =>
          cases hcancelled : session.stage.cancelled with
          | none =>
              have hturn : desk.turn (.abort index) = desk := by
                simp only [BindDesk.turn, Database.turn, hsession, hcancelled]
              exact .inl ⟨by rw [hturn], not_returns_idle hturn⟩
          | some later =>
              have hturn : desk.turn (.abort index) =
                  ⟨desk.tables, desk.sessions.set index ⟨later, [], []⟩⟩ := by
                simp only [BindDesk.turn, Database.turn, hsession, hcancelled]
              refine .inl ⟨by rw [hturn], not_returns hsession hturn fun answer h => ?_⟩
              unfold BindJob.cancelled at hcancelled
              split at hcancelled
              · contradiction
              · contradiction
              · contradiction
              · cases hcancelled
                cases h

/-- A commit makes one call return. -/
theorem returns_commit {next : Database.Turn} {index other : Nat} {call found : BindCall}
    {answer given : Option Resolved} {tables : Identities}
    (h : desk.sessions[index]? = some ⟨⟨call, .committing answer⟩, writes, locks⟩)
    (turned : desk.turn next = ⟨tables, desk.sessions.set index ⟨⟨call, .returned answer⟩, [], []⟩⟩)
    (returns : desk.Returns next other found given) :
    other = index ∧ found = call ∧ given = answer := by
  obtain ⟨⟨stage, writes', locks', hbefore, hstage⟩, writes'', locks'', hafter⟩ := returns
  rw [turned] at hafter
  simp only at hafter
  rw [Database.getElem?_put h] at hafter
  by_cases hsame : other = index
  · rw [if_pos hsame] at hafter
    cases hafter
    exact ⟨hsame, rfl, rfl⟩
  · rw [if_neg hsame, hbefore] at hafter
    cases hafter
    exact absurd rfl (hstage given)

/-- A sound desk is truthful with every turn. -/
theorem truthful_turn (sound : desk.Sound) (next : Database.Turn) : desk.Truthful next := by
  rcases turn_cases desk next with ⟨htables, hsilent⟩ | hcommit
  · refine ⟨fun account actorId hbound => htables ▸ hbound, fun _ _ _ => htables, ?_⟩
    exact fun index call identity hreturns => absurd hreturns (hsilent index call _)
  · obtain ⟨index, call, answer, writes, locks, hsession, hturn⟩ := hcommit
    have hclaims := sound.claims index _ hsession
    cases answer with
    | none =>
        obtain rfl : writes = [] := hclaims
        have htables : (desk.turn next).tables = desk.tables := by rw [hturn]; rfl
        refine ⟨fun account actorId hbound => htables ▸ hbound, fun _ _ _ => htables, ?_⟩
        intro other found identity hreturns
        obtain ⟨-, -, hanswer⟩ := returns_commit hsession hturn hreturns
        contradiction
    | some identity =>
        obtain ⟨pending, actor, hentitled, hwritten, rfl, hrole⟩ := hclaims
        have hmoved := hwritten.moved sound.valid hentitled.toSelected
        refine ⟨fun account actorId hbound => ?_, fun other found hreturns => ?_,
          fun other found given hreturns => ?_⟩
        · rw [hturn]
          exact hmoved.bindings account actorId hbound
        · obtain ⟨-, -, hanswer⟩ := returns_commit hsession hturn hreturns
          contradiction
        · obtain ⟨rfl, rfl, hanswer⟩ := returns_commit hsession hturn hreturns
          cases hanswer
          rw [hturn]
          refine ⟨hmoved.account, (hmoved.united _).mpr hrole,
            ⟨pending.actor, pending.row, hentitled.stored, hentitled.here, hentitled.code,
              hmoved.united⟩, hwritten.codeGone sound.valid hentitled.toSelected, ?_⟩
          rintro index earlier writes' locks' before - hearlier ⟨horganization, hcode⟩
          have hgone : CodeGone earlier desk.tables := sound.claims index _ hearlier
          refine hgone pending.actor pending.row hentitled.stored ?_ ?_
          · rw [horganization]
            exact hentitled.here
          · rw [hcode]
            exact hentitled.code

theorem sound_open {people : Identities} (keys : IdentityKeys people) (calls : List BindCall) :
    (BindDesk.open people calls).Sound := by
  have hfresh (index : Nat) (session : BindSession)
      (h : (BindDesk.open people calls).sessions[index]? = some session) :
      ∃ call, session = ⟨⟨call, .selecting⟩, [], []⟩ := by
    simp only [BindDesk.open, Database.open, List.getElem?_map] at h
    obtain ⟨job, hjob, rfl⟩ := Option.map_eq_some_iff.mp h
    obtain ⟨call, -, rfl⟩ := Option.map_eq_some_iff.mp hjob
    exact ⟨call, rfl⟩
  refine ⟨fun first second left right lock _ hleft _ hlock => ?_, keys, fun index session h => ?_⟩
  · obtain ⟨call, rfl⟩ := hfresh first left hleft
    exact absurd hlock List.not_mem_nil
  · obtain ⟨call, rfl⟩ := hfresh index session h
    rfl

/-- Any bindings by code that run at once, on any people, in any order of their statements, with
transactions that fail on the way: while no account is bound to another actor between the look
at it and the insertion, every turn is truthful. -/
theorem bindings_truthful (people : Identities) (keys : IdentityKeys people)
    (calls : List BindCall) (turns : List Database.Turn)
    (careful : Throughout BindDesk.turn BindDesk.Careful (BindDesk.open people calls) turns) :
    ∀ before next, before ++ [next] <+: turns →
      (before.foldl BindDesk.turn (BindDesk.open people calls)).Truthful next := by
  intro before next hprefix
  have hbefore : before <+: turns := (List.prefix_append before [next]).trans hprefix
  have hsound : BindDesk.Sound (before.foldl BindDesk.turn (BindDesk.open people calls)) :=
    @Throughout.invariant _ _ _ _ _ turns BindDesk.Sound
      (fun _ _ sound careful => sound_turn sound careful) (sound_open keys calls) careful before
      hbefore
  exact truthful_turn hsound next

end runs

def samplePending (code : String) : ActorRow :=
  ⟨.operator, "Ann", none, some code, some ⟨100⟩, true, none⟩

/-- Two operators, each with a code, and no account. -/
def samplePeople : Identities :=
  { actors := ⟨[(("acme", "1"), samplePending "1111"), (("acme", "2"), samplePending "2222")],
      by decide⟩
    actorRoles := ⟨[((("acme", "1"), .operator), true), ((("acme", "2"), .operator), true)],
      by decide⟩
    externalIdentities := .empty }

theorem samplePeople_keys : IdentityKeys samplePeople where
  codes left right leftRow rightRow code hleft hright _ hleftCode hrightCode := by
    rw [Dict.get?_eq_some] at hleft hright
    simp only [samplePeople, List.mem_cons, List.not_mem_nil, or_false,
      Prod.mk.injEq] at hleft hright
    rcases hleft with ⟨rfl, rfl⟩ | ⟨rfl, rfl⟩ <;> rcases hright with ⟨rfl, rfl⟩ | ⟨rfl, rfl⟩
    · rfl
    · exact absurd (hleftCode.trans hrightCode.symm) (by decide)
    · exact absurd (hleftCode.trans hrightCode.symm) (by decide)
    · rfl
  accounts account actorId hbound := by cases hbound

def sampleCall (code : String) : BindCall := ⟨"acme", code, .telegram, "7", "operator", ⟨0⟩⟩

/-- A binding that nothing comes between. -/
theorem one_binding_truthful :
    ((List.replicate 7 (Database.Turn.step 0)).foldl BindDesk.turn
      (BindDesk.open samplePeople [sampleCall "1111"])).Truthful (.step 0) := by
  refine bindings_truthful samplePeople samplePeople_keys [sampleCall "1111"]
    (List.replicate 8 (.step 0)) ?_ _ _ (List.prefix_refl _)
  refine ⟨?_, ?_, ?_, ?_, ?_, ?_, ?_, ?_, trivial⟩
  · rintro session ⟨⟩
    trivial
  · rintro session ⟨⟩
    trivial
  · rintro session ⟨⟩
    trivial
  · rintro session ⟨⟩ actorId hbound
    cases hbound
  · rintro session ⟨⟩
    trivial
  · rintro session ⟨⟩
    trivial
  · rintro session ⟨⟩
    trivial
  · rintro session ⟨⟩
    trivial

/-- Both look for the account before either binds it. -/
def sampleRivals : List Database.Turn :=
  List.replicate 3 (.step 0) ++ List.replicate 3 (.step 1) ++ List.replicate 5 (.step 0) ++
    List.replicate 4 (.step 1)

def sampleRivalDesk : BindDesk :=
  sampleRivals.foldl BindDesk.turn (BindDesk.open samplePeople [sampleCall "1111", sampleCall "2222"])

/-- A call returns an identity that the account is not bound to. -/
theorem rival_bound_elsewhere :
    ¬∀ (people : Identities), IdentityKeys people → ∀ (calls : List BindCall)
      (before : List Database.Turn) (next : Database.Turn),
      (before.foldl BindDesk.turn (BindDesk.open people calls)).Truthful next := by
  intro claim
  have htruthful : sampleRivalDesk.Truthful (.step 1) := claim samplePeople samplePeople_keys
    [sampleCall "1111", sampleCall "2222"] sampleRivals (.step 1)
  have hbound := htruthful.bound 1 (sampleCall "2222") ⟨"2", .operator, "Ann", [.operator]⟩
    ⟨⟨_, _, _, rfl, nofun⟩, _, _, rfl⟩
  have haccount := hbound.account
  revert haccount
  decide +kernel

end DispatchCore.Infrastructure
