import DispatchCore.Infrastructure.Staff

/-! Who works as a master, and which identity calls end that.  A call ends it for one
actor at most, who can be named before the call. -/
namespace DispatchCore.Infrastructure

open DispatchCore.Library DispatchCore.Domain

namespace Identities

variable {identities before after : Identities} {actor other : Key} {role : Role}

/-- An active actor whose master role is active. -/
def works (identities : Identities) (actor : Key) : Bool :=
  identities.activeActor actor && identities.hasRole actor .master

/-- The actor whom a binding merges into the one that the account is bound to. -/
def absorbed (identities : Identities) (now : Instant) (organizationId code : String)
    (provider : Provider) (externalUserId consumerKey : String) : Option Key := do
  let (pending, _) ← identities.pendingActor now organizationId code
  let actorId ← identities.externalIdentities.get?
    (organizationId, .messenger provider, externalUserId)
  if bindable (identities.roleSet pending) consumerKey ∧ actorId ≠ "" ∧
      (organizationId, actorId) ≠ pending ∧
      (identities.externalIdentities.entries.all fun entry => (entry.1.1, entry.2) ≠ pending) ∧
      identities.hasRole pending .admin = false then
    some pending
  else none

/-- Everybody but the one who leaves works on. -/
def Retains (leaves : Option Key) (before after : Identities) : Prop :=
  ∀ actor, leaves ≠ some actor → before.works actor = true → after.works actor = true

theorem works_iff : identities.works actor = true ↔
    identities.activeActor actor = true ∧ identities.hasRole actor .master = true := by
  rw [works, Bool.and_eq_true]

theorem activeActor_iff : identities.activeActor actor = true ↔
    ∃ row, identities.actors.get? actor = some row ∧ row.active = true := by
  rw [activeActor, Option.any_eq_true]

theorem Retains.refl (leaves : Option Key) (identities : Identities) :
    Retains leaves identities identities :=
  fun _ _ works => works

theorem Retains.trans {leaves : Option Key} {middle : Identities}
    (first : Retains leaves before middle) (second : Retains leaves middle after) :
    Retains leaves before after :=
  fun actor stays works => second actor stays (first actor stays works)

theorem Retains.of_kept {leaves : Option Key}
    (active : ∀ actor, leaves ≠ some actor → before.activeActor actor = true →
      after.activeActor actor = true)
    (masters : ∀ actor, leaves ≠ some actor → before.hasRole actor .master = true →
      after.hasRole actor .master = true) :
    Retains leaves before after := by
  intro actor stays works
  rw [works_iff] at works ⊢
  exact ⟨active actor stays works.1, masters actor stays works.2⟩

section rows

theorem hasRole_set {value : Bool} {second : Role}
    (stored : after.actorRoles = before.actorRoles.set (actor, role) value) :
    after.hasRole other second =
      if other = actor ∧ second = role then value else before.hasRole other second := by
  unfold hasRole
  rw [stored, Dict.get?_set]
  by_cases hsame : other = actor ∧ second = role
  · rw [if_pos hsame, if_pos (by rw [hsame.1, hsame.2])]
    rfl
  · rw [if_neg hsame, if_neg fun heq => hsame (by simpa using heq)]

theorem activeActor_set {row : ActorRow} (stored : after.actors = before.actors.set actor row) :
    after.activeActor other = if other = actor then row.active else before.activeActor other := by
  unfold activeActor
  rw [stored, Dict.get?_set]
  split <;> rfl

theorem activeActor_mapValues {change : Key → ActorRow → ActorRow}
    {actorRoles : Dict (Key × Role) Bool}
    {externalIdentities : Dict (String × IdentityProvider × String) String}
    (active : identities.activeActor actor = true)
    (kept : ∀ row, row.active = true → (change actor row).active = true) :
    Identities.activeActor ⟨identities.actors.mapValues change, actorRoles, externalIdentities⟩
      actor = true := by
  obtain ⟨row, hrow, hactive⟩ := activeActor_iff.mp active
  refine activeActor_iff.mpr ⟨change actor row, ?_, kept row hactive⟩
  rw [Dict.get?_mapValues, hrow]
  rfl

/-- A row is written that is active. -/
theorem Retains.put (leaves : Option Key) (identities : Identities) (actor : Key) {row : ActorRow}
    (active : row.active = true) :
    Retains leaves identities { identities with actors := identities.actors.set actor row } := by
  refine .of_kept (fun other _ hactive => ?_) (fun other _ hmaster => hmaster)
  rw [activeActor_set rfl]
  split
  · exact active
  · exact hactive

end rows

section growing

variable {leaves : Option Key}

theorem activateRole_ok : before.activateRole actor role = .ok after ↔
    before.admitsRole actor role = true ∧
      after = { before with actorRoles := before.actorRoles.set (actor, role) true } := by
  unfold activateRole
  split <;> rename_i admits <;> simp [admits, eq_comm]

theorem retains_activateRole (granted : before.activateRole actor role = .ok after) :
    Retains leaves before after := by
  obtain ⟨-, rfl⟩ := activateRole_ok.mp granted
  refine .of_kept (fun other _ active => active) (fun other _ master => ?_)
  rw [hasRole_set rfl]
  split
  · rfl
  · exact master

theorem retains_bindAccount (organizationId : String) (provider : Provider)
    (externalUserId actorId : String) :
    Retains leaves identities
      (identities.bindAccount organizationId provider externalUserId actorId) := by
  unfold bindAccount
  dsimp only
  split <;> exact .refl leaves _

/-- The row is written, its role becomes active, and an account may be bound besides. -/
theorem upsertActor_ok {organizationId actorId displayName : String}
    {account : Option (Provider × String)}
    (done : before.upsertActor organizationId actorId role displayName account = .ok after) :
    ∃ row, ((before.actors.get? (organizationId, actorId) = none ∧
          row = ⟨role, displayName, none, none, none, true, none⟩) ∨
        ∃ old, before.actors.get? (organizationId, actorId) = some old ∧
          row = { old with displayName := displayName, active := true }) ∧
      before.admitsRole (organizationId, actorId) role = true ∧
      after.actors = before.actors.set (organizationId, actorId) row ∧
      after.actorRoles = before.actorRoles.set ((organizationId, actorId), role) true := by
  obtain ⟨granted, hgranted, hbound⟩ := except_bind_ok.mp done
  have hwritten : after.actors = granted.actors ∧ after.actorRoles = granted.actorRoles := by
    split at hbound
    · cases hbound
      exact ⟨rfl, rfl⟩
    · split at hbound
      · split at hbound
        · cases hbound
          exact ⟨rfl, rfl⟩
        · cases hbound
      · cases hbound
        exact ⟨bindAccount_actors _ _ _ _ _, bindAccount_actorRoles _ _ _ _ _⟩
  obtain ⟨hadmits, rfl⟩ := activateRole_ok.mp hgranted
  cases hold : before.actors.get? (organizationId, actorId) with
  | none =>
      rw [hold] at hwritten
      exact ⟨_, .inl ⟨rfl, rfl⟩, hadmits, hwritten⟩
  | some old =>
      rw [hold] at hwritten
      exact ⟨_, .inr ⟨old, rfl, rfl⟩, hadmits, hwritten⟩

theorem retains_upsertActor {organizationId actorId displayName : String}
    {account : Option (Provider × String)}
    (done : before.upsertActor organizationId actorId role displayName account = .ok after) :
    Retains leaves before after := by
  obtain ⟨row, hrow, -, hactors, hroles⟩ := upsertActor_ok done
  have hactive : row.active = true := by
    rcases hrow with ⟨-, rfl⟩ | ⟨old, -, rfl⟩ <;> rfl
  refine .of_kept (fun other _ active => ?_) fun other _ master => ?_
  · rw [activeActor_set hactors]
    split
    · exact hactive
    · exact active
  · rw [hasRole_set hroles]
    split
    · rfl
    · exact master

/-- A request that has created its actor creates nobody else. -/
theorem createStaffActor_ok {draw : StaffDraw} {organizationId name : String}
    {phone requestKey : Option String} {card : StaffCard}
    (done : before.createStaffActor draw organizationId role name phone requestKey =
      .ok (card, after)) :
    (role = .operator ∨ role = .master) ∧ (requestKey.any fun key => Text.strip key = "") = false ∧
      ((∃ found, requestKey.bind (before.findRequest organizationId) = some found ∧
          after = before) ∨
        ∃ bindCode, requestKey.bind (before.findRequest organizationId) = none ∧
          before.unusedBindCode organizationId draw.candidates = .ok bindCode ∧
          before.actors.contains (organizationId, s!"{role.value}:{draw.tokenHex}") = false ∧
          card = ⟨s!"{role.value}:{draw.tokenHex}", role, name, phone, some bindCode⟩ ∧
          after = { before with
            actors := before.actors.set (organizationId, s!"{role.value}:{draw.tokenHex}")
              ⟨role, name, phone, some bindCode, some draw.expiresAt, true, requestKey⟩
            actorRoles := before.actorRoles.set
              ((organizationId, s!"{role.value}:{draw.tokenHex}"), role) true }) := by
  unfold createStaffActor at done
  dsimp only at done
  by_cases hrole : role ≠ .operator ∧ role ≠ .master
  · rw [if_pos hrole] at done
    cases done
  rw [if_neg hrole] at done
  by_cases hblank : (requestKey.any fun key => Text.strip key = "") = true
  · rw [if_pos hblank] at done
    cases done
  rw [if_neg hblank] at done
  refine ⟨by tauto, Bool.eq_false_iff.mpr hblank, ?_⟩
  cases hfound : requestKey.bind (before.findRequest organizationId) with
  | some found =>
      rw [hfound] at done
      refine .inl ⟨found, rfl, ?_⟩
      dsimp only [bind, Except.bind, pure, Except.pure] at done
      split at done
      · cases done
      · cases done
        rfl
  | none =>
      rw [hfound] at done
      obtain ⟨bindCode, hcode, done⟩ := except_bind_ok.mp done
      refine .inr ⟨bindCode, rfl, hcode, ?_⟩
      by_cases htaken :
          before.actors.contains (organizationId, s!"{role.value}:{draw.tokenHex}") = true
      · rw [if_pos htaken] at done
        cases done
      rw [if_neg htaken] at done
      obtain ⟨created, hcreated, done⟩ := except_bind_ok.mp done
      obtain ⟨-, rfl⟩ := activateRole_ok.mp hcreated
      cases done
      exact ⟨Bool.eq_false_iff.mpr htaken, rfl, rfl⟩

theorem retains_createStaffActor {draw : StaffDraw} {organizationId name : String}
    {phone requestKey : Option String} {card : StaffCard}
    (done : before.createStaffActor draw organizationId role name phone requestKey =
      .ok (card, after)) : Retains leaves before after := by
  obtain ⟨-, -, ⟨found, -, rfl⟩ | ⟨bindCode, -, -, -, -, rfl⟩⟩ := createStaffActor_ok done
  · exact .refl leaves after
  · refine .of_kept (fun other _ active => ?_) fun other _ master => ?_
    · rw [activeActor_set rfl]
      split
      · rfl
      · exact active
    · rw [hasRole_set rfl]
      split
      · rfl
      · exact master

theorem retains_grantRole {granted : Bool}
    (done : before.grantRole actor role = .ok (granted, after)) : Retains leaves before after := by
  unfold grantRole at done
  split at done
  · cases hrole : before.activateRole actor role with
    | error failure =>
        rw [hrole] at done
        cases done
    | ok identities =>
        rw [hrole] at done
        cases done
        exact retains_activateRole hrole
  · cases done
    exact .refl leaves before

theorem retains_updateActorPhone (phone : String) :
    Retains leaves identities (identities.updateActorPhone actor phone).2 := by
  unfold updateActorPhone
  split
  · split
    · rename_i hactive
      exact .put leaves _ actor hactive
    · exact .refl leaves identities
  · exact .refl leaves identities

theorem retains_issueBindCode {draw : StaffDraw} {code : Option String}
    (done : before.issueBindCode draw actor = .ok (code, after)) : Retains leaves before after := by
  obtain ⟨bindCode, -, done⟩ := except_bind_ok.mp done
  split at done
  · split at done
    · rename_i hactive
      cases done
      exact .put leaves _ actor hactive
    · cases done
      exact .refl leaves before
  · cases done
    exact .refl leaves before

end growing

section leaving

/-- The first of the roles that an actor keeps is there where any other is kept. -/
theorem remaining_isSome {second : Role} (kept : identities.hasRole actor second = true) :
    ∃ first, [Role.admin, .operator, .master, .client].find? (identities.hasRole actor) =
      some first := by
  rw [← Option.isSome_iff_exists, List.find?_isSome]
  exact ⟨second, by cases second <;> decide, kept⟩

variable {leaves : Option Key}

theorem retains_revokeRole (named : role = .master → leaves = some actor) :
    Retains leaves identities (identities.revokeRole actor role).2 := by
  unfold revokeRole
  by_cases hrole : identities.hasRole actor role = true
  · rw [if_pos hrole]
    dsimp only
    have hmasters : ∀ other, leaves ≠ some other → identities.hasRole other .master = true →
        Identities.hasRole { identities with
          actorRoles := identities.actorRoles.set (actor, role) false } other .master = true := by
      intro other stays master
      rw [hasRole_set rfl, if_neg]
      · exact master
      · rintro ⟨rfl, hmaster⟩
        exact stays (named hmaster.symm)
    split
    · refine .of_kept (fun other _ active => ?_) hmasters
      refine activeActor_mapValues active fun row h => ?_
      split <;> exact h
    · rename_i hgone
      refine fun other stays works => works_iff.mpr ⟨?_, hmasters other stays (works_iff.mp works).2⟩
      refine activeActor_mapValues (works_iff.mp works).1 fun row h => ?_
      split
      · rename_i hsame
        subst hsame
        obtain ⟨first, hfirst⟩ := remaining_isSome (hmasters other stays (works_iff.mp works).2)
        rw [hfirst] at hgone
        cases hgone
      · exact h
  · rw [if_neg hrole]
    exact .refl _ identities

theorem revokeRole_gone : (identities.revokeRole actor .master).2.works actor = false := by
  rw [Bool.eq_false_iff]
  intro works
  have hmaster := (works_iff.mp works).2
  unfold revokeRole at hmaster
  by_cases hrole : identities.hasRole actor .master = true
  · rw [if_pos hrole] at hmaster
    have hgone : Identities.hasRole { identities with
        actorRoles := identities.actorRoles.set (actor, .master) false } actor .master = false := by
      rw [hasRole_set rfl, if_pos ⟨rfl, rfl⟩]
    dsimp only at hmaster
    split at hmaster <;>
      exact Bool.false_ne_true (hgone.symm.trans hmaster)
  · rw [if_neg hrole] at hmaster
    exact hrole hmaster

theorem retains_deleteActor
    (named : identities.hasRole actor .admin = false → leaves = some actor) :
    Retains leaves identities (identities.deleteActor actor).2 := by
  unfold deleteActor
  by_cases hadmin : identities.hasRole actor .admin = true
  · rw [if_pos hadmin]
    exact .refl _ identities
  · rw [if_neg hadmin]
    have hleaves := named (Bool.eq_false_iff.mpr hadmin)
    refine .of_kept (fun other stays active => ?_) (fun other stays master => ?_)
    · refine activeActor_mapValues active fun row h => ?_
      rw [if_neg fun hsame => stays (hleaves.trans (congrArg some hsame.1.symm))]
      exact h
    · unfold hasRole at master ⊢
      rw [Dict.get?_mapValues]
      cases hstored : identities.actorRoles.get? (other, Role.master) with
      | none => rwa [hstored] at master
      | some active =>
          rw [hstored] at master
          rw [Option.map_some, if_neg fun hsame => stays (hleaves.trans (congrArg some hsame.symm))]
          exact master

theorem deleteActor_gone (ordinary : identities.hasRole actor .admin = false) :
    (identities.deleteActor actor).2.works actor = false := by
  rw [Bool.eq_false_iff]
  intro works
  obtain ⟨row, hrow, hactive⟩ := activeActor_iff.mp (works_iff.mp works).1
  unfold deleteActor at hrow
  rw [if_neg (by simp [ordinary]), Dict.get?_mapValues, Option.map_eq_some_iff] at hrow
  obtain ⟨previous, -, rfl⟩ := hrow
  by_cases hwas : previous.active = true <;> simp [deactivated, hwas] at hactive

end leaving

section merging

variable {pending : Key} {leaves : Option Key}

theorem activateRole_ordinary (ordinary : role ≠ .admin) :
    identities.activateRole actor role =
      .ok { identities with actorRoles := identities.actorRoles.set (actor, role) true } := by
  rw [activateRole_ok]
  simp [admitsRole, ordinary]

theorem admitsRole_admin (admits : identities.admitsRole actor .admin = true)
    (same : other.1 = actor.1) (admin : identities.hasRole other .admin = true) :
    other = actor := by
  have hentry : ((other, Role.admin), true) ∈ identities.actorRoles.entries := by
    rw [← Dict.get?_eq_some]
    unfold hasRole at admin
    cases hstored : identities.actorRoles.get? (other, Role.admin) with
    | none =>
        rw [hstored] at admin
        contradiction
    | some active =>
        rw [hstored] at admin
        exact congrArg some admin
  unfold admitsRole at admits
  have hall := (Bool.or_eq_true _ _).mp admits |>.resolve_left (by simp)
  simpa [same] using List.all_eq_true.mp hall _ hentry

theorem granted_roles {roles : List Role}
    (granted : roles.foldlM (fun identities role => identities.activateRole actor role) before =
      .ok after) :
    after.actors = before.actors ∧ ∀ other second, after.hasRole other second =
      if other = actor ∧ second ∈ roles then true else before.hasRole other second := by
  induction roles generalizing before with
  | nil =>
      cases granted
      refine ⟨rfl, fun other second => ?_⟩
      rw [if_neg fun h => List.not_mem_nil h.2]
  | cons role rest ih =>
      obtain ⟨middle, hfirst, hrest⟩ := except_bind_ok.mp granted
      obtain ⟨-, rfl⟩ := activateRole_ok.mp hfirst
      obtain ⟨hactors, hroles⟩ := ih hrest
      refine ⟨hactors, fun other second => ?_⟩
      rw [hroles, hasRole_set rfl]
      by_cases hother : other = actor
      · simp only [hother, true_and, List.mem_cons]
        by_cases hrole : second = role <;> simp [hrole]
      · simp only [hother, false_and, if_false]

theorem grants_ordinary {roles : List Role} (ordinary : .admin ∉ roles) :
    ∃ after, roles.foldlM (fun identities role => identities.activateRole actor role) before =
      .ok after := by
  induction roles generalizing before with
  | nil => exact ⟨before, rfl⟩
  | cons role rest ih =>
      rw [List.mem_cons, not_or] at ordinary
      obtain ⟨after, hrest⟩ := ih ordinary.2
      exact ⟨after, except_bind_ok.mpr ⟨_, activateRole_ordinary (Ne.symm ordinary.1), hrest⟩⟩

/-- The pending actor is gone, and the other one is active and has its roles. -/
theorem mergeActor_ok (merged : before.mergeActor pending actor = .ok after) :
    (∀ other, after.actors.get? other = if other = pending then none else
        (before.actors.get? other).map fun row =>
          if other = actor then { row with active := true } else row) ∧
      ∀ other second, after.hasRole other second = if other = pending then false else
        if other = actor ∧ before.hasRole pending second = true then true
        else before.hasRole other second := by
  obtain ⟨granted, hgranted, hdone⟩ := except_bind_ok.mp merged
  cases hdone
  obtain ⟨hactors, hroles⟩ := granted_roles hgranted
  refine ⟨fun other => ?_, fun other second => ?_⟩
  · rw [Dict.get?_erase, Dict.get?_mapValues, hactors]
  · simp only [mem_roleSet] at hroles
    rw [← hroles other second]
    unfold hasRole
    rw [Dict.get?_restrict]
    cases granted.actorRoles.get? (other, second) with
    | none => exact (ite_self _).symm
    | some active =>
        by_cases hother : other = pending
        · rw [if_pos hother, Option.filter_some, if_neg (by simpa using hother)]
          rfl
        · rw [if_neg hother, Option.filter_some, if_pos (by simpa using hother)]

theorem retains_mergeActor (merged : before.mergeActor pending actor = .ok after) :
    Retains (some pending) before after := by
  obtain ⟨hactors, hroles⟩ := mergeActor_ok merged
  refine .of_kept (fun other stays active => ?_) (fun other stays master => ?_)
  · obtain ⟨row, hrow, hactive⟩ := activeActor_iff.mp active
    have hother : other ≠ pending := fun heq => stays (congrArg some heq.symm)
    refine activeActor_iff.mpr ⟨if other = actor then { row with active := true } else row, ?_, ?_⟩
    · rw [hactors, if_neg hother, hrow]
      rfl
    · split
      · rfl
      · exact hactive
  · have hother : other ≠ pending := fun heq => stays (congrArg some heq.symm)
    rw [hroles, if_neg hother, master]
    exact ite_self true

theorem mergeActor_gone (merged : before.mergeActor pending actor = .ok after) :
    after.works pending = false := by
  rw [works, (mergeActor_ok merged).2, if_pos rfl, Bool.and_false]

/-- Two admins would be active at once. -/
theorem mergeActor_admin (admin : before.hasRole pending .admin = true)
    (organization : actor.1 = pending.1) (distinct : actor ≠ pending) :
    before.mergeActor pending actor ≠ .ok after := by
  intro merged
  obtain ⟨granted, hgranted, -⟩ := except_bind_ok.mp merged
  have hroles : before.roleSet pending =
      .admin :: [Role.client, .master, .operator].filter (before.hasRole pending) :=
    List.filter_cons_of_pos admin
  rw [hroles] at hgranted
  obtain ⟨middle, hfirst, -⟩ := except_bind_ok.mp hgranted
  have hadmits := (activateRole_ok.mp hfirst).1
  exact distinct (admitsRole_admin hadmits organization.symm admin).symm

theorem mergeActor_ordinary (ordinary : before.hasRole pending .admin = false) :
    ∃ after, before.mergeActor pending actor = .ok after := by
  have hroles : Role.admin ∉ before.roleSet pending := by
    rw [mem_roleSet, ordinary]
    exact Bool.false_ne_true
  obtain ⟨granted, hgranted⟩ := @grants_ordinary before actor _ hroles
  exact ⟨_, except_bind_ok.mpr ⟨granted, hgranted, rfl⟩⟩

end merging

section binding

variable {now : Instant} {organizationId code externalUserId consumerKey : String}
  {provider : Provider}

theorem absorbed_some {pending : Key} :
    identities.absorbed now organizationId code provider externalUserId consumerKey =
        some pending ↔
      ∃ row actorId, identities.pendingActor now organizationId code = some (pending, row) ∧
        identities.externalIdentities.get? (organizationId, .messenger provider, externalUserId) =
          some actorId ∧
        bindable (identities.roleSet pending) consumerKey = true ∧ actorId ≠ "" ∧
        (organizationId, actorId) ≠ pending ∧
        (identities.externalIdentities.entries.any
          fun entry => (entry.1.1, entry.2) = pending) = false ∧
        identities.hasRole pending .admin = false := by
  have hnobody : ∀ found : Key, (identities.externalIdentities.entries.all
      fun entry => decide ((entry.1.1, entry.2) ≠ found)) = true ↔
      (identities.externalIdentities.entries.any
        fun entry => (entry.1.1, entry.2) = found) = false := by
    intro found
    rw [← Bool.not_eq_true, List.any_eq_true, List.all_eq_true]
    simp
  unfold absorbed
  simp only [Option.bind_eq_bind, Option.bind_eq_some_iff, hnobody,
    Option.ite_none_right_eq_some]
  constructor
  · rintro ⟨⟨found, row⟩, hpending, actorId, haccount, hconditions, hsame⟩
    cases hsame
    exact ⟨row, actorId, hpending, haccount, hconditions⟩
  · rintro ⟨row, actorId, hpending, haccount, hconditions⟩
    exact ⟨(pending, row), hpending, actorId, haccount, hconditions, rfl⟩

theorem pendingActor_organization {pending : Key} {row : ActorRow}
    (found : identities.pendingActor now organizationId code = some (pending, row)) :
    pending.1 = organizationId := by
  have hfound := List.find?_some found
  simp only [Bool.and_eq_true, decide_eq_true_eq] at hfound
  exact hfound.1.1.1

/-- Nothing changes, or the code is used up, or the pending actor is merged into another. -/
theorem bindActor_ok {bound : Option (Key × Role × List Role)}
    (done : before.bindActor now organizationId code provider externalUserId consumerKey =
      .ok (bound, after)) :
    after = before ∨
      (∃ pending row, before.pendingActor now organizationId code = some (pending, row) ∧
        after = { before.bindAccount organizationId provider externalUserId pending.2 with
          actors := before.actors.mapValues fun key row =>
            if key = pending then { row with bindCode := none, bindCodeExpiresAt := none }
            else row }) ∨
      ∃ pending actorId,
        before.absorbed now organizationId code provider externalUserId consumerKey =
          some pending ∧
        before.externalIdentities.get? (organizationId, .messenger provider, externalUserId) =
          some actorId ∧
        (organizationId, actorId) ≠ pending ∧
        before.mergeActor pending (organizationId, actorId) = .ok after := by
  unfold bindActor at done
  split at done
  · cases done
    exact .inl rfl
  · rename_i pending row hpending
    dsimp only at done
    split at done
    · cases done
      exact .inl rfl
    rename_i hbindable
    split at done
    · rename_i hexisting
      split at done
      · cases done
        exact .inl rfl
      rename_i hnobody
      obtain ⟨merged, hmerged, hdone⟩ := except_bind_ok.mp done
      cases hdone
      obtain ⟨⟨actorId, hactorId⟩, hdistinct⟩ := hexisting.imp_left Option.isSome_iff_exists.mp
      rw [hactorId, Option.getD_some] at hmerged hdistinct
      obtain ⟨found, haccount, hnamed⟩ := Option.bind_eq_some_iff.mp hactorId
      rw [Option.ite_none_left_eq_some] at hnamed
      obtain ⟨hnamed, hsame⟩ := hnamed
      cases hsame
      have hordinary : before.hasRole pending .admin = false := by
        rw [Bool.eq_false_iff]
        intro hadmin
        exact mergeActor_admin hadmin (pendingActor_organization hpending).symm hdistinct hmerged
      refine .inr (.inr ⟨pending, actorId, ?_, haccount, hdistinct, hmerged⟩)
      exact absorbed_some.mpr ⟨row, actorId, hpending, haccount, not_not.mp hbindable, hnamed,
        hdistinct, Bool.eq_false_iff.mpr hnobody, hordinary⟩
    · rename_i hexisting
      cases done
      have hself : (organizationId, ((before.externalIdentities.get?
          (organizationId, .messenger provider, externalUserId)).bind fun actorId =>
            if actorId = "" then none else some actorId).getD pending.2) = pending := by
        cases hfound : (before.externalIdentities.get?
            (organizationId, .messenger provider, externalUserId)).bind fun actorId =>
              if actorId = "" then none else some actorId with
        | none =>
            rw [Option.getD_none, ← pendingActor_organization hpending]
        | some actorId =>
            by_contra hdistinct
            rw [hfound] at hexisting
            exact hexisting ⟨rfl, hdistinct⟩
      refine .inr (.inl ⟨pending, row, hpending, ?_⟩)
      have hid := congrArg Prod.snd hself
      dsimp only at hid
      rw [hself, bindAccount_actors, hid]

theorem retains_bindActor {bound : Option (Key × Role × List Role)}
    (done : before.bindActor now organizationId code provider externalUserId consumerKey =
      .ok (bound, after)) :
    Retains (before.absorbed now organizationId code provider externalUserId consumerKey)
      before after := by
  obtain rfl | ⟨pending, row, -, rfl⟩ | ⟨pending, actorId, habsorbed, -, -, hmerged⟩ :=
    bindActor_ok done
  · exact .refl _ after
  · refine .of_kept (fun other _ active => ?_) fun other _ master => ?_
    · refine activeActor_mapValues active fun row h => ?_
      split <;> exact h
    · unfold hasRole at master ⊢
      rwa [bindAccount_actorRoles]
  · rw [habsorbed]
    exact retains_mergeActor hmerged

theorem bindActor_absorbed {pending : Key}
    (gone : before.absorbed now organizationId code provider externalUserId consumerKey =
      some pending) :
    ∃ actorId bound after,
      before.externalIdentities.get? (organizationId, .messenger provider, externalUserId) =
        some actorId ∧
      (organizationId, actorId) ≠ pending ∧
      before.mergeActor pending (organizationId, actorId) = .ok after ∧
      before.bindActor now organizationId code provider externalUserId consumerKey =
        .ok (bound, after) := by
  obtain ⟨row, actorId, hpending, haccount, hbindable, hnamed, hdistinct, hnobody, hordinary⟩ :=
    absorbed_some.mp gone
  obtain ⟨after, hmerged⟩ := @mergeActor_ordinary _ (organizationId, actorId) _ hordinary
  refine ⟨actorId, some ((organizationId, actorId), row.role, before.roleSet pending), after,
    haccount, hdistinct, hmerged, ?_⟩
  unfold bindActor
  simp only [hpending, hbindable, haccount, Option.bind_some, if_neg hnamed, Option.isSome_some,
    Option.getD_some, hdistinct, hnobody, hmerged, not_true_eq_false, if_false, if_true, ne_eq,
    not_false_eq_true, and_self, Bool.false_eq_true]
  rfl

theorem bindActor_gone {pending : Key}
    (gone : before.absorbed now organizationId code provider externalUserId consumerKey =
      some pending) :
    ∃ bound after, before.bindActor now organizationId code provider externalUserId consumerKey =
      .ok (bound, after) ∧ after.works pending = false := by
  obtain ⟨actorId, bound, after, -, -, hmerged, hbound⟩ := bindActor_absorbed gone
  exact ⟨bound, after, hbound, mergeActor_gone hmerged⟩

theorem bindActorByCode_ok {answer : Option Resolved} :
    before.bindActorByCode now organizationId code provider externalUserId consumerKey =
        .ok (answer, after) →
      ∃ bound, before.bindActor now organizationId code provider externalUserId consumerKey =
        .ok (bound, after) := by
  intro done
  obtain ⟨⟨bound, identities⟩, hbound, hdone⟩ := except_bind_ok.mp done
  refine ⟨bound, ?_⟩
  dsimp only at hdone
  split at hdone
  · cases hdone
    exact hbound
  · split at hdone
    · cases hdone
      exact hbound
    · split at hdone
      · cases hdone
        exact hbound
      · cases hdone
        exact hbound

theorem bindActorByCode_of_bindActor {bound : Option (Key × Role × List Role)}
    (hbound : before.bindActor now organizationId code provider externalUserId consumerKey =
      .ok (bound, after)) :
    ∃ answer, before.bindActorByCode now organizationId code provider externalUserId consumerKey =
      .ok (answer, after) := by
  unfold bindActorByCode
  rw [hbound]
  simp only [bind, Except.bind]
  split
  · exact ⟨none, rfl⟩
  · split
    · exact ⟨none, rfl⟩
    · split
      · exact ⟨none, rfl⟩
      · exact ⟨_, rfl⟩

end binding

end Identities
end DispatchCore.Infrastructure
