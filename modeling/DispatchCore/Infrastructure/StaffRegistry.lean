import DispatchCore.Infrastructure.Workers
import DispatchCore.Library.Labels
import DispatchCore.Library.Runs

/-! The calls that create, change and let go the staff of an organization, and what all of them
are to leave of every actor. -/
namespace DispatchCore.Infrastructure

open DispatchCore.Library DispatchCore.Domain

namespace Identities

/-- `create_staff_actor` with the account that a new actor is bound to. -/
def createStaffAccount (identities : Identities) (draw : StaffDraw) (organizationId : String)
    (role : Role) (name : String) (phone requestKey : Option String)
    (account : Option (Provider × String)) : Except IdentityFailure (StaffCard × Identities) := do
  let (card, created) ← identities.createStaffActor draw organizationId role name phone requestKey
  match requestKey.bind (identities.findRequest organizationId), account with
  | none, some (provider, externalUserId) =>
      match created.externalIdentities.get?
          (organizationId, .messenger provider, externalUserId) with
      | some _ => throw (.failure (.valueError
          "external account is already bound to another actor"))
      | none =>
          return (card, created.bindAccount organizationId provider externalUserId card.actorId)
  | _, _ => return (card, created)

end Identities

/-- A call of the identity store that changes the staff. -/
inductive StaffCall
  | upsertActor (organizationId actorId : String) (role : Role) (displayName : String)
      (account : Option (Provider × String))
  | createStaffActor (draw : StaffDraw) (organizationId : String) (role : Role) (name : String)
      (phone requestKey : Option String) (account : Option (Provider × String))
  | grantRole (actor : Key) (role : Role)
  | revokeRole (actor : Key) (role : Role)
  | deleteActor (actor : Key)
  | issueBindCode (draw : StaffDraw) (actor : Key)
  | bindActorByCode (now : Instant) (organizationId code : String) (provider : Provider)
      (externalUserId consumerKey : String)

/-- The tables after the transaction. -/
def StaffCall.run (identities : Identities) : StaffCall → Except IdentityFailure Identities
  | upsertActor organizationId actorId role displayName account =>
      identities.upsertActor organizationId actorId role displayName account
  | createStaffActor draw organizationId role name phone requestKey account =>
      (identities.createStaffAccount draw organizationId role name phone requestKey account).map
        Prod.snd
  | grantRole actor role => (identities.grantRole actor role).map Prod.snd
  | revokeRole actor role => .ok (identities.revokeRole actor role).2
  | deleteActor actor => .ok (identities.deleteActor actor).2
  | issueBindCode draw actor => (identities.issueBindCode draw actor).map Prod.snd
  | bindActorByCode now organizationId code provider externalUserId consumerKey =>
      (identities.bindActorByCode now organizationId code provider externalUserId
        consumerKey).map Prod.snd

/-- A transaction that fails leaves nothing behind. -/
def StaffCall.after (identities : Identities) (call : StaffCall) : Identities :=
  match call.run identities with
  | .ok after => after
  | .error _ => identities

/-- The data that an actor was created with, under a key of the request. -/
structure StaffRequest where
  organizationId : String
  role : Role
  name : String
  phone : Option String
  requestKey : String
deriving DecidableEq

def StaffRequest.call (request : StaffRequest) (draw : StaffDraw)
    (account : Option (Provider × String)) : StaffCall :=
  .createStaffActor draw request.organizationId request.role request.name request.phone
    (some request.requestKey) account

/-- The tables, and the requests that actors were created for. -/
structure StaffRegistry where
  identities : Identities
  served : List StaffRequest

namespace StaffRegistry

def empty : StaffRegistry := ⟨.empty, []⟩

/-- The request that a call serves if it succeeds. -/
def request? : StaffCall → Option StaffRequest
  | .createStaffActor _ organizationId role name phone (some requestKey) _ =>
      some ⟨organizationId, role, name, phone, requestKey⟩
  | _ => none

def next (registry : StaffRegistry) (call : StaffCall) : StaffRegistry :=
  match call.run registry.identities with
  | .error _ => registry
  | .ok after => ⟨after, registry.served ++ (request? call).toList⟩

/-- Who is active has a role, the primary one among others; who is not has none, and no code. -/
structure Fits (identities : Identities) (actor : Key) (row : ActorRow) : Prop where
  active : row.active = true →
    identities.roleSet actor ≠ [] ∧ row.role ∈ identities.roleSet actor
  inactive : row.active = false → identities.roleSet actor = [] ∧ row.bindCode = none

/-- Run out or not. -/
def HasCode (identities : Identities) (actor : Key) (code : String) : Prop :=
  ∃ row, identities.actors.get? actor = some row ∧ row.bindCode = some code

/-- What is to hold of the tables. -/
structure Sound (identities : Identities) : Prop where
  fits : ∀ actor row, identities.actors.get? actor = some row → Fits identities actor row
  oneAdmin : ∀ left right : Key, left.1 = right.1 → identities.hasRole left .admin = true →
    identities.hasRole right .admin = true → left = right
  codes : Distinct Prod.fst (HasCode identities)

/-- And a request that was served creates nobody again. -/
structure WellFormed (registry : StaffRegistry) : Prop where
  sound : Sound registry.identities
  repeated : ∀ request ∈ registry.served, ∀ draw account,
    ((request.call draw account).after registry.identities).actors.keys =
      registry.identities.actors.keys

/-! ### Which calls keep it -/

/-- The index refuses the role, or the account is another actor's. -/
def upsertRefused (identities : Identities) (organizationId actorId : String) (role : Role)
    (account : Option (Provider × String)) : Bool :=
  !identities.admitsRole (organizationId, actorId) role || account.any fun account =>
    (identities.externalIdentities.get?
      (organizationId, .messenger account.1, account.2)).any fun existing => existing ≠ actorId

/-- The actor was created for a request with this key. -/
def Serves (identities : Identities) (actor : Key) (requestKey : String) : Prop :=
  ∃ row, identities.actors.get? actor = some row ∧ row.staffCreationKey = some requestKey

/-- An actor that was let go comes back with the primary role, and an actor that is merged into
another served no request. -/
def Meets (registry : StaffRegistry) : StaffCall → Prop
  | .upsertActor organizationId actorId role _ account =>
      ∀ row ∈ registry.identities.actors.get? (organizationId, actorId), row.active = false →
        row.role = role ∨ upsertRefused registry.identities organizationId actorId role account
  | .bindActorByCode now organizationId code provider externalUserId consumerKey =>
      ∀ pending ∈ registry.identities.absorbed now organizationId code provider externalUserId
        consumerKey,
      (∀ actorId ∈ registry.identities.externalIdentities.get?
          (organizationId, .messenger provider, externalUserId),
        ∀ row ∈ registry.identities.actors.get? (organizationId, actorId), row.active = false →
          registry.identities.hasRole pending row.role = true) ∧
      ∀ request ∈ registry.served, request.organizationId = organizationId →
        ¬Serves registry.identities pending request.requestKey
  | _ => True

/-! ### What a call does to one actor -/

/-- A code as it is drawn. -/
def Drawn (code : String) : Prop :=
  ∃ candidate : Nat, code = Text.padLeft 4 '0' (toString (candidate % 10000))

/-- The books that the tables are in as long as every call meets the condition. -/
structure Orderly (registry : StaffRegistry) : Prop where
  sound : Sound registry.identities
  drawn : ∀ actor code, HasCode registry.identities actor code → Drawn code
  requests : Distinct Prod.fst (Serves registry.identities)
  served : ∀ request ∈ registry.served, (request.role = .operator ∨ request.role = .master) ∧
    Text.strip request.requestKey ≠ "" ∧
    ∃ actor : Key, actor.1 = request.organizationId ∧
      Serves registry.identities actor request.requestKey

section books

variable {identities before after : Identities} {actor other : Key} {row : ActorRow}

theorem not_hasRole_iff :
    identities.roleSet actor = [] ↔ ∀ role, identities.hasRole actor role = false := by
  rw [List.eq_nil_iff_forall_not_mem]
  simp only [Identities.mem_roleSet, Bool.not_eq_true]

theorem Fits.of_role (active : row.active = true)
    (primary : identities.hasRole actor row.role = true) : Fits identities actor row := by
  have hmem := Identities.mem_roleSet.mpr primary
  refine ⟨fun _ => ⟨List.ne_nil_of_mem hmem, hmem⟩, fun hinactive => ?_⟩
  rw [active] at hinactive
  contradiction

theorem Fits.of_gone (gone : row.active = false)
    (roles : ∀ role, identities.hasRole actor role = false) (code : row.bindCode = none) :
    Fits identities actor row := by
  refine ⟨fun hactive => ?_, fun _ => ⟨not_hasRole_iff.mpr roles, code⟩⟩
  rw [gone] at hactive
  contradiction

theorem Fits.primary (fits : Fits identities actor row) (active : row.active = true) :
    identities.hasRole actor row.role = true :=
  Identities.mem_roleSet.mp (fits.active active).2

theorem Fits.is_active {role : Role} (fits : Fits identities actor row)
    (holds : identities.hasRole actor role = true) : row.active = true := by
  by_contra hinactive
  have hnone := not_hasRole_iff.mp (fits.inactive (Bool.eq_false_iff.mpr hinactive)).1 role
  rw [holds] at hnone
  contradiction

theorem hasCode_iff {code : String} (stored : identities.actors.get? actor = some row) :
    HasCode identities actor code ↔ row.bindCode = some code := by
  simp [HasCode, stored]

theorem serves_iff {requestKey : String} (stored : identities.actors.get? actor = some row) :
    Serves identities actor requestKey ↔ row.staffCreationKey = some requestKey := by
  simp [Serves, stored]

theorem bindCodeTaken_eq_false {organizationId code : String} :
    identities.bindCodeTaken organizationId code = false ↔
      ∀ actor : Key, actor.1 = organizationId → ¬HasCode identities actor code := by
  unfold Identities.bindCodeTaken
  rw [List.any_eq_false]
  constructor
  · rintro hnone actor horganization ⟨row, hrow, hcode⟩
    exact hnone (actor, row) ((Dict.get?_eq_some _ _ _).mp hrow) (by simp [horganization, hcode])
  · rintro hnone ⟨actor, row⟩ hmem hfound
    simp only [Bool.and_eq_true, decide_eq_true_eq] at hfound
    exact hnone actor hfound.1 ⟨row, (Dict.get?_eq_some _ _ _).mpr hmem, hfound.2⟩

theorem findRequest_eq_none {organizationId requestKey : String} :
    identities.findRequest organizationId requestKey = none ↔
      ∀ actor : Key, actor.1 = organizationId → ¬Serves identities actor requestKey := by
  unfold Identities.findRequest
  rw [List.find?_eq_none]
  constructor
  · rintro hnone actor horganization ⟨row, hrow, hkey⟩
    exact hnone (actor, row) ((Dict.get?_eq_some _ _ _).mp hrow) (by simp [horganization, hkey])
  · rintro hnone ⟨actor, row⟩ hmem hfound
    simp only [Bool.and_eq_true, decide_eq_true_eq] at hfound
    exact hnone actor hfound.1 ⟨row, (Dict.get?_eq_some _ _ _).mpr hmem, hfound.2⟩

/-- Of the other actors everything stays. -/
structure Spares (actor : Key) (before after : Identities) : Prop where
  rows : ∀ other, other ≠ actor → after.actors.get? other = before.actors.get? other
  roles : ∀ other role, other ≠ actor → after.hasRole other role = before.hasRole other role

theorem Spares.roleSet (spares : Spares actor before after) (elsewhere : other ≠ actor) :
    after.roleSet other = before.roleSet other := by
  unfold Identities.roleSet
  exact List.filter_congr fun role _ => spares.roles other role elsewhere

theorem Spares.of_set (rows : after.actors = before.actors.set actor row)
    (roles : ∀ other role, other ≠ actor → after.hasRole other role = before.hasRole other role) :
    Spares actor before after := by
  refine ⟨fun other helsewhere => ?_, roles⟩
  rw [rows, Dict.get?_set_of_ne _ _ helsewhere]

/-- A call that touches one actor keeps the books if that actor fits afterwards, has a code and
a request of its own or of before, and does not become a second admin. -/
theorem Orderly.touch {served : List StaffRequest} (orderly : Orderly ⟨before, served⟩)
    (spares : Spares actor before after)
    (fits : ∀ row, after.actors.get? actor = some row → Fits after actor row)
    (admin : after.hasRole actor .admin = true →
      before.hasRole actor .admin = true ∨ before.admitsRole actor .admin = true)
    (code : ∀ code, HasCode after actor code →
      HasCode before actor code ∨ Drawn code ∧ before.bindCodeTaken actor.1 code = false)
    (request : ∀ key, Serves after actor key →
      Serves before actor key ∨ before.findRequest actor.1 key = none)
    (held : ∀ request ∈ served, actor.1 = request.organizationId →
      Serves before actor request.requestKey → Serves after actor request.requestKey) :
    Orderly ⟨after, served⟩ := by
  have hcodes : ∀ other code, other ≠ actor →
      (HasCode after other code ↔ HasCode before other code) := by
    intro other code helsewhere
    simp only [HasCode, spares.rows other helsewhere]
  have hserves : ∀ other key, other ≠ actor →
      (Serves after other key ↔ Serves before other key) := by
    intro other key helsewhere
    simp only [Serves, spares.rows other helsewhere]
  refine ⟨⟨?_, ?_, ?_⟩, ?_, ?_, ?_⟩
  · intro other row hrow
    by_cases hother : other = actor
    · rw [hother] at hrow ⊢
      exact fits row hrow
    · rw [spares.rows other hother] at hrow
      obtain ⟨hactive, hinactive⟩ := orderly.sound.fits other row hrow
      rw [← spares.roleSet hother] at hactive hinactive
      exact ⟨hactive, hinactive⟩
  · have hadmins : Distinct Prod.fst fun (actor : Key) (_ : Unit) =>
        before.hasRole actor .admin = true :=
      fun left right _ => orderly.sound.oneAdmin left right
    have hadmins' : Distinct Prod.fst fun (actor : Key) (_ : Unit) =>
        after.hasRole actor .admin = true := by
      refine hadmins.touch actor (fun other _ helsewhere => ?_) fun _ hmine => ?_
      · rw [spares.roles other .admin helsewhere]
      · exact (admin hmine).imp_right fun hadmits other hsame hother =>
          Identities.admitsRole_admin hadmits hsame hother
    exact fun left right => hadmins' left right ()
  · refine orderly.sound.codes.touch actor hcodes fun code' hmine => ?_
    refine (code code' hmine).imp_right fun hfree other hsame hother => ?_
    exact (bindCodeTaken_eq_false.mp hfree.2 other hsame hother).elim
  · intro other found hfound
    by_cases hother : other = actor
    · rw [hother] at hfound
      exact (code found hfound).elim (orderly.drawn actor found) And.left
    · exact orderly.drawn other found ((hcodes other found hother).mp hfound)
  · refine orderly.requests.touch actor hserves fun key hmine => ?_
    refine (request key hmine).imp_right fun hnone other hsame hother => ?_
    exact (findRequest_eq_none.mp hnone other hsame hother).elim
  · intro wanted hwanted
    obtain ⟨hrole, hkey, other, horganization, hserved⟩ := orderly.served wanted hwanted
    refine ⟨hrole, hkey, other, horganization, ?_⟩
    by_cases hother : other = actor
    · rw [hother] at horganization hserved ⊢
      exact held wanted hwanted horganization hserved
    · exact (hserves other wanted.requestKey hother).mpr hserved

/-- The rows are rewritten: the actor keeps its request, and its code if any. -/
theorem Orderly.rework {served : List StaffRequest} (orderly : Orderly ⟨before, served⟩)
    (actor : Key) (change : Key → ActorRow → ActorRow)
    (rows : ∀ key, after.actors.get? key = (before.actors.get? key).map (change key))
    (others : ∀ other row, other ≠ actor → change other row = row)
    (roles : ∀ other role, other ≠ actor → after.hasRole other role = before.hasRole other role)
    (fits : ∀ old, before.actors.get? actor = some old → Fits after actor (change actor old))
    (admin : after.hasRole actor .admin = true →
      before.hasRole actor .admin = true ∨ before.admitsRole actor .admin = true)
    (code : ∀ row code, (change actor row).bindCode = some code → row.bindCode = some code)
    (request : ∀ row, (change actor row).staffCreationKey = row.staffCreationKey) :
    Orderly ⟨after, served⟩ := by
  have hold : ∀ row, after.actors.get? actor = some row →
      ∃ old, before.actors.get? actor = some old ∧ change actor old = row := by
    intro row hrow
    rwa [rows, Option.map_eq_some_iff] at hrow
  refine orderly.touch ⟨fun other helsewhere => ?_, roles⟩ ?_ admin ?_ ?_ ?_
  · rw [rows]
    cases before.actors.get? other with
    | none => rfl
    | some row => exact congrArg some (others other row helsewhere)
  · intro row hrow
    obtain ⟨old, hbefore, rfl⟩ := hold row hrow
    exact fits old hbefore
  · rintro found ⟨row, hrow, hcode⟩
    obtain ⟨old, hbefore, rfl⟩ := hold row hrow
    exact .inl ⟨old, hbefore, code old found hcode⟩
  · rintro key ⟨row, hrow, hkey⟩
    obtain ⟨old, hbefore, rfl⟩ := hold row hrow
    exact .inl ⟨old, hbefore, (request old).symm.trans hkey⟩
  · rintro wanted - - ⟨old, hbefore, hkey⟩
    refine ⟨change actor old, ?_, (request old).trans hkey⟩
    rw [rows, hbefore]
    rfl

/-- A request is served, and its actor is there. -/
theorem Orderly.serve {served : List StaffRequest} {request : StaffRequest}
    (orderly : Orderly ⟨identities, served⟩)
    (role : request.role = .operator ∨ request.role = .master)
    (key : Text.strip request.requestKey ≠ "")
    (there : ∃ actor : Key, actor.1 = request.organizationId ∧
      Serves identities actor request.requestKey) :
    Orderly ⟨identities, served ++ [request]⟩ := by
  refine ⟨orderly.sound, orderly.drawn, orderly.requests, fun wanted hwanted => ?_⟩
  rcases List.mem_append.mp hwanted with hbefore | hnew
  · exact orderly.served wanted hbefore
  · cases List.mem_singleton.mp hnew
    exact ⟨role, key, there⟩

end books

section calls

variable {identities after : Identities} {served : List StaffRequest}
  {organizationId actorId displayName : String} {role : Role}
  {account : Option (Provider × String)} {actor : Key}

theorem unusedBindCode_ok {code : String} {candidates : List Nat}
    (found : identities.unusedBindCode organizationId candidates = .ok code) :
    Drawn code ∧ identities.bindCodeTaken organizationId code = false := by
  unfold Identities.unusedBindCode at found
  dsimp only at found
  split at found
  · rename_i free hfree
    cases found
    obtain ⟨candidate, -, hcandidate⟩ := List.mem_map.mp (List.mem_of_find?_eq_some hfree)
    exact ⟨⟨candidate, hcandidate.symm⟩, by simpa using List.find?_some hfree⟩
  · contradiction

theorem upsertRefused_iff (displayName : String) :
    upsertRefused identities organizationId actorId role account = false ↔
      ∃ after, identities.upsertActor organizationId actorId role displayName account =
        .ok after := by
  unfold upsertRefused Identities.upsertActor Identities.activateRole
  have hadmits : ∀ actors, Identities.admitsRole { identities with actors := actors }
      (organizationId, actorId) role = identities.admitsRole (organizationId, actorId) role :=
    fun _ => rfl
  simp only [hadmits]
  by_cases hadmitted : identities.admitsRole (organizationId, actorId) role = true
  · rw [if_pos hadmitted]
    cases account with
    | none => simp [hadmitted, bind, Except.bind, pure, Except.pure]
    | some account =>
        cases hbound : identities.externalIdentities.get?
            (organizationId, .messenger account.1, account.2) with
        | none => simp [hadmitted, hbound, bind, Except.bind, pure, Except.pure]
        | some existing =>
            by_cases hsame : existing = actorId <;>
              simp [hadmitted, hbound, hsame, bind, Except.bind, pure, Except.pure, throw,
                throwThe, MonadExceptOf.throw]
  · rw [if_neg hadmitted]
    simp [hadmitted, bind, Except.bind]

theorem Orderly.upsertActor (orderly : Orderly ⟨identities, served⟩)
    (meets : Meets ⟨identities, served⟩
      (.upsertActor organizationId actorId role displayName account))
    (done : identities.upsertActor organizationId actorId role displayName account = .ok after) :
    Orderly ⟨after, served⟩ := by
  have hallowed := (upsertRefused_iff displayName).mpr ⟨after, done⟩
  obtain ⟨row, hrow, hadmits, hactors, hroles⟩ := Identities.upsertActor_ok done
  have hstored : after.actors.get? (organizationId, actorId) = some row := by
    rw [hactors, Dict.get?_set_self]
  have hgranted : ∀ second, after.hasRole (organizationId, actorId) second =
      if second = role then true else identities.hasRole (organizationId, actorId) second := by
    intro second
    rw [Identities.hasRole_set hroles]
    simp only [true_and]
  refine orderly.touch (.of_set hactors fun other second helsewhere => ?_) ?_ ?_ ?_ ?_ ?_
  · rw [Identities.hasRole_set hroles, if_neg fun h => helsewhere h.1]
  · intro found hfound
    cases hstored.symm.trans hfound
    rcases hrow with ⟨-, rfl⟩ | ⟨old, hold, rfl⟩
    · exact .of_role rfl ((hgranted role).trans (if_pos rfl))
    · refine .of_role rfl ((hgranted old.role).trans ?_)
      by_cases hactive : old.active = true
      · rw [(orderly.sound.fits _ old hold).primary hactive, ite_self]
      · rcases meets old hold (Bool.eq_false_iff.mpr hactive) with hsame | hrefused
        · rw [if_pos hsame]
        · exact absurd hrefused (Bool.eq_false_iff.mp hallowed)
  · intro hadmin
    rw [hgranted] at hadmin
    split at hadmin
    · rename_i hrole
      exact .inr (hrole ▸ hadmits)
    · exact .inl hadmin
  · intro code hcode
    have hcode' := (hasCode_iff hstored).mp hcode
    rcases hrow with ⟨-, rfl⟩ | ⟨old, hold, rfl⟩
    · contradiction
    · exact .inl ((hasCode_iff hold).mpr hcode')
  · intro key hserves
    have hkey := (serves_iff hstored).mp hserves
    rcases hrow with ⟨-, rfl⟩ | ⟨old, hold, rfl⟩
    · contradiction
    · exact .inl ((serves_iff hold).mpr hkey)
  · rintro request - - ⟨old, hold, hkey⟩
    rw [serves_iff hstored]
    rcases hrow with ⟨hnone, -⟩ | ⟨other, hother, rfl⟩
    · rw [hnone] at hold
      contradiction
    · cases hother.symm.trans hold
      exact hkey

theorem createStaffAccount_ok {draw : StaffDraw} {name : String} {phone requestKey : Option String}
    {card : StaffCard}
    (done : identities.createStaffAccount draw organizationId role name phone requestKey account =
      .ok (card, after)) :
    (role = .operator ∨ role = .master) ∧ (requestKey.any fun key => Text.strip key = "") = false ∧
      ((∃ found, requestKey.bind (identities.findRequest organizationId) = some found ∧
          after = identities) ∨
        ∃ actor row, actor.1 = organizationId ∧ identities.actors.get? actor = none ∧
          requestKey.bind (identities.findRequest organizationId) = none ∧
          row.role = role ∧ row.active = true ∧ row.staffCreationKey = requestKey ∧
          (∃ code, identities.unusedBindCode organizationId draw.candidates = .ok code ∧
            row.bindCode = some code) ∧
          after.actors = identities.actors.set actor row ∧
          after.actorRoles = identities.actorRoles.set (actor, role) true) := by
  obtain ⟨⟨made, created⟩, hcreated, hbound⟩ := except_bind_ok.mp done
  obtain ⟨hrole, hkey, ⟨found, hfound, rfl⟩ | ⟨code, hnew, hcode, hfree, -, rfl⟩⟩ :=
    Identities.createStaffActor_ok hcreated
  · refine ⟨hrole, hkey, .inl ⟨found, hfound, ?_⟩⟩
    simp only [hfound, pure, Except.pure, Except.ok.injEq, Prod.mk.injEq] at hbound
    exact hbound.2.symm
  · refine ⟨hrole, hkey, .inr ⟨(organizationId, s!"{role.value}:{draw.tokenHex}"),
      ⟨role, name, phone, some code, some draw.expiresAt, true, requestKey⟩, rfl, ?_, hnew, rfl,
      rfl, rfl, ⟨code, hcode, rfl⟩, ?_⟩⟩
    · exact Option.isNone_iff_eq_none.mp (by simpa [Dict.contains] using hfree)
    · simp only [hnew] at hbound
      cases account with
      | none =>
          cases hbound
          exact ⟨rfl, rfl⟩
      | some account =>
          dsimp only at hbound
          split at hbound
          · contradiction
          · cases hbound
            exact ⟨Identities.bindAccount_actors _ _ _ _ _,
              Identities.bindAccount_actorRoles _ _ _ _ _⟩

theorem Orderly.createStaffActor {draw : StaffDraw} {name : String}
    {phone requestKey : Option String} {card : StaffCard} (orderly : Orderly ⟨identities, served⟩)
    (done : identities.createStaffAccount draw organizationId role name phone requestKey account =
      .ok (card, after)) :
    Orderly ⟨after, served ++ (request?
      (.createStaffActor draw organizationId role name phone requestKey account)).toList⟩ := by
  obtain ⟨hrole, hblank, hcases⟩ := createStaffAccount_ok done
  have hbooks : Orderly ⟨after, served⟩ ∧ ∀ key, requestKey = some key →
      ∃ actor : Key, actor.1 = organizationId ∧ Serves after actor key := by
    rcases hcases with ⟨found, hfound, rfl⟩ | ⟨actor, row, horganization, hnobody, hnew, hprimary,
      hactive, hrequest, ⟨code, hcode, hhas⟩, hactors, hroles⟩
    · refine ⟨orderly, fun key hkey => ?_⟩
      by_contra hnone
      rw [hkey, Option.bind_some, findRequest_eq_none.mpr fun actor hsame hserves =>
        hnone ⟨actor, hsame, hserves⟩] at hfound
      contradiction
    · have hstored : after.actors.get? actor = some row := by
        rw [hactors, Dict.get?_set_self]
      refine ⟨orderly.touch (.of_set hactors fun other second helsewhere => ?_) ?_ ?_ ?_ ?_ ?_,
        fun key hkey => ⟨actor, horganization, (serves_iff hstored).mpr (hrequest.trans hkey)⟩⟩
      · rw [Identities.hasRole_set hroles, if_neg fun h => helsewhere h.1]
      · intro found hfound
        cases hstored.symm.trans hfound
        refine .of_role hactive ?_
        rw [Identities.hasRole_set hroles, if_pos ⟨rfl, hprimary⟩]
      · intro hadmin
        rw [Identities.hasRole_set hroles, if_neg] at hadmin
        · exact .inl hadmin
        · rintro ⟨-, rfl⟩
          simp at hrole
      · intro other hother
        have hsame := hhas.symm.trans ((hasCode_iff hstored).mp hother)
        cases hsame
        rw [horganization]
        exact .inr (unusedBindCode_ok hcode)
      · intro key hserves
        have hkey := (serves_iff hstored).mp hserves
        rw [hrequest.symm.trans hkey, Option.bind_some] at hnew
        rw [horganization]
        exact .inr hnew
      · rintro wanted - - ⟨old, hold, -⟩
        rw [hnobody] at hold
        contradiction
  cases requestKey with
  | none => simpa [request?] using hbooks.1
  | some key =>
      refine hbooks.1.serve hrole ?_ (hbooks.2 key rfl)
      simpa using hblank

theorem Orderly.grantRole {granted : Bool} (orderly : Orderly ⟨identities, served⟩)
    (done : identities.grantRole actor role = .ok (granted, after)) : Orderly ⟨after, served⟩ := by
  unfold Identities.grantRole at done
  by_cases hactive : identities.activeActor actor = true
  · rw [if_pos hactive, except_map_ok] at done
    obtain ⟨found, hfound, hsame⟩ := done
    cases hsame
    obtain ⟨hadmits, hstored⟩ := Identities.activateRole_ok.mp hfound
    have hroles : after.actorRoles = identities.actorRoles.set (actor, role) true := by
      rw [hstored]
    obtain ⟨row, hrow, hrowActive⟩ := Identities.activeActor_iff.mp hactive
    refine orderly.rework actor (fun _ row => row) ?_ (fun _ _ _ => rfl) ?_ ?_ ?_
      (fun _ _ hcode => hcode) fun _ => rfl
    · intro key
      rw [hstored, Option.map_id']
    · intro other second helsewhere
      rw [Identities.hasRole_set hroles, if_neg fun h => helsewhere h.1]
    · intro old hold
      cases hrow.symm.trans hold
      refine .of_role hrowActive ?_
      rw [Identities.hasRole_set hroles, (orderly.sound.fits actor row hrow).primary hrowActive,
        ite_self]
    · intro hadmin
      rw [Identities.hasRole_set hroles] at hadmin
      split at hadmin
      · rename_i hsame
        exact .inr (hsame.2 ▸ hadmits)
      · exact .inl hadmin
  · rw [if_neg hactive] at done
    cases done
    exact orderly

theorem Orderly.revokeRole (orderly : Orderly ⟨identities, served⟩) (actor : Key) (role : Role) :
    Orderly ⟨(identities.revokeRole actor role).2, served⟩ := by
  unfold Identities.revokeRole
  by_cases hheld : identities.hasRole actor role = true
  · rw [if_pos hheld]
    dsimp only
    have hroles : ∀ actors other second, Identities.hasRole { identities with
        actors := actors
        actorRoles := identities.actorRoles.set (actor, role) false } other second =
          if other = actor ∧ second = role then false else identities.hasRole other second :=
      fun _ other second => Identities.hasRole_set rfl
    have hadmin : ∀ actors, Identities.hasRole { identities with
        actors := actors
        actorRoles := identities.actorRoles.set (actor, role) false } actor .admin = true →
          identities.hasRole actor .admin = true := by
      intro actors hadmin
      rw [hroles] at hadmin
      split at hadmin
      · contradiction
      · exact hadmin
    split
    · rename_i first hfirst
      refine orderly.rework actor _ (fun key => Dict.get?_mapValues _ _ key) ?_ ?_ ?_
        (fun h => .inl (hadmin _ h)) ?_ ?_
      · intro other row helsewhere
        rw [if_neg fun h => helsewhere h.1]
      · intro other second helsewhere
        rw [hroles, if_neg fun h => helsewhere h.1]
      · intro old hold
        have hactive := (orderly.sound.fits actor old hold).is_active hheld
        by_cases hprimary : old.role = role
        · rw [if_pos ⟨rfl, hprimary⟩]
          exact .of_role hactive ((hroles _ actor first).trans
            ((hroles identities.actors actor first).symm.trans (List.find?_some hfirst)))
        · rw [if_neg fun h => hprimary h.2]
          refine .of_role hactive ?_
          rw [hroles, if_neg fun h => hprimary h.2]
          exact (orderly.sound.fits actor old hold).primary hactive
      · intro row code hcode
        split at hcode <;> exact hcode
      · intro row
        split <;> rfl
    · rename_i hnone
      refine orderly.rework actor _ (fun key => Dict.get?_mapValues _ _ key) ?_ ?_ ?_
        (fun h => .inl (hadmin _ h)) ?_ ?_
      · intro other row helsewhere
        rw [if_neg helsewhere]
      · intro other second helsewhere
        rw [hroles, if_neg fun h => helsewhere h.1]
      · intro old hold
        rw [if_pos rfl]
        refine .of_gone rfl (fun second => ?_) rfl
        have hgone := List.find?_eq_none.mp hnone second (by cases second <;> decide)
        rw [hroles]
        rw [hroles] at hgone
        exact Bool.eq_false_iff.mpr hgone
      · intro row code hcode
        rw [if_pos rfl] at hcode
        contradiction
      · intro row
        rw [if_pos rfl]
        rfl
  · rw [if_neg hheld]
    exact orderly

theorem Orderly.deleteActor (orderly : Orderly ⟨identities, served⟩) (actor : Key) :
    Orderly ⟨(identities.deleteActor actor).2, served⟩ := by
  unfold Identities.deleteActor
  by_cases hadmin : identities.hasRole actor .admin = true
  · rw [if_pos hadmin]
    exact orderly
  · rw [if_neg hadmin]
    have hroles : ∀ actors other second, Identities.hasRole { identities with
        actors := actors
        actorRoles := identities.actorRoles.mapValues fun key active =>
          if key.1 = actor then false else active } other second =
          if other = actor then false else identities.hasRole other second := by
      intro actors other second
      unfold Identities.hasRole
      rw [Dict.get?_mapValues]
      cases identities.actorRoles.get? (other, second) with
      | none => simp
      | some active => by_cases hother : other = actor <;> simp [hother]
    refine orderly.rework actor _ (fun key => Dict.get?_mapValues _ _ key) ?_ ?_ ?_ ?_ ?_ ?_
    · intro other row helsewhere
      rw [if_neg fun h => helsewhere h.1]
    · intro other second helsewhere
      rw [hroles, if_neg helsewhere]
    · intro old hold
      by_cases hactive : old.active = true
      · rw [if_pos ⟨rfl, hactive⟩]
        exact .of_gone rfl (fun second => (hroles _ actor second).trans (if_pos rfl)) rfl
      · rw [if_neg fun h => hactive h.2]
        have hinactive := Bool.eq_false_iff.mpr hactive
        exact .of_gone hinactive (fun second => (hroles _ actor second).trans (if_pos rfl))
          ((orderly.sound.fits actor old hold).inactive hinactive).2
    · intro hafter
      rw [hroles, if_pos rfl] at hafter
      contradiction
    · intro row code hcode
      split at hcode
      · contradiction
      · exact hcode
    · intro row
      split <;> rfl

theorem Orderly.issueBindCode {draw : StaffDraw} {answer : Option String}
    (orderly : Orderly ⟨identities, served⟩)
    (done : identities.issueBindCode draw actor = .ok (answer, after)) :
    Orderly ⟨after, served⟩ := by
  obtain ⟨code, hcode, hdone⟩ := except_bind_ok.mp done
  cases hrow : identities.actors.get? actor with
  | none =>
      rw [hrow] at hdone
      cases hdone
      exact orderly
  | some row =>
      rw [hrow] at hdone
      dsimp only at hdone
      by_cases hactive : row.active = true
      · rw [if_pos hactive] at hdone
        cases hdone
        have hstored : Dict.get? (identities.actors.set actor
            { row with bindCode := some code, bindCodeExpiresAt := some draw.expiresAt }) actor =
          some { row with bindCode := some code, bindCodeExpiresAt := some draw.expiresAt } :=
          Dict.get?_set_self _ _ _
        refine orderly.touch (.of_set rfl fun _ _ _ => rfl) ?_ .inl ?_ ?_ ?_
        · intro found hfound
          cases hstored.symm.trans hfound
          exact .of_role hactive ((orderly.sound.fits actor row hrow).primary hactive)
        · intro other hother
          cases (hasCode_iff hstored).mp hother
          exact .inr (unusedBindCode_ok hcode)
        · intro key hserves
          have hkey := (serves_iff hstored).mp hserves
          exact .inl ⟨row, hrow, hkey⟩
        · intro wanted _ _ hserves
          have hkey := (serves_iff hrow).mp hserves
          exact ⟨_, hstored, hkey⟩
      · rw [if_neg hactive] at hdone
        cases hdone
        exact orderly

theorem Orderly.mergeActor {pending : Key} (orderly : Orderly ⟨identities, served⟩)
    (distinct : actor ≠ pending) (ordinary : identities.hasRole pending .admin = false)
    (primary : ∀ row, identities.actors.get? actor = some row → row.active = false →
      identities.hasRole pending row.role = true)
    (unserved : ∀ request ∈ served, pending.1 = request.organizationId →
      ¬Serves identities pending request.requestKey)
    (done : identities.mergeActor pending actor = .ok after) : Orderly ⟨after, served⟩ := by
  obtain ⟨granted, hgranted, -⟩ := except_bind_ok.mp done
  obtain ⟨hactors, hroles⟩ := Identities.granted_roles hgranted
  -- first the other actor gets the roles, then the pending one goes
  have hmiddle : Orderly ⟨{ granted with actors := granted.actors.mapValues fun key row =>
      if key = actor then { row with active := true } else row }, served⟩ := by
    refine orderly.rework actor (fun key row =>
      if key = actor then { row with active := true } else row) ?_ ?_ ?_ ?_ ?_ ?_ ?_
    · intro key
      rw [Dict.get?_mapValues, hactors]
    · intro other row helsewhere
      rw [if_neg helsewhere]
    · intro other second helsewhere
      exact (hroles other second).trans (if_neg fun h => helsewhere h.1)
    · intro old hold
      rw [if_pos rfl]
      refine .of_role rfl ((hroles actor old.role).trans ?_)
      by_cases hactive : old.active = true
      · rw [(orderly.sound.fits actor old hold).primary hactive, ite_self]
      · have hprimary := primary old hold (Bool.eq_false_iff.mpr hactive)
        rw [if_pos ⟨rfl, Identities.mem_roleSet.mpr hprimary⟩]
    · intro hadmin
      have hbefore := (hroles actor .admin).symm.trans hadmin
      rw [if_neg] at hbefore
      · exact .inl hbefore
      · rw [Identities.mem_roleSet, ordinary]
        simp
    · intro row code hcode
      split at hcode <;> exact hcode
    · intro row
      split <;> rfl
  obtain ⟨hrows, hmerged⟩ := Identities.mergeActor_ok done
  have hgone : after.actors.get? pending = none := (hrows pending).trans (if_pos rfl)
  refine hmiddle.touch (show Spares pending _ _ from
    ⟨fun other helsewhere => ?_, fun other second helsewhere => ?_⟩) ?_ ?_ ?_ ?_ ?_
  · rw [hrows, if_neg helsewhere, Dict.get?_mapValues, hactors]
  · rw [hmerged, if_neg helsewhere]
    simp only [Identities.mem_roleSet] at hroles
    exact (hroles other second).symm
  · intro row hfound
    rw [hgone] at hfound
    contradiction
  · intro hadmin
    rw [hmerged, if_pos rfl] at hadmin
    contradiction
  · rintro code ⟨row, hfound, -⟩
    rw [hgone] at hfound
    contradiction
  · rintro key ⟨row, hfound, -⟩
    rw [hgone] at hfound
    contradiction
  · rintro wanted hwanted hsame ⟨row, hfound, hkey⟩
    rw [Dict.get?_mapValues, hactors, Option.map_eq_some_iff] at hfound
    obtain ⟨old, hold, rfl⟩ := hfound
    rw [if_neg (Ne.symm distinct)] at hkey
    exact absurd ⟨old, hold, hkey⟩ (unserved wanted hwanted hsame)

theorem Orderly.bindActorByCode {now : Instant} {code externalUserId consumerKey : String}
    {provider : Provider} {answer : Option Resolved} (orderly : Orderly ⟨identities, served⟩)
    (meets : Meets ⟨identities, served⟩
      (.bindActorByCode now organizationId code provider externalUserId consumerKey))
    (done : identities.bindActorByCode now organizationId code provider externalUserId consumerKey =
      .ok (answer, after)) : Orderly ⟨after, served⟩ := by
  obtain ⟨bound, hbound⟩ := Identities.bindActorByCode_ok done
  obtain rfl | ⟨pending, row, -, rfl⟩ | ⟨pending, actorId, habsorbed, haccount, hdistinct, hmerged⟩ :=
    Identities.bindActor_ok hbound
  · exact orderly
  · have hroles : ∀ actors other second, Identities.hasRole
        { identities.bindAccount organizationId provider externalUserId pending.2 with
          actors := actors } other second = identities.hasRole other second := by
      intro actors other second
      unfold Identities.hasRole
      rw [Identities.bindAccount_actorRoles]
    refine orderly.rework pending _ (fun key => Dict.get?_mapValues _ _ key) ?_
      (fun other second _ => hroles _ other second) ?_ (fun h => .inl ?_) ?_ ?_
    · intro other row helsewhere
      rw [if_neg helsewhere]
    · intro old hold
      rw [if_pos rfl]
      by_cases hactive : old.active = true
      · exact .of_role hactive ((hroles _ _ _).trans
          ((orderly.sound.fits pending old hold).primary hactive))
      · have hinactive := Bool.eq_false_iff.mpr hactive
        refine .of_gone hinactive (fun second => (hroles _ pending second).trans ?_) rfl
        exact not_hasRole_iff.mp ((orderly.sound.fits pending old hold).inactive hinactive).1 second
    · rwa [hroles] at h
    · intro row code hcode
      rw [if_pos rfl] at hcode
      contradiction
    · intro row
      rw [if_pos rfl]
  · obtain ⟨hprimary, hunserved⟩ := meets pending habsorbed
    obtain ⟨row, -, hpending, -, -, -, -, -, hordinary⟩ := Identities.absorbed_some.mp habsorbed
    have horganization := Identities.pendingActor_organization hpending
    refine orderly.mergeActor hdistinct hordinary (hprimary actorId haccount) ?_ hmerged
    intro request hrequest hsame
    exact hunserved request hrequest (hsame.symm.trans horganization)

end calls

theorem next_eq {registry : StaffRegistry} {call : StaffCall} {after : Identities}
    (done : call.run registry.identities = .ok after) :
    registry.next call = ⟨after, registry.served ++ (request? call).toList⟩ := by
  unfold next
  rw [done]

theorem next_unserved {registry : StaffRegistry} {call : StaffCall} {after : Identities}
    (done : call.run registry.identities = .ok after) (nothing : request? call = none) :
    registry.next call = ⟨after, registry.served⟩ := by
  rw [next_eq done, nothing, Option.toList_none, List.append_nil]

theorem Orderly.next {registry : StaffRegistry} {call : StaffCall} (orderly : Orderly registry)
    (meets : Meets registry call) : Orderly (registry.next call) := by
  cases hrun : call.run registry.identities with
  | error failure =>
      unfold StaffRegistry.next
      rw [hrun]
      exact orderly
  | ok after =>
      cases call with
      | upsertActor organizationId actorId role displayName account =>
          rw [next_unserved hrun rfl]
          exact orderly.upsertActor meets hrun
      | createStaffActor draw organizationId role name phone requestKey account =>
          obtain ⟨⟨card, created⟩, hdone, rfl⟩ := except_map_ok.mp hrun
          rw [next_eq hrun]
          exact orderly.createStaffActor hdone
      | grantRole actor role =>
          obtain ⟨⟨granted, identities⟩, hdone, rfl⟩ := except_map_ok.mp hrun
          rw [next_unserved hrun rfl]
          exact orderly.grantRole hdone
      | revokeRole actor role =>
          rw [next_unserved hrun rfl]
          cases hrun
          exact orderly.revokeRole actor role
      | deleteActor actor =>
          rw [next_unserved hrun rfl]
          cases hrun
          exact orderly.deleteActor actor
      | issueBindCode draw actor =>
          obtain ⟨⟨answer, identities⟩, hdone, rfl⟩ := except_map_ok.mp hrun
          rw [next_unserved hrun rfl]
          exact orderly.issueBindCode hdone
      | bindActorByCode now organizationId code provider externalUserId consumerKey =>
          obtain ⟨⟨answer, identities⟩, hdone, rfl⟩ := except_map_ok.mp hrun
          rw [next_unserved hrun rfl]
          exact orderly.bindActorByCode meets hdone

end StaffRegistry
end DispatchCore.Infrastructure
