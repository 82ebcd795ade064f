import DispatchCore.Infrastructure.Identities

/-! The identity store: who an account is, which roles an actor holds, and how the staff is
created, bound and let go.  Each call is one transaction. -/
namespace DispatchCore.Infrastructure

open DispatchCore.Library DispatchCore.Domain

def Role.ofName? : String → Option Role
  | "admin" => some admin
  | "operator" => some operator
  | "master" => some master
  | "client" => some client
  | _ => none

/-- The role that a frontend asks for. -/
def requestedRole (consumerKey : String) : Option Role :=
  match Role.ofName? consumerKey with
  | some role => some role
  | none =>
      match consumerKey.toList with
      | 's' :: 't' :: 'a' :: 'f' :: 'f' :: ':' :: rest => Role.ofName? (String.ofList rest)
      | _ => none

/-- The roles are in the order of their names. -/
def effectiveRole (primaryRole : Role) (roles : List Role) (consumerKey : String) : Option Role :=
  match requestedRole consumerKey with
  | some requested => if requested ∈ roles then some requested else none
  | none =>
      if consumerKey = "staff" then
        match roles.filter fun role => role ≠ .client with
        | [role] => some role
        | _ => none
      else if primaryRole ∈ roles then some primaryRole
      else roles.head?

theorem mem_of_effectiveRole {primaryRole role : Role} {roles : List Role} {consumerKey : String}
    (found : effectiveRole primaryRole roles consumerKey = some role) : role ∈ roles := by
  unfold effectiveRole at found
  split at found
  · split at found
    · cases found
      assumption
    · cases found
  · split at found
    · split at found
      · rename_i hroles
        cases found
        have hmem : role ∈ roles.filter fun role => role ≠ .client := by
          rw [hroles]
          exact List.mem_singleton_self _
        exact (List.mem_filter.mp hmem).1
      · cases found
    · split at found
      · cases found
        assumption
      · exact List.mem_of_mem_head? found

inductive IdentityFailure
  | failure (failure : Failure)
  | uniqueViolation
deriving DecidableEq

/-- Who an account was found to be. -/
structure Resolved where
  actorId : String
  role : Role
  displayName : String
  roles : List Role
deriving DecidableEq

/-- What a creation draws: an id, the end of the code, and candidates for the code. -/
structure StaffDraw where
  tokenHex : String
  expiresAt : Instant
  candidates : List Nat

/-- What a creation answers. -/
structure StaffCard where
  actorId : String
  role : Role
  name : String
  phone : Option String
  bindCode : Option String
deriving DecidableEq

namespace Identities

def roleSet (identities : Identities) (actor : Key) : List Role :=
  [.admin, .client, .master, .operator].filter (identities.hasRole actor)

@[simp] theorem mem_roleSet {identities : Identities} {actor : Key} {role : Role} :
    role ∈ identities.roleSet actor ↔ identities.hasRole actor role = true := by
  unfold roleSet
  rw [List.mem_filter]
  cases role <;> simp

def resolve (identities : Identities) (organizationId : String) (provider : Provider)
    (externalUserId consumerKey : String) : Option Resolved := do
  let actorId ← identities.externalIdentities.get?
    (organizationId, .messenger provider, externalUserId)
  let row ← identities.actors.get? (organizationId, actorId)
  if row.active then
    let roles := identities.roleSet (organizationId, actorId)
    let role ← effectiveRole row.role roles consumerKey
    return ⟨actorId, role, row.displayName, roles⟩
  else none

/-- `uq_actor_roles_one_active_admin` -/
def admitsRole (identities : Identities) (actor : Key) (role : Role) : Bool :=
  role ≠ .admin || identities.actorRoles.entries.all fun entry =>
    !entry.2 || entry.1.2 ≠ .admin || entry.1.1.1 ≠ actor.1 || entry.1.1 = actor

/-- `INSERT INTO actor_roles … ON CONFLICT … DO UPDATE` -/
def activateRole (identities : Identities) (actor : Key) (role : Role) :
    Except IdentityFailure Identities :=
  if identities.admitsRole actor role then
    .ok { identities with actorRoles := identities.actorRoles.set (actor, role) true }
  else .error .uniqueViolation

def bindAccount (identities : Identities) (organizationId : String) (provider : Provider)
    (externalUserId actorId : String) : Identities :=
  let account := (organizationId, IdentityProvider.messenger provider, externalUserId)
  if identities.externalIdentities.contains account then identities
  else { identities with
    externalIdentities := identities.externalIdentities.set account actorId }

@[simp] theorem bindAccount_actors (identities : Identities) (organizationId : String)
    (provider : Provider) (externalUserId actorId : String) :
    (identities.bindAccount organizationId provider externalUserId actorId).actors =
      identities.actors := by
  unfold bindAccount
  dsimp only
  split <;> rfl

@[simp] theorem bindAccount_actorRoles (identities : Identities) (organizationId : String)
    (provider : Provider) (externalUserId actorId : String) :
    (identities.bindAccount organizationId provider externalUserId actorId).actorRoles =
      identities.actorRoles := by
  unfold bindAccount
  dsimp only
  split <;> rfl

def upsertActor (identities : Identities) (organizationId actorId : String) (role : Role)
    (displayName : String) (account : Option (Provider × String)) :
    Except IdentityFailure Identities := do
  let actor : Key := (organizationId, actorId)
  let row : ActorRow := match identities.actors.get? actor with
    | some row => { row with displayName := displayName, active := true }
    | none => ⟨role, displayName, none, none, none, true, none⟩
  let identities ← { identities with actors := identities.actors.set actor row }.activateRole
    actor role
  match account with
  | none => return identities
  | some (provider, externalUserId) =>
      match identities.externalIdentities.get?
          (organizationId, .messenger provider, externalUserId) with
      | some existing =>
          if existing = actorId then return identities
          else throw (.failure (.valueError "external account is already bound to another actor"))
      | none => return identities.bindAccount organizationId provider externalUserId actorId

def bindCodeTaken (identities : Identities) (organizationId code : String) : Bool :=
  identities.actors.entries.any fun entry =>
    entry.1.1 = organizationId && entry.2.bindCode = some code

/-- The first of a hundred candidates that no actor has. -/
def unusedBindCode (identities : Identities) (organizationId : String) (candidates : List Nat) :
    Except IdentityFailure String :=
  let codes := (candidates.take 100).map fun candidate =>
    Text.padLeft 4 '0' (toString (candidate % 10000))
  match codes.find? fun code => !identities.bindCodeTaken organizationId code with
  | some code => .ok code
  | none => .error (.failure (.runtimeError "could not allocate a unique staff bind code"))

/-- The actor that a request has created already. -/
def findRequest (identities : Identities) (organizationId requestKey : String) :
    Option (Key × ActorRow) :=
  identities.actors.entries.find? fun entry =>
    entry.1.1 = organizationId && entry.2.staffCreationKey = some requestKey

def createStaffActor (identities : Identities) (draw : StaffDraw) (organizationId : String)
    (role : Role) (name : String) (phone requestKey : Option String) :
    Except IdentityFailure (StaffCard × Identities) := do
  if role ≠ .operator ∧ role ≠ .master then
    throw (.failure (.valueError "staff role must be operator or master"))
  if requestKey.any fun key => Text.strip key = "" then
    throw (.failure (.valueError "staff creation request key cannot be blank"))
  match requestKey.bind (identities.findRequest organizationId) with
  | some (existing, row) =>
      if row.role ≠ role ∨ row.displayName ≠ name ∨ row.phone ≠ phone then
        throw (.failure (.valueError
          "staff creation request key was reused with different actor data"))
      return (⟨existing.2, row.role, row.displayName, row.phone, row.bindCode⟩, identities)
  | none =>
      let actorId := s!"{role.value}:{draw.tokenHex}"
      let actor : Key := (organizationId, actorId)
      let bindCode ← identities.unusedBindCode organizationId draw.candidates
      if identities.actors.contains actor then
        throw .uniqueViolation
      let row : ActorRow :=
        ⟨role, name, phone, some bindCode, some draw.expiresAt, true, requestKey⟩
      let created ← { identities with actors := identities.actors.set actor row }.activateRole
        actor role
      return (⟨actorId, role, name, phone, some bindCode⟩, created)

structure ListedActor where
  id : String
  role : Role
  displayName : String
  phone : Option String
  active : Bool
  hasBindCode : Bool
  roles : List Role
  channels : List IdentityProvider

def channels (identities : Identities) (actor : Key) : List IdentityProvider :=
  ((identities.externalIdentities.entries.filter fun entry =>
    (entry.1.1, entry.2) = actor).map fun entry => entry.1.2.1).dedup

/-- The active actors of a role, by name. -/
def listActors (identities : Identities) (organizationId : String) (role : Role) :
    List ListedActor :=
  ((identities.actors.entries.filter fun entry =>
    entry.1.1 = organizationId && entry.2.active && identities.hasRole entry.1 role).map
      fun entry => (⟨entry.1.2, role, entry.2.displayName, entry.2.phone, entry.2.active,
        entry.2.bindCode.isSome, identities.roleSet entry.1, identities.channels entry.1⟩ :
        ListedActor)).insertionSort fun left right =>
          left.displayName < right.displayName ∨
            (left.displayName = right.displayName ∧ left.id ≤ right.id)

/-- What `get_actor` reads of an actor. -/
structure ActorCard where
  id : String
  role : Role
  displayName : String
  phone : Option String
  active : Bool
  roles : List Role
deriving DecidableEq

def getActor (identities : Identities) (actor : Key) : Option ActorCard :=
  (identities.actors.get? actor).map fun row =>
    ⟨actor.2, row.role, row.displayName, row.phone, row.active, identities.roleSet actor⟩

def updateActorPhone (identities : Identities) (actor : Key) (phone : String) : Bool × Identities :=
  match identities.actors.get? actor with
  | some row =>
      if row.active then
        (true, { identities with
          actors := identities.actors.set actor { row with phone := some phone } })
      else (false, identities)
  | none => (false, identities)

/-- An actor who is no longer active, and has no code to be bound by. -/
def deactivated (row : ActorRow) : ActorRow :=
  { row with active := false, bindCode := none, bindCodeExpiresAt := none }

/-- No admin is deleted. -/
def deleteActor (identities : Identities) (actor : Key) : Bool × Identities :=
  if identities.hasRole actor .admin then (false, identities)
  else
    (identities.activeActor actor,
      { identities with
        actors := identities.actors.mapValues fun key row =>
          if key = actor ∧ row.active then deactivated row else row
        actorRoles := identities.actorRoles.mapValues fun key active =>
          if key.1 = actor then false else active })

/-- Grant or reactivate a role without changing the actor. -/
def grantRole (identities : Identities) (actor : Key) (role : Role) :
    Except IdentityFailure (Bool × Identities) :=
  if identities.activeActor actor then
    (identities.activateRole actor role).map fun granted => (true, granted)
  else .ok (false, identities)

/-- The primary role goes to the first one that remains; an actor without roles goes. -/
def revokeRole (identities : Identities) (actor : Key) (role : Role) : Bool × Identities :=
  if identities.hasRole actor role then
    let revoked := { identities with actorRoles := identities.actorRoles.set (actor, role) false }
    match [Role.admin, .operator, .master, .client].find? (revoked.hasRole actor) with
    | some first =>
        (true, { revoked with
          actors := revoked.actors.mapValues fun key row =>
            if key = actor ∧ row.role = role then { row with role := first } else row })
    | none =>
        (true, { revoked with
          actors := revoked.actors.mapValues fun key row =>
            if key = actor then deactivated row else row })
  else (false, identities)

/-- The active actor whom a code that has not run out is for. -/
def pendingActor (identities : Identities) (now : Instant) (organizationId code : String) :
    Option (Key × ActorRow) :=
  identities.actors.entries.find? fun entry =>
    entry.1.1 = organizationId && entry.2.bindCode = some code &&
      entry.2.bindCodeExpiresAt.any (fun expires => now < expires) && entry.2.active

/-- May an actor with these roles be bound in this frontend? -/
def bindable (roles : List Role) (consumerKey : String) : Bool :=
  let requested := requestedRole consumerKey
  !(consumerKey ≠ "" && consumerKey ≠ "staff" && requested.isNone) &&
    !(roles = [] || requested.any fun role => role ∉ roles) &&
    !(consumerKey = "staff" && roles.all fun role => role = .client)

/-- The pending actor is merged into the one that the account is bound to, and deleted. -/
def mergeActor (identities : Identities) (pending actor : Key) :
    Except IdentityFailure Identities := do
  let merged ← (identities.roleSet pending).foldlM
    (fun identities role => identities.activateRole actor role) identities
  let active := merged.actors.mapValues fun key row =>
    if key = actor then { row with active := true } else row
  return { merged with
    actors := active.erase pending
    actorRoles := merged.actorRoles.restrict fun key _ => key.1 ≠ pending }

/-- The transaction of `bind_actor_by_code`: whom the account is bound to now. -/
def bindActor (identities : Identities) (now : Instant) (organizationId code : String)
    (provider : Provider) (externalUserId consumerKey : String) :
    Except IdentityFailure (Option (Key × Role × List Role) × Identities) := do
  match identities.pendingActor now organizationId code with
  | none => return (none, identities)
  | some (pending, row) =>
      let pendingRoles := identities.roleSet pending
      if ¬bindable pendingRoles consumerKey then
        return (none, identities)
      let account := (organizationId, IdentityProvider.messenger provider, externalUserId)
      -- an actor without an id is no actor
      let existing := (identities.externalIdentities.get? account).bind fun actorId =>
        if actorId = "" then none else some actorId
      let actor : Key := (organizationId, existing.getD pending.2)
      if existing.isSome ∧ actor ≠ pending then
        if identities.externalIdentities.entries.any fun entry => (entry.1.1, entry.2) = pending then
          return (none, identities)
        return (some (actor, row.role, pendingRoles), ← identities.mergeActor pending actor)
      else
        let bound := identities.bindAccount organizationId provider externalUserId actor.2
        return (some (actor, row.role, pendingRoles),
          { bound with
            actors := bound.actors.mapValues fun key row =>
              if key = actor then { row with bindCode := none, bindCodeExpiresAt := none }
              else row })

def bindActorByCode (identities : Identities) (now : Instant) (organizationId code : String)
    (provider : Provider) (externalUserId consumerKey : String) :
    Except IdentityFailure (Option Resolved × Identities) := do
  let (bound, identities) ←
    identities.bindActor now organizationId code provider externalUserId consumerKey
  match bound with
  | none => return (none, identities)
  | some (actor, primaryRole, pendingRoles) =>
      match identities.actors.get? actor with
      | none => return (none, identities)
      | some row =>
          if ¬row.active then
            return (none, identities)
          let pendingRole :=
            if primaryRole ∈ pendingRoles then primaryRole.value
            else (pendingRoles.head?.map Role.value).getD ""
          let frontend := if consumerKey = "staff" then pendingRole
            else if consumerKey = "" then pendingRole else consumerKey
          let roles := identities.roleSet actor
          return ((effectiveRole row.role roles frontend).map fun role =>
            ⟨actor.2, role, row.displayName, roles⟩, identities)

def issueBindCode (identities : Identities) (draw : StaffDraw) (actor : Key) :
    Except IdentityFailure (Option String × Identities) := do
  let bindCode ← identities.unusedBindCode actor.1 draw.candidates
  match identities.actors.get? actor with
  | some row =>
      if row.active then
        return (some bindCode, { identities with
          actors := identities.actors.set actor
            { row with bindCode := some bindCode, bindCodeExpiresAt := some draw.expiresAt } })
      else return (none, identities)
  | none => return (none, identities)

end Identities
end DispatchCore.Infrastructure
