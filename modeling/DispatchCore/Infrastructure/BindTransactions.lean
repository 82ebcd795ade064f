import DispatchCore.Infrastructure.Staff
import DispatchCore.Library.RowLocks
import DispatchCore.Library.Runs

/-! Binding by code, statement by statement.  Any number of bindings run at once: each locks the
rows that it selects for update or writes, and reads what has been committed.  The locks of
foreign keys are left out: they only let fewer statements run. -/
namespace DispatchCore.Infrastructure

open DispatchCore.Library DispatchCore.Domain Identities

abbrev Account := String × IdentityProvider × String

structure BindCall where
  organizationId : String
  bindCode : String
  provider : Provider
  externalUserId : String
  consumerKey : String
  /-- when the transaction begins -/
  now : Instant

def BindCall.account (call : BindCall) : Account :=
  (call.organizationId, .messenger call.provider, call.externalUserId)

inductive IdentityWrite
  | grant (actor : Key) (role : Role)
  | activate (actor : Key)
  | delete (actor : Key)
  | bind (account : Account) (actorId : String)
  | clearCode (actor : Key)

/-- A deletion takes the roles and the accounts of the actor along. -/
def IdentityWrite.apply (identities : Identities) : IdentityWrite → Identities
  | grant actor role =>
      { identities with actorRoles := identities.actorRoles.set (actor, role) true }
  | activate actor =>
      { identities with
        actors := identities.actors.mapValues fun key row =>
          if key = actor then { row with active := true } else row }
  | delete actor =>
      { actors := identities.actors.erase actor
        actorRoles := identities.actorRoles.restrict fun key _ => key.1 ≠ actor
        externalIdentities := identities.externalIdentities.restrict fun account actorId =>
          (account.1, actorId) ≠ actor }
  | bind account actorId =>
      { identities with
        externalIdentities := identities.externalIdentities.set account actorId }
  | clearCode actor =>
      { identities with
        actors := identities.actors.mapValues fun key row =>
          if key = actor then { row with bindCode := none, bindCodeExpiresAt := none } else row }

inductive RowLock
  | actor (actor : Key)
  | role (actor : Key) (role : Role)
  | account (account : Account)
deriving DecidableEq

/-- The actor whom the code is for, and the roles read of them. -/
structure Pending where
  actor : Key
  row : ActorRow
  roles : List Role

/-- The next statement of a binding, with what the ones before it have read. -/
inductive BindStage
  | selecting
  | readingRoles (pending : Pending)
  | readingAccount (pending : Pending)
  | checkingBindings (pending : Pending) (actor : Key)
  | granting (pending : Pending) (actor : Key)
  | activating (pending : Pending) (actor : Key)
  | deleting (pending : Pending) (actor : Key)
  | inserting (pending : Pending)
  | clearingCode (pending : Pending)
  | readingActor (pending : Pending) (actor : Key)
  | readingActive (pending : Pending) (actor : Key) (found : Option ActorRow)
  | committing (answer : Option Resolved)
  | returned (answer : Option Resolved)
  | violated
  | aborted

structure BindJob where
  call : BindCall
  stage : BindStage

/-- Whom a binding answers with, from the rows it read last. -/
def BindCall.answer (call : BindCall) (pending : Pending) (actor : Key)
    (found : Option ActorRow) (roles : List Role) : Option Resolved :=
  match found with
  | none => none
  | some row =>
      let pendingRole :=
        if pending.row.role ∈ pending.roles then pending.row.role.value
        else (pending.roles.head?.map Role.value).getD ""
      let frontend := if call.consumerKey = "staff" then pendingRole
        else if call.consumerKey = "" then pendingRole else call.consumerKey
      (effectiveRole row.role roles frontend).map fun role =>
        ⟨actor.2, role, row.displayName, roles⟩

/-- One statement, by what the transaction sees. -/
def BindCall.statement (call : BindCall) (stage : BindStage) (view : Identities) :
    TransactionStep BindStage IdentityWrite RowLock :=
  match stage with
  | .selecting =>
      match view.pendingActor call.now call.organizationId call.bindCode with
      | none => .run [] [] (.committing none)
      | some (actor, row) => .run [.actor actor] [] (.readingRoles ⟨actor, row, []⟩)
  | .readingRoles pending =>
      let roles := view.roleSet pending.actor
      if bindable roles call.consumerKey then .run [] [] (.readingAccount { pending with roles })
      else .run [] [] (.committing none)
  | .readingAccount pending =>
      match view.externalIdentities.get? call.account with
      | none => .run [] [] (.inserting pending)
      | some actorId =>
          -- an actor without an id is no actor
          if actorId ≠ "" ∧ (call.organizationId, actorId) ≠ pending.actor then
            .run [.account call.account] []
              (.checkingBindings pending (call.organizationId, actorId))
          else .run [.account call.account] [] (.inserting pending)
  | .checkingBindings pending actor =>
      if view.externalIdentities.entries.any fun entry =>
          (entry.1.1, entry.2) = pending.actor then
        .run [] [] (.committing none)
      else .run [] [] (.granting pending actor)
  | .granting pending actor =>
      let roles := view.roleSet pending.actor
      if roles.all (view.admitsRole actor) then
        .run (roles.map (.role actor)) (roles.map (.grant actor)) (.activating pending actor)
      else .rollback .violated
  | .activating pending actor => .run [.actor actor] [.activate actor] (.deleting pending actor)
  | .deleting pending actor =>
      if (view.actors.get? pending.actor).any fun row => row.bindCode = some call.bindCode then
        .run [.actor pending.actor] [.delete pending.actor] (.readingActor pending actor)
      else .run [] [] (.readingActor pending actor)
  | .inserting pending =>
      if view.externalIdentities.contains call.account then .run [] [] (.clearingCode pending)
      else .run [.account call.account] [.bind call.account pending.actor.2]
        (.clearingCode pending)
  | .clearingCode pending =>
      .run [.actor pending.actor] [.clearCode pending.actor] (.readingActor pending pending.actor)
  | .readingActor pending actor =>
      .run [] [] (.readingActive pending actor ((view.actors.get? actor).filter ActorRow.active))
  | .readingActive pending actor found =>
      .run [] [] (.committing (call.answer pending actor found (view.roleSet actor)))
  | .committing answer => .commit (.returned answer)
  | .returned answer => .run [] [] (.returned answer)
  | .violated => .run [] [] .violated
  | .aborted => .run [] [] .aborted

def BindJob.statement (job : BindJob) (view : Identities) :
    TransactionStep BindJob IdentityWrite RowLock :=
  match job.call.statement job.stage view with
  | .run locks writes stage => .run locks writes { job with stage }
  | .commit stage => .commit { job with stage }
  | .rollback stage => .rollback { job with stage }

/-- A transaction that is not over may fail: by a deadlock, or with its connection. -/
def BindJob.cancelled (job : BindJob) : Option BindJob :=
  match job.stage with
  | .returned _ | .violated | .aborted => none
  | _ => some { job with stage := .aborted }

abbrev BindSession := Session BindJob IdentityWrite RowLock

abbrev BindDesk := Database Identities BindJob IdentityWrite RowLock

namespace BindDesk

def view (tables : Identities) (session : BindSession) : Identities :=
  Database.view IdentityWrite.apply tables session

def turn (desk : BindDesk) (next : Database.Turn) : BindDesk :=
  Database.turn IdentityWrite.apply BindJob.statement BindJob.cancelled desk next

/-- Calls on some people, none of them begun. -/
def «open» (people : Identities) (calls : List BindCall) : BindDesk :=
  Database.open people (calls.map fun call => ⟨call, .selecting⟩)

/-- The call of a session returns with a turn. -/
def Returns (desk : BindDesk) (next : Database.Turn) (index : Nat) (call : BindCall)
    (answer : Option Resolved) : Prop :=
  (∃ stage writes locks, desk.sessions[index]? = some ⟨⟨call, stage⟩, writes, locks⟩ ∧
    ∀ other, stage ≠ .returned other) ∧
  ∃ writes locks, (desk.turn next).sessions[index]? =
    some ⟨⟨call, .returned answer⟩, writes, locks⟩

/-- What a call leaves that returns an identity. -/
structure Bound (desk : BindDesk) (index : Nat) (call : BindCall) (identity : Resolved)
    (after : Identities) : Prop where
  account : after.externalIdentities.get? call.account = some identity.actorId
  role : after.hasRole (call.organizationId, identity.actorId) identity.role = true
  united : ∃ pending row, desk.tables.actors.get? pending = some row ∧
    pending.1 = call.organizationId ∧ row.bindCode = some call.bindCode ∧
    ∀ role, after.hasRole (call.organizationId, identity.actorId) role = true ↔
      desk.tables.hasRole (call.organizationId, identity.actorId) role = true ∨
        desk.tables.hasRole pending role = true
  /-- Nobody has the code any more. -/
  consumed : ∀ key row, after.actors.get? key = some row → key.1 = call.organizationId →
    row.bindCode ≠ some call.bindCode
  /-- No other call has returned an identity for it. -/
  first : ∀ (other : Nat) found writes locks identity, other ≠ index →
    desk.sessions[other]? = some ⟨⟨found, .returned (some identity)⟩, writes, locks⟩ →
      ¬(found.organizationId = call.organizationId ∧ found.bindCode = call.bindCode)

/-- A turn is truthful: no account is bound to another actor, a call that returns an identity has
bound it, and one that returns none has changed nothing. -/
structure Truthful (desk : BindDesk) (next : Database.Turn) : Prop where
  kept : ∀ account actorId, desk.tables.externalIdentities.get? account = some actorId →
    (desk.turn next).tables.externalIdentities.get? account = some actorId
  refused : ∀ index call, desk.Returns next index call none →
    (desk.turn next).tables = desk.tables
  bound : ∀ index call identity, desk.Returns next index call (some identity) →
    desk.Bound index call identity (desk.turn next).tables

/-- An account that was found unbound, or bound to the pending actor, is not bound to another one
when the statement comes that binds it. -/
def Careful (desk : BindDesk) : Database.Turn → Prop
  | .step index => ∀ session ∈ desk.sessions[index]?,
      match session.stage.stage with
      | .inserting pending => ∀ actorId,
          desk.tables.externalIdentities.get? session.stage.call.account = some actorId →
            actorId = pending.actor.2
      | _ => True
  | .abort _ => True

end BindDesk

/-- What the keys of the tables promise. -/
structure IdentityKeys (identities : Identities) : Prop where
  codes : ∀ left right leftRow rightRow code, identities.actors.get? left = some leftRow →
    identities.actors.get? right = some rightRow → left.1 = right.1 →
    leftRow.bindCode = some code → rightRow.bindCode = some code → left = right
  accounts : ∀ account actorId, identities.externalIdentities.get? account = some actorId →
    ∃ row, identities.actors.get? (account.1, actorId) = some row

end DispatchCore.Infrastructure
