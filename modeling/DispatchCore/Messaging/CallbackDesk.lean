import DispatchCore.Application.Histories
import DispatchCore.Messaging.Config
import DispatchCore.Messaging.Editors
import DispatchCore.Messaging.IntakeWorld

/-! Callbacks of the configurator and of the intake, each handled from its first operation
to its last: what one of them leaves behind, and what it leaves when it is handled again. -/
namespace DispatchCore.Messaging

open DispatchCore.Library DispatchCore.Domain DispatchCore.Packs DispatchCore.Infrastructure
  DispatchCore.Application

/-- What one handling draws from outside. -/
structure DeskDraw where
  uuid4 : String
  drawn : uuid4 ≠ ""
  tokenUrlsafe : String
  ambient : Ambient
  publicNumber : String
  numbered : publicNumber ≠ ""

/-- What a handling finds: the packs, both sessions of the one who pressed, the people and
the orders. -/
structure ChatDesk where
  table : PackTable
  config : Option ConfigState
  intake : Option IntakeState
  identities : Identities
  records : Records

/-- A session of the configurator as it is stored while an event is handled. -/
def ConfigState.withSessionEvent (eventId : String) (state : ConfigState) : ConfigState :=
  { state with lastEvent := if eventId = "" then state.lastEvent else some eventId }

namespace ChatDesk

variable (identity : MessengerIdentity) (eventId : String) (draw : DeskDraw)

/-- One transaction on the packs. -/
def transacted (transaction : PackTransaction) (desk : ChatDesk) :
    Except PackFailure PackReply × ChatDesk :=
  ((transaction.alone desk.table).1, { desk with table := (transaction.alone desk.table).2 })

def performConfig (op : ConfigOp) (desk : ChatDesk) : op.Answer × ChatDesk :=
  match op with
  | .draft => (desk.table.draft identity.organizationId, desk)
  | .active =>
      ((desk.table.activeRevision identity.organizationId).map PackRevision.definition, desk)
  | .revision version =>
      (PostgresPackStore.revision desk.table.rows identity.organizationId version, desk)
  | .revisions => (PostgresPackStore.revisions desk.table.rows identity.organizationId, desk)
  | .ensureDraft seed =>
      desk.transacted (PostgresPackStore.ensureDraft identity.organizationId seed)
  | .updateDraft definition =>
      desk.transacted (PostgresPackStore.updateDraft identity.organizationId definition)
  | .discardDraft => desk.transacted (PostgresPackStore.discardDraft identity.organizationId)
  | .restoreAsDraft version =>
      desk.transacted (PostgresPackStore.restoreAsDraft identity.organizationId version)
  | .publishDraft => desk.transacted (PostgresPackStore.publishDraft identity.organizationId)
  | .getSession => (desk.config, desk)
  | .putSession state => ((), { desk with config := some (state.withSessionEvent eventId) })
  | .clearSession => ((), { desk with config := none })
  | .grantRole role =>
      match desk.identities.grantRole (identity.organizationId, identity.actorId) role with
      | .ok (granted, identities) => (.ok granted, { desk with identities })
      | .error failure => (.error failure, desk)
  | .revokeRole actorId role =>
      let (revoked, identities) := desk.identities.revokeRole (identity.organizationId, actorId) role
      (revoked, { desk with identities })
  | .getActor actorId => (desk.identities.getActor (identity.organizationId, actorId), desk)
  | .listActors role => (desk.identities.listActors identity.organizationId role, desk)
  | .uuid4 => (draw.uuid4, desk)

def performIntake (op : IntakeOp) (desk : ChatDesk) : op.Answer × ChatDesk :=
  match op with
  | .getSession => (desk.intake, desk)
  | .putSession state => ((), { desk with intake := some (stateWithSessionEvent eventId state) })
  | .clearSession => ((), { desk with intake := none })
  | .activeRevision => (desk.table.activeRevision identity.organizationId, desk)
  | .revision version =>
      (PostgresPackStore.revision desk.table.rows identity.organizationId version, desk)
  | .createOrderOnce orderId creation =>
      match (Command.createOrderOnce draw.ambient orderId creation).apply
          ⟨draw.publicNumber, false⟩ desk.records with
      | .ok records =>
          (.ok (((records.orders.get? (creation.organizationId, orderId)).map
            WorkOrder.publicNumber).getD ""), { desk with records })
      | .error failure => (.error failure, desk)
  | .uuid4 => (draw.uuid4, desk)
  | .tokenUrlsafe => (draw.tokenUrlsafe, desk)

section performed

variable {identity eventId draw} (desk : ChatDesk)

theorem transacted_eq {desk : ChatDesk} {transaction : PackTransaction}
    {result : Except PackFailure PackReply} {table : PackTable}
    (called : transaction.alone desk.table = (result, table)) :
    desk.transacted transaction = (result, { desk with table }) := by
  unfold transacted
  rw [called]

@[simp] theorem performConfig_draft : performConfig identity eventId draw .draft desk =
    (desk.table.draft identity.organizationId, desk) := rfl

@[simp] theorem performConfig_active : performConfig identity eventId draw .active desk =
    ((desk.table.activeRevision identity.organizationId).map PackRevision.definition, desk) := rfl

@[simp] theorem performConfig_ensureDraft (seed : PackDefinition) :
    performConfig identity eventId draw (.ensureDraft seed) desk =
      desk.transacted (PostgresPackStore.ensureDraft identity.organizationId seed) := rfl

@[simp] theorem performConfig_updateDraft (definition : PackDefinition) :
    performConfig identity eventId draw (.updateDraft definition) desk =
      desk.transacted (PostgresPackStore.updateDraft identity.organizationId definition) := rfl

@[simp] theorem performConfig_getSession :
    performConfig identity eventId draw .getSession desk = (desk.config, desk) := rfl

@[simp] theorem performConfig_getActor (actorId : String) :
    performConfig identity eventId draw (.getActor actorId) desk =
      (desk.identities.getActor (identity.organizationId, actorId), desk) := rfl

@[simp] theorem performConfig_uuid4 :
    performConfig identity eventId draw .uuid4 desk = (draw.uuid4, desk) := rfl

@[simp] theorem performConfig_putSession (state : ConfigState) :
    performConfig identity eventId draw (.putSession state) desk =
      ((), { desk with config := some (state.withSessionEvent eventId) }) := rfl

@[simp] theorem performConfig_clearSession :
    performConfig identity eventId draw .clearSession desk = ((), { desk with config := none }) :=
  rfl

@[simp] theorem performIntake_getSession :
    performIntake identity eventId draw .getSession desk = (desk.intake, desk) := rfl

@[simp] theorem performIntake_putSession (state : IntakeState) :
    performIntake identity eventId draw (.putSession state) desk =
      ((), { desk with intake := some (stateWithSessionEvent eventId state) }) := rfl

@[simp] theorem performIntake_clearSession :
    performIntake identity eventId draw .clearSession desk = ((), { desk with intake := none }) :=
  rfl

@[simp] theorem performIntake_activeRevision :
    performIntake identity eventId draw .activeRevision desk =
      (desk.table.activeRevision identity.organizationId, desk) := rfl

@[simp] theorem performIntake_revision (version : Int) :
    performIntake identity eventId draw (.revision version) desk =
      (PostgresPackStore.revision desk.table.rows identity.organizationId version, desk) := rfl

@[simp] theorem performIntake_uuid4 :
    performIntake identity eventId draw .uuid4 desk = (draw.uuid4, desk) := rfl

theorem performIntake_created {records : Records} {orderId : String} {creation : Creation}
    (created : (Command.createOrderOnce draw.ambient orderId creation).apply
      ⟨draw.publicNumber, false⟩ desk.records = .ok records) :
    performIntake identity eventId draw (.createOrderOnce orderId creation) desk =
      (.ok (((records.orders.get? (creation.organizationId, orderId)).map
        WorkOrder.publicNumber).getD ""), { desk with records }) := by
  simp only [performIntake, created]

theorem performIntake_refused {failure : Failure} {orderId : String} {creation : Creation}
    (refused : (Command.createOrderOnce draw.ambient orderId creation).apply
      ⟨draw.publicNumber, false⟩ desk.records = .error failure) :
    performIntake identity eventId draw (.createOrderOnce orderId creation) desk =
      (.error failure, desk) := by
  simp only [performIntake, refused]

end performed

/-- The draft and the sessions, as everybody sees them. -/
def shown (organizationId : String) (desk : ChatDesk) :
    Option PackDefinition × Option ConfigState × Option IntakeState :=
  (desk.table.draft organizationId, desk.config, desk.intake)

end ChatDesk

structure DeskSetup where
  config : ConfigCoordinator.Setup
  intake : IntakeCoordinator.Setup

inductive DeskCallback
  | config (action : ConfigAction) (payload : Dict String Json)
  | intake (action : IntakeAction) (payload : Dict String Json)

/-- A callback handled to its end. -/
def ChatDesk.handled (setup : DeskSetup) (identity : MessengerIdentity) (eventId : String)
    (callback : DeskCallback) (draw : DeskDraw) (desk : ChatDesk) : ChatDesk :=
  match callback with
  | .config action payload =>
      ((ConfigCoordinator.handleCallback setup.config identity action payload).alone
        (performConfig identity eventId draw) desk).2
  | .intake action payload =>
      ((IntakeCoordinator.handleCallback setup.intake identity action payload).alone
        (performIntake identity eventId draw) desk).2

end DispatchCore.Messaging
