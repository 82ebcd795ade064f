import DispatchCore.Infrastructure.AsyncMemory
import DispatchCore.Infrastructure.Callbacks
import DispatchCore.Infrastructure.Queues

/-! The tables of people: actors, the roles they hold, and the accounts bound to
them. -/
namespace DispatchCore.Infrastructure

open DispatchCore.Library DispatchCore.Domain

inductive IdentityProvider
  | messenger (provider : Provider)
  | web
  | api
deriving DecidableEq, Repr

structure ActorRow where
  role : Role
  displayName : String
  phone : Option String
  bindCode : Option String
  bindCodeExpiresAt : Option Instant
  active : Bool
  staffCreationKey : Option String
deriving DecidableEq

/-- `actorRoles` tells for each granted role whether it is active still, and
`externalIdentities` names the actor an account is bound to. -/
structure Identities where
  actors : Dict Key ActorRow
  actorRoles : Dict (Key × Role) Bool
  externalIdentities : Dict (String × IdentityProvider × String) String

structure Recipient where
  provider : Provider
  externalUserId : String
  role : Role
deriving DecidableEq

namespace Identities

def empty : Identities := ⟨.empty, .empty, .empty⟩

def activeActor (identities : Identities) (actor : Key) : Bool :=
  (identities.actors.get? actor).any ActorRow.active

def hasRole (identities : Identities) (actor : Key) (role : Role) : Bool :=
  (identities.actorRoles.get? (actor, role)).getD false

/-- The role a recipient is addressed in. -/
def recipientRole (identities : Identities) (actor : Key) (row : ActorRow) (roles : List Role)
    (deliveryRole : Option Role) : Role :=
  deliveryRole.getD ((roles.find? (identities.hasRole actor)).getD row.role)

def recipient (identities : Identities) (organizationId : String) (actorIds : List String)
    (roles : List Role) (deliveryRole : Option Role)
    (entry : (String × IdentityProvider × String) × String) : Option Recipient :=
  match entry.1.2.1, identities.actors.get? (entry.1.1, entry.2) with
  | .messenger provider, some row =>
      let actor : Key := (entry.1.1, entry.2)
      if entry.1.1 = organizationId ∧ row.active ∧ deliveryRole.all (identities.hasRole actor) ∧
          (entry.2 ∈ actorIds ∨ roles.any (identities.hasRole actor)) then
        some ⟨provider, entry.1.2.2, identities.recipientRole actor row roles deliveryRole⟩
      else none
  | _, _ => none

/-- The accounts of the named actors and of everybody in the roles, ordered by
account. -/
def recipients (identities : Identities) (organizationId : String) (actorIds : List String)
    (roles : List Role) (deliveryRole : Option Role) : List Recipient :=
  if actorIds = [] ∧ roles = [] then []
  else
    (identities.externalIdentities.entries.filterMap
      (identities.recipient organizationId actorIds roles deliveryRole)).insertionSort
        fun left right => left.provider.value < right.provider.value ∨
          (left.provider = right.provider ∧ left.externalUserId ≤ right.externalUserId)

end Identities
end DispatchCore.Infrastructure
