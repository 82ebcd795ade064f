import DispatchCore.Library.Conversations
import DispatchCore.Messaging.BindingGuesses
import DispatchCore.Messaging.Replies

/-! The shared bot of the staff in MAX: a member picks the role to act in, and an event of theirs is
answered in that role as long as they hold it. -/
namespace DispatchCore.Messaging

open DispatchCore.Library DispatchCore.Domain DispatchCore.Infrastructure Program

/-- The roles that `staff_role_selections` admits. -/
inductive StaffRole
  | admin
  | operator
  | master
deriving DecidableEq

namespace StaffRole

def role : StaffRole → Role
  | admin => .admin
  | operator => .operator
  | master => .master

def ofName? : String → Option StaffRole
  | "admin" => some admin
  | "operator" => some operator
  | "master" => some master
  | _ => none

def word : StaffRole → String
  | admin => "Администратор"
  | operator => "Оператор"
  | master => "Мастер"

/-- `_ROLE_LABELS` -/
def label : StaffRole → String
  | admin => "🛡 Администратор"
  | operator => "🧭 Оператор"
  | master => "🧰 Мастер"

theorem label_worded (role : StaffRole) : role.label ≠ "" := by cases role <;> decide

theorem ofName?_value (role : StaffRole) : ofName? role.role.value = some role := by
  cases role <;> rfl

/-- `_ROLE_ORDER`, as far as the identity has the roles -/
def available (identity : Resolved) : List StaffRole :=
  [admin, operator, master].filter fun role => role.role ∈ availableRoles identity

/-- A payload picks a role the member has; a value that is no text names none. -/
def picked (identity : Resolved) (payload : Dict String Json) : Option StaffRole :=
  match payload.get? "role" with
  | some (.str name) => (ofName? name).filter fun role => role ∈ available identity
  | _ => none

def chosenText (role : StaffRole) : String :=
  "Режим «" ++ role.word ++ "» включён. Чтобы сменить роль, снова нажмите /start."

theorem available_eq_nil {identity : Resolved} :
    available identity = [] ↔ availableRoles identity = [] := by
  unfold available availableRoles
  generalize (if identity.roles = [] then [identity.role] else identity.roles) = roles
  by_cases hadmin : Role.admin ∈ roles <;> by_cases hoperator : Role.operator ∈ roles <;>
    by_cases hmaster : Role.master ∈ roles <;>
      simp [role, hadmin, hoperator, hmaster]

theorem mem_of_picked {identity : Resolved} {payload : Dict String Json} {role : StaffRole}
    (h : picked identity payload = some role) : role ∈ available identity := by
  unfold picked at h
  split at h
  · exact of_decide_eq_true (Option.filter_eq_some_iff.mp h).2
  · contradiction

end StaffRole

namespace StaffRoleCoordinator

def staffSelectRole : String := "staff_select_role"

theorem staffSelectRole_ne : staffSelectRole ≠ "" := by decide

def roleButton (role : StaffRole) (row : Nat) : ReplyButton :=
  ⟨role.label, staffSelectRole, Dict.ofList [("role", .str role.role.value)], none, row, none,
    false, role.label_worded, .inl staffSelectRole_ne, ReplyButton.unlinked⟩

def menu (identity : Resolved) (note : Option String) : Reply :=
  if StaffRole.available identity = [] then
    .words "У этого аккаунта нет служебных ролей. Обратитесь к администратору."
  else
    let lines := (match note with
      | some note => [note, ""]
      | none => []) ++
      ["Здравствуйте, " ++ identity.displayName ++ "!",
        "Выберите, в какой роли открыть диспетчерскую:"]
    ⟨"\n\n".intercalate lines, (StaffRole.available identity).mapIdx fun index role =>
      roleButton role index⟩

/-- A button of the menu picks the role it is for. -/
theorem picked_roleButton {identity : Resolved} {role : StaffRole} (row : Nat)
    (has : role ∈ StaffRole.available identity) :
    StaffRole.picked identity (roleButton role row).payload = some role := by
  have hpayload : (roleButton role row).payload.get? "role" = some (.str role.role.value) := rfl
  unfold StaffRole.picked
  rw [hpayload]
  simp only [StaffRole.ofName?_value]
  simp [has]

end StaffRoleCoordinator

/-- An account of the bot. -/
structure StaffAccount where
  organizationId : String
  externalUserId : String
deriving DecidableEq

/-- What `_resolve_shared_staff` reads of an event. -/
structure SharedEvent where
  account : StaffAccount
  externalEventId : String
  kind : EventKind
  callbackToken : Option String

namespace SharedEvent

/-- `_callback_claim_key` -/
def claimKey (event : SharedEvent) : String := Provider.max.value ++ ":" ++ event.externalEventId

/-- The token of a callback that has one. -/
def pressed (event : SharedEvent) : Option String :=
  if event.kind = .callback then event.callbackToken.filter fun token => token ≠ "" else none

end SharedEvent

/-- What the resolution asks of the stores; `landing` is the menu of a role that was entered. -/
inductive RoleOp
  | resolve (consumerKey : String)
  | peekAction (token : String)
  | resolveCallback (token : String) (actorRole : Role)
  | complete (callback : CallbackAction)
  | selected
  | put (role : StaffRole)
  | clear
  | landing (identity : Resolved) (note : String)

namespace RoleOp

abbrev Answer : RoleOp → Type
  | resolve _ => Option Resolved
  | peekAction _ => Option String
  | resolveCallback _ _ => Option CallbackAction
  | complete _ => Bool
  | selected => Option StaffRole
  | put _ => Unit
  | clear => Unit
  | landing _ _ => Except Failure Reply

/-- It writes the selection of the account. -/
def Writes : RoleOp → Prop
  | put _ => True
  | clear => True
  | _ => False

end RoleOp

/-- The identity to act for, and the answer where the event needs nothing else. -/
abbrev RoleProgram := Program RoleOp RoleOp.Answer Failure (Option Resolved × Option Reply)

section program

open StaffRoleCoordinator

/-- The event is answered in the role that was picked, if it is still held. -/
def roleSelected (base : Resolved) : RoleProgram :=
  .call .selected fun
    | none => .done (some base, some (menu base none))
    | some role => .call (.resolve role.role.value) fun
        | some identity => .done (some identity, none)
        | none => .call .clear fun _ => .done (some base, some (menu base none))

/-- `_complete_callback_claim`, and then the end -/
def completing (callback : CallbackAction) (ending : RoleProgram) : RoleProgram :=
  .call (.complete callback) fun completed =>
    if completed then ending else .raise (.runtimeError "callback claim ownership was lost")

/-- `select`, and the menu of the role; a domain error closes the claim as well -/
def rolePicked (base : Resolved) (callback : CallbackAction) : RoleProgram :=
  match StaffRole.picked base callback.payload with
  | none => .call .clear fun _ => completing callback
      (.done (some base,
        some (menu base (some "Эта роль больше недоступна. Выберите актуальную."))))
  | some role => .call (.put role) fun _ => .call (.resolve role.role.value) fun
      | none => .call .clear fun _ => completing callback
          (.done (some base, some (menu base (some "Выбранная роль больше недоступна."))))
      | some identity => .call (.landing identity role.chosenText) fun
          | .ok reply => completing callback (.done (some identity, some reply))
          | .error failure =>
              if failure.isDomainError then completing callback (.raise failure)
              else .raise failure

def rolePressed (base : Resolved) (token : String) : RoleProgram :=
  .call (.resolveCallback token base.role) fun
    | none => .done (some base, some (menu base (some "Кнопка выбора роли устарела.")))
    | some callback => rolePicked base callback

/-- `_resolve_shared_staff` -/
def resolveSharedStaff (event : SharedEvent) : RoleProgram :=
  .call (.resolve "") fun
    | none => .done (none, none)
    | some base =>
        if availableRoles base = [] then .done (none, none)
        else if event.kind = .start then
          .call .clear fun _ => .done (some base, some (menu base none))
        else
          match event.pressed with
          | none => roleSelected base
          | some token => .call (.peekAction token) fun action =>
              if action = some staffSelectRole then rolePressed base token
              else roleSelected base

end program

end DispatchCore.Messaging
