import DispatchCore.Infrastructure.Queues
import DispatchCore.Infrastructure.Callbacks
import DispatchCore.Library.Json

/-! What the coordinators answer: a text and buttons. -/
namespace DispatchCore.Messaging

open DispatchCore.Library DispatchCore.Domain DispatchCore.Infrastructure

structure ReplyButton where
  text : String
  action : String
  payload : Dict String Json
  allowedRole : Option Role
  row : Nat
  url : Option String
  requestLocation : Bool
  worded : text ≠ ""
  aimed : action ≠ "" ∨ url.isSome ∨ requestLocation = true
  single : ¬(url.isSome ∧ requestLocation = true)

structure Reply where
  text : String
  buttons : List ReplyButton

theorem cancel_worded : "Отмена" ≠ "" := by decide

theorem no_worded : "Нет" ≠ "" := by decide

theorem revoke_worded : "Да, убрать роль" ≠ "" := by decide

namespace ReplyButton

/-- A button without a link opens nothing, so it need not ask for anything else. -/
theorem unlinked : ¬((none : Option String).isSome ∧ false = true) := by simp

/-- A button with an action. -/
def make (text action : String) (payload : Dict String Json) (allowedRole : Role) (row : Nat)
    (named : action ≠ "") : Except Failure ReplyButton :=
  if worded : text ≠ "" then
    .ok ⟨text, action, payload, some allowedRole, row, none, false, worded, .inl named, unlinked⟩
  else
    .error (.valueError "button text is required")

def plain (text action : String) (allowedRole : Role) (row : Nat) (worded : text ≠ "")
    (named : action ≠ "") : ReplyButton :=
  ⟨text, action, .empty, some allowedRole, row, none, false, worded, .inl named, unlinked⟩

def link (text url : String) (row : Nat) (worded : text ≠ "") : ReplyButton :=
  ⟨text, "", .empty, none, row, some url, false, worded, .inr (.inl rfl), by simp⟩

def location (text : String) (worded : text ≠ "") : ReplyButton :=
  ⟨text, "", .empty, none, 0, none, true, worded, .inr (.inr rfl), by simp⟩

end ReplyButton

/-- A text alone. -/
def Reply.words (text : String) : Reply := ⟨text, []⟩

end DispatchCore.Messaging
