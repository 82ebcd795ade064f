import DispatchCore.Messaging.ConfigRepeats
import DispatchCore.Messaging.IntakeRepeats

/-! A callback that is delivered again after it was handled. -/
namespace DispatchCore.Messaging

open DispatchCore.Library DispatchCore.Domain DispatchCore.Packs DispatchCore.Infrastructure
  DispatchCore.Application

/-- A button of the guided flow that stores what it wants, and not a change of what it finds,
on a session at its revision. -/
def IntakeAction.Repeatable (unicode : Unicode) (identity : MessengerIdentity) (records : Records)
    (pack : PackDefinition) (state : IntakeState) (payload : Dict String Json) (draw : DeskDraw) :
    IntakeAction → Prop
  | pickService => ¬((state.step = .services ∨ state.step = .fields ∨ state.step = .confirm) ∧
      (pack.serviceCatalog.categories.any fun category =>
        category.key = payload.textAt "service") = true ∧
      pack.serviceCatalog.multiSelect = true)
  | fieldChoice => ¬(state.step = .fields ∧ IntakeCoordinator.AnswersTwice unicode pack state
      (ConfigEdits.limit (payload.textAt "value") 500))
  | confirm => ¬(state.step = .confirm ∧ state.selected ≠ [] ∧
      Acceptable records (IntakeCoordinator.submissionName state draw)
        (IntakeCoordinator.orderCreation identity pack state))
  | _ => True

/-- The callback leaves the same when it is handled again, on the desk that it finds. -/
def DeskCallback.Repeatable (setup : DeskSetup) (identity : MessengerIdentity) (desk : ChatDesk)
    (once twice : DeskDraw) : DeskCallback → Prop
  | config action payload => action.Repeatable setup.config
      (draftBaseline desk.table identity.organizationId) payload once twice
  | intake action payload => ∀ state ∈ desk.intake, ∀ revision pinned,
      IntakeCoordinator.pinnedTo desk.table identity.organizationId state =
        some (revision, pinned) →
      action.Repeatable setup.intake.unicode identity desk.records revision.definition pinned
        payload once

namespace IntakeCoordinator

variable {setup : Setup} {identity : MessengerIdentity} {eventId : String}
  {once twice : DeskDraw} {desk : ChatDesk}

theorem repeats_cancel (payload : Dict String Json) :
    Repeats setup identity eventId once twice .cancel payload desk := rfl

/-- Without a revision the session stays as it is. -/
theorem repeats_unpinned {state : IntakeState} (session : desk.intake = some state)
    (missing : pinnedTo desk.table identity.organizationId state = none) {action : IntakeAction}
    (looks : action ≠ .cancel) (payload : Dict String Json) :
    Repeats setup identity eventId once twice action payload desk := by
  have hsame : ∀ draw, ((handleCallback setup identity action payload).alone
      (ChatDesk.performIntake identity eventId draw) desk).2 = desk := by
    intro draw
    rw [alone_handleCallback session looks, missing]
  unfold Repeats
  rw [hsame]
  dsimp only
  rw [hsame]

theorem repeats_handleCallback_iff (sound : desk.table.Sound) (consistent : Consistent desk.records)
    (action : IntakeAction) (payload : Dict String Json) :
    Repeats setup identity eventId once twice action payload desk ↔
      ∀ state ∈ desk.intake, ∀ revision pinned,
        pinnedTo desk.table identity.organizationId state = some (revision, pinned) →
        action.Repeatable setup.unicode identity desk.records revision.definition pinned payload
          once := by
  by_cases hcancel : action = .cancel
  · subst hcancel
    exact iff_of_true (repeats_cancel payload) fun _ _ _ _ _ => trivial
  cases hsession : desk.intake with
  | none =>
      refine iff_of_true (repeats_none sound hsession hcancel payload) fun state hstate => ?_
      cases hstate
  | some state =>
      cases hfound : pinnedTo desk.table identity.organizationId state with
      | none =>
          refine iff_of_true (repeats_unpinned hsession hfound hcancel payload) ?_
          intro other hother revision pinned hpinned
          cases hother
          rw [hfound] at hpinned
          cases hpinned
      | some found =>
          obtain ⟨revision, pinned⟩ := found
          have hiff : Repeats setup identity eventId once twice action payload desk ↔
              action.Repeatable setup.unicode identity desk.records revision.definition pinned
                payload once := by
            cases action with
            | confirm => exact repeats_confirm_iff sound consistent hsession hfound payload
            | cancel => exact absurd rfl hcancel
            | pickService =>
                exact (repeats_plain_iff sound hsession hfound ⟨by decide, by decide⟩ payload).trans
                  settles_pickService
            | fieldChoice =>
                exact (repeats_plain_iff sound hsession hfound ⟨by decide, by decide⟩ payload).trans
                  settles_fieldChoice
            | servicesDone =>
                exact (repeats_plain_iff sound hsession hfound ⟨by decide, by decide⟩ payload).trans
                  (iff_of_true settles_servicesDone trivial)
            | requestLocation =>
                exact (repeats_plain_iff sound hsession hfound ⟨by decide, by decide⟩ payload).trans
                  (iff_of_true settles_requestLocation trivial)
            | typeAddress =>
                exact (repeats_plain_iff sound hsession hfound ⟨by decide, by decide⟩ payload).trans
                  (iff_of_true settles_typeAddress trivial)
            | continueAfterMap =>
                refine (repeats_plain_iff sound hsession hfound ⟨by decide, by decide⟩ payload).trans
                  (iff_of_true (fun next hnext => ?_) trivial)
                cases hnext
          rw [hiff]
          constructor
          · intro hrepeatable other hother later found hpinned
            cases hother
            rw [hfound] at hpinned
            cases hpinned
            exact hrepeatable
          · exact fun hall => hall state rfl revision pinned hfound

end IntakeCoordinator

/-- A desk with the packs as transactions have left them and the orders as commands have. -/
def ChatDesk.reached (actions : List PackAction) (history : List (Command × Answers))
    (config : Option ConfigState) (intake : Option IntakeState) (identities : Identities) :
    ChatDesk :=
  ⟨reachedTable actions, config, intake, identities, runCommands .empty history⟩

theorem callback_repeats_iff (setup : DeskSetup) (identity : MessengerIdentity) (eventId : String)
    (callback : DeskCallback) (once twice : DeskDraw) (actions : List PackAction)
    (history : List (Command × Answers)) (config : Option ConfigState)
    (intake : Option IntakeState) (identities : Identities) :
    let before := ChatDesk.reached actions history config intake identities
    let first := before.handled setup identity eventId callback once
    let second := first.handled setup identity eventId callback twice
    second.shown identity.organizationId = first.shown identity.organizationId ↔
      callback.Repeatable setup identity before once twice := by
  have hsound : (ChatDesk.reached actions history config intake identities).table.Sound :=
    sound_reachedTable actions
  have hconsistent : Consistent
      (ChatDesk.reached actions history config intake identities).records :=
    consistent_empty.runCommands history
  cases callback with
  | config action payload =>
      exact ConfigCoordinator.repeats_handleCallback_iff hsound action payload
  | intake action payload =>
      exact IntakeCoordinator.repeats_handleCallback_iff hsound hconsistent action payload

/-- The owner of the organization, in the chat of the configurator. -/
def owner : MessengerIdentity :=
  ⟨⟨"org", "owner", .admin⟩, "Owner", .telegram, "1", [.admin]⟩

/-- The draft offers one service or many; the button that switches it is handled twice. -/
theorem switched_back :
    let setup : DeskSetup := ⟨⟨plainUnicode, true⟩, ⟨plainUnicode, none⟩⟩
    let draw : DeskDraw := ⟨"u", by decide, "t", ⟨⟨0⟩, "e"⟩, "A-1", by decide⟩
    let press := ChatDesk.handled setup owner "event:0" (.config .serviceMultiSelect .empty) draw
    let before := ChatDesk.reached openDraft [] none none .empty
    (press (press before)).shown "org" ≠ (press before).shown "org" := by
  decide +kernel

end DispatchCore.Messaging
