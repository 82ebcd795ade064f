import DispatchCore.Domain.Lifecycle
import DispatchCore.Messaging.Refusals

/-! What a success reply promises, and when the order bears it out. -/
namespace DispatchCore.Messaging

open DispatchCore.Library DispatchCore.Domain DispatchCore.Infrastructure
  DispatchCore.Application

/-! ### Orders in the store -/

/-- Nobody is on an order that waits for an executor. -/
def Unheld (order : WorkOrder) : Prop :=
  order.status ∈ [WorkOrderStatus.submitted, .poolOpen] → order.assigneeId = none

theorem unheld_change {order : WorkOrder} (unheld : Unheld order) {call : Call}
    (enabled : call.Enabled order) (ambient : Ambient) :
    Unheld (call.change ambient none order).pullEvents.2 := by
  unfold Call.change
  by_cases hidle : call.Idle order
  · rw [if_pos hidle]
    exact unheld
  · rw [if_neg hidle]
    intro hwaits
    change (call.writes _ order).status ∈ _ at hwaits
    change (call.writes _ order).assigneeId = none
    cases call with
    | claimCoordination | expressInterest | withdrawInterest => exact unheld hwaits
    | publishPool mode actorId => exact unheld (by simp [enabled.1])
    | assign executorId actorId =>
        simp only [Call.writes] at hwaits
        by_cases hmode : order.poolMode = some .curated <;>
          simp [hmode, WorkOrder.resolveCuratedResponses] at hwaits
    | rejectAssignment executorId => rfl
    | claimFirst | accept | startTravel | startWork | complete | cancel =>
        simp [Call.writes, WorkOrder.respond] at hwaits

section stored

variable {holds : WorkOrder → Prop} {records after : Records}

/-- What every order of the store is, when new orders are and enabled calls keep it. -/
def AllOrders (holds : WorkOrder → Prop) (records : Records) : Prop :=
  ∀ key order, records.orders.get? key = some order → holds order

theorem AllOrders.set {key : Key} {order : WorkOrder} (all : AllOrders holds records)
    (new : holds order) (set : after.orders = records.orders.set key order) :
    AllOrders holds after := by
  intro other found hfound
  rw [set, Dict.get?_set] at hfound
  by_cases hsame : other = key
  · rw [if_pos hsame] at hfound
    cases hfound
    exact new
  · rw [if_neg hsame] at hfound
    exact all other found hfound

theorem AllOrders.takes
    (created : ∀ creation orderId order, Created creation orderId order → holds order.pullEvents.2)
    (changed : ∀ order (call : Call) ambient, holds order → call.Enabled order →
      holds (call.change ambient none order).pullEvents.2)
    {fresh : Option (SessionAmbient × Key)} (all : AllOrders holds records)
    (takes : Takes fresh records after) : AllOrders holds after := by
  cases takes with
  | nothing => exact all
  | created made absent => exact all.set (created _ _ _ made) rfl
  | changed ambient stored plain enabled =>
      exact all.set (changed _ _ ambient (all _ _ stored) enabled) rfl
  | travelled ambient brought stored enabled started absent =>
      exact all.set (changed _ _ ambient (all _ _ stored) enabled) rfl
  | located stored follows same => exact all
  | closed ambient stored ends enabled untracked =>
      exact all.set (changed _ _ ambient (all _ _ stored) enabled) rfl
  | closedSession ambient stored ends enabled tracked follows ended =>
      exact all.set (changed _ _ ambient (all _ _ stored) enabled) rfl

theorem unheld_settled {entry : Command × Answers} (consistent : Consistent records)
    (all : AllOrders Unheld records) : AllOrders Unheld (Command.settled entry records) := by
  unfold Command.settled
  cases happly : entry.1.apply entry.2 records with
  | error failure => exact all
  | ok after =>
      exact AllOrders.takes (fun creation orderId order made _ => made.unassigned)
        (fun order call ambient unheld enabled => unheld_change unheld enabled ambient) all
        (apply_takes consistent.valid happly)

end stored

theorem unheld_run (past : List Occurrence) : AllOrders Unheld (Backend.empty.run past).records := by
  suffices h : ∀ backend, Regular backend → AllOrders Unheld backend.records →
      AllOrders Unheld (backend.run past).records from
    h .empty regular_empty fun _ _ hnone => by contradiction
  induction past with
  | nil => exact fun _ _ all => all
  | cons occurrence rest ih =>
      intro backend regular all
      refine ih (backend.step occurrence) (regular.step occurrence) ?_
      cases occurrence with
      | command command answers => exact unheld_settled regular.records all
      | mint | resolve | complete | draft => exact all

/-! ### The reply and the order -/

/-- What the action's success reply tells of the order.  An executor can only have given an order
back who was on it. -/
def Outcome (held : Prop) (identity : ActorIdentity) (payload : Dict String Json)
    (order : WorkOrder) : LifecycleAction → Prop
  | .poolPublish => order.status ∈ .poolOpen :: assignedStatuses
  | .poolInterest => order.responseStatus identity.actorId = some .interested ∨
      order.responseStatus identity.actorId = some .selected
  | .poolClaim => order.assigneeId = some identity.actorId ∧ order.status ∈ assignedStatuses
  | .assign => order.assigneeId = some (payload.textAt "executor_id") ∧
      order.status ∈ assignedStatuses
  | .accept => order.assigneeId = some identity.actorId ∧
      order.status ∈ [WorkOrderStatus.accepted, .enRoute, .inProgress, .completed]
  | .reject => held ∧ order.assigneeId ≠ some identity.actorId
  | .startTravel => order.assigneeId = some identity.actorId ∧
      order.status ∈ [WorkOrderStatus.enRoute, .inProgress, .completed]
  | .startWork => order.assigneeId = some identity.actorId ∧
      order.status ∈ [WorkOrderStatus.inProgress, .completed]
  | .submitReport => order.assigneeId = some identity.actorId ∧ order.status = .completed

/-- The order shows the outcome and is not cancelled. -/
def BornOut (held : Prop) (identity : ActorIdentity) (payload : Dict String Json)
    (action : LifecycleAction) (records : Records) : Prop :=
  ∃ order, records.orders.get? (identity.organizationId, payload.textAt "order_id") = some order ∧
    order.status ≠ .cancelled ∧ Outcome held identity payload order action

/-- Who gives an order back was on it, who reports on it is, and who is away already is away on
it. -/
def Entitled (held away : Prop) (identity : ActorIdentity) (order : WorkOrder) :
    LifecycleAction → Prop
  | .reject => held
  | .startTravel => away → order.assigneeId = some identity.actorId ∧
      order.status ∈ [WorkOrderStatus.enRoute, .inProgress, .completed]
  | .submitReport => order.assigneeId = some identity.actorId
  | _ => True

/-- The order is not cancelled as the button is pressed, by somebody entitled to the reply. -/
def Rightful (held : Prop) (identity : ActorIdentity) (payload : Dict String Json)
    (action : LifecycleAction) (backend : Backend) : Prop :=
  ∃ order, backend.records.orders.get? (identity.organizationId, payload.textAt "order_id") =
      some order ∧
    order.status ≠ .cancelled ∧ Entitled held (underway identity backend) identity order action

section outcome

variable {held away : Prop} {surroundings : Surroundings} {identity : ActorIdentity}
  {payload : Dict String Json} {backend : Backend} {action : LifecycleAction} {order : WorkOrder}

/-- A command that commits bears its reply out. -/
theorem outcome_of_enabled
    (enabled : (action.call surroundings identity payload backend).Enabled order)
    (was : action = .reject → held) (ambient : Ambient) :
    ((action.call surroundings identity payload backend).change ambient none
        order).pullEvents.2.status ≠ .cancelled ∧
      Outcome held identity payload ((action.call surroundings identity payload backend).change
        ambient none order).pullEvents.2 action := by
  cases action with
  | poolInterest =>
      obtain ⟨hstatus, -, -⟩ := enabled
      by_cases hidle : order.responseStatus identity.actorId = some .interested
      · simp [LifecycleAction.call, Call.change, Call.Idle, hidle, WorkOrder.pullEvents, hstatus,
          Outcome]
        exact .inl hidle
      · have hresponse := order.responseStatus_respond identity.actorId identity.actorId
          ((none : Option Instant).getD ambient.clock) .interested
        rw [if_pos rfl] at hresponse
        have hchange : (Call.expressInterest identity.actorId).change ambient none order =
            (order.respond identity.actorId .interested ((none : Option Instant).getD
              ambient.clock)).recorded ambient (Call.expressInterest identity.actorId).eventName
              (Call.expressInterest identity.actorId).payload none := if_neg hidle
        simp only [LifecycleAction.call, hchange]
        refine ⟨?_, .inl hresponse⟩
        change order.status ≠ .cancelled
        rw [hstatus]
        decide
  | assign =>
      by_cases hmode : order.poolMode = some .curated <;>
        simp [LifecycleAction.call, Call.change, Call.Idle, Call.writes, hmode, Outcome,
          WorkOrder.recorded, WorkOrder.pullEvents, WorkOrder.resolveCuratedResponses,
          assignedStatuses]
  | reject =>
      have hheld := was rfl
      by_cases hmode : order.poolMode.isSome = true <;>
        by_cases hresponse : order.poolResponses.contains identity.actorId = true <;>
        simp [LifecycleAction.call, Call.change, Call.Idle, Call.writes, hmode, hresponse, hheld,
          Outcome, WorkOrder.recorded, WorkOrder.pullEvents, WorkOrder.respond]
  | accept =>
      simp [LifecycleAction.call, Call.change, Call.Idle, Call.writes, Outcome, WorkOrder.recorded,
        WorkOrder.pullEvents, enabled.2]
  | startTravel | startWork | submitReport =>
      simp [LifecycleAction.call, Call.change, Call.Idle, Call.writes, Outcome, WorkOrder.recorded,
        WorkOrder.pullEvents, enabled.1]
  | poolPublish | poolClaim =>
      simp [LifecycleAction.call, Call.change, Call.Idle, Call.writes, Outcome, WorkOrder.recorded,
        WorkOrder.pullEvents, WorkOrder.respond, assignedStatuses]

/-- No command is enabled on a cancelled order. -/
theorem live_of_enabled
    (enabled : (action.call surroundings identity payload backend).Enabled order) :
    order.status ≠ .cancelled := by
  cases action with
  | poolPublish | poolInterest | accept | reject | poolClaim =>
      rw [enabled.1]
      decide
  | assign =>
      rcases List.mem_pair.mp enabled.1 with h | h <;> rw [h] <;> decide
  | startTravel =>
      rw [enabled.2]
      decide
  | startWork =>
      rcases List.mem_pair.mp enabled.2 with h | h <;> rw [h] <;> decide
  | submitReport =>
      rw [enabled.2.1]
      decide

theorem assigned_of_unheld (unheld : Unheld order) {executorId : String}
    (assigned : order.assigneeId = some executorId) (live : order.status ≠ .cancelled) :
    order.status ∈ assignedStatuses := by
  unfold Unheld at unheld
  rw [assigned] at unheld
  cases hstatus : order.status <;> simp_all [assignedStatuses]

/-- An order on which the action counts as done before bears the reply out where it is rightful. -/
theorem outcome_of_already (unheld : Unheld order) {already : WorkOrder → Option String}
    (handled : (handler surroundings identity payload backend action).already = some already)
    (answered : already order = some (handler surroundings identity payload backend action).reply)
    (live : order.status ≠ .cancelled) :
    Outcome held identity payload order action ↔ Entitled held away identity order action := by
  cases action with
  | poolPublish =>
      cases handled
      have hstatus : order.status ≠ .submitted := by
        intro hsame
        simp [handler, publishPool, hsame] at answered
      simp only [Outcome, Entitled, iff_true]
      cases hstored : order.status <;> simp_all [assignedStatuses]
  | poolInterest =>
      cases handled
      simp only [handler, poolInterest, ite_eq_left_iff, reduceCtorEq, imp_false, not_not]
        at answered
      simpa [Outcome, Entitled] using answered
  | poolClaim =>
      cases handled
      simp only [handler, poolClaim, ite_eq_left_iff, reduceCtorEq, imp_false, not_not]
        at answered
      simpa [Outcome, Entitled, answered] using assigned_of_unheld unheld answered live
  | assign =>
      cases handled
      simp only [handler, assign, ite_eq_left_iff, reduceCtorEq, imp_false, not_not] at answered
      simpa [Outcome, Entitled, answered] using assigned_of_unheld unheld answered live
  | accept =>
      cases handled
      by_cases hdone : order.assigneeId = some identity.actorId ∧
          order.status ∈ [WorkOrderStatus.accepted, .enRoute, .inProgress, .completed]
      · simpa [Outcome, Entitled] using hdone
      · simp only [handler, accept, if_neg hdone, reduceCtorEq] at answered
  | reject =>
      cases handled
      simp only [handler, reject, ite_eq_left_iff, reduceCtorEq, imp_false, not_not] at answered
      simp [Outcome, Entitled, answered]
  | startTravel => contradiction
  | startWork =>
      cases handled
      by_cases hdone : order.assigneeId = some identity.actorId ∧
          order.status ∈ [WorkOrderStatus.inProgress, .completed]
      · simpa [Outcome, Entitled] using hdone
      · simp only [handler, startWork, if_neg hdone, reduceCtorEq] at answered
  | submitReport =>
      cases handled
      simp only [handler, submitReport, ite_eq_left_iff, reduceCtorEq, imp_false, not_not]
        at answered
      simp [Outcome, Entitled, answered]

end outcome

/-! ### What was answered -/

section reported

variable {surroundings : Surroundings} {identity : ActorIdentity} {event : CallbackEvent}
  {backend : Backend} {token : String} {row : CallbackRow} {action : LifecycleAction}

/-- The texts by which an action reports its success: the handler's own, and of `start_travel` the
one that answers an executor who is away already. -/
def Success (surroundings : Surroundings) (identity : ActorIdentity) (payload : Dict String Json)
    (backend : Backend) (action : LifecycleAction) (reply : String) : Prop :=
  reply = (handler surroundings identity payload backend action).reply ∨
    action = .startTravel ∧ reply = "Выезд уже начат."

/-- An error reply is nobody's success reply. -/
theorem Success.ne_refused {payload : Dict String Json} {text : String}
    (success : Success surroundings identity payload backend action
      s!"Команда не выполнена: {text}") : False := by
  obtain h | ⟨-, h⟩ := success
  · have hhead := congrArg (fun reply => reply.toList.head?) h
    cases action <;>
      simp [handler, publishPool, poolInterest, poolClaim, assign, accept, reject, startTravel,
        startWork, submitReport, toString] at hhead
  · have hhead := congrArg (fun reply => reply.toList.head?) h
    simp [toString] at hhead

theorem Success.ne_empty {payload : Dict String Json} {reply : String}
    (success : Success surroundings identity payload backend action reply) : reply ≠ "" := by
  obtain rfl | ⟨-, rfl⟩ := success
  · cases action <;>
      simp [handler, publishPool, poolInterest, poolClaim, assign, accept, reject, startTravel,
        startWork, submitReport, toString]
  · simp

theorem queued_inj {first second : String} (named : second ≠ "")
    (h : event.queued first = event.queued second) : first = second := by
  unfold CallbackEvent.queued at h
  rw [if_neg named] at h
  by_cases hfirst : first = ""
  · rw [if_pos hfirst] at h
    contradiction
  · rw [if_neg hfirst] at h
    exact congrArg QueuedReply.text (Option.some.inj h)

/-- The press is answered with a success reply of the action. -/
def Reported (surroundings : Surroundings) (identity : ActorIdentity) (event : CallbackEvent)
    (backend : Backend) (row : CallbackRow) (action : LifecycleAction) : Prop :=
  ∃ reply, Success surroundings identity row.payload backend action reply ∧
    (process surroundings identity event backend).queued = event.queued reply

theorem Reported.callback (reported : Reported surroundings identity event backend row action) :
    ∃ reply after, Success surroundings identity row.payload backend action reply ∧
      callback surroundings identity event.press backend = (.ok reply, after) ∧
      (process surroundings identity event backend).backend = after := by
  obtain ⟨reply, success, reported⟩ := reported
  unfold process at reported
  unfold process
  rcases hcallback : Messaging.callback surroundings identity event.press backend with
    ⟨failure | found, after⟩
  · rw [hcallback] at reported
    by_cases hdomain : failure.isDomainError = true
    · simp only [if_pos hdomain] at reported
      rw [← queued_inj success.ne_empty reported] at success
      exact success.ne_refused.elim
    · simp only [if_neg hdomain] at reported
      unfold CallbackEvent.queued at reported
      rw [if_neg success.ne_empty] at reported
      contradiction
  · rw [hcallback] at reported
    rw [queued_inj success.ne_empty reported]
    exact ⟨reply, after, success, rfl, rfl⟩

/-- A success reply follows a command that committed, or an order on which the action counts as
done before, or a look at the executor who is away. -/
inductive Grounds (surroundings : Surroundings) (identity : ActorIdentity) (row : CallbackRow)
    (action : LifecycleAction) (backend : Backend) (records : Records) : Prop
  | committed (still : ¬(action = .startTravel ∧ underway identity backend))
      (h : (handler surroundings identity row.payload backend action).command.apply
        ⟨"", false⟩ backend.records = .ok records)
  | already {order : WorkOrder} {already : WorkOrder → Option String}
      (stored : backend.records.orders.get?
        (identity.organizationId, row.payload.textAt "order_id") = some order)
      (handled : (handler surroundings identity row.payload backend action).already = some already)
      (answered : already order =
        some (handler surroundings identity row.payload backend action).reply)
      (same : records = backend.records)
  | underway (travels : action = .startTravel) (away : underway identity backend)
      (same : records = backend.records)

/-- The one answer that is given without a command. -/
theorem prepared_inl {reply : String}
    (h : prepared surroundings identity row.toCallbackAction backend = .ok (.inl reply)) :
    LifecycleAction.ofName? row.action = some .startTravel ∧ underway identity backend := by
  unfold prepared at h
  cases hname : LifecycleAction.ofName? row.action with
  | none =>
      rw [hname] at h
      obtain ⟨_, -, h⟩ := except_bind_ok.mp h
      contradiction
  | some action =>
      rw [hname] at h
      cases action with
      | poolPublish =>
          obtain ⟨_, -, h⟩ := except_bind_ok.mp h
          obtain ⟨_, -, h⟩ := except_bind_ok.mp h
          cases h
      | startTravel =>
          obtain ⟨_, -, h⟩ := except_bind_ok.mp h
          obtain ⟨_, -, h⟩ := except_bind_ok.mp h
          by_cases hunderway : underway identity backend = true
          · exact ⟨rfl, hunderway⟩
          · rw [if_neg fun both => hunderway both.2] at h
            cases h
      | _ =>
          obtain ⟨_, -, h⟩ := except_bind_ok.mp h
          obtain ⟨_, -, h⟩ := except_bind_ok.mp h
          rw [if_neg fun both => by cases both.1] at h
          cases h

theorem Success.of_already {payload : Dict String Json} {reply : String}
    {already : WorkOrder → Option String}
    (success : Success surroundings identity payload backend action reply)
    (handled : (handler surroundings identity payload backend action).already = some already) :
    reply = (handler surroundings identity payload backend action).reply := by
  obtain h | ⟨rfl, -⟩ := success
  · exact h
  · contradiction

theorem grounds_of_execute (named : LifecycleAction.ofName? row.action = some action)
    {reply : String} {after : Backend}
    (success : Success surroundings identity row.payload backend action reply)
    (h : executeCallback surroundings identity row.toCallbackAction backend = (.ok reply, after)) :
    Grounds surroundings identity row action backend after.records := by
  unfold executeCallback at h
  rcases hprepared : prepared surroundings identity row.toCallbackAction backend with
    failure | found | chosen
  · rw [hprepared] at h
    cases h
  · rw [hprepared] at h
    obtain ⟨htravels, haway⟩ := prepared_inl hprepared
    rw [named] at htravels
    cases h
    exact .underway (Option.some.inj htravels) haway rfl
  · rw [hprepared] at h
    obtain ⟨other, hadmitted, rfl⟩ := prepared_ok.mp hprepared
    have hsame := hadmitted.named
    rw [named] at hsame
    cases hsame
    simp only at h
    cases happly : (handler surroundings identity row.payload backend action).command.apply
        ⟨"", false⟩ backend.records with
    | ok records =>
        simp only [happly, Prod.mk.injEq] at h
        rw [← h.2, records_cleared]
        exact .committed hadmitted.still happly
    | error failure =>
        simp only [happly] at h
        cases hrefused : failure.isInvalidTransition with
        | false => simp [hrefused] at h
        | true =>
            cases halready : (handler surroundings identity row.payload backend action).already with
            | none => simp [hrefused, halready] at h
            | some already =>
                simp only [hrefused, halready] at h
                cases hget : backend.records.getOrder identity.organizationId
                    (row.payload.textAt "order_id") with
                | error missing => simp [hget] at h
                | ok order =>
                    simp only [hget] at h
                    cases hanswer : already order with
                    | none => simp [hanswer] at h
                    | some answer =>
                        simp only [hanswer, Prod.mk.injEq, Except.ok.injEq] at h
                        obtain ⟨rfl, rfl⟩ := h
                        rw [records_cleared]
                        rw [success.of_already halready] at hanswer
                        exact .already (getOrder_ok.mp hget) halready hanswer rfl

theorem Reported.grounds (reported : Reported surroundings identity event backend row action)
    (resolved : ResolvedPress surroundings identity event.press backend token row)
    (sound : SoundTokens backend.callbacks)
    (named : LifecycleAction.ofName? row.action = some action) :
    Grounds surroundings identity row action backend
      (process surroundings identity event backend).backend.records := by
  obtain ⟨reply, after, success, hcallback, hafter⟩ := reported.callback
  rw [resolved.callback sound] at hcallback
  rcases hexecute : executeCallback surroundings identity row.toCallbackAction
    (opened surroundings event.press token row backend) with ⟨failure | found, executed⟩
  · rw [hexecute] at hcallback
    cases hcallback
  · rw [hexecute] at hcallback
    simp only [Prod.mk.injEq, Except.ok.injEq] at hcallback
    obtain ⟨rfl, rfl⟩ := hcallback
    rw [hafter]
    have hhandler : handler surroundings identity row.payload
        (opened surroundings event.press token row backend) action =
          handler surroundings identity row.payload backend action := by
      cases action <;> rfl
    have hopened : Success surroundings identity row.payload
        (opened surroundings event.press token row backend) action found := by
      unfold Success
      rw [hhandler]
      exact success
    cases grounds_of_execute named hopened hexecute with
    | committed still h =>
        rw [hhandler] at h
        exact .committed still h
    | already stored handled answered same =>
        rw [hhandler] at handled answered
        exact .already stored handled answered same
    | underway travels away same => exact .underway travels away same

/-- The executor was on the order at some time of the run. -/
def WasHeld (past : List Occurrence) (identity : ActorIdentity) (orderId : String) : Prop :=
  ∃ earlier, earlier <+: past ∧ ∃ order,
    (Backend.empty.run earlier).records.orders.get? (identity.organizationId, orderId) =
      some order ∧ order.assigneeId = some identity.actorId

/-- In every store that can be reached: where a press is answered with a success reply of its
action, the order named by the button bears the reply out exactly where it was not cancelled
before, the executor who gives it back had been on it, the executor who reports on it is, and the
executor who was away already was away on it. -/
theorem success_replies_true_iff (past : List Occurrence) (surroundings : Surroundings)
    (identity : ActorIdentity) (event : CallbackEvent) {token : String} {row : CallbackRow}
    {action : LifecycleAction}
    (resolved : ResolvedPress surroundings identity event.press (Backend.empty.run past) token row)
    (named : LifecycleAction.ofName? row.action = some action)
    (reported : Reported surroundings identity event (Backend.empty.run past) row action) :
    BornOut (WasHeld past identity (row.payload.textAt "order_id")) identity row.payload action
        (process surroundings identity event (Backend.empty.run past)).backend.records ↔
      Rightful (WasHeld past identity (row.payload.textAt "order_id")) identity row.payload action
        (Backend.empty.run past) := by
  have regular := regular_empty.run past
  cases reported.grounds resolved regular.tokens named with
  | committed hstill happly =>
      obtain ⟨⟨order, ambient, hstored, henabled, horders⟩, -⟩ :=
        apply_call regular.records.valid (handler_call row.payload _ action) happly
      have hwas : action = .reject →
          WasHeld past identity (row.payload.textAt "order_id") := by
        intro hreject
        subst hreject
        exact ⟨past, List.prefix_refl _, order, hstored, henabled.2⟩
      constructor
      · intro _
        refine ⟨order, hstored, live_of_enabled henabled, ?_⟩
        cases action with
        | reject => exact hwas rfl
        | startTravel => exact fun haway => absurd ⟨rfl, haway⟩ hstill
        | submitReport => exact henabled.1
        | _ => trivial
      · intro _
        refine ⟨_, ?_, outcome_of_enabled henabled hwas ambient⟩
        rw [horders]
        exact Dict.get?_set_self _ _ _
  | @already order already hstored hhandled hanswered hsame =>
      unfold BornOut Rightful
      rw [hsame, hstored]
      simp only [Option.some.injEq, exists_eq_left']
      exact and_congr_right fun hlive =>
        outcome_of_already (unheld_run past _ _ hstored) hhandled hanswered hlive
  | underway htravels haway hsame =>
      subst htravels
      unfold BornOut Rightful
      rw [hsame]
      simp only [Outcome, Entitled, haway, forall_const]

end reported

/-- The operator puts Ann on an order that stands in the pool, and it is cancelled. -/
def withdrawnPast : List Occurrence :=
  [.command sampleCreation ⟨"A001", false⟩,
    .command (.change ⟨⟨1⟩, "e2"⟩ "acme" "o1" (.publishPool .firstClaim (some "op")) trivial)
      ⟨"", false⟩,
    .mint ⟨"t1", "acme", "pool_claim", orderPayload "o1", some .master, ⟨604800000000⟩⟩,
    sampleAssignment,
    .command (.cancelOrder ⟨⟨2⟩, "e3"⟩ ⟨⟨2⟩, "e4"⟩ "acme" "o1" "late" none) ⟨"", false⟩]

/-- Ann claims the cancelled order, and is told that it is hers. -/
theorem withdrawn_claim_reported :
    let backend := Backend.empty.run withdrawnPast
    ResolvedPress sampleSurroundings sampleIdentity sampleEvent.press backend "t1"
        (sampleRow "pool_claim") ∧
      LifecycleAction.ofName? (sampleRow "pool_claim").action = some .poolClaim ∧
      Reported sampleSurroundings sampleIdentity sampleEvent backend (sampleRow "pool_claim")
        .poolClaim ∧
      ¬BornOut (WasHeld withdrawnPast sampleIdentity "o1") sampleIdentity
        (sampleRow "pool_claim").payload .poolClaim
        (process sampleSurroundings sampleIdentity sampleEvent backend).backend.records := by
  intro backend
  refine ⟨⟨rfl, rfl, by decide +kernel⟩, rfl, ⟨_, .inl rfl, by decide +kernel⟩, ?_⟩
  rintro ⟨order, hstored, hlive, -⟩
  have hcancelled : ((process sampleSurroundings sampleIdentity sampleEvent
      backend).backend.records.orders.get? ("acme", "o1")).map WorkOrder.status =
      some .cancelled := by decide +kernel
  change (process sampleSurroundings sampleIdentity sampleEvent
    backend).backend.records.orders.get? ("acme", "o1") = some order at hstored
  rw [hstored] at hcancelled
  exact hlive (Option.some.inj hcancelled)

/-- Ann accepts the order she was put on, and is told so. -/
theorem acceptance_reported_truly :
    let backend := Backend.empty.run (samplePast "accept")
    BornOut (WasHeld (samplePast "accept") sampleIdentity "o1") sampleIdentity
      (sampleRow "accept").payload .accept
      (process sampleSurroundings sampleIdentity sampleEvent backend).backend.records := by
  intro backend
  have hlive : (backend.records.orders.get? ("acme", "o1")).map
      (fun order => decide (order.status = .cancelled)) = some false := by decide +kernel
  obtain ⟨order, hstored, hlive⟩ := Option.map_eq_some_iff.mp hlive
  exact (success_replies_true_iff (samplePast "accept") sampleSurroundings sampleIdentity sampleEvent
    ⟨rfl, rfl, by decide +kernel⟩ rfl ⟨_, .inl rfl, by decide +kernel⟩).mpr
      ⟨order, hstored, of_decide_eq_false hlive, trivial⟩

end DispatchCore.Messaging
