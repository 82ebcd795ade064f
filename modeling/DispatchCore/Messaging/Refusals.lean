import DispatchCore.Messaging.Processing
import DispatchCore.Messaging.Reach
import DispatchCore.Application.Refused

/-! What becomes of a press whose command the service refuses. -/
namespace DispatchCore.Messaging

open DispatchCore.Library DispatchCore.Domain DispatchCore.Infrastructure
  DispatchCore.Application

section resolved

variable {surroundings : Surroundings} {identity : ActorIdentity} {press : Press}
  {backend : Backend} {token : String} {row : CallbackRow}

/-- The token is claimed for the press, by its first processing or by an earlier one. -/
structure ResolvedPress (surroundings : Surroundings) (identity : ActorIdentity) (press : Press)
    (backend : Backend) (token : String) (row : CallbackRow) : Prop where
  pressed : press.callbackToken = some token
  stored : backend.callbacks.get? token = some row
  resolvable : row.Resolvable identity.organizationId identity.role press.claimKey
    surroundings.resolvedAt

/-- The backend once the token is claimed. -/
def opened (surroundings : Surroundings) (press : Press) (token : String) (row : CallbackRow)
    (backend : Backend) : Backend :=
  { backend with
    callbacks := backend.callbacks.set token (row.claimed press.claimKey surroundings.resolvedAt) }

/-- The claim of the token is completed. -/
def closed (surroundings : Surroundings) (press : Press) (token : String) (row : CallbackRow)
    (backend : Backend) : Backend :=
  { backend with
    callbacks := backend.callbacks.set token
      ((row.claimed press.claimKey surroundings.resolvedAt).completed surroundings.completedAt) }

theorem ResolvedPress.resolve (resolved : ResolvedPress surroundings identity press backend token row) :
    resolveCallback surroundings identity press token backend =
      (some row.toCallbackAction, (opened surroundings press token row backend).callbacks) :=
  (PostgresCallbackStore.resolve_eq_some token identity.organizationId surroundings.resolvedAt
    backend.callbacks identity.role (claimKey_ne press) "").mpr
      ⟨row, resolved.stored, resolved.resolvable, rfl, rfl⟩

/-- The claim is open after the action, whatever the action did. -/
theorem ResolvedPress.complete (resolved : ResolvedPress surroundings identity press backend token row)
    (sound : SoundTokens backend.callbacks) {after : Backend}
    (kept : after.callbacks = (opened surroundings press token row backend).callbacks) :
    completeCallbackClaim surroundings press row.toCallbackAction after =
      (.ok (), closed surroundings press token row after) := by
  have htoken := sound token row resolved.stored
  have hstored : after.callbacks.get? row.token =
      some (row.claimed press.claimKey surroundings.resolvedAt) := by
    rw [kept, htoken.named]
    exact Dict.get?_set_self _ _ _
  have hopen : row.claimKey.or (some press.claimKey) = some press.claimKey ∧
      row.completedAt = none := by
    rcases resolved.resolvable.2.2.1 with hrevoked | ⟨hclaim, hcompleted⟩
    · obtain ⟨hclaim, hcompleted⟩ := htoken.unclaimed hrevoked
      rw [hclaim]
      exact ⟨rfl, hcompleted⟩
    · rw [hclaim]
      exact ⟨rfl, hcompleted⟩
  have hcomplete : PostgresCallbackStore.complete row.token row.organizationId press.claimKey
      surroundings.completedAt after.callbacks =
        (true, (closed surroundings press token row after).callbacks) := by
    unfold PostgresCallbackStore.complete
    simp only [hstored]
    rw [if_pos ⟨rfl, hopen.1, hopen.2⟩, htoken.named]
    rfl
  unfold completeCallbackClaim
  rw [hcomplete]
  rfl

theorem ResolvedPress.callback (resolved : ResolvedPress surroundings identity press backend token row)
    (sound : SoundTokens backend.callbacks) :
    callback surroundings identity press backend =
      match executeCallback surroundings identity row.toCallbackAction
        (opened surroundings press token row backend) with
      | (.ok reply, after) => (.ok reply, closed surroundings press token row after)
      | (.error failure, after) =>
          (.error failure,
            if failure.isDomainError then closed surroundings press token row after else after) := by
  have hkept := @callbacks_executeCallback surroundings identity row.toCallbackAction
    (opened surroundings press token row backend)
  unfold Messaging.callback
  simp only [resolved.pressed, resolved.resolve]
  change (match executeCallback surroundings identity row.toCallbackAction
    (opened surroundings press token row backend) with
    | (.ok reply, after) => _
    | (.error failure, after) => _) = _
  revert hkept
  rcases executeCallback surroundings identity row.toCallbackAction
    (opened surroundings press token row backend) with ⟨failure | reply, after⟩ <;> intro hkept
  · simp only
    by_cases hdomain : failure.isDomainError = true
    · rw [if_pos hdomain, if_pos hdomain, resolved.complete sound hkept]
      rfl
    · rw [if_neg hdomain, if_neg hdomain]
  · simp only
    rw [resolved.complete sound hkept]
    rfl

end resolved

/-! ### The action of a refused command -/

section refused

variable {surroundings : Surroundings} {identity : ActorIdentity} {button : CallbackAction}
  {backend : Backend} {action : LifecycleAction}

/-- No handler answers with an empty text. -/
theorem already_ne (payload : Dict String Json) {already : WorkOrder → Option String}
    {order : WorkOrder} {reply : String}
    (h : (handler surroundings identity payload backend action).already = some already)
    (answered : already order = some reply) : reply ≠ "" := by
  cases action with
  | poolPublish =>
      cases h
      simp only [ite_eq_iff, reduceCtorEq, and_false, false_or, Option.some.injEq] at answered
      rw [← answered.2]
      simp
  | poolInterest =>
      cases h
      simp only [ite_eq_iff, reduceCtorEq, and_false, or_false, Option.some.injEq] at answered
      rw [← answered.2]
      simp
  | poolClaim =>
      cases h
      simp only [ite_eq_iff, reduceCtorEq, and_false, or_false, Option.some.injEq] at answered
      rw [← answered.2]
      simp
  | assign =>
      cases h
      simp only [ite_eq_iff, reduceCtorEq, and_false, or_false, Option.some.injEq] at answered
      rw [← answered.2]
      simp [toString]
  | accept =>
      cases h
      simp only [ite_eq_iff, reduceCtorEq, and_false, or_false, Option.some.injEq] at answered
      rcases answered.2 with ⟨-, rfl⟩ | ⟨-, rfl⟩ <;> simp
  | reject =>
      cases h
      simp only [ite_eq_iff, reduceCtorEq, and_false, or_false, Option.some.injEq] at answered
      rw [← answered.2]
      simp
  | startTravel => contradiction
  | startWork =>
      cases h
      simp only [ite_eq_iff, reduceCtorEq, and_false, or_false, Option.some.injEq] at answered
      rcases answered.2 with ⟨-, rfl⟩ | ⟨-, rfl⟩ <;> simp
  | submitReport =>
      cases h
      simp only [ite_eq_iff, reduceCtorEq, and_false, or_false, Option.some.injEq] at answered
      rw [← answered.2]
      simp

theorem prepared_of_admitted (admitted : Admitted identity button backend action) :
    prepared surroundings identity button backend =
      .ok (.inr (handler surroundings identity button.payload backend action)) :=
  prepared_ok.mpr ⟨action, admitted, rfl⟩

/-- A failure that is no refusal by the order is passed on. -/
theorem execute_failed (admitted : Admitted identity button backend action) {failure : Failure}
    (refused : (handler surroundings identity button.payload backend action).command.apply
      ⟨"", false⟩ backend.records = .error failure) (other : failure.isDomainError = false) :
    executeCallback surroundings identity button backend = (.error failure, backend) := by
  have hother : failure.isInvalidTransition = false := by
    cases failure <;> simp_all [Failure.isDomainError, Failure.isInvalidTransition]
  unfold executeCallback
  simp only [prepared_of_admitted admitted, refused, hother]

/-- A refusal by the order is passed on, or answered as done before. -/
theorem execute_refused (admitted : Admitted identity button backend action) {failure : Failure}
    (refused : (handler surroundings identity button.payload backend action).command.apply
      ⟨"", false⟩ backend.records = .error failure) {order : WorkOrder}
    (stored : backend.records.orders.get?
      (identity.organizationId, button.payload.textAt "order_id") = some order) :
    (executeCallback surroundings identity button backend).1 = .error failure ∨
      ∃ reply, (executeCallback surroundings identity button backend).1 = .ok reply ∧
        reply ≠ "" := by
  unfold executeCallback
  simp only [prepared_of_admitted admitted, refused, getOrder_some stored]
  cases failure.isInvalidTransition with
  | false => exact .inl rfl
  | true =>
      cases halready : (handler surroundings identity button.payload backend action).already with
      | none => exact .inl rfl
      | some already =>
          simp only
          cases hreply : already order with
          | none => exact .inl rfl
          | some reply => exact .inr ⟨reply, rfl, already_ne _ halready hreply⟩

end refused

/-! ### Answered, or tried again -/

/-- The event has its answer: a reply waits to be sent, the claim of the token is completed, and
the event is not delivered again. -/
structure Answered (token : String) (processing : Processing) : Prop where
  queued : processing.queued.isSome
  completed : ∃ row, processing.backend.callbacks.get? token = some row ∧ row.completedAt.isSome
  processed : processing.mark = .processed

/-- The order's command puts the order on an executor who is on another one. -/
def Crowds (surroundings : Surroundings) (records : Records) (key : Key) (call : Call)
    (order : WorkOrder) : Prop :=
  call.Enabled order ∧ ∃ executor,
    UnitOfWork.occupies (call.change surroundings.ambient none order) = some executor ∧
      ¬FreeBut records key executor

/-- The business reasons for which the service refuses a command: there is no such order, the
order or the report does not allow it, or its executor is on another order. -/
inductive BusinessReason (surroundings : Surroundings) (records : Records) (key : Key) (call : Call)
    (failure : Failure) : Prop
  | unknownOrder (absent : records.orders.get? key = none)
  | refusedByOrder (domain : failure.isDomainError)
  | executorBusy {order : WorkOrder} (stored : records.orders.get? key = some order)
      (crowds : Crowds surroundings records key call order)

/-- A press whose command is refused for a business reason. -/
structure Refused (surroundings : Surroundings) (identity : ActorIdentity) (press : Press)
    (backend : Backend) (token : String) (row : CallbackRow) (action : LifecycleAction)
    (failure : Failure) : Prop where
  resolved : ResolvedPress surroundings identity press backend token row
  admitted : Admitted identity row.toCallbackAction backend action
  refused : (handler surroundings identity row.payload backend action).command.apply ⟨"", false⟩
    backend.records = .error failure
  business : BusinessReason surroundings backend.records
    (identity.organizationId, row.payload.textAt "order_id")
    (action.call surroundings identity row.payload backend) failure

/-- The order is there, and its command would not put it on an executor who is on another. -/
def Answerable (surroundings : Surroundings) (records : Records) (key : Key) (call : Call) : Prop :=
  ∃ order, records.orders.get? key = some order ∧ ¬Crowds surroundings records key call order

section answered

variable {surroundings : Surroundings} {identity : ActorIdentity} {event : CallbackEvent}
  {backend : Backend} {token : String} {row : CallbackRow} {action : LifecycleAction}
  {failure : Failure}

/-- What refuses the command decides whether the order does. -/
theorem Refused.domain_iff
    (refused : Refused surroundings identity event.press backend token row action failure) :
    failure.isDomainError = true ↔ Answerable surroundings backend.records
      (identity.organizationId, row.payload.textAt "order_id")
      (action.call surroundings identity row.payload backend) := by
  have hcall := @handler_call surroundings identity row.payload backend action
  constructor
  · intro hdomain
    cases hstored : backend.records.orders.get?
        (identity.organizationId, row.payload.textAt "order_id") with
    | none =>
        obtain ⟨message, hmissing⟩ := @apply_absent _ ⟨"", false⟩ _ _ _ hcall hstored
        rw [refused.refused] at hmissing
        cases hmissing
        contradiction
    | some order =>
        refine ⟨order, hstored, fun hcrowds => ?_⟩
        rw [apply_enabled_error hcall hstored hcrowds.1 refused.refused] at hdomain
        contradiction
  · rintro ⟨order, hstored, hfits⟩
    cases refused.business with
    | unknownOrder absent =>
        rw [hstored] at absent
        contradiction
    | refusedByOrder domain => exact domain
    | executorBusy found crowds =>
        rw [hstored] at found
        cases found
        exact absurd crowds hfits

theorem Refused.opened
    (refused : Refused surroundings identity event.press backend token row action failure) :
    Admitted identity row.toCallbackAction
      (opened surroundings event.press token row backend) action :=
  refused.admitted.of_records rfl

theorem Refused.answered_iff
    (refused : Refused surroundings identity event.press backend token row action failure)
    (sound : SoundTokens backend.callbacks) :
    Answered token (process surroundings identity event backend) ↔
      failure.isDomainError = true := by
  have hcallback := refused.resolved.callback sound
  have hrefused : (handler surroundings identity row.payload
      (Messaging.opened surroundings event.press token row backend) action).command.apply
      ⟨"", false⟩ backend.records = .error failure := by
    rw [← refused.refused]
    cases action <;> rfl
  constructor
  · intro hanswered
    by_contra hother
    have hfailed := execute_failed refused.opened hrefused
      (Bool.eq_false_iff.mpr hother)
    have hmark := hanswered.processed
    unfold process at hmark
    rw [hcallback, hfailed] at hmark
    simp only [if_neg hother] at hmark
    contradiction
  · intro hdomain
    obtain ⟨order, hstored, -⟩ := refused.domain_iff.mp hdomain
    unfold process
    rw [hcallback]
    have hexecuted := execute_refused refused.opened hrefused hstored
    revert hexecuted
    rcases executeCallback surroundings identity row.toCallbackAction
      (Messaging.opened surroundings event.press token row backend) with ⟨found | reply, after⟩
    · rintro (hfound | ⟨reply, hreply, -⟩)
      · cases hfound
        simp only [if_pos hdomain]
        refine ⟨?_, ⟨_, Dict.get?_set_self _ _ _, rfl⟩, rfl⟩
        simp [CallbackEvent.queued, toString]
      · contradiction
    · rintro (hfound | ⟨found, hreply, hne⟩)
      · contradiction
      · cases hreply
        refine ⟨?_, ⟨_, Dict.get?_set_self _ _ _, rfl⟩, rfl⟩
        simp [CallbackEvent.queued, hne]

end answered

def sampleEvent : CallbackEvent := ⟨samplePress, "acme", "master", 0, "501", "501"⟩

/-- Ann is on one order, and another stands in the pool for the first who claims it. -/
def crowdedPast : List Occurrence :=
  [.command sampleCreation ⟨"A001", false⟩,
    .command (.createOrder ⟨⟨0⟩, "e0"⟩ "f" (some "o2")
      ⟨"acme", "repair", "web", .empty, none, none⟩) ⟨"A002", false⟩,
    .command (.change ⟨⟨1⟩, "e1"⟩ "acme" "o2" (.assign "ann" (some "op")) trivial) ⟨"", false⟩,
    .command (.change ⟨⟨1⟩, "e2"⟩ "acme" "o1" (.publishPool .firstClaim (some "op")) trivial)
      ⟨"", false⟩,
    .mint ⟨"t1", "acme", "pool_claim", orderPayload "o1", some .master, ⟨604800000000⟩⟩]

/-- Ann's order was cancelled before she accepts it. -/
def cancelledPast : List Occurrence :=
  samplePast "accept" ++
    [.command (.cancelOrder ⟨⟨2⟩, "e2"⟩ ⟨⟨2⟩, "e3"⟩ "acme" "o1" "late" none) ⟨"", false⟩]

def failureOf {α : Type} : Except Failure α → Option Failure
  | .ok _ => none
  | .error failure => some failure

theorem error_of_failureOf {α : Type} {result : Except Failure α} {failure : Failure}
    (h : failureOf result = some failure) : result = .error failure := by
  cases result with
  | ok value => contradiction
  | error found =>
      cases h
      rfl

/-- The row of the button before it is pressed. -/
def sampleRow (action : String) : CallbackRow :=
  CallbackAction.row
    ⟨"t1", "acme", action, orderPayload "o1", some .master, ⟨604800000000⟩⟩

end DispatchCore.Messaging
