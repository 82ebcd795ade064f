import DispatchCore.Domain.Lifecycle
import DispatchCore.Messaging.Plans
import DispatchCore.Messaging.Processor

/-! A press whose first processing dies after its command has committed, and the
press delivered again.  For six of the nine actions the order has moved on for good;
an interest, an assignment and a rejection can be wanted again. -/
namespace DispatchCore.Messaging

open DispatchCore.Library DispatchCore.Domain DispatchCore.Infrastructure
  DispatchCore.Application

/-! ### Orders move on -/

/-- How far along an order is; no call takes it back. -/
def progress : WorkOrderStatus → Nat
  | .accepted => 1
  | .enRoute => 2
  | .inProgress => 3
  | .completed => 4
  | .cancelled => 4
  | _ => 0

/-- Who makes a call. -/
def callerOf : Call → Option String
  | .claimCoordination coordinatorId => some coordinatorId
  | .publishPool _ actorId => actorId
  | .expressInterest executorId => some executorId
  | .withdrawInterest executorId => some executorId
  | .claimFirst executorId => some executorId
  | .assign _ actorId => actorId
  | .accept executorId => some executorId
  | .rejectAssignment executorId => some executorId
  | .startTravel executorId => some executorId
  | .startWork executorId => some executorId
  | .complete executorId _ => some executorId
  | .cancel _ actorId => actorId

section change

variable {call : Call} {order : WorkOrder} (ambient : Ambient)

theorem progress_change (enabled : call.Enabled order) :
    progress order.status ≤ progress (call.change ambient none order).status := by
  unfold Call.change
  split
  · exact le_rfl
  · rw [WorkOrder.recorded_status]
    cases call with
    | claimCoordination coordinatorId => exact le_rfl
    | publishPool mode actorId => simp [enabled.1, progress]
    | expressInterest executorId => exact le_rfl
    | withdrawInterest executorId => exact le_rfl
    | claimFirst executorId => simp [enabled.1, progress]
    | assign executorId actorId =>
        rcases List.mem_pair.mp enabled.1 with h | h <;> simp [h, progress]
    | accept executorId => simp [enabled.1, progress]
    | rejectAssignment executorId => simp [enabled.1, progress]
    | startTravel executorId => simp [enabled.2, Call.writes, progress]
    | startWork executorId =>
        rcases List.mem_pair.mp enabled.2 with h | h <;> simp [h, Call.writes, progress]
    | complete executorId report => simp [enabled.2.1, Call.writes, progress]
    | cancel reason actorId => cases order.status <;> simp [Call.writes, progress]

/-- A pool once opened stays, and the order is never a bare submission again. -/
theorem published_change (pooled : order.poolMode.isSome) (moved : order.status ≠ .submitted) :
    (call.change ambient none order).poolMode.isSome ∧
      (call.change ambient none order).status ≠ .submitted := by
  unfold Call.change
  split
  · exact ⟨pooled, moved⟩
  · rw [WorkOrder.recorded_poolMode, WorkOrder.recorded_status]
    cases call with
    | assign executorId actorId =>
        simp only [Call.writes]
        split <;> exact ⟨pooled, by simp [WorkOrder.resolveCuratedResponses]⟩
    | rejectAssignment executorId =>
        have hmode : (Call.writes (none.getD ambient.clock) order
            (.rejectAssignment executorId)).poolMode = order.poolMode := by
          simp only [Call.writes]
          split <;> rfl
        refine ⟨hmode ▸ pooled, ?_⟩
        simp only [Call.writes]
        split <;> simp [WorkOrder.respond, pooled]
    | claimCoordination coordinatorId => exact ⟨pooled, moved⟩
    | expressInterest executorId => exact ⟨pooled, moved⟩
    | withdrawInterest executorId => exact ⟨pooled, moved⟩
    | _ => simp [Call.writes, WorkOrder.respond, pooled]

/-- An executor's claim stays until the executor gives it up. -/
theorem claimed_change (enabled : call.Enabled order) {executorId : String}
    (other : callerOf call ≠ some executorId)
    (held : order.assigneeId = some executorId)
    (moved : order.status ∉ [WorkOrderStatus.submitted, .poolOpen]) :
    (call.change ambient none order).assigneeId = some executorId ∧
      (call.change ambient none order).status ∉ [WorkOrderStatus.submitted, .poolOpen] := by
  unfold Call.change
  split
  · exact ⟨held, moved⟩
  · rw [WorkOrder.recorded_assigneeId, WorkOrder.recorded_status]
    cases call with
    | publishPool mode actorId => simp [enabled.1] at moved
    | claimFirst claimant => simp [enabled.1] at moved
    | assign chosen actorId => exact absurd enabled.1 moved
    | rejectAssignment rejecter =>
        have hsame := enabled.2
        rw [held] at hsame
        exact absurd hsame.symm other
    | claimCoordination coordinatorId => exact ⟨held, moved⟩
    | expressInterest interested => exact ⟨held, moved⟩
    | withdrawInterest interested => exact ⟨held, moved⟩
    | _ => exact ⟨held, by simp [Call.writes]⟩

end change

/-- What an order shows once the action's command has committed, whatever other
actors do. -/
def Lasting (presser : String) (action : LifecycleAction) (order : WorkOrder) : Prop :=
  match action with
  | .poolPublish => order.poolMode.isSome ∧ order.status ≠ .submitted
  | .poolClaim => order.assigneeId = some presser ∧
      order.status ∉ [WorkOrderStatus.submitted, .poolOpen]
  | .accept => 1 ≤ progress order.status
  | .startTravel => 2 ≤ progress order.status
  | .startWork => 3 ≤ progress order.status
  | .submitReport => 4 ≤ progress order.status
  | _ => True

theorem Lasting.change {presser : String} {action : LifecycleAction} {order : WorkOrder}
    (lasting : Lasting presser action order) {call : Call} (enabled : call.Enabled order)
    (other : callerOf call ≠ some presser) (ambient : Ambient) :
    Lasting presser action (call.change ambient none order).pullEvents.2 := by
  have hprogress : progress order.status ≤
      progress (call.change ambient none order).pullEvents.2.status :=
    progress_change ambient enabled
  cases action with
  | poolPublish => exact published_change ambient lasting.1 lasting.2
  | poolClaim => exact claimed_change ambient enabled other lasting.1 lasting.2
  | accept => exact le_trans lasting hprogress
  | startTravel => exact le_trans lasting hprogress
  | startWork => exact le_trans lasting hprogress
  | submitReport => exact le_trans lasting hprogress
  | _ => trivial

/-! ### Claims wait -/

def callerOfCommand : Command → Option String
  | .createOrder _ _ _ creation => creation.requesterId
  | .createOrderOnce _ _ creation => creation.requesterId
  | .change _ _ _ call _ => callerOf call
  | .startTravel _ _ _ _ _ executorId _ => some executorId
  | .recordLocation _ report => some report.executorId
  | .completeOrder _ _ _ _ executorId _ => some executorId
  | .cancelOrder _ _ _ _ _ actorId => actorId

theorem callerOf_call {command : Command} {key : Key} {call : Call}
    (asked : command.call? = some (key, call)) : callerOf call = callerOfCommand command := by
  cases command <;> simp only [Command.call?, Option.some.injEq, Prod.mk.injEq, reduceCtorEq]
    at asked <;> rw [← asked.2] <;> rfl

/-- What others do: no command of the presser, and the claim is left alone. -/
def Foreign (presser claimKey : String) : Occurrence → Prop
  | .command command _ => callerOfCommand command ≠ some presser
  | .complete _ _ other _ => other ≠ claimKey
  | _ => True

instance (presser claimKey : String) (occurrence : Occurrence) :
    Decidable (Foreign presser claimKey occurrence) := by
  cases occurrence <;> unfold Foreign <;> infer_instance

/-- A stored token goes by its name, and is claimed before it is completed. -/
structure SoundToken (token : String) (row : CallbackRow) : Prop where
  named : row.token = token
  unclaimed : row.revokedAt = none → row.claimKey = none ∧ row.completedAt = none

/-- The token is claimed for an event whose processing has not completed. -/
structure Waiting (button : CallbackAction) (claimKey : String) (row : CallbackRow) : Prop where
  action : row.toCallbackAction = button
  revoked : row.revokedAt.isSome
  claim : row.claimKey = some claimKey
  incomplete : row.completedAt = none

def SoundTokens (rows : CallbackRows) : Prop :=
  ∀ name row, rows.get? name = some row → SoundToken name row

section rows

variable {rows : CallbackRows} {token organizationId claimKey fresh : String} {role : Role}
  {key : Option String} {now : Instant}

theorem SoundTokens.set {row : CallbackRow} (sound : SoundTokens rows)
    (new : SoundToken token row) : SoundTokens (rows.set token row) := by
  intro name found hfound
  rw [Dict.get?_set] at hfound
  split at hfound
  · rename_i heq
    cases hfound
    exact heq ▸ new
  · exact sound name found hfound

theorem SoundTokens.create (sound : SoundTokens rows) (button : CallbackAction) :
    SoundTokens (PostgresCallbackStore.create button rows) := by
  rcases PostgresCallbackStore.create_effect rows button with h | ⟨-, h⟩
  · rwa [h]
  · rw [h]
    exact sound.set ⟨rfl, fun _ => ⟨rfl, rfl⟩⟩

theorem SoundTokens.resolve (sound : SoundTokens rows) :
    SoundTokens
      (PostgresCallbackStore.resolve token organizationId role key fresh now rows).2 := by
  rcases PostgresCallbackStore.resolve_effect token organizationId now rows role key fresh with
    h | ⟨row, stable, hrow, h⟩
  · rwa [h]
  · rw [h]
    exact sound.set ⟨(sound token row hrow).named, by simp [CallbackRow.claimed]⟩

theorem SoundTokens.complete (sound : SoundTokens rows) :
    SoundTokens (PostgresCallbackStore.complete token organizationId claimKey now rows).2 := by
  rcases PostgresCallbackStore.complete_effect token organizationId now rows claimKey with
    h | ⟨row, hrow, hclaim, h⟩
  · rwa [h]
  · rw [h]
    refine sound.set ⟨(sound token row hrow).named, fun hrevoked => ?_⟩
    have hnone := ((sound token row hrow).unclaimed hrevoked).1
    rw [hnone] at hclaim
    contradiction

/-- The row of the token waits for the event. -/
def Awaits (rows : CallbackRows) (button : CallbackAction) (claimKey : String) : Prop :=
  ∃ row, rows.get? button.token = some row ∧ Waiting button claimKey row

/-- A row is replaced: by one that waits too, if it is the token's. -/
theorem Awaits.set {button : CallbackAction} {name : String} {row next : CallbackRow}
    (awaits : Awaits rows button claimKey) (stored : rows.get? name = some row)
    (keeps : Waiting button claimKey row → Waiting button claimKey next) :
    Awaits (rows.set name next) button claimKey := by
  obtain ⟨found, hfound, waiting⟩ := awaits
  by_cases heq : button.token = name
  · subst heq
    rw [stored] at hfound
    cases hfound
    exact ⟨next, Dict.get?_set_self _ _ _, keeps waiting⟩
  · exact ⟨found, (Dict.get?_set_of_ne _ _ heq).trans hfound, waiting⟩

theorem Waiting.claimed {button : CallbackAction} {row : CallbackRow}
    (waiting : Waiting button claimKey row) (stable : String) :
    Waiting button claimKey (row.claimed stable now) := by
  obtain ⟨haction, hrevoked, hclaim, hincomplete⟩ := waiting
  refine ⟨haction, ?_, ?_, hincomplete⟩
  · simp [CallbackRow.claimed]
  · simp [CallbackRow.claimed, hclaim]

theorem Awaits.create {button : CallbackAction} (awaits : Awaits rows button claimKey)
    (minted : CallbackAction) :
    Awaits (PostgresCallbackStore.create minted rows) button claimKey := by
  rcases PostgresCallbackStore.create_effect rows minted with h | ⟨hnone, h⟩
  · rwa [h]
  · obtain ⟨row, hrow, waiting⟩ := awaits
    have hne : button.token ≠ minted.token := by
      intro heq
      rw [heq, hnone] at hrow
      contradiction
    rw [h]
    exact ⟨row, (Dict.get?_set_of_ne _ _ hne).trans hrow, waiting⟩

theorem Awaits.resolve {button : CallbackAction} (awaits : Awaits rows button claimKey) :
    Awaits (PostgresCallbackStore.resolve token organizationId role key fresh now rows).2
      button claimKey := by
  rcases PostgresCallbackStore.resolve_effect token organizationId now rows role key fresh with
    h | ⟨row, stable, hrow, h⟩
  · rwa [h]
  · rw [h]
    exact awaits.set hrow fun waiting => waiting.claimed stable

theorem Awaits.complete {button : CallbackAction} (awaits : Awaits rows button claimKey)
    {other : String} (foreign : other ≠ claimKey) :
    Awaits (PostgresCallbackStore.complete token organizationId other now rows).2
      button claimKey := by
  rcases PostgresCallbackStore.complete_effect token organizationId now rows other with
    h | ⟨row, hrow, hclaim, h⟩
  · rwa [h]
  · rw [h]
    refine awaits.set hrow fun waiting => ?_
    rw [waiting.claim] at hclaim
    exact absurd (Option.some.inj hclaim).symm foreign

end rows

/-- What holds of the backend at every time. -/
structure Regular (backend : Backend) : Prop where
  records : Consistent backend.records
  tokens : SoundTokens backend.callbacks

theorem regular_empty : Regular .empty :=
  ⟨consistent_empty, fun _ _ h => nomatch h⟩

theorem Regular.step {backend : Backend} (regular : Regular backend) (occurrence : Occurrence) :
    Regular (backend.step occurrence) := by
  obtain ⟨hrecords, htokens⟩ := regular
  cases occurrence with
  | command command answers => exact ⟨hrecords.settled (command, answers), htokens⟩
  | mint action => exact ⟨hrecords, htokens.create action⟩
  | resolve token organizationId role key fresh now => exact ⟨hrecords, htokens.resolve⟩
  | complete token organizationId key now => exact ⟨hrecords, htokens.complete⟩
  | draft drafts => exact ⟨hrecords, htokens⟩

theorem Regular.run {backend : Backend} (regular : Regular backend)
    (occurrences : List Occurrence) : Regular (backend.run occurrences) := by
  induction occurrences generalizing backend with
  | nil => exact regular
  | cons occurrence rest ih => exact ih (regular.step occurrence)

/-! ### What a press commits -/

/-- The call an action makes on the order of the callback. -/
def LifecycleAction.call (action : LifecycleAction) (surroundings : Surroundings)
    (identity : ActorIdentity) (payload : Dict String Json) (backend : Backend) : Call :=
  match action with
  | .poolPublish =>
      .publishPool (surroundings.activePoolMode.getD .curated) (some identity.actorId)
  | .poolInterest => .expressInterest identity.actorId
  | .poolClaim => .claimFirst identity.actorId
  | .assign => .assign (payload.textAt "executor_id") (some identity.actorId)
  | .accept => .accept identity.actorId
  | .reject => .rejectAssignment identity.actorId
  | .startTravel => .startTravel identity.actorId
  | .startWork => .startWork identity.actorId
  | .submitReport => .complete identity.actorId
      (reportDraft backend identity.organizationId (payload.textAt "order_id") identity.actorId)

section commit

variable {surroundings : Surroundings} {identity : ActorIdentity}

theorem handler_call (payload : Dict String Json) (backend : Backend)
    (action : LifecycleAction) :
    (handler surroundings identity payload backend action).command.call? =
      some ((identity.organizationId, payload.textAt "order_id"),
        action.call surroundings identity payload backend) := by
  cases action <;> rfl

theorem requireRole_ok {roles : List Role} :
    requireRole identity roles = .ok () ↔ identity.role ∈ roles := by
  unfold requireRole
  split <;> simp [*]

theorem requireOrder_ok {orderId : String} : requireOrder orderId = .ok () ↔ orderId ≠ "" := by
  unfold requireOrder
  split <;> simp [*]

/-- The checks a callback has to pass before its command is run. -/
structure Admitted (identity : ActorIdentity) (button : CallbackAction) (backend : Backend)
    (action : LifecycleAction) : Prop where
  named : LifecycleAction.ofName? button.action = some action
  ordered : button.payload.textAt "order_id" ≠ ""
  role : identity.role ∈ action.roles
  still : ¬(action = .startTravel ∧ underway identity backend)

theorem prepared_ok {button : CallbackAction} {backend : Backend} {found : Handler} :
    prepared surroundings identity button backend = .ok (.inr found) ↔
      ∃ action, Admitted identity button backend action ∧
        handler surroundings identity button.payload backend action = found := by
  have hadmitted : ∀ action, LifecycleAction.ofName? button.action = some action →
      ((∃ other, Admitted identity button backend other ∧
        handler surroundings identity button.payload backend other = found) ↔
      button.payload.textAt "order_id" ≠ "" ∧ identity.role ∈ action.roles ∧
        ¬(action = .startTravel ∧ underway identity backend) ∧
        handler surroundings identity button.payload backend action = found) := by
    intro action hname
    constructor
    · rintro ⟨other, ⟨hother, hordered, hrole, hstill⟩, hfound⟩
      rw [hname] at hother
      cases hother
      exact ⟨hordered, hrole, hstill, hfound⟩
    · rintro ⟨hordered, hrole, hstill, hfound⟩
      exact ⟨action, ⟨hname, hordered, hrole, hstill⟩, hfound⟩
  unfold prepared
  cases hname : LifecycleAction.ofName? button.action with
  | none =>
      simp only [except_bind_ok]
      constructor
      · rintro ⟨_, -, h⟩
        contradiction
      · rintro ⟨action, hadmits, -⟩
        rw [hadmits.named] at hname
        contradiction
  | some action =>
      rw [hadmitted action hname]
      cases action with
      | poolPublish =>
          simp only [except_bind_ok]
          constructor
          · rintro ⟨_, hrole, _, hordered, h⟩
            cases h
            exact ⟨requireOrder_ok.mp hordered, requireRole_ok.mp hrole, by simp, rfl⟩
          · rintro ⟨hordered, hrole, -, rfl⟩
            exact ⟨(), requireRole_ok.mpr hrole, (), requireOrder_ok.mpr hordered, rfl⟩
      | _ =>
          simp only [except_bind_ok]
          constructor
          · rintro ⟨_, hordered, _, hrole, h⟩
            split at h
            · cases h
            · rename_i hstill
              cases h
              exact ⟨requireOrder_ok.mp hordered, requireRole_ok.mp hrole, hstill, rfl⟩
          · rintro ⟨hordered, hrole, hstill, rfl⟩
            refine ⟨(), requireOrder_ok.mpr hordered, (), requireRole_ok.mpr hrole, ?_⟩
            rw [if_neg hstill]
            rfl

theorem claimKey_ne (press : Press) : press.claimKey ≠ "" := by
  unfold Press.claimKey
  cases press.provider <;> simp [Provider.value]

/-- A press that commits its command: the token, what is stored of it, and the records
it leaves. -/
structure Committing (surroundings : Surroundings) (identity : ActorIdentity) (press : Press)
    (backend : Backend) (token : String) (row : CallbackRow) (action : LifecycleAction)
    (records : Records) : Prop where
  pressed : press.callbackToken = some token
  stored : backend.callbacks.get? token = some row
  resolvable : row.Resolvable identity.organizationId identity.role press.claimKey
    surroundings.resolvedAt
  admitted : Admitted identity row.toCallbackAction backend action
  applied : (handler surroundings identity row.payload backend action).command.apply ⟨"", false⟩
    backend.records = .ok records

theorem Admitted.of_records {button : CallbackAction} {backend other : Backend}
    {action : LifecycleAction} (admitted : Admitted identity button backend action)
    (h : other.records = backend.records) : Admitted identity button other action := by
  obtain ⟨hnamed, hordered, hrole, hstill⟩ := admitted
  refine ⟨hnamed, hordered, hrole, ?_⟩
  unfold underway at hstill ⊢
  rwa [h]

theorem crashedAfterCommit_ok {press : Press} {backend after : Backend}
    {button : CallbackAction} :
    crashedAfterCommit surroundings identity press backend = some (button, after) ↔
      ∃ token row action records,
        Committing surroundings identity press backend token row action records ∧
        row.toCallbackAction = button ∧
        { backend with
          callbacks := backend.callbacks.set token
            (row.claimed press.claimKey surroundings.resolvedAt)
          records } = after := by
  have hresolve (token : String) := @PostgresCallbackStore.resolve_eq_some token
    identity.organizationId surroundings.resolvedAt backend.callbacks identity.role
    press.claimKey (claimKey_ne press) ""
  unfold crashedAfterCommit
  constructor
  · intro h
    split at h
    · contradiction
    · rename_i token htoken
      split at h
      · contradiction
      · rename_i found callbacks hfound
        obtain ⟨row, hrow, hresolvable, rfl, rfl⟩ := (hresolve token).mp hfound
        split at h
        · rename_i chosen hprepared
          obtain ⟨action, hadmitted, rfl⟩ := prepared_ok.mp hprepared
          split at h
          · rename_i records happly
            cases h
            exact ⟨token, row, action, records,
              ⟨htoken, hrow, hresolvable, hadmitted.of_records rfl, happly⟩, rfl, rfl⟩
          · contradiction
        · contradiction
  · rintro ⟨token, row, action, records, ⟨htoken, hrow, hresolvable, hadmitted, happly⟩, rfl,
      rfl⟩
    have hfound : resolveCallback surroundings identity press token backend =
        (some row.toCallbackAction, backend.callbacks.set token
          (row.claimed press.claimKey surroundings.resolvedAt)) :=
      (hresolve token).mpr ⟨row, hrow, hresolvable, rfl, rfl⟩
    have hprepared : prepared surroundings identity row.toCallbackAction
        { backend with
          callbacks := backend.callbacks.set token
            (row.claimed press.claimKey surroundings.resolvedAt) } =
        .ok (.inr (handler surroundings identity row.payload backend action)) :=
      prepared_ok.mpr ⟨action, hadmitted.of_records rfl, by cases action <;> rfl⟩
    simp only [htoken, hfound, hprepared, happly]

theorem records_cleared (backend : Backend) (button : CallbackAction) (clears : Bool) :
    (backend.cleared identity button clears).records = backend.records := by
  unfold Backend.cleared
  split <;> rfl

theorem records_executeCallback (button : CallbackAction) (backend : Backend) :
    (executeCallback surroundings identity button backend).2.records =
      match prepared surroundings identity button backend with
      | .ok (.inr chosen) =>
          match chosen.command.apply ⟨"", false⟩ backend.records with
          | .ok records => records
          | .error _ => backend.records
      | _ => backend.records := by
  unfold executeCallback
  rcases prepared surroundings identity button backend with failure | reply | chosen
  · rfl
  · rfl
  · simp only
    cases chosen.command.apply ⟨"", false⟩ backend.records with
    | ok records => exact records_cleared _ _ _
    | error failure =>
        simp only
        split
        · split
          · rfl
          · split
            · rfl
            · exact records_cleared _ _ _
        · rfl

theorem records_completeCallbackClaim (press : Press) (button : CallbackAction)
    (backend : Backend) :
    (completeCallbackClaim surroundings press button backend).2.records = backend.records := by
  unfold completeCallbackClaim
  simp only
  split <;> rfl

/-- The records after a press are those its command left, if it committed one. -/
theorem records_callback (press : Press) (backend : Backend) :
    (callback surroundings identity press backend).2.records =
      match crashedAfterCommit surroundings identity press backend with
      | some (_, after) => after.records
      | none => backend.records := by
  unfold callback crashedAfterCommit
  cases press.callbackToken with
  | none => rfl
  | some token =>
      simp only
      rcases resolveCallback surroundings identity press token backend with ⟨_ | button, callbacks⟩
      · rfl
      · simp only
        trans (executeCallback surroundings identity button
          { backend with callbacks }).2.records
        · rcases executeCallback surroundings identity button { backend with callbacks } with
            ⟨failure | reply, after⟩
          · simp only
            split
            · exact records_completeCallbackClaim _ _ _
            · rfl
          · exact records_completeCallbackClaim _ _ _
        · rw [records_executeCallback]
          rcases prepared surroundings identity button { backend with callbacks } with
            failure | reply | chosen
          · rfl
          · rfl
          · simp only
            cases chosen.command.apply ⟨"", false⟩ backend.records <;> rfl

end commit

/-! ### Delivered again -/

/-- The button still works for the presser. -/
structure Usable (button : CallbackAction) (identity : ActorIdentity) (now : Instant) :
    Prop where
  within : button.organizationId = identity.organizationId
  unexpired : now < button.expiresAt
  shown : button.allowedRole = none ∨ button.allowedRole = some identity.role ∨
    identity.role = .admin
  role : ∀ action, LifecycleAction.ofName? button.action = some action →
    identity.role ∈ action.roles

/-- The order of the button has come back to where the action finds something to do. -/
def Repeatable (button : CallbackAction) (identity : ActorIdentity) (records : Records) : Prop :=
  let key : Key := (identity.organizationId, button.payload.textAt "order_id")
  ∃ order, records.orders.get? key = some order ∧
    match LifecycleAction.ofName? button.action with
    | some .poolInterest =>
        order.status = .poolOpen ∧ order.poolMode = some .curated ∧ identity.actorId ≠ "" ∧
          order.responseStatus identity.actorId ≠ some .interested
    | some .assign =>
        order.status ∈ [WorkOrderStatus.submitted, .poolOpen] ∧
          Call.MayAct order (some identity.actorId) ∧ button.payload.textAt "executor_id" ≠ "" ∧
          FreeBut records key
            (identity.organizationId, button.payload.textAt "executor_id")
    | some .reject => order.status = .assigned ∧ order.assigneeId = some identity.actorId
    | _ => False

/-- The press whose command committed, and the backend since. -/
structure Pending (button : CallbackAction) (claimKey presser : String)
    (action : LifecycleAction) (backend : Backend) : Prop where
  regular : Regular backend
  awaits : Awaits backend.callbacks button claimKey
  named : LifecycleAction.ofName? button.action = some action
  ordered : button.payload.textAt "order_id" ≠ ""
  lasting : ∃ order, backend.records.orders.get?
      (button.organizationId, button.payload.textAt "order_id") = some order ∧
    Lasting presser action order

theorem lasting_of_enabled {surroundings : Surroundings} {identity : ActorIdentity}
    {payload : Dict String Json} {backend : Backend} {action : LifecycleAction}
    {order : WorkOrder} (enabled :
      (action.call surroundings identity payload backend).Enabled order) (ambient : Ambient) :
    Lasting identity.actorId action
      ((action.call surroundings identity payload backend).change ambient none
        order).pullEvents.2 := by
  cases action <;>
    simp [Lasting, LifecycleAction.call, Call.change, Call.Idle, Call.writes, progress,
      WorkOrder.recorded, WorkOrder.pullEvents, WorkOrder.respond]

theorem not_enabled_of_lasting {surroundings : Surroundings} {identity : ActorIdentity}
    {payload : Dict String Json} {backend : Backend} {presser : String}
    {action : LifecycleAction} (final : action ∉ [.poolInterest, .assign, .reject])
    {order : WorkOrder} (lasting : Lasting presser action order) :
    ¬(action.call surroundings identity payload backend).Enabled order := by
  intro enabled
  cases action with
  | poolPublish => exact lasting.2 enabled.1
  | poolClaim => exact lasting.2 (by simp [enabled.1])
  | accept => simp [Lasting, enabled.1, progress] at lasting
  | startTravel => simp [Lasting, enabled.2, progress] at lasting
  | startWork =>
      rcases List.mem_pair.mp enabled.2 with h | h <;> simp [Lasting, h, progress] at lasting
  | submitReport => simp [Lasting, enabled.2.1, progress] at lasting
  | _ => simp at final

section pending

variable {button : CallbackAction} {claimKey presser : String} {action : LifecycleAction}
  {backend : Backend}

theorem Pending.step (pending : Pending button claimKey presser action backend)
    {occurrence : Occurrence} (foreign : Foreign presser claimKey occurrence) :
    Pending button claimKey presser action (backend.step occurrence) := by
  obtain ⟨hregular, hawaits, hnamed, hordered, order, hstored, hlasting⟩ := pending
  refine ⟨hregular.step occurrence, ?_, hnamed, hordered, ?_⟩
  · cases occurrence with
    | mint minted => exact hawaits.create minted
    | resolve token organizationId role key fresh now => exact hawaits.resolve
    | complete token organizationId key now => exact hawaits.complete foreign
    | _ => exact hawaits
  · cases occurrence with
    | command command answers =>
        show ∃ order, (Command.settled (command, answers) backend.records).orders.get? _ = _ ∧ _
        unfold Command.settled
        split
        · rename_i after happly
          rcases after with ⟨orders, sessions, events⟩
          have heffect : OrderEffect command.call? backend.records.orders orders :=
            (apply_orders hregular.records.valid happly).1
          cases heffect with
          | kept => exact ⟨order, hstored, hlasting⟩
          | @created made absent submitted =>
              refine ⟨order, ?_, hlasting⟩
              rw [Dict.get?_set_of_ne _ _ fun heq => ?_, hstored]
              rw [← heq, hstored] at absent
              contradiction
          | @changed found call ambient asked stored enabled =>
              rw [Dict.get?_set]
              split
              · rename_i heq
                rw [← heq, hstored] at stored
                cases stored
                exact ⟨_, rfl, hlasting.change enabled
                  (callerOf_call asked ▸ foreign) ambient⟩
              · exact ⟨order, hstored, hlasting⟩
        · exact ⟨order, hstored, hlasting⟩
    | _ => exact ⟨order, hstored, hlasting⟩

theorem Pending.run (pending : Pending button claimKey presser action backend)
    {occurrences : List Occurrence}
    (foreign : ∀ occurrence ∈ occurrences, Foreign presser claimKey occurrence) :
    Pending button claimKey presser action (backend.run occurrences) := by
  induction occurrences generalizing backend with
  | nil => exact pending
  | cons occurrence rest ih =>
      exact ih (pending.step (foreign occurrence List.mem_cons_self))
        fun other hother => foreign other (List.mem_cons_of_mem _ hother)

end pending

/-- A crash after the commit leaves a press pending. -/
theorem pending_of_crash {surroundings : Surroundings} {identity : ActorIdentity}
    {press : Press} {backend crashed : Backend} {button : CallbackAction}
    (regular : Regular backend)
    (crash : crashedAfterCommit surroundings identity press backend = some (button, crashed)) :
    ∃ action, press.callbackToken = some button.token ∧
      Pending button press.claimKey identity.actorId action crashed := by
  obtain ⟨token, row, action, records, ⟨htoken, hrow, hresolvable, hadmitted, happly⟩, rfl,
    rfl⟩ := crashedAfterCommit_ok.mp crash
  obtain ⟨horganization, -, hopen, -⟩ := hresolvable
  obtain ⟨hname, hunclaimed⟩ := regular.tokens token row hrow
  subst hname
  obtain ⟨hperformed, hcapacity⟩ :=
    apply_call regular.records.valid (handler_call row.payload backend action) happly
  obtain ⟨order, ambient, hstored, henabled, horders⟩ := hperformed
  have hvalid := ((apply_takes regular.records.valid happly).sound regular.records.valid).1
  refine ⟨action, htoken, ⟨⟨hvalid, hcapacity⟩, ?_⟩, ?_, hadmitted.named, hadmitted.ordered, ?_⟩
  · exact regular.tokens.set ⟨rfl, by simp [CallbackRow.claimed]⟩
  · refine ⟨_, Dict.get?_set_self _ _ _, rfl, by simp [CallbackRow.claimed], ?_, ?_⟩
    · rcases hopen with hrevoked | ⟨hclaim, -⟩
      · simp [CallbackRow.claimed, (hunclaimed hrevoked).1]
      · simp [CallbackRow.claimed, hclaim]
    · rcases hopen with hrevoked | ⟨-, hincomplete⟩
      · exact (hunclaimed hrevoked).2
      · exact hincomplete
  · refine ⟨_, ?_, lasting_of_enabled henabled ambient⟩
    show records.orders.get? _ = _
    rw [horders, show row.organizationId = identity.organizationId from horganization]
    exact Dict.get?_set_self _ _ _

section occupies

variable {order : WorkOrder} (ambient : Ambient)

theorem occupies_interest {executorId : String}
    (enabled : (Call.expressInterest executorId).Enabled order) :
    UnitOfWork.occupies ((Call.expressInterest executorId).change ambient none order) = none := by
  have hstatus : ((Call.expressInterest executorId).change ambient none order).status =
      order.status := by
    unfold Call.change
    split <;> rfl
  unfold UnitOfWork.occupies
  split
  · rfl
  · rw [hstatus, enabled.1]
    rfl

theorem occupies_assign (executorId : String) (actorId : Option String) :
    UnitOfWork.occupies ((Call.assign executorId actorId).change ambient none order) =
      some (order.organizationId, executorId) := by
  have hchange : (Call.assign executorId actorId).change ambient none order =
      ((Call.assign executorId actorId).writes ambient.clock order).recorded ambient
        (Call.assign executorId actorId).eventName (Call.assign executorId actorId).payload
        none := if_neg fun idle => idle
  by_cases hmode : order.poolMode = some .curated <;>
    simp [UnitOfWork.occupies, hchange, Call.writes, hmode, WorkOrder.resolveCuratedResponses,
      UnitOfWork.activeStatuses]

theorem occupies_reject (executorId : String) :
    UnitOfWork.occupies ((Call.rejectAssignment executorId).change ambient none order) =
      none := by
  simp [UnitOfWork.occupies, Call.change, Call.Idle, Call.writes]

end occupies

/-- The three actions whose command may have something to do again. -/
theorem effective_iff {surroundings : Surroundings} {identity : ActorIdentity}
    {button : CallbackAction} {backend : Backend} (consistent : Consistent backend.records)
    {action : LifecycleAction} (named : LifecycleAction.ofName? button.action = some action)
    (repeats : action ∈ [LifecycleAction.poolInterest, .assign, .reject]) :
    (∃ records, (handler surroundings identity button.payload backend action).command.apply
        ⟨"", false⟩ backend.records = .ok records ∧ records.orders ≠ backend.records.orders) ↔
      Repeatable button identity backend.records := by
  unfold Repeatable
  rw [named]
  simp only [List.mem_cons, List.not_mem_nil, or_false] at repeats
  rcases repeats with rfl | rfl | rfl
  · refine (change_effective consistent).trans ⟨?_, ?_⟩
    · rintro ⟨order, hstored, ⟨hstatus, hmode, hactor⟩, hbusy, -⟩
      exact ⟨order, hstored, hstatus, hmode, hactor, hbusy⟩
    · rintro ⟨order, hstored, hstatus, hmode, hactor, hbusy⟩
      refine ⟨order, hstored, ⟨hstatus, hmode, hactor⟩, hbusy, fun executor hexecutor => ?_⟩
      rw [occupies_interest _ ⟨hstatus, hmode, hactor⟩] at hexecutor
      contradiction
  · refine (change_effective consistent).trans (exists_congr fun order => ?_)
    refine and_congr_right fun hstored => ?_
    obtain ⟨hkey, -⟩ := consistent.valid.orderKeyed hstored
    have horganization : order.organizationId = identity.organizationId :=
      congrArg Prod.fst hkey
    simp only [Call.Enabled, Call.Idle, not_false_eq_true, true_and, occupies_assign,
      Option.some.injEq, forall_eq', horganization, and_assoc]
  · refine (change_effective consistent).trans (exists_congr fun order => ?_)
    simp only [Call.Enabled, Call.Idle, not_false_eq_true, occupies_reject, reduceCtorEq,
      false_imp_iff, implies_true, and_true]

theorem repeatable_action {button : CallbackAction} {identity : ActorIdentity}
    {records : Records} {action : LifecycleAction}
    (named : LifecycleAction.ofName? button.action = some action)
    (repeatable : Repeatable button identity records) :
    action ∈ [LifecycleAction.poolInterest, .assign, .reject] := by
  obtain ⟨order, -, h⟩ := repeatable
  rw [named] at h
  cases action with
  | poolInterest => simp
  | assign => simp
  | reject => simp
  | _ => exact h.elim

theorem redelivered_iff {surroundings : Surroundings} {identity : ActorIdentity} {press : Press}
    {button : CallbackAction} {presser : String} {action : LifecycleAction} {backend : Backend}
    (pressed : press.callbackToken = some button.token)
    (pending : Pending button press.claimKey presser action backend) :
    (callback surroundings identity press backend).2.records.orders = backend.records.orders ↔
      ¬(Usable button identity surroundings.resolvedAt ∧
        Repeatable button identity backend.records) := by
  obtain ⟨hregular, ⟨row, hrow, hwaiting⟩, hnamed, hordered, order, hstored, hlasting⟩ := pending
  obtain ⟨rfl, -, hclaim, hincomplete⟩ := hwaiting
  rw [← not_iff_not, not_not, records_callback]
  constructor
  · intro hchanged
    split at hchanged
    · rename_i button after hcrash
      obtain ⟨token, found, other, records, ⟨htoken, hfound, hresolvable, hadmitted, happly⟩, -,
        rfl⟩ := crashedAfterCommit_ok.mp hcrash
      rw [pressed] at htoken
      cases htoken
      rw [hrow] at hfound
      cases hfound
      have hsame := hadmitted.named
      rw [hnamed] at hsame
      cases hsame
      obtain ⟨horganization, hunexpired, -, hshown⟩ := hresolvable
      by_cases hrepeats : action ∈ [LifecycleAction.poolInterest, .assign, .reject]
      · refine ⟨⟨horganization, hunexpired, hshown, fun other hother => ?_⟩,
          (effective_iff hregular.records hnamed hrepeats).mp ⟨records, happly, hchanged⟩⟩
        rw [hnamed] at hother
        cases hother
        exact hadmitted.role
      · obtain ⟨⟨later, ambient, hlater, henabled, -⟩, -⟩ :=
          apply_call hregular.records.valid (handler_call row.payload backend action) happly
        rw [← horganization, hstored] at hlater
        cases hlater
        exact absurd henabled (not_enabled_of_lasting hrepeats hlasting)
    · exact absurd rfl hchanged
  · rintro ⟨⟨horganization, hunexpired, hshown, hrole⟩, hrepeatable⟩
    have hrepeats := repeatable_action hnamed hrepeatable
    obtain ⟨records, happly, hchanged⟩ :=
      (effective_iff hregular.records hnamed hrepeats).mpr hrepeatable
    have hstill : ¬(action = .startTravel ∧ underway identity backend) := by
      rintro ⟨rfl, -⟩
      simp at hrepeats
    have hcrash := crashedAfterCommit_ok.mpr ⟨_, row, action, records,
      ⟨pressed, hrow, ⟨horganization, hunexpired, .inr ⟨hclaim, hincomplete⟩, hshown⟩,
        ⟨hnamed, hordered, hrole action hnamed, hstill⟩, happly⟩, rfl, rfl⟩
    rw [hcrash]
    exact hchanged

theorem redelivery_unrepeated_iff (past between : List Occurrence) (press : Press)
    (first second : Surroundings) (identity again : ActorIdentity) {button : CallbackAction}
    {crashed : Backend}
    (crash : crashedAfterCommit first identity press (Backend.empty.run past) =
      some (button, crashed))
    (foreign : ∀ occurrence ∈ between,
      Foreign identity.actorId press.claimKey occurrence) :
    let before := crashed.run between
    (callback second again press before).2.records.orders = before.records.orders ↔
      ¬(Usable button again second.resolvedAt ∧ Repeatable button again before.records) := by
  obtain ⟨action, pressed, pending⟩ := pending_of_crash (regular_empty.run past) crash
  exact redelivered_iff pressed (pending.run foreign)

def sampleSurroundings : Surroundings :=
  ⟨⟨10⟩, ⟨11⟩, ⟨⟨10⟩, "e"⟩, ⟨⟨⟨10⟩, "s"⟩, ⟨10⟩, "p", "l"⟩, "f", none, id⟩

def sampleCreation : Command :=
  .createOrder ⟨⟨0⟩, "e0"⟩ "f" (some "o1") ⟨"acme", "repair", "web", .empty, none, none⟩

/-- The operator assigns Ann. -/
def sampleAssignment : Occurrence :=
  .command (.change ⟨⟨1⟩, "e1"⟩ "acme" "o1" (.assign "ann" (some "op")) trivial) ⟨"", false⟩

/-- An order assigned to Ann, and a button of hers. -/
def samplePast (action : String) : List Occurrence :=
  [.command sampleCreation ⟨"A001", false⟩, sampleAssignment,
    .mint ⟨"t1", "acme", action, orderPayload "o1", some .master, ⟨604800000000⟩⟩]

def samplePress : Press := ⟨.telegram, "77", some "t1"⟩

def sampleIdentity : ActorIdentity := ⟨"acme", "ann", .master⟩

/-- Ann's rejection commits and dies, the operator assigns her once more, and the
rejection is delivered again. -/
theorem reject_repeated :
    ∃ button crashed, crashedAfterCommit sampleSurroundings sampleIdentity samplePress
        (Backend.empty.run (samplePast "reject")) = some (button, crashed) ∧
      (∀ occurrence ∈ [sampleAssignment],
        Foreign sampleIdentity.actorId samplePress.claimKey occurrence) ∧
      (callback sampleSurroundings sampleIdentity samplePress
          (crashed.run [sampleAssignment])).2.records.orders ≠
        (crashed.run [sampleAssignment]).records.orders := by
  have hsome : (crashedAfterCommit sampleSurroundings sampleIdentity samplePress
      (Backend.empty.run (samplePast "reject"))).isSome := by decide +kernel
  refine ⟨_, _, (Option.some_get hsome).symm, by decide +kernel, fun hsame => ?_⟩
  have hstatus := congrArg
    (fun orders => (orders.get? ("acme", "o1")).map WorkOrder.status) hsame
  revert hstatus
  decide +kernel

/-- Ann's acceptance, delivered again after the operator tried to assign her again. -/
theorem accept_unrepeated :
    ∃ button crashed, crashedAfterCommit sampleSurroundings sampleIdentity samplePress
        (Backend.empty.run (samplePast "accept")) = some (button, crashed) ∧
      (callback sampleSurroundings sampleIdentity samplePress
          (crashed.run [sampleAssignment])).2.records.orders =
        (crashed.run [sampleAssignment]).records.orders := by
  have hnamed : (crashedAfterCommit sampleSurroundings sampleIdentity samplePress
      (Backend.empty.run (samplePast "accept"))).map
        (fun pair => LifecycleAction.ofName? pair.1.action) = some (some .accept) := by
    decide +kernel
  obtain ⟨⟨button, crashed⟩, hcrash, hname⟩ := Option.map_eq_some_iff.mp hnamed
  refine ⟨button, crashed, hcrash, (redelivery_unrepeated_iff (samplePast "accept")
    [sampleAssignment] samplePress sampleSurroundings sampleSurroundings sampleIdentity
    sampleIdentity hcrash (by decide +kernel)).mpr fun repeated => ?_⟩
  have haction := repeatable_action hname repeated.2
  simp at haction

end DispatchCore.Messaging
