import DispatchCore.Messaging.Pool
import DispatchCore.Messaging.Projection

/-! Whom the pool reaches.  Until its first press in time the button is open to every
master, and from then on it belongs to that press. -/
namespace DispatchCore.Messaging

open DispatchCore.Library DispatchCore.Domain DispatchCore.Infrastructure
  DispatchCore.Application

section rows

variable {rows : CallbackRows} {token name organizationId claimKey fresh : String} {role : Role}
  {key : Option String} {now : Instant} {row : CallbackRow}

/-- The token is claimed by an event. -/
def TakenBy (rows : CallbackRows) (token claimKey : String) : Prop :=
  ∃ row, rows.get? token = some row ∧ row.revokedAt.isSome ∧ row.claimKey = some claimKey

theorem TakenBy.set (taken : TakenBy rows token claimKey) {next : CallbackRow}
    (stored : rows.get? name = some row)
    (keeps : row.revokedAt.isSome ∧ row.claimKey = some claimKey →
      next.revokedAt.isSome ∧ next.claimKey = some claimKey) :
    TakenBy (rows.set name next) token claimKey := by
  obtain ⟨found, hfound, hclaim⟩ := taken
  by_cases heq : token = name
  · subst heq
    rw [stored] at hfound
    cases hfound
    exact ⟨next, Dict.get?_set_self _ _ _, keeps hclaim⟩
  · exact ⟨found, (Dict.get?_set_of_ne _ _ heq).trans hfound, hclaim⟩

theorem TakenBy.create (taken : TakenBy rows token claimKey) (minted : CallbackAction) :
    TakenBy (PostgresCallbackStore.create minted rows) token claimKey := by
  rcases PostgresCallbackStore.create_effect rows minted with h | ⟨hnone, h⟩
  · rwa [h]
  · obtain ⟨found, hfound, hclaim⟩ := taken
    have hne : token ≠ minted.token := by
      intro heq
      rw [heq, hnone] at hfound
      contradiction
    rw [h]
    exact ⟨found, (Dict.get?_set_of_ne _ _ hne).trans hfound, hclaim⟩

theorem TakenBy.resolve (taken : TakenBy rows token claimKey) :
    TakenBy (PostgresCallbackStore.resolve name organizationId role key fresh now rows).2
      token claimKey := by
  rcases PostgresCallbackStore.resolve_effect name organizationId now rows role key fresh with
    h | ⟨row, stable, hrow, h⟩
  · rwa [h]
  · rw [h]
    refine taken.set hrow fun hclaim => ⟨by simp [CallbackRow.claimed], ?_⟩
    simp [CallbackRow.claimed, hclaim.2]

theorem TakenBy.complete (taken : TakenBy rows token claimKey) {other : String} :
    TakenBy (PostgresCallbackStore.complete name organizationId other now rows).2
      token claimKey := by
  rcases PostgresCallbackStore.complete_effect name organizationId now rows other with
    h | ⟨row, hrow, -, h⟩
  · rwa [h]
  · rw [h]
    exact taken.set hrow fun hclaim => hclaim

/-- Another event cannot resolve a claimed token. -/
theorem TakenBy.refuses (taken : TakenBy rows token claimKey) {other : String}
    (named : other ≠ "") (different : other ≠ claimKey) :
    PostgresCallbackStore.resolve token organizationId role (some other) fresh now rows =
      (none, rows) := by
  obtain ⟨row, hrow, hrevoked, hclaim⟩ := taken
  refine PostgresCallbackStore.resolve_refused token organizationId now rows role named fresh
    hrow fun hresolvable => ?_
  obtain ⟨-, -, hnone | ⟨hsame, -⟩, -⟩ := hresolvable
  · rw [hnone] at hrevoked
    contradiction
  · rw [hclaim] at hsame
    exact different (Option.some.inj hsame).symm

end rows

/-! ### One press -/

section press

variable {surroundings : Surroundings} {identity : ActorIdentity} {press : Press}
  {backend : Backend} {token : String}

theorem callbacks_executeCallback (button : CallbackAction) (backend : Backend) :
    (executeCallback surroundings identity button backend).2.callbacks = backend.callbacks := by
  have hcleared (other : Backend) (clears : Bool) :
      (other.cleared identity button clears).callbacks = other.callbacks := by
    unfold Backend.cleared
    split <;> rfl
  unfold executeCallback
  split
  · rfl
  · rfl
  · split
    · exact hcleared _ _
    · split
      · split
        · rfl
        · split
          · rfl
          · exact hcleared _ _
      · rfl

theorem taken_completeCallbackClaim {claimKey : String} (button : CallbackAction)
    (taken : TakenBy backend.callbacks token claimKey) :
    TakenBy (completeCallbackClaim surroundings press button backend).2.callbacks token
      claimKey := by
  unfold completeCallbackClaim
  simp only
  split <;> exact taken.complete

/-- What holds of the rows after the resolution and of those after its completion. -/
theorem taken_callback {claimKey : String} (pressed : press.callbackToken = some token)
    (taken : TakenBy (resolveCallback surroundings identity press token backend).2 token
      claimKey) :
    TakenBy (callback surroundings identity press backend).2.callbacks token claimKey := by
  unfold callback
  simp only [pressed]
  rcases hresolve : resolveCallback surroundings identity press token backend with
    ⟨_ | button, callbacks⟩
  · rw [hresolve] at taken
    exact taken
  · rw [hresolve] at taken
    simp only
    have hexecuted : TakenBy (executeCallback surroundings identity button
        { backend with callbacks }).2.callbacks token claimKey := by
      rw [callbacks_executeCallback]
      exact taken
    revert hexecuted
    rcases executeCallback surroundings identity button { backend with callbacks } with
      ⟨failure | reply, after⟩ <;> intro hexecuted
    · simp only
      split
      · exact taken_completeCallbackClaim button hexecuted
      · exact hexecuted
    · exact taken_completeCallbackClaim button hexecuted

theorem consistent_callback (consistent : Consistent backend.records) :
    Consistent (callback surroundings identity press backend).2.records := by
  rw [records_callback]
  split
  · rename_i button after hcrash
    obtain ⟨_, row, action, records, hcommitting, -, rfl⟩ := crashedAfterCommit_ok.mp hcrash
    have hsettled := consistent.settled
      ((handler surroundings identity row.payload backend action).command, ⟨"", false⟩)
    rwa [Command.settled, hcommitting.applied] at hsettled
  · exact consistent

/-- A press that is refused as stale changes nothing. -/
theorem callback_refused (pressed : press.callbackToken = some token)
    (refused : resolveCallback surroundings identity press token backend =
      (none, backend.callbacks)) :
    (callback surroundings identity press backend).2 = backend := by
  unfold callback
  simp only [pressed, refused]

end press

/-! ### Runs -/

/-- The button has not been pressed in time, and the order stands in the pool. -/
structure Offered (event : DomainEvent) (mode : PoolMode) (order : WorkOrder)
    (button : CallbackAction) (backend : Backend) : Prop where
  regular : Regular backend
  row : backend.callbacks.get? button.token = some button.row
  opened : OpenInPool event mode order
  stored : backend.records.orders.get? (event.organizationId, event.aggregateId) = some order

section besides

variable {key : Key} {token : String} {occurrence : Occurrence} {backend : Backend}

theorem order_besides (apart : Apart key token occurrence)
    (consistent : Consistent backend.records) {order : WorkOrder} (stored : backend.records.orders.get? key = some order) :
    (backend.step occurrence).records.orders.get? key = some order := by
  cases occurrence with
  | command command answers =>
      show (Command.settled (command, answers) backend.records).orders.get? key = _
      unfold Command.settled
      split
      · rename_i after happly
        rcases after with ⟨orders, sessions, events⟩
        have heffect : OrderEffect command.call? backend.records.orders orders :=
          (apply_orders consistent.valid happly).1
        cases heffect with
        | kept => exact stored
        | @created made absent submitted =>
            show Dict.get? _ key = _
            rw [Dict.get?_set_of_ne _ _ fun heq => ?_, stored]
            rw [← heq, stored] at absent
            contradiction
        | @changed found call ambient asked present enabled =>
            show Dict.get? _ key = _
            rw [Dict.get?_set_of_ne _ _ fun heq => ?_, stored]
            exact apart call (heq ▸ asked)
      · exact stored
  | _ => exact stored

theorem row_besides (apart : Apart key token occurrence) {row : CallbackRow}
    (stored : backend.callbacks.get? token = some row) :
    (backend.step occurrence).callbacks.get? token = some row := by
  cases occurrence with
  | mint minted =>
      show (PostgresCallbackStore.create minted backend.callbacks).get? token = _
      rcases PostgresCallbackStore.create_effect backend.callbacks minted with h | ⟨hnone, h⟩
      · rw [h, stored]
      · rw [h, Dict.get?_set_of_ne _ _ fun heq => ?_, stored]
        rw [← heq, stored] at hnone
        contradiction
  | resolve name organizationId role claimKey fresh now =>
      show (PostgresCallbackStore.resolve name organizationId role claimKey fresh now
        backend.callbacks).2.get? token = _
      rcases PostgresCallbackStore.resolve_effect name organizationId now backend.callbacks role
        claimKey fresh with h | ⟨found, stable, hfound, h⟩
      · rw [h, stored]
      · rw [h, Dict.get?_set_of_ne _ _ fun heq => apart heq.symm, stored]
  | complete name organizationId claimKey now =>
      show (PostgresCallbackStore.complete name organizationId claimKey now
        backend.callbacks).2.get? token = _
      rcases PostgresCallbackStore.complete_effect name organizationId now backend.callbacks
        claimKey with h | ⟨found, hfound, -, h⟩
      · rw [h, stored]
      · rw [h, Dict.get?_set_of_ne _ _ fun heq => apart heq.symm, stored]
  | _ => exact stored

theorem taken_besides {claimKey : String} (taken : TakenBy backend.callbacks token claimKey)
    (occurrence : Occurrence) : TakenBy (backend.step occurrence).callbacks token claimKey := by
  cases occurrence with
  | mint minted => exact taken.create minted
  | resolve name organizationId role key fresh now => exact taken.resolve
  | complete name organizationId key now => exact taken.complete
  | _ => exact taken

end besides

/-- The press is of the button of the event. -/
def Addressed (button : CallbackAction) (pressed : PoolPress) : Prop :=
  pressed.press.callbackToken = some button.token

section offered

variable {event : DomainEvent} {mode : PoolMode} {order : WorkOrder} {token : String}
  {minted : Instant} {backend : Backend} {pressed : PoolPress}

theorem orderPayload_orderId (orderId : String) :
    (orderPayload orderId).textAt "order_id" = orderId := by
  simp [orderPayload, Dict.textAt, Dict.ofList, Dict.update, Dict.get?, Dict.set, Dict.assign,
    Dict.empty, Dict.lookup, Json.text?]

theorem orderId_ne (offered : Offered event mode order (poolToken event token minted) backend) :
    event.aggregateId ≠ "" := by
  have hkey := (offered.regular.records.valid.orderKeyed offered.stored).1
  have hid : order.id = event.aggregateId := congrArg Prod.snd hkey
  exact hid ▸ order.required.1

theorem resolvable_iff : (poolToken event token minted).row.Resolvable event.organizationId
    .master pressed.press.claimKey pressed.surroundings.resolvedAt ↔
      pressed.Live (poolToken event token minted) := by
  simp [CallbackRow.Resolvable, CallbackAction.row, poolToken, PoolPress.Live]

theorem resolve_offered
    (offered : Offered event mode order (poolToken event token minted) backend)
    (live : pressed.Live (poolToken event token minted)) :
    resolveCallback pressed.surroundings (pressed.identity event.organizationId) pressed.press
        token backend =
      (some (poolToken event token minted), backend.callbacks.set token
        ((poolToken event token minted).row.claimed pressed.press.claimKey
          pressed.surroundings.resolvedAt)) :=
  (PostgresCallbackStore.resolve_eq_some token event.organizationId
    pressed.surroundings.resolvedAt backend.callbacks .master (claimKey_ne pressed.press) "").mpr
    ⟨_, offered.row, resolvable_iff.mpr live, rfl, rfl⟩

theorem apply_dead (offered : Offered event mode order (poolToken event token minted) backend)
    (addressed : Addressed (poolToken event token minted) pressed)
    (dead : ¬pressed.Live (poolToken event token minted)) :
    PoolStep.apply event.organizationId backend (.press pressed) = backend :=
  callback_refused addressed (PostgresCallbackStore.resolve_refused token event.organizationId
    pressed.surroundings.resolvedAt backend.callbacks .master (claimKey_ne pressed.press) ""
    offered.row fun hresolvable => dead (resolvable_iff.mp hresolvable))

theorem apply_taken (offered : Offered event mode order (poolToken event token minted) backend)
    (addressed : Addressed (poolToken event token minted) pressed)
    (live : pressed.Live (poolToken event token minted)) :
    TakenBy (PoolStep.apply event.organizationId backend (.press pressed)).callbacks token
      pressed.press.claimKey := by
  refine taken_callback addressed ?_
  rw [resolve_offered offered live]
  exact ⟨_, Dict.get?_set_self _ _ _, by simp [CallbackRow.claimed],
    by simp [CallbackRow.claimed, CallbackAction.row]⟩

/-- A press in time runs the command of its action. -/
theorem apply_live (offered : Offered event mode order (poolToken event token minted) backend)
    (addressed : Addressed (poolToken event token minted) pressed)
    (live : pressed.Live (poolToken event token minted)) {action : LifecycleAction}
    (named : LifecycleAction.ofName? (poolAction event) = some action)
    (masters : action ∈ [LifecycleAction.poolInterest, .poolClaim]) {records : Records}
    (applied : (handler pressed.surroundings (pressed.identity event.organizationId)
      (orderPayload event.aggregateId) backend action).command.apply ⟨"", false⟩
      backend.records = .ok records) :
    (PoolStep.apply event.organizationId backend (.press pressed)).records = records := by
  have hadmitted : Admitted (pressed.identity event.organizationId)
      (poolToken event token minted) backend action := by
    refine ⟨named, ?_, ?_, ?_⟩
    · show (orderPayload event.aggregateId).textAt "order_id" ≠ ""
      rw [orderPayload_orderId]
      exact orderId_ne offered
    · rcases List.mem_pair.mp masters with rfl | rfl <;>
        simp [LifecycleAction.roles, PoolPress.identity]
    · rcases List.mem_pair.mp masters with rfl | rfl <;> simp
  have hcrash := crashedAfterCommit_ok.mpr ⟨token, _, action, records, ⟨addressed, offered.row,
    resolvable_iff.mpr live, hadmitted, applied⟩, rfl, rfl⟩
  show (callback _ _ _ _).2.records = _
  rw [records_callback, hcrash]

/-- The command goes through where its call is enabled and its executor free. -/
theorem apply_enabled (offered : Offered event mode order (poolToken event token minted) backend)
    (addressed : Addressed (poolToken event token minted) pressed)
    (live : pressed.Live (poolToken event token minted)) {action : LifecycleAction}
    (named : LifecycleAction.ofName? (poolAction event) = some action)
    (masters : action ∈ [LifecycleAction.poolInterest, .poolClaim]) {call : Call}
    {plain : Plain call}
    (asks : (handler pressed.surroundings (pressed.identity event.organizationId)
        (orderPayload event.aggregateId) backend action).command =
      .change pressed.surroundings.ambient event.organizationId event.aggregateId call plain)
    (enabled : call.Enabled order)
    (fits : ∀ executor,
      UnitOfWork.occupies (call.change pressed.surroundings.ambient none order) = some executor →
        FreeBut backend.records (event.organizationId, event.aggregateId) executor) :
    (PoolStep.apply event.organizationId backend (.press pressed)).records.orders.get?
        (event.organizationId, event.aggregateId) =
      some (call.change pressed.surroundings.ambient none order).pullEvents.2 := by
  have hrecords := offered.regular.records
  obtain ⟨hkey, -⟩ := hrecords.valid.orderKeyed offered.stored
  have hcapacity : Capacity
      (putOrder (call.change pressed.surroundings.ambient none order) backend.records) := by
    rw [capacity_put hrecords.capacity, orderKey_change, hkey]
    exact fits
  have happly : (Command.change pressed.surroundings.ambient event.organizationId
      event.aggregateId call plain).apply ⟨"", false⟩ backend.records = .ok _ :=
    (change_ok hrecords.valid).mpr ⟨order, offered.stored, enabled, hcapacity, rfl⟩
  rw [← asks] at happly
  rw [apply_live offered addressed live named masters happly, putOrder, orderKey_change, hkey]
  exact Dict.get?_set_self _ _ _

theorem action_curated (opened : OpenInPool event .curated order) :
    LifecycleAction.ofName? (poolAction event) = some .poolInterest := by
  rw [poolAction, opened.announced.2]
  rfl

theorem action_firstClaim (opened : OpenInPool event .firstClaim order) :
    LifecycleAction.ofName? (poolAction event) = some .poolClaim := by
  rw [poolAction, opened.announced.2]
  rfl

/-- In a curated pool a press in time records the interest, and nothing else. -/
theorem apply_interest
    (offered : Offered event .curated order (poolToken event token minted) backend)
    (addressed : Addressed (poolToken event token minted) pressed)
    (live : pressed.Live (poolToken event token minted)) :
    ∃ later, (PoolStep.apply event.organizationId backend
        (.press pressed)).records.orders.get? (event.organizationId, event.aggregateId) =
          some later ∧
      ∀ executorId, later.responseStatus executorId =
        if executorId = pressed.actorId then some .interested
        else order.responseStatus executorId := by
  have hopened := offered.opened
  have henabled : (Call.expressInterest pressed.actorId).Enabled order :=
    ⟨hopened.status, hopened.poolMode, pressed.named⟩
  have hplain : Plain (Call.expressInterest pressed.actorId) := trivial
  have hasks : (handler pressed.surroundings (pressed.identity event.organizationId)
        (orderPayload event.aggregateId) backend .poolInterest).command =
      .change pressed.surroundings.ambient event.organizationId event.aggregateId
        (.expressInterest pressed.actorId) hplain := by
    simp only [handler, poolInterest, changing, orderPayload_orderId, PoolPress.identity]
  have hbusy : ¬(Call.expressInterest pressed.actorId).Idle order :=
    hopened.unanswered pressed.actorId
  refine ⟨_, apply_enabled offered addressed live (action_curated hopened) (by simp) hasks
    henabled fun executor hexecutor => ?_, fun executorId => ?_⟩
  · rw [occupies_interest _ henabled] at hexecutor
    contradiction
  · unfold Call.change
    rw [if_neg hbusy]
    exact WorkOrder.responseStatus_respond order pressed.actorId executorId _ _

/-- In a first-claim pool a press in time by a free master wins the order. -/
theorem apply_claim
    (offered : Offered event .firstClaim order (poolToken event token minted) backend)
    (addressed : Addressed (poolToken event token minted) pressed)
    (live : pressed.Live (poolToken event token minted))
    (free : FreeBut backend.records (event.organizationId, event.aggregateId)
      (event.organizationId, pressed.actorId)) :
    ∃ later, (PoolStep.apply event.organizationId backend
        (.press pressed)).records.orders.get? (event.organizationId, event.aggregateId) =
          some later ∧
      later.assigneeId = some pressed.actorId := by
  have hopened := offered.opened
  obtain ⟨hkey, -⟩ := offered.regular.records.valid.orderKeyed offered.stored
  have horganization : order.organizationId = event.organizationId := congrArg Prod.fst hkey
  have hplain : Plain (Call.claimFirst pressed.actorId) := trivial
  have hasks : (handler pressed.surroundings (pressed.identity event.organizationId)
        (orderPayload event.aggregateId) backend .poolClaim).command =
      .change pressed.surroundings.ambient event.organizationId event.aggregateId
        (.claimFirst pressed.actorId) hplain := by
    simp only [handler, poolClaim, changing, orderPayload_orderId, PoolPress.identity]
  refine ⟨_, apply_enabled offered addressed live (action_firstClaim hopened) (by simp) hasks
    ⟨hopened.status, hopened.poolMode, pressed.named⟩ fun executor hexecutor => ?_, ?_⟩
  · have hoccupies : UnitOfWork.occupies ((Call.claimFirst pressed.actorId).change
        pressed.surroundings.ambient none order) = some (order.organizationId,
          pressed.actorId) := by
      simp [UnitOfWork.occupies, Call.change, Call.Idle, Call.writes, WorkOrder.respond,
        UnitOfWork.activeStatuses]
    rw [hoccupies, horganization] at hexecutor
    cases hexecutor
    exact free
  · simp [Call.change, Call.Idle, Call.writes, WorkOrder.respond, WorkOrder.pullEvents]

theorem Offered.besides {button : CallbackAction}
    (offered : Offered event mode order button backend) {occurrence : Occurrence}
    (apart : Apart (event.organizationId, event.aggregateId) button.token occurrence) :
    Offered event mode order button (backend.step occurrence) :=
  ⟨offered.regular.step occurrence, row_besides apart offered.row, offered.opened,
    order_besides apart offered.regular.records offered.stored⟩

end offered
section runs

variable {event : DomainEvent} {mode : PoolMode} {order : WorkOrder} {token : String}
  {minted : Instant} {backend : Backend} {steps : List PoolStep}

@[simp] theorem pressesOf_nil : pressesOf [] = [] := rfl

@[simp] theorem pressesOf_press (pressed : PoolPress) (rest : List PoolStep) :
    pressesOf (.press pressed :: rest) = pressed :: pressesOf rest := rfl

@[simp] theorem pressesOf_besides (occurrence : Occurrence) (rest : List PoolStep) :
    pressesOf (.besides occurrence :: rest) = pressesOf rest := rfl

theorem EachPress.imp {organizationId : String} {property weaker : PoolPress → Backend → Prop}
    (each : EachPress organizationId property steps backend)
    (implies : ∀ pressed ∈ pressesOf steps, ∀ found,
      property pressed found → weaker pressed found) :
    EachPress organizationId weaker steps backend := by
  induction steps generalizing backend with
  | nil => trivial
  | cons step rest ih =>
      cases step with
      | press pressed =>
          exact ⟨implies pressed List.mem_cons_self _ each.1,
            ih each.2 fun other hother => implies other (List.mem_cons_of_mem _ hother)⟩
      | besides occurrence => exact ih each implies

theorem eachPress_of_none {organizationId : String} {premise : PoolPress → Prop}
    {property : PoolPress → Backend → Prop} (none : ∀ pressed ∈ pressesOf steps, ¬premise pressed) :
    EachPress organizationId (fun pressed found => premise pressed → property pressed found)
      steps backend := by
  induction steps generalizing backend with
  | nil => trivial
  | cons step rest ih =>
      cases step with
      | press pressed =>
          exact ⟨fun h => absurd h (none pressed List.mem_cons_self),
            ih fun other hother => none other (List.mem_cons_of_mem _ hother)⟩
      | besides occurrence => exact ih none

/-- Once the button is taken, nobody else is heard. -/
theorem dead_of_taken {claimKey : String} (taken : TakenBy backend.callbacks token claimKey)
    (addressed : ∀ pressed ∈ pressesOf steps, Addressed (poolToken event token minted) pressed)
    (others : ∀ pressed ∈ pressesOf steps, pressed.press.claimKey ≠ claimKey)
    (heard : EachPress event.organizationId (fun pressed found =>
      pressed.Live (poolToken event token minted) →
        pressed.Heard (poolToken event token minted) found) steps backend) :
    ∀ pressed ∈ pressesOf steps, ¬pressed.Live (poolToken event token minted) := by
  induction steps generalizing backend with
  | nil =>
      intro pressed h
      contradiction
  | cons step rest ih =>
      cases step with
      | besides occurrence =>
          exact ih (taken_besides taken occurrence) addressed others heard
      | press pressed =>
          obtain ⟨hfirst, hrest⟩ := heard
          rw [pressesOf_press, List.forall_mem_cons] at addressed others ⊢
          have hrefused : resolveCallback pressed.surroundings
              (pressed.identity event.organizationId) pressed.press token backend =
              (none, backend.callbacks) :=
            taken.refuses (claimKey_ne pressed.press) others.1
          have hsame : PoolStep.apply event.organizationId backend (.press pressed) = backend :=
            callback_refused addressed.1 hrefused
          rw [hsame] at hrest
          refine ⟨fun live => ?_, ih taken addressed.2 others.2 hrest⟩
          have hheard : (resolveCallback pressed.surroundings
            (pressed.identity event.organizationId) pressed.press token backend).1.isSome :=
              hfirst live
          rw [hrefused] at hheard
          contradiction

/-- If everybody in time is heard, only one is in time. -/
theorem one_live (offered : Offered event mode order (poolToken event token minted) backend)
    (addressed : ∀ pressed ∈ pressesOf steps, Addressed (poolToken event token minted) pressed)
    (distinct : ((pressesOf steps).map fun pressed => pressed.press.claimKey).Nodup)
    (apart : ∀ occurrence, .besides occurrence ∈ steps →
      Apart (event.organizationId, event.aggregateId) token occurrence)
    (heard : EachPress event.organizationId (fun pressed found =>
      pressed.Live (poolToken event token minted) →
        pressed.Heard (poolToken event token minted) found) steps backend) :
    ((pressesOf steps).filter fun pressed =>
      pressed.Live (poolToken event token minted)).length ≤ 1 := by
  induction steps generalizing backend with
  | nil => simp
  | cons step rest ih =>
      have hapart : ∀ occurrence, .besides occurrence ∈ rest →
          Apart (event.organizationId, event.aggregateId) token occurrence :=
        fun occurrence h => apart occurrence (List.mem_cons_of_mem _ h)
      cases step with
      | besides occurrence =>
          exact ih (offered.besides (apart occurrence List.mem_cons_self)) addressed distinct
            hapart heard
      | press pressed =>
          rw [pressesOf_press, List.forall_mem_cons] at addressed
          rw [pressesOf_press, List.map_cons, List.nodup_cons] at distinct
          rw [pressesOf_press, List.filter_cons]
          by_cases live : pressed.Live (poolToken event token minted)
          · have hdead := dead_of_taken (apply_taken offered addressed.1 live) addressed.2
              (fun other hother heq => distinct.1 (List.mem_map.mpr ⟨other, hother, heq⟩))
              heard.2
            have hnone : (pressesOf rest).filter (fun other =>
                other.Live (poolToken event token minted)) = [] :=
              List.filter_eq_nil_iff.mpr fun other hother => by simpa using hdead other hother
            simp [live, hnone]
          · have hsame := apply_dead offered addressed.1 live
            rw [if_neg (by simpa using live)]
            exact ih offered addressed.2 distinct.2 hapart (hsame ▸ heard.2)

/-- As long as one is in time at most, that one finds the button unused. -/
theorem each_offered (offered : Offered event mode order (poolToken event token minted) backend)
    (addressed : ∀ pressed ∈ pressesOf steps, Addressed (poolToken event token minted) pressed)
    (apart : ∀ occurrence, .besides occurrence ∈ steps →
      Apart (event.organizationId, event.aggregateId) token occurrence)
    (single : ((pressesOf steps).filter fun pressed =>
      pressed.Live (poolToken event token minted)).length ≤ 1) :
    EachPress event.organizationId (fun pressed found =>
      pressed.Live (poolToken event token minted) →
        Offered event mode order (poolToken event token minted) found) steps backend := by
  induction steps generalizing backend with
  | nil => trivial
  | cons step rest ih =>
      have hapart : ∀ occurrence, .besides occurrence ∈ rest →
          Apart (event.organizationId, event.aggregateId) token occurrence :=
        fun occurrence h => apart occurrence (List.mem_cons_of_mem _ h)
      cases step with
      | besides occurrence =>
          exact ih (offered.besides (apart occurrence List.mem_cons_self)) addressed hapart single
      | press pressed =>
          rw [pressesOf_press, List.forall_mem_cons] at addressed
          rw [pressesOf_press, List.filter_cons] at single
          by_cases live : pressed.Live (poolToken event token minted)
          · rw [if_pos (by simpa using live), List.length_cons] at single
            have hnone : (pressesOf rest).filter (fun other =>
                other.Live (poolToken event token minted)) = [] :=
              List.eq_nil_of_length_eq_zero (by omega)
            refine ⟨fun _ => offered, eachPress_of_none fun other hother hlive => ?_⟩
            exact List.filter_eq_nil_iff.mp hnone other hother (by simpa using hlive)
          · rw [if_neg (by simpa using live)] at single
            refine ⟨fun h => absurd h live, ?_⟩
            rw [apply_dead offered addressed.1 live]
            exact ih offered addressed.2 hapart single

/-- Once the button is taken, the order stays as it is. -/
theorem order_taken {claimKey : String} (taken : TakenBy backend.callbacks token claimKey)
    (addressed : ∀ pressed ∈ pressesOf steps, Addressed (poolToken event token minted) pressed)
    (others : ∀ pressed ∈ pressesOf steps, pressed.press.claimKey ≠ claimKey)
    (apart : ∀ occurrence, .besides occurrence ∈ steps →
      Apart (event.organizationId, event.aggregateId) token occurrence)
    (consistent : Consistent backend.records) {later : WorkOrder}
    (stored : backend.records.orders.get? (event.organizationId, event.aggregateId) =
      some later) :
    (runPool event.organizationId backend steps).records.orders.get?
      (event.organizationId, event.aggregateId) = some later := by
  induction steps generalizing backend with
  | nil => exact stored
  | cons step rest ih =>
      have hapart : ∀ occurrence, .besides occurrence ∈ rest →
          Apart (event.organizationId, event.aggregateId) token occurrence :=
        fun occurrence h => apart occurrence (List.mem_cons_of_mem _ h)
      cases step with
      | besides occurrence =>
          have hconsistent : Consistent (backend.step occurrence).records := by
            cases occurrence with
            | command command answers => exact consistent.settled (command, answers)
            | _ => exact consistent
          exact ih (taken_besides taken occurrence) addressed others hapart hconsistent
            (order_besides (apart occurrence List.mem_cons_self) consistent stored)
      | press pressed =>
          rw [pressesOf_press, List.forall_mem_cons] at addressed others
          have hsame : PoolStep.apply event.organizationId backend (.press pressed) = backend :=
            callback_refused addressed.1 (taken.refuses (claimKey_ne pressed.press) others.1)
          show (runPool event.organizationId (PoolStep.apply event.organizationId backend
            (.press pressed)) rest).records.orders.get? _ = _
          rw [hsame]
          exact ih taken addressed.2 others.2 hapart consistent stored

/-- In a curated pool the interested masters are the first to press in time, and
nobody else. -/
theorem interested_run
    (offered : Offered event .curated order (poolToken event token minted) backend)
    (addressed : ∀ pressed ∈ pressesOf steps, Addressed (poolToken event token minted) pressed)
    (distinct : ((pressesOf steps).map fun pressed => pressed.press.claimKey).Nodup)
    (apart : ∀ occurrence, .besides occurrence ∈ steps →
      Apart (event.organizationId, event.aggregateId) token occurrence) :
    ∃ later, (runPool event.organizationId backend steps).records.orders.get?
        (event.organizationId, event.aggregateId) = some later ∧
      ∀ executorId, later.responseStatus executorId = some .interested ↔
        ∃ pressed, ((pressesOf steps).filter fun pressed =>
          pressed.Live (poolToken event token minted)).head? = some pressed ∧
            pressed.actorId = executorId := by
  induction steps generalizing backend with
  | nil =>
      exact ⟨order, offered.stored, fun executorId => by
        simp [offered.opened.unanswered executorId]⟩
  | cons step rest ih =>
      have hapart : ∀ occurrence, .besides occurrence ∈ rest →
          Apart (event.organizationId, event.aggregateId) token occurrence :=
        fun occurrence h => apart occurrence (List.mem_cons_of_mem _ h)
      cases step with
      | besides occurrence =>
          exact ih (offered.besides (apart occurrence List.mem_cons_self)) addressed distinct
            hapart
      | press pressed =>
          rw [pressesOf_press, List.forall_mem_cons] at addressed
          rw [pressesOf_press, List.map_cons, List.nodup_cons] at distinct
          rw [pressesOf_press, List.filter_cons]
          by_cases live : pressed.Live (poolToken event token minted)
          · obtain ⟨later, hlater, hresponses⟩ := apply_interest offered addressed.1 live
            refine ⟨later, order_taken (apply_taken offered addressed.1 live) addressed.2
              (fun other hother heq => distinct.1 (List.mem_map.mpr ⟨other, hother, heq⟩)) hapart
              (consistent_callback offered.regular.records) hlater, fun executorId => ?_⟩
            rw [hresponses]
            by_cases hsame : executorId = pressed.actorId
            · simp [hsame, live]
            · simp [hsame, live, offered.opened.unanswered executorId, Ne.symm hsame]
          · rw [if_neg (by simpa using live)]
            have hrest := ih offered addressed.2 distinct.2 hapart
            rwa [← apply_dead offered addressed.1 live] at hrest

end runs

/-- The button of a committed projection, and every message that carries it. -/
theorem button_of_attempt {publicBaseUrl : Option String} {acts : List Act} {attempt : Attempt}
    (committed : attempt ∈ (Projection.run publicBaseUrl acts).attempts)
    (name : attempt.envelope.data.name = .poolPublished) {message : OutboundMessage}
    (sent : message ∈ attempt.messages) :
    ∃ token minted, attempt.tokens = [poolToken attempt.envelope.data token minted] ∧
      ∀ message ∈ attempt.messages,
        message.buttons = [poolButton attempt.envelope.data token] := by
  cases (broadcasting_run publicBaseUrl acts).attempts attempt committed name with
  | inl hnone =>
      rw [hnone] at sent
      contradiction
  | inr hminted => exact hminted

theorem pool_reaches_everybody_iff (publicBaseUrl : Option String) (acts : List Act)
    {attempt : Attempt} (committed : attempt ∈ (Projection.run publicBaseUrl acts).attempts)
    {mode : PoolMode} {order : WorkOrder} {button : CallbackAction}
    (minted : button ∈ attempt.tokens) (sent : attempt.messages ≠ [])
    (opened : OpenInPool attempt.envelope.data mode order) (past : List Occurrence)
    (unused : (Backend.empty.run past).callbacks.get? button.token = none)
    (stored : (Backend.empty.run past).records.orders.get?
      (attempt.envelope.data.organizationId, attempt.envelope.data.aggregateId) = some order)
    (steps : List PoolStep)
    (received : ∀ pressed ∈ pressesOf steps, pressed.message ∈ attempt.messages)
    (once : ((pressesOf steps).map PoolPress.actorId).Nodup)
    (distinct : ((pressesOf steps).map fun pressed => pressed.press.claimKey).Nodup)
    (apart : ∀ occurrence, .besides occurrence ∈ steps →
      Apart (attempt.envelope.data.organizationId, attempt.envelope.data.aggregateId)
        button.token occurrence) :
    ReachesEverybody button attempt.envelope.data.aggregateId mode
        ((Backend.empty.run past).step (.mint button)) steps ↔
      ((pressesOf steps).filter fun pressed => pressed.Live button).length ≤ 1 ∧
        (mode = .curated → ∀ pressed ∈ pressesOf steps, pressed.Live button) := by
  obtain ⟨message, hsent⟩ := List.exists_mem_of_ne_nil _ sent
  obtain ⟨token, now, htokens, hbuttons⟩ := button_of_attempt committed opened.announced.1 hsent
  rw [htokens, List.mem_singleton] at minted
  subst minted
  have haddressed : ∀ pressed ∈ pressesOf steps,
      Addressed (poolToken attempt.envelope.data token now) pressed := by
    intro pressed hpressed
    have hbutton := hbuttons _ (received pressed hpressed)
    simp [Addressed, PoolPress.press, hbutton, poolButton, poolToken]
  have hoffered : Offered attempt.envelope.data mode order
      (poolToken attempt.envelope.data token now)
      ((Backend.empty.run past).step (.mint (poolToken attempt.envelope.data token now))) := by
    refine ⟨(regular_empty.run past).step _, ?_, opened, stored⟩
    show (PostgresCallbackStore.create _ _).get? _ = _
    unfold PostgresCallbackStore.create
    rw [unused]
    exact Dict.get?_set_self _ _ _
  constructor
  · intro reaches
    refine ⟨one_live hoffered haddressed distinct apart reaches.heard, fun hmode => ?_⟩
    subst hmode
    intro pressed hpressed
    obtain ⟨later, hlater, hresponses⟩ := interested_run hoffered haddressed distinct apart
    obtain ⟨found, hfound, hinterested⟩ := reaches.interested rfl pressed hpressed
    have hsame : later = found := Option.some.inj (hlater.symm.trans hfound)
    subst hsame
    obtain ⟨first, hfirst, hactor⟩ := (hresponses pressed.actorId).mp hinterested
    obtain ⟨hmem, hlive⟩ := List.mem_filter.mp (List.mem_of_mem_head? hfirst)
    rw [← List.inj_on_of_nodup_map once hmem hpressed hactor]
    simpa using hlive
  · rintro ⟨single, live⟩
    have heach := each_offered hoffered haddressed apart single
    refine ⟨heach.imp fun pressed hpressed found h hlive => ?_, fun hmode => ?_,
      fun hmode => heach.imp fun pressed hpressed found h hlive hopen hfree => ?_⟩
    · have hresolve := resolve_offered (h hlive) hlive
      show (resolveCallback pressed.surroundings
        (pressed.identity attempt.envelope.data.organizationId) pressed.press token found).1.isSome
      rw [hresolve]
      rfl
    · subst hmode
      intro pressed hpressed
      obtain ⟨later, hlater, hresponses⟩ := interested_run hoffered haddressed distinct apart
      refine ⟨later, hlater, (hresponses pressed.actorId).mpr ⟨pressed, ?_, rfl⟩⟩
      have hall := List.filter_eq_self.mpr fun other hother =>
        decide_eq_true (live rfl other hother)
      rw [hall] at single ⊢
      rcases hpresses : pressesOf steps with _ | ⟨only, _ | ⟨second, rest⟩⟩
      · rw [hpresses] at hpressed
        contradiction
      · rw [hpresses, List.mem_singleton] at hpressed
        rw [hpressed]
        rfl
      · rw [hpresses] at single
        simp at single
    · subst hmode
      exact apply_claim (h hlive) (haddressed pressed hpressed) hlive hfree

/-! Two masters, one message each, one button. -/

def poolActs : List Act :=
  [.append Projection.sampleEvent ⟨0⟩, .claim 0 ⟨none⟩ 50 120 (fun _ => false) ⟨0⟩,
    .start 0 ⟨some Projection.sampleOrder, "card", none, none⟩,
    .prepare 0 ["t1"] Projection.sampleMasters ⟨0⟩, .insert 0 ⟨0⟩, .insert 0 ⟨0⟩, .insert 0 ⟨0⟩,
    .commit 0 ⟨0⟩]

def poolPast : List Occurrence :=
  [.command sampleCreation ⟨"A001", false⟩,
    .command (.change ⟨⟨1⟩, "e1"⟩ "acme" "o1" (.publishPool .curated none) trivial) ⟨"", false⟩]

def samplePoolPress (account actorId : String) (named : actorId ≠ "") : PoolPress :=
  ⟨{ deduplicationKey := "e1:pool:telegram:" ++ account, organizationId := "acme",
     provider := .telegram, recipientId := account, text := "card",
     buttons := [⟨"Готов взять", some "t1", none, false, 0⟩], consumerKey := "master",
     createdAt := ⟨0⟩ }, "press:" ++ account, actorId, sampleSurroundings, named⟩

def annPress : PoolPress := samplePoolPress "1" "ann" (by decide)

def bobPress : PoolPress := samplePoolPress "2" "bob" (by decide)

def poolSample : CallbackAction := poolToken Projection.sampleEvent "t1" ⟨0⟩

/-- The projection of the event. -/
def poolAttempt : Attempt :=
  ⟨⟨"e1", Projection.sampleEvent, 1⟩, [annPress.message, bobPress.message], [poolSample],
    [("pool", ⟨.telegram, "1", .master⟩), ("pool", ⟨.telegram, "2", .master⟩)]⟩

theorem poolAttempt_committed : poolAttempt ∈ (Projection.run none poolActs).attempts := by
  have h : (Projection.run none poolActs).attempts = [poolAttempt] := rfl
  rw [h]
  exact List.mem_singleton.mpr rfl

/-- Ann and Bob both press in time, and Bob's interest is lost. -/
theorem second_interest_lost :
    poolAttempt ∈ (Projection.run none poolActs).attempts ∧
      annPress.message ∈ poolAttempt.messages ∧ bobPress.message ∈ poolAttempt.messages ∧
      annPress.Live poolSample ∧ bobPress.Live poolSample ∧
      ¬ReachesEverybody poolSample "o1" .curated
        ((Backend.empty.run poolPast).step (.mint poolSample))
        [.press annPress, .press bobPress] := by
  refine ⟨poolAttempt_committed, by decide, by decide, by decide, by decide, fun reaches => ?_⟩
  obtain ⟨order, horder, hinterested⟩ := reaches.interested rfl bobPress (by simp)
  have hlost : ((runPool poolSample.organizationId
      ((Backend.empty.run poolPast).step (.mint poolSample))
      [.press annPress, .press bobPress]).records.orders.get?
        (poolSample.organizationId, "o1")).map (fun order => order.responseStatus "bob") =
      some none := by
    decide +kernel
  rw [horder] at hlost
  have hnone : order.responseStatus "bob" = none := Option.some.inj hlost
  rw [show bobPress.actorId = "bob" from rfl, hnone] at hinterested
  contradiction

/-- Bob alone is heard. -/
theorem single_interest_kept :
    ReachesEverybody poolSample "o1" .curated
      ((Backend.empty.run poolPast).step (.mint poolSample)) [.press bobPress] := by
  have hfacts : ((Backend.empty.run poolPast).records.orders.get? ("acme", "o1")).map
      (fun order => (order.status, order.poolMode, order.poolResponses.entries)) =
      some (.poolOpen, some .curated, []) := by decide +kernel
  obtain ⟨order, hstored, hfacts⟩ := Option.map_eq_some_iff.mp hfacts
  simp only [Prod.mk.injEq] at hfacts
  obtain ⟨hstatus, hmode, hresponses⟩ := hfacts
  have hopened : OpenInPool poolAttempt.envelope.data .curated order := by
    refine ⟨⟨rfl, by decide⟩, hstatus, hmode, fun executorId => ?_⟩
    simp [WorkOrder.responseStatus, Dict.get?, hresponses, Dict.lookup]
  exact (pool_reaches_everybody_iff none poolActs poolAttempt_committed
    (List.mem_singleton.mpr rfl) (by simp [poolAttempt]) hopened poolPast (by decide +kernel)
    hstored [.press bobPress] (by simp [poolAttempt]) (by simp) (by simp) (by simp)).mpr
    ⟨by decide, by decide⟩

end DispatchCore.Messaging
