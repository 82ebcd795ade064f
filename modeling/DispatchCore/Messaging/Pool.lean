import DispatchCore.Messaging.Projector
import DispatchCore.Messaging.Redelivery

/-! The pool broadcast from its projection to the presses of the masters.  All
messages of one projection carry the one button minted for their plan, and a token
is claimed by one event: the first press in time has the button to itself. -/
namespace DispatchCore.Messaging

open DispatchCore.Library DispatchCore.Domain DispatchCore.Infrastructure
  DispatchCore.Application

/-! ### One button for everybody -/

section broadcast

variable (event : DomainEvent)

def poolAction : String :=
  if event.payload.textAt "mode" = "curated" then "pool_interest" else "pool_claim"

def poolText : String :=
  if event.payload.textAt "mode" = "curated" then "Готов взять" else "Взять заявку"

def poolPlan (card : String) : RecipientPlan :=
  broadcast .master card "pool"
    [actionButton event.aggregateId (poolText event) (poolAction event) .master 0]

/-- What the token of the pool's button stands for. -/
def poolToken (token : String) (now : Instant) : CallbackAction :=
  ⟨token, event.organizationId, poolAction event, orderPayload event.aggregateId,
    some .master, now.addSeconds buttonLifetime⟩

def poolButton (token : String) : OutboundButton :=
  ⟨poolText event, some token, none, false, 0⟩

end broadcast

theorem plans_poolPublished {publicBaseUrl : Option String} {event : DomainEvent}
    {readings : Readings} {planned : List RecipientPlan} (name : event.name = .poolPublished)
    (h : plans publicBaseUrl event readings = .ok planned) :
    planned = [] ∨ ∃ card, planned = [poolPlan event card] := by
  unfold plans at h
  split at h
  · rw [name] at h
    cases h
    exact .inr ⟨readings.card, by simp [poolPlan, poolText, poolAction]⟩
  · cases h
    exact .inl rfl

theorem mintButtons_pool (event : DomainEvent) (now : Instant) (card : String)
    (fresh : List String) :
    mintButtons event.organizationId now (poolPlan event card).buttons fresh =
      ([poolButton event (fresh.headD "")], [poolToken event (fresh.headD "") now]) := rfl

/-- The transaction has minted the one token, and every message it writes has it. -/
def Minted (event : DomainEvent) (messages : List OutboundMessage)
    (tokens : List CallbackAction) : Prop :=
  ∃ token now, tokens = [poolToken event token now] ∧
    ∀ message ∈ messages, message.buttons = [poolButton event token]

/-- A transaction for the pool: before its plan, or after. -/
def Pooling (flight : Flight) : Prop :=
  flight.envelope.data.name = .poolPublished →
    (flight.inserting = none ∧ flight.messages = [] ∧ flight.tokens = [] ∧
      (flight.plans = [] ∨ ∃ card, flight.plans = [poolPlan flight.envelope.data card])) ∨
    (flight.plans = [] ∧ ∃ token now,
      flight.tokens = [poolToken flight.envelope.data token now] ∧
      (∀ plan buttons rest, flight.inserting = some (plan, buttons, rest) →
        buttons = [poolButton flight.envelope.data token]) ∧
      ∀ message ∈ flight.messages,
        message.buttons = [poolButton flight.envelope.data token])

theorem Pooling.prepared {projection : Projection} {flight changed : Flight}
    {fresh : List String} {identities : Identities} {now : Instant} (pooling : Pooling flight)
    (h : projection.prepared flight fresh identities now = some changed) : Pooling changed := by
  unfold Projection.prepared at h
  split at h
  · rename_i plan rest hinserting hplans
    dsimp only at h
    split at h
    · cases h
      intro name
      cases pooling name with
      | inl before =>
          obtain ⟨-, hmessages, htokens, hnone | ⟨card, hcard⟩⟩ := before
          · rw [hnone] at hplans
            contradiction
          · rw [hcard] at hplans
            cases hplans
            refine .inr ⟨rfl, fresh.headD "", now, ?_, ?_, ?_⟩
            · simp only [htokens, mintButtons_pool, List.nil_append]
            · intro plan buttons rest hcurrent
              cases hcurrent
              rfl
            · intro message hmessage
              rw [hmessages] at hmessage
              contradiction
      | inr after =>
          rw [after.1] at hplans
          contradiction
    · contradiction
  · contradiction

theorem Pooling.inserted {projection : Projection} {index : Nat} {flight changed : Flight}
    {now : Instant} (pooling : Pooling flight)
    (h : projection.inserted index flight now = some changed) : Pooling changed := by
  have hlater : flight.envelope.data.name = .poolPublished → flight.inserting ≠ none →
      flight.plans = [] ∧ ∃ token now,
        flight.tokens = [poolToken flight.envelope.data token now] ∧
        (∀ plan buttons rest, flight.inserting = some (plan, buttons, rest) →
          buttons = [poolButton flight.envelope.data token]) ∧
        ∀ message ∈ flight.messages,
          message.buttons = [poolButton flight.envelope.data token] := by
    intro name hsome
    cases pooling name with
    | inl before => exact absurd before.1 hsome
    | inr after => exact after
  unfold Projection.inserted at h
  split at h
  · rename_i plan buttons recipient rest hinserting
    have hbuttons : flight.envelope.data.name = .poolPublished →
        Pooling { flight with inserting := some (plan, buttons, rest) } := by
      intro name _
      obtain ⟨hplans, token, minted, htokens, hcurrent, hmessages⟩ :=
        hlater name (by rw [hinserting]; simp)
      refine .inr ⟨hplans, token, minted, htokens, fun other left remaining hother => ?_,
        hmessages⟩
      cases hother
      exact hcurrent plan buttons _ hinserting
    dsimp only at h
    split at h
    · contradiction
    · split at h
      · cases h
        exact fun name => hbuttons name name
      · cases h
        intro name
        obtain ⟨hplans, token, minted, htokens, hcurrent, hmessages⟩ :=
          hlater name (by rw [hinserting]; simp)
        have hown : buttons = [poolButton flight.envelope.data token] :=
          hcurrent plan buttons _ hinserting
        refine .inr ⟨hplans, token, minted, htokens, fun other left remaining hother => ?_,
          fun message hmessage => ?_⟩
        · cases hother
          exact hown
        · cases List.mem_append.mp hmessage with
          | inl hold => exact hmessages message hold
          | inr hnew =>
              rw [List.mem_singleton] at hnew
              subst hnew
              exact hown
  · rename_i plan buttons hinserting
    cases h
    intro name
    obtain ⟨hplans, token, minted, htokens, -, hmessages⟩ :=
      hlater name (by rw [hinserting]; simp)
    exact .inr ⟨hplans, token, minted, htokens, fun _ _ _ hother => (by contradiction), hmessages⟩
  · contradiction

/-- The transactions under way and the committed ones keep to the shape. -/
structure Broadcasting (projection : Projection) : Prop where
  flights : ∀ flight ∈ projection.flights, Pooling flight
  attempts : ∀ attempt ∈ projection.attempts, attempt.envelope.data.name = .poolPublished →
    attempt.messages = [] ∨ Minted attempt.envelope.data attempt.messages attempt.tokens

theorem Broadcasting.set {projection : Projection} (broadcasting : Broadcasting projection)
    {index : Nat} {changed : Flight} (pooling : Pooling changed) :
    Broadcasting { projection with flights := projection.flights.set index changed } := by
  refine ⟨fun flight hflight => ?_, broadcasting.attempts⟩
  cases List.mem_or_eq_of_mem_set hflight with
  | inl hold => exact broadcasting.flights flight hold
  | inr hnew => exact hnew ▸ pooling

theorem Broadcasting.committed {projection : Projection} (broadcasting : Broadcasting projection)
    {index : Nat} {flight : Flight} (pooling : Pooling flight) (now : Instant) :
    Broadcasting (projection.committed index flight now) := by
  refine ⟨fun other hother => broadcasting.flights other (List.mem_of_mem_eraseIdx hother),
    fun attempt hattempt name => ?_⟩
  cases List.mem_append.mp hattempt with
  | inl hold => exact broadcasting.attempts attempt hold name
  | inr hnew =>
      rw [List.mem_singleton] at hnew
      subst hnew
      cases pooling name with
      | inl before => exact .inl before.2.1
      | inr after =>
          obtain ⟨-, token, minted, htokens, -, hmessages⟩ := after
          exact .inr ⟨token, minted, htokens, hmessages⟩

theorem Broadcasting.start {publicBaseUrl : Option String} {projection : Projection}
    (broadcasting : Broadcasting projection) {site : Site String DomainEvent} {worker : Nat}
    {envelope : Envelope String DomainEvent} {readings : Readings} {planned : List RecipientPlan}
    (plan : plans publicBaseUrl envelope.data readings = .ok planned) :
    Broadcasting
      { projection with
        site
        flights := projection.flights ++ [⟨worker, envelope, planned, none, [], [], []⟩] } := by
  refine ⟨fun flight hflight => ?_, broadcasting.attempts⟩
  cases List.mem_append.mp hflight with
  | inl hold => exact broadcasting.flights flight hold
  | inr hnew =>
      rw [List.mem_singleton] at hnew
      subst hnew
      exact fun name => .inl ⟨rfl, rfl, rfl, plans_poolPublished name plan⟩

theorem Broadcasting.step {publicBaseUrl : Option String} {projection : Projection}
    (broadcasting : Broadcasting projection) (act : Act) :
    Broadcasting (projection.step publicBaseUrl act) := by
  have hflight {index : Nat} {flight : Flight} (found : projection.flights[index]? = some flight) :
      Pooling flight := broadcasting.flights flight (List.mem_of_getElem? found)
  cases act with
  | append event now => exact ⟨broadcasting.flights, broadcasting.attempts⟩
  | claim worker query limit staleAfterSeconds locked now =>
      exact ⟨broadcasting.flights, broadcasting.attempts⟩
  | markFailed index error fraction now => exact ⟨broadcasting.flights, broadcasting.attempts⟩
  | crash worker =>
      exact ⟨fun flight hmem => broadcasting.flights flight (List.mem_filter.mp hmem).1,
        broadcasting.attempts⟩
  | start index readings =>
      cases hitem : projection.site.held[index]? with
      | none => simpa only [Projection.step, hitem] using broadcasting
      | some item =>
          cases hplan : plans publicBaseUrl item.2.data readings with
          | error failure => simpa only [Projection.step, hitem, hplan] using broadcasting
          | ok planned =>
              simpa only [Projection.step, hitem, hplan] using broadcasting.start hplan
  | prepare index fresh identities now =>
      cases found : projection.flights[index]? with
      | none => simpa only [Projection.step, found] using broadcasting
      | some flight =>
          cases hprepared : projection.prepared flight fresh identities now with
          | none => simpa only [Projection.step, found, hprepared] using broadcasting
          | some changed =>
              simpa only [Projection.step, found, hprepared] using
                broadcasting.set ((hflight found).prepared hprepared)
  | insert index now =>
      cases found : projection.flights[index]? with
      | none => simpa only [Projection.step, found] using broadcasting
      | some flight =>
          cases hinserted : projection.inserted index flight now with
          | none => simpa only [Projection.step, found, hinserted] using broadcasting
          | some changed =>
              simpa only [Projection.step, found, hinserted] using
                broadcasting.set ((hflight found).inserted hinserted)
  | commit index now =>
      cases found : projection.flights[index]? with
      | none => simpa only [Projection.step, found] using broadcasting
      | some flight =>
          simp only [Projection.step, found]
          split
          · exact broadcasting.committed (hflight found) now
          · exact broadcasting
  | abort index =>
      cases found : projection.flights[index]? with
      | none => simpa only [Projection.step, found] using broadcasting
      | some flight =>
          simp only [Projection.step, found]
          exact ⟨fun other hother => broadcasting.flights other (List.mem_of_mem_eraseIdx hother),
            broadcasting.attempts⟩

theorem broadcasting_run (publicBaseUrl : Option String) (acts : List Act) :
    Broadcasting (Projection.run publicBaseUrl acts) := by
  have hfold : ∀ projection, Broadcasting projection →
      Broadcasting (acts.foldl (Projection.step publicBaseUrl) projection) := by
    induction acts with
    | nil => exact fun _ broadcasting => broadcasting
    | cons act rest ih => exact fun _ broadcasting => ih _ (broadcasting.step act)
  exact hfold _ ⟨fun _ h => (nomatch h), fun _ h => (nomatch h)⟩

/-! ### Presses of the masters -/

/-- The order stands in the pool that the event announces. -/
structure OpenInPool (event : DomainEvent) (mode : PoolMode) (order : WorkOrder) : Prop where
  announced : event.name = .poolPublished ∧ event.payload.textAt "mode" = mode.value
  status : order.status = .poolOpen
  poolMode : order.poolMode = some mode
  unanswered : ∀ executorId, order.responseStatus executorId ≠ some .interested

/-- Publishing an order leaves it as its event says. -/
theorem openInPool_publish (ambient : Ambient) (mode : PoolMode) (actorId : Option String)
    {order : WorkOrder} (sound : Domain.Sound order) (pulled : order.events = [])
    (enabled : (Call.publishPool mode actorId).Enabled order) :
    ∃ event, ((Call.publishPool mode actorId).change ambient none order).events = [event] ∧
      event.aggregateType = .workOrder ∧ (event.organizationId, event.aggregateId) = orderKey order ∧
      OpenInPool event mode
        ((Call.publishPool mode actorId).change ambient none order).pullEvents.2 := by
  have hchange : (Call.publishPool mode actorId).change ambient none order =
      ((Call.publishPool mode actorId).writes ambient.clock order).recorded ambient
        (Call.publishPool mode actorId).eventName (Call.publishPool mode actorId).payload
        none := if_neg fun idle => idle
  rw [hchange]
  refine ⟨_, by simp [WorkOrder.recorded, pulled]; rfl, rfl, rfl, ⟨rfl, ?_⟩, rfl, rfl,
    sound.not_interested (by simp [enabled.1])⟩
  cases mode <;> rfl

/-- A master presses the button of a message that was sent to the master. -/
structure PoolPress where
  message : OutboundMessage
  externalEventId : String
  actorId : String
  surroundings : Surroundings
  named : actorId ≠ ""

namespace PoolPress

def press (pressed : PoolPress) : Press :=
  ⟨pressed.message.provider, pressed.externalEventId,
    pressed.message.buttons.head?.bind OutboundButton.callbackToken⟩

def identity (pressed : PoolPress) (organizationId : String) : ActorIdentity :=
  ⟨organizationId, pressed.actorId, .master⟩

/-- The press comes before the button expires. -/
def Live (button : CallbackAction) (pressed : PoolPress) : Prop :=
  pressed.surroundings.resolvedAt < button.expiresAt

instance (button : CallbackAction) (pressed : PoolPress) : Decidable (pressed.Live button) :=
  inferInstanceAs (Decidable (_ < _))

/-- The press is not refused as stale. -/
def Heard (button : CallbackAction) (pressed : PoolPress) (backend : Backend) : Prop :=
  (resolveCallback pressed.surroundings (pressed.identity button.organizationId) pressed.press
    button.token backend).1.isSome

end PoolPress

/-- A press, or something that happens besides. -/
inductive PoolStep
  | press (pressed : PoolPress)
  | besides (occurrence : Occurrence)

def pressesOf (steps : List PoolStep) : List PoolPress :=
  steps.filterMap fun step =>
    match step with
    | .press pressed => some pressed
    | .besides _ => none

/-- What happens besides leaves the order and its button alone. -/
def Apart (key : Key) (token : String) : Occurrence → Prop
  | .command command _ => ∀ call, command.call? ≠ some (key, call)
  | .resolve name _ _ _ _ _ => name ≠ token
  | .complete name _ _ _ => name ≠ token
  | _ => True

section steps

variable (organizationId : String)

def PoolStep.apply (backend : Backend) : PoolStep → Backend
  | .press pressed =>
      (callback pressed.surroundings (pressed.identity organizationId) pressed.press backend).2
  | .besides occurrence => backend.step occurrence

def runPool (backend : Backend) (steps : List PoolStep) : Backend :=
  steps.foldl (PoolStep.apply organizationId) backend

/-- Every press of the run has the property in the state it finds. -/
def EachPress (property : PoolPress → Backend → Prop) : List PoolStep → Backend → Prop
  | [], _ => True
  | .press pressed :: rest, backend =>
      property pressed backend ∧
        EachPress property rest (PoolStep.apply organizationId backend (.press pressed))
  | .besides occurrence :: rest, backend => EachPress property rest (backend.step occurrence)

end steps

/-- No recipient is worse off for the presses of the others: nobody in time is told that
the button is stale, every interest is recorded, and as long as the order stands in the
pool a master who is free can claim it. -/
structure ReachesEverybody (button : CallbackAction) (orderId : String) (mode : PoolMode)
    (backend : Backend) (steps : List PoolStep) : Prop where
  heard : EachPress button.organizationId
    (fun pressed found => pressed.Live button → pressed.Heard button found) steps backend
  interested : mode = .curated → ∀ pressed ∈ pressesOf steps, ∃ order,
    (runPool button.organizationId backend steps).records.orders.get?
        (button.organizationId, orderId) = some order ∧
      order.responseStatus pressed.actorId = some .interested
  granted : mode = .firstClaim → EachPress button.organizationId (fun pressed found =>
    pressed.Live button →
    (∃ order, found.records.orders.get? (button.organizationId, orderId) = some order ∧
      order.status = .poolOpen) →
    FreeBut found.records (button.organizationId, orderId)
      (button.organizationId, pressed.actorId) →
    ∃ order, (PoolStep.apply button.organizationId found (.press pressed)).records.orders.get?
        (button.organizationId, orderId) = some order ∧
      order.assigneeId = some pressed.actorId) steps backend

end DispatchCore.Messaging
