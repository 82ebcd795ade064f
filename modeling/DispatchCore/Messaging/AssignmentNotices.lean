import DispatchCore.Application.Histories
import DispatchCore.Library.Runs
import DispatchCore.Messaging.Projection

/-! Who is told of an assignment.  A projector reads the order as it is when it comes to the event,
which may be long after the event and several commands later. -/
namespace DispatchCore.Messaging

open DispatchCore.Library DispatchCore.Domain DispatchCore.Infrastructure
  DispatchCore.Application

/-! ### What a step of the projectors does -/

namespace Projection

variable {publicBaseUrl : Option String} {projection : Projection}

/-- The steps of the projectors by what becomes of the transactions and the messages. -/
inductive Moves (publicBaseUrl : Option String) (projection : Projection) :
    Act → Projection → Prop
  | stays {act : Act} {after : Projection} (flights : after.flights.Sublist projection.flights)
      (messages : after.messages = projection.messages)
      (attempts : after.attempts = projection.attempts) : Moves publicBaseUrl projection act after
  | starts {index worker : Nat} {readings : Readings} {envelope : Envelope String DomainEvent}
      {planned : List RecipientPlan} {after : Projection}
      (held : projection.site.held[index]? = some (worker, envelope))
      (plan : plans publicBaseUrl envelope.data readings = .ok planned)
      (flights : after.flights = projection.flights ++ [⟨worker, envelope, planned, none, [], [], []⟩])
      (messages : after.messages = projection.messages)
      (attempts : after.attempts = projection.attempts) :
      Moves publicBaseUrl projection (.start index readings) after
  | prepares {index : Nat} {fresh : List String} {identities : Identities} {now : Instant}
      {flight changed : Flight} (found : projection.flights[index]? = some flight)
      (prepared : projection.prepared flight fresh identities now = some changed) :
      Moves publicBaseUrl projection (.prepare index fresh identities now)
        (projection.updated index changed)
  | inserts {index : Nat} {now : Instant} {flight changed : Flight}
      (found : projection.flights[index]? = some flight)
      (inserted : projection.inserted index flight now = some changed) :
      Moves publicBaseUrl projection (.insert index now) (projection.updated index changed)
  | commits {index : Nat} {now : Instant} {flight : Flight}
      (found : projection.flights[index]? = some flight) :
      Moves publicBaseUrl projection (.commit index now) (projection.committed index flight now)

theorem step_moves (publicBaseUrl : Option String) (projection : Projection) (act : Act) :
    Moves publicBaseUrl projection act (projection.step publicBaseUrl act) := by
  have idle : ∀ act, Moves publicBaseUrl projection act projection := fun act =>
    .stays (List.Sublist.refl _) rfl rfl
  cases act with
  | append event now => exact .stays (List.Sublist.refl _) rfl rfl
  | claim worker query limit staleAfterSeconds locked now =>
      exact .stays (List.Sublist.refl _) rfl rfl
  | markFailed index error fraction now => exact .stays (List.Sublist.refl _) rfl rfl
  | crash worker => exact .stays List.filter_sublist rfl rfl
  | start index readings =>
      cases hitem : projection.site.held[index]? with
      | none => simpa only [Projection.step, hitem] using idle _
      | some item =>
          cases hplan : plans publicBaseUrl item.2.data readings with
          | error failure => simpa only [Projection.step, hitem, hplan] using idle _
          | ok planned =>
              simp only [Projection.step, hitem, hplan]
              exact .starts hitem hplan rfl rfl rfl
  | prepare index fresh identities now =>
      cases hflight : projection.flights[index]? with
      | none => simpa only [Projection.step, hflight] using idle _
      | some flight =>
          cases hprepared : projection.prepared flight fresh identities now with
          | none => simpa only [Projection.step, hflight, hprepared] using idle _
          | some changed =>
              simp only [Projection.step, hflight, hprepared]
              exact .prepares hflight hprepared
  | insert index now =>
      cases hflight : projection.flights[index]? with
      | none => simpa only [Projection.step, hflight] using idle _
      | some flight =>
          cases hinserted : projection.inserted index flight now with
          | none => simpa only [Projection.step, hflight, hinserted] using idle _
          | some changed =>
              simp only [Projection.step, hflight, hinserted]
              exact .inserts hflight hinserted
  | commit index now =>
      cases hflight : projection.flights[index]? with
      | none => simpa only [Projection.step, hflight] using idle _
      | some flight =>
          by_cases hdone : flight.plans.isEmpty ∧ flight.inserting.isNone
          · simp only [Projection.step, hflight, if_pos hdone]
            exact .commits hflight
          · simpa only [Projection.step, hflight, if_neg hdone] using idle _
  | abort index =>
      cases hflight : projection.flights[index]? with
      | none => simpa only [Projection.step, hflight] using idle _
      | some flight =>
          simp only [Projection.step, hflight]
          exact .stays (List.eraseIdx_sublist _ _) rfl rfl

/-- No key is written twice, and the visible messages are those of the committed projections. -/
structure Distinct (projection : Projection) : Prop where
  keys : (Projection.keys projection.written).Nodup
  messages : projection.messages = projection.attempts.flatMap Attempt.messages

theorem distinct_empty : Distinct .empty := ⟨List.nodup_nil, rfl⟩

theorem prepared_kept {flight changed : Flight} {fresh : List String} {identities : Identities}
    {now : Instant} (h : projection.prepared flight fresh identities now = some changed) :
    changed.envelope = flight.envelope ∧ changed.messages = flight.messages := by
  unfold Projection.prepared at h
  rcases hinserting : flight.inserting with _ | current
  · rcases hplans : flight.plans with _ | ⟨plan, rest⟩
    · simp [hinserting, hplans] at h
    · simp only [hinserting, hplans, Option.ite_none_right_eq_some, Option.some.injEq] at h
      rw [← h.2]
      exact ⟨rfl, rfl⟩
  · simp [hinserting] at h

theorem envelope_inserted {flight changed : Flight} {index : Nat} {now : Instant}
    (h : projection.inserted index flight now = some changed) :
    changed.envelope = flight.envelope := by
  unfold Projection.inserted at h
  rcases hinserting : flight.inserting with _ | ⟨plan, buttons, _ | ⟨recipient, rest⟩⟩
  · simp [hinserting] at h
  · simp only [hinserting, Option.some.injEq] at h
    rw [← h]
  · simp only [hinserting, Option.ite_none_left_eq_some] at h
    obtain ⟨-, h⟩ := h
    split at h <;> cases h <;> rfl

theorem Distinct.moves {act : Act} {after : Projection} (distinct : Distinct projection)
    (moves : Moves publicBaseUrl projection act after) : Distinct after := by
  cases moves with
  | stays flights messages attempts =>
      constructor
      · have hwritten : after.written.Sublist projection.written := by
          unfold written
          rw [messages]
          exact (List.Sublist.flatMap flights _).append_left _
        exact List.Nodup.sublist (hwritten.map _) distinct.keys
      · rw [messages, attempts]
        exact distinct.messages
  | starts held plan flights messages attempts =>
      constructor
      · unfold written
        rw [messages, flights]
        simpa [written] using distinct.keys
      · rw [messages, attempts]
        exact distinct.messages
  | prepares found prepared =>
      refine ⟨((updated_perm found).map _).nodup_iff.mpr ?_, distinct.messages⟩
      rw [(prepared_kept prepared).2]
      exact ((written_perm found).map _).nodup_iff.mp distinct.keys
  | inserts found inserted =>
      exact ⟨((updated_perm found).map _).nodup_iff.mpr
        (distinct_inserted distinct.keys found inserted), distinct.messages⟩
  | @commits index now flight found =>
      constructor
      · exact ((written_perm found).map _).nodup_iff.mp distinct.keys
      · change projection.messages ++ flight.messages = (projection.attempts ++ _).flatMap _
        rw [List.flatMap_append, ← distinct.messages]
        simp

end Projection

/-! ### The orders and their projectors -/

/-- A projector's look for the recipients of a plan, with the tables it found. -/
structure Lookup where
  event : DomainEvent
  plan : RecipientPlan
  identities : Identities

/-- The account belonged to the actor. -/
def Lookup.Finds (lookup : Lookup) (provider : Provider) (externalUserId actorId : String) : Prop :=
  lookup.identities.externalIdentities.get?
    (lookup.event.organizationId, .messenger provider, externalUserId) = some actorId

/-- The orders, the outbox with its projectors, and what the projectors have looked up. -/
structure Dispatch where
  records : Records
  projection : Projection
  lookups : List Lookup

/-- A step of the projectors that is neither an event's insertion nor a look at its order. -/
def Act.Own : Act → Prop
  | .append _ _ => False
  | .start _ _ => False
  | _ => True

inductive Turn
  | command (command : Command) (answers : Answers) (now : Instant)
  | start (index : Nat) (card : String) (publicToken locationToken : Option String)
  | work (act : Act) (own : act.Own)

/-- What a step of the projectors looks up. -/
def Projection.looks (projection : Projection) : Act → List Lookup
  | .prepare index fresh identities now =>
      (projection.flights[index]?.bind fun flight =>
        (projection.prepared flight fresh identities now).bind fun _ =>
          flight.plans.head?.map fun plan => ⟨flight.envelope.data, plan, identities⟩).toList
  | _ => []

namespace Dispatch

def empty : Dispatch := ⟨.empty, .empty, []⟩

/-- The events of a commit enter the outbox. -/
def appended (publicBaseUrl : Option String) (now : Instant) (projection : Projection)
    (events : List DomainEvent) : Projection :=
  events.foldl (fun current event => current.step publicBaseUrl (.append event now)) projection

/-- A command commits its orders and its events together; a projection reads the order's current
row, whatever the event. -/
def step (publicBaseUrl : Option String) (dispatch : Dispatch) : Turn → Dispatch
  | .command command answers now =>
      let records := Command.settled (command, answers) dispatch.records
      { dispatch with
        records
        projection := appended publicBaseUrl now dispatch.projection
          (records.outboxEvents.drop dispatch.records.outboxEvents.length) }
  | .start index card publicToken locationToken =>
      match dispatch.projection.site.held[index]? with
      | none => dispatch
      | some (_, envelope) =>
          let order := dispatch.records.orders.get?
            (envelope.data.organizationId, envelope.data.aggregateId)
          { dispatch with
            projection := dispatch.projection.step publicBaseUrl
              (.start index ⟨order, card, publicToken, locationToken⟩) }
  | .work act _ =>
      { dispatch with
        projection := dispatch.projection.step publicBaseUrl act
        lookups := dispatch.lookups ++ dispatch.projection.looks act }

/-- Who is on the event's order. -/
def holder (dispatch : Dispatch) (event : DomainEvent) : Option String :=
  (dispatch.records.orders.get? (event.organizationId, event.aggregateId)).bind fun order =>
    truthy order.assigneeId

end Dispatch

def Assigns (event : DomainEvent) : Prop := event.name = .assigned ∨ event.name = .firstClaimWon

instance (event : DomainEvent) : Decidable (Assigns event) :=
  inferInstanceAs (Decidable (_ ∨ _))

/-- The executor of the event. -/
def executorOf (event : DomainEvent) : String := event.payload.textAt "executor_id"

/-- One executor's assignment, by the event that tells of it. -/
structure Assignment where
  eventId : String
  executorId : String
deriving DecidableEq

def assignmentOf (event : DomainEvent) : Option Assignment :=
  if Assigns event then some ⟨event.eventId, executorOf event⟩ else none

/-- The message has a button that accepts or rejects the order. -/
def Attempt.Offers (attempt : Attempt) (message : OutboundMessage) : Prop :=
  ∃ button ∈ message.buttons, ∃ token ∈ attempt.tokens,
    button.callbackToken = some token.token ∧ (token.action = "accept" ∨ token.action = "reject")

instance (attempt : Attempt) (message : OutboundMessage) : Decidable (attempt.Offers message) :=
  inferInstanceAs (Decidable (∃ button ∈ message.buttons, ∃ token ∈ attempt.tokens, _))

/-- The messages that tell of the assignment, as the senders see them. -/
def Dispatch.notices (dispatch : Dispatch) (assignment : Assignment) : List OutboundMessage :=
  dispatch.projection.attempts.flatMap fun attempt =>
    if assignmentOf attempt.envelope.data = some assignment then
      attempt.messages.filter fun message => attempt.Offers message
    else []

/-- No two looks for one event found two accounts of one actor. -/
def Dispatch.SoleAccounts (dispatch : Dispatch) : Prop :=
  ∀ first ∈ dispatch.lookups, ∀ second ∈ dispatch.lookups,
    first.event.eventId = second.event.eventId →
      ∀ provider channel user somebody actorId, first.Finds provider user actorId →
        second.Finds channel somebody actorId → provider = channel ∧ user = somebody

/-- An assignment is told to its executor, once on each account of theirs. -/
structure Dispatch.WellAddressed (dispatch : Dispatch) : Prop where
  addressed : ∀ attempt ∈ dispatch.projection.attempts, Assigns attempt.envelope.data →
    ∀ message ∈ attempt.messages, attempt.Offers message →
      ∃ lookup ∈ dispatch.lookups, lookup.event = attempt.envelope.data ∧
        lookup.Finds message.provider message.recipientId (executorOf attempt.envelope.data)
  once : ∀ assignment provider user, ((dispatch.notices assignment).filter fun message =>
    message.provider = provider ∧ message.recipientId = user).length ≤ 1
  solely : dispatch.SoleAccounts → ∀ assignment, (dispatch.notices assignment).length ≤ 1

/-- Nobody else is on the order when a projector comes to an assignment of it. -/
def Timely (dispatch : Dispatch) : Turn → Prop
  | .start index _ _ _ => ∀ item ∈ dispatch.projection.site.held[index]?,
      Assigns item.2.data → ∀ holder ∈ dispatch.holder item.2.data, holder = executorOf item.2.data
  | _ => True

instance (dispatch : Dispatch) (turn : Turn) : Decidable (Timely dispatch turn) :=
  match turn with
  | .start _ _ _ _ => inferInstanceAs (Decidable (∀ item ∈ dispatch.projection.site.held[_]?, _))
  | .command _ _ _ => instDecidableTrue
  | .work _ _ => instDecidableTrue

/-! ### From the plan to the message -/

section letters

variable {publicBaseUrl : Option String} {event : DomainEvent} {lookups later : List Lookup}
  {projection : Projection} {flight changed : Flight}

/-- Every account a look for one actor finds is that actor's. -/
theorem recipients_owner {identities : Identities} {organizationId actorId : String}
    {deliveryRole : Option Role} {recipient : Recipient}
    (mem : recipient ∈ identities.recipients organizationId [actorId] [] deliveryRole) :
    identities.externalIdentities.get?
      (organizationId, .messenger recipient.provider, recipient.externalUserId) = some actorId := by
  unfold Identities.recipients at mem
  rw [if_neg (by simp), List.mem_insertionSort] at mem
  obtain ⟨⟨⟨tenant, channel, user⟩, actor⟩, hentry, hfound⟩ := List.mem_filterMap.mp mem
  unfold Identities.recipient at hfound
  cases channel with
  | web => contradiction
  | api => contradiction
  | messenger provider =>
      rcases hrow : identities.actors.get? (tenant, actor) with _ | row
      · simp [hrow] at hfound
      · simp only [hrow, List.mem_singleton, List.any_nil, Bool.false_eq_true, or_false,
          Option.ite_none_right_eq_some, Option.some.injEq] at hfound
        obtain ⟨⟨rfl, -, -, rfl⟩, rfl⟩ := hfound
        exact (Dict.get?_eq_some _ _ _).mpr hentry

/-- A plan with buttons is the notice to the event's executor. -/
def Directed (event : DomainEvent) (plan : RecipientPlan) : Prop :=
  plan.buttons = [] ∨
    plan.purpose = "assignment" ∧ plan.actorIds = [executorOf event] ∧ plan.roles = []

/-- The account was found for the event's executor. -/
def Sought (lookups : List Lookup) (event : DomainEvent) (provider : Provider) (user : String) :
    Prop :=
  ∃ lookup ∈ lookups, lookup.event = event ∧ lookup.Finds provider user (executorOf event)

/-- A message with buttons has the key of the notice, and goes to an account found for it. -/
def Letter (lookups : List Lookup) (event : DomainEvent) (message : OutboundMessage) : Prop :=
  message.buttons = [] ∨
    message.deduplicationKey =
        deduplicationKey event.eventId "assignment" message.provider message.recipientId ∧
      Sought lookups event message.provider message.recipientId

/-- A transaction for an assignment, before, in and after each of its plans. -/
structure Directs (lookups : List Lookup) (flight : Flight) : Prop where
  plans : ∀ plan ∈ flight.plans, Directed flight.envelope.data plan
  inserting : ∀ plan buttons rest, flight.inserting = some (plan, buttons, rest) →
    buttons = [] ∨ plan.purpose = "assignment" ∧ ∀ recipient ∈ rest,
      Sought lookups flight.envelope.data recipient.provider recipient.externalUserId
  messages : ∀ message ∈ flight.messages, Letter lookups flight.envelope.data message

theorem Sought.grow {provider : Provider} {user : String}
    (sought : Sought lookups event provider user) (subset : lookups ⊆ later) :
    Sought later event provider user := by
  obtain ⟨lookup, hlookup, hfinds⟩ := sought
  exact ⟨lookup, subset hlookup, hfinds⟩

theorem Letter.grow {message : OutboundMessage} (letter : Letter lookups event message)
    (subset : lookups ⊆ later) : Letter later event message :=
  letter.imp_right fun found => ⟨found.1, found.2.grow subset⟩

theorem Directs.grow (directs : Directs lookups flight) (subset : lookups ⊆ later) :
    Directs later flight := by
  refine ⟨directs.plans, fun plan buttons rest hcurrent => ?_, fun message hmessage =>
    (directs.messages message hmessage).grow subset⟩
  exact (directs.inserting plan buttons rest hcurrent).imp_right fun found =>
    ⟨found.1, fun recipient hmem => (found.2 recipient hmem).grow subset⟩

/-- The plans of an assignment are for whoever is on the order. -/
theorem plans_assigns {readings : Readings} {planned : List RecipientPlan} (assigns : Assigns event)
    (h : plans publicBaseUrl event readings = .ok planned) :
    planned = [] ∨ ∃ holder coordinator,
      readings.order.bind (fun order => truthy order.assigneeId) = some holder ∧
        planned = assignmentPlans event readings.card holder coordinator := by
  unfold plans at h
  cases haggregate : event.aggregateType with
  | trackingSession =>
      rw [haggregate] at h
      cases h
      exact .inl rfl
  | workOrder =>
      rcases horder : readings.order with _ | order
      · rw [haggregate, horder] at h
        cases h
        exact .inl rfl
      · rw [haggregate, horder] at h
        have hplanned : planned = (truthy order.assigneeId).toList.flatMap fun assignee =>
            assignmentPlans event readings.card assignee (truthy order.coordinatorId) := by
          rcases assigns with hname | hname <;>
            · simp only [hname, Except.ok.injEq] at h
              exact h.symm
        rcases hholder : truthy order.assigneeId with _ | holder
        · exact .inl (by simp [hplanned, hholder])
        · exact .inr ⟨holder, truthy order.coordinatorId, hholder, by simp [hplanned, hholder]⟩

/-- They are the notice to the executor exactly when it is the executor who is on the order. -/
theorem assignmentPlans_directed {card holder : String} {coordinator : Option String} :
    (∀ plan ∈ assignmentPlans event card holder coordinator, Directed event plan) ↔
      holder = executorOf event := by
  unfold assignmentPlans
  simp only [List.forall_mem_cons]
  constructor
  · rintro ⟨hbuttons | ⟨-, hactors, -⟩, -⟩
    · contradiction
    · exact List.singleton_inj.mp hactors
  · rintro rfl
    refine ⟨.inr ⟨rfl, rfl, rfl⟩, fun plan hplan => ?_⟩
    obtain ⟨someone, rfl⟩ := mem_whenSome hplan
    exact .inl rfl

theorem Directs.start {readings : Readings} {planned : List RecipientPlan} {worker : Nat}
    {envelope : Envelope String DomainEvent} (assigns : Assigns envelope.data)
    (h : Messaging.plans publicBaseUrl envelope.data readings = .ok planned)
    (timely : ∀ holder ∈ readings.order.bind (fun order => truthy order.assigneeId),
      holder = executorOf envelope.data) :
    Directs lookups ⟨worker, envelope, planned, none, [], [], []⟩ := by
  refine ⟨?_, fun _ _ _ hcurrent => (by cases hcurrent), fun _ hmem => (by cases hmem)⟩
  rcases plans_assigns assigns h with rfl | ⟨holder, coordinator, hholder, rfl⟩
  · exact fun _ hmem => by cases hmem
  · exact assignmentPlans_directed.mpr (timely holder hholder)

/-- The transaction looks for the recipients of its next plan. -/
theorem Directs.prepare {fresh : List String} {identities : Identities} {now : Instant} {index : Nat}
    (directs : Directs lookups flight) (found : projection.flights[index]? = some flight)
    (prepared : projection.prepared flight fresh identities now = some changed) :
    Directs (lookups ++ projection.looks (.prepare index fresh identities now)) changed := by
  have hlooks : projection.looks (.prepare index fresh identities now) =
      (flight.plans.head?.map fun plan => ⟨flight.envelope.data, plan, identities⟩).toList := by
    simp [Projection.looks, found, prepared]
  unfold Projection.prepared at prepared
  rcases hinserting : flight.inserting with _ | current
  · rcases hplans : flight.plans with _ | ⟨plan, rest⟩
    · simp [hinserting, hplans] at prepared
    · simp only [hinserting, hplans, Option.ite_none_right_eq_some, Option.some.injEq] at prepared
      obtain ⟨-, rfl⟩ := prepared
      rw [hlooks, hplans]
      have hplan := directs.plans plan (hplans ▸ List.mem_cons_self)
      have hkept := directs.grow (List.subset_append_left lookups
        [⟨flight.envelope.data, plan, identities⟩])
      refine ⟨fun other hother => directs.plans other (hplans ▸ List.mem_cons_of_mem _ hother), ?_,
        hkept.messages⟩
      intro current buttons remaining hcurrent
      cases hcurrent
      rcases hplan with hnone | ⟨hpurpose, hactors, hroles⟩
      · exact .inl (by rw [hnone]; rfl)
      · refine .inr ⟨hpurpose, fun recipient hmem => ⟨_, List.mem_append_right _ List.mem_cons_self,
          rfl, ?_⟩⟩
        rw [hactors, hroles] at hmem
        exact recipients_owner hmem
  · simp [hinserting] at prepared

theorem Directs.insert {now : Instant} {index : Nat} (directs : Directs lookups flight)
    (inserted : projection.inserted index flight now = some changed) : Directs lookups changed := by
  unfold Projection.inserted at inserted
  rcases hinserting : flight.inserting with _ | ⟨plan, buttons, _ | ⟨recipient, rest⟩⟩
  · simp [hinserting] at inserted
  · simp only [hinserting, Option.some.injEq] at inserted
    subst inserted
    exact ⟨directs.plans, fun _ _ _ hcurrent => (by cases hcurrent), directs.messages⟩
  · have hcurrent := directs.inserting plan buttons _ hinserting
    have hrest : ∀ current left remaining,
        some (plan, buttons, rest) = some (current, left, remaining) →
        left = [] ∨ current.purpose = "assignment" ∧ ∀ recipient ∈ remaining,
          Sought lookups flight.envelope.data recipient.provider recipient.externalUserId := by
      intro current left remaining hsame
      cases hsame
      exact hcurrent.imp_right fun found =>
        ⟨found.1, fun other hmem => found.2 other (List.mem_cons_of_mem _ hmem)⟩
    simp only [hinserting] at inserted
    by_cases hheld : (recipientMessage flight.envelope.data plan buttons now
        recipient).deduplicationKey ∈ Projection.keys ((projection.others index).flatMap
          Flight.messages)
    · rw [if_pos hheld] at inserted
      contradiction
    · rw [if_neg hheld] at inserted
      by_cases hpresent : (recipientMessage flight.envelope.data plan buttons now
          recipient).deduplicationKey ∈ Projection.keys (projection.messages ++ flight.messages)
      · rw [if_pos hpresent] at inserted
        cases inserted
        exact ⟨directs.plans, hrest, directs.messages⟩
      · rw [if_neg hpresent] at inserted
        cases inserted
        refine ⟨directs.plans, hrest, fun message hmem => ?_⟩
        rcases List.mem_append.mp hmem with hold | hnew
        · exact directs.messages message hold
        · rw [List.mem_singleton] at hnew
          subst hnew
          exact hcurrent.imp_right fun found =>
            ⟨by rw [← found.1]; rfl, found.2 recipient List.mem_cons_self⟩

end letters

/-! ### Every run -/

/-- What holds of the transactions and of what they have left. -/
structure Dispatch.Directed (dispatch : Dispatch) : Prop where
  flights : ∀ flight ∈ dispatch.projection.flights, Assigns flight.envelope.data →
    Directs dispatch.lookups flight
  attempts : ∀ attempt ∈ dispatch.projection.attempts, Assigns attempt.envelope.data →
    ∀ message ∈ attempt.messages, Letter dispatch.lookups attempt.envelope.data message
  distinct : dispatch.projection.Distinct

namespace Dispatch

variable {publicBaseUrl : Option String} {dispatch : Dispatch}

theorem appended_kept (now : Instant) (events : List DomainEvent) (projection : Projection) :
    let after := appended publicBaseUrl now projection events
    after.flights = projection.flights ∧ after.messages = projection.messages ∧
      after.attempts = projection.attempts := by
  induction events generalizing projection with
  | nil => exact ⟨rfl, rfl, rfl⟩
  | cons event rest ih => exact ih (projection.step publicBaseUrl (.append event now))

theorem directed_empty : Directed .empty :=
  ⟨fun _ hmem => (by cases hmem), fun _ hmem => (by cases hmem), Projection.distinct_empty⟩

/-- A step of the projectors, where an assignment's event finds nobody else on its order. -/
theorem Directed.moves {act : Act} {after : Projection} (directed : Directed dispatch)
    (moves : Projection.Moves publicBaseUrl dispatch.projection act after)
    (timely : ∀ index readings, act = .start index readings →
      ∀ item ∈ dispatch.projection.site.held[index]?, Assigns item.2.data →
        ∀ holder ∈ readings.order.bind (fun order => truthy order.assigneeId),
          holder = executorOf item.2.data) :
    Directed ⟨dispatch.records, after, dispatch.lookups ++ dispatch.projection.looks act⟩ := by
  have hgrown : dispatch.lookups ⊆ dispatch.lookups ++ dispatch.projection.looks act :=
    List.subset_append_left _ _
  have hkept : ∀ flight ∈ dispatch.projection.flights, Assigns flight.envelope.data →
      Directs (dispatch.lookups ++ dispatch.projection.looks act) flight :=
    fun flight hflight assigns => (directed.flights flight hflight assigns).grow hgrown
  have hattempts : ∀ attempt ∈ dispatch.projection.attempts, Assigns attempt.envelope.data →
      ∀ message ∈ attempt.messages,
        Letter (dispatch.lookups ++ dispatch.projection.looks act) attempt.envelope.data message :=
    fun attempt hattempt assigns message hmem =>
      (directed.attempts attempt hattempt assigns message hmem).grow hgrown
  have hchanged : ∀ (index : Nat) (changed : Flight),
      (Assigns changed.envelope.data →
        Directs (dispatch.lookups ++ dispatch.projection.looks act) changed) →
      ∀ flight ∈ (dispatch.projection.updated index changed).flights,
        Assigns flight.envelope.data →
          Directs (dispatch.lookups ++ dispatch.projection.looks act) flight := by
    intro index changed directs flight hflight assigns
    rcases List.mem_or_eq_of_mem_set hflight with hold | rfl
    · exact hkept flight hold assigns
    · exact directs assigns
  have hdistinct := directed.distinct.moves moves
  cases moves with
  | stays flights messages attempts =>
      refine ⟨fun flight hflight => hkept flight (flights.mem hflight), ?_, hdistinct⟩
      rw [attempts]
      exact hattempts
  | starts held plan flights messages attempts =>
      refine ⟨fun flight hflight assigns => ?_, ?_, hdistinct⟩
      · rw [flights] at hflight
        rcases List.mem_append.mp hflight with hold | hnew
        · exact hkept flight hold assigns
        · rw [List.mem_singleton] at hnew
          subst hnew
          exact .start assigns plan (timely _ _ rfl _ held assigns)
      · rw [attempts]
        exact hattempts
  | @prepares index fresh identities now flight changed found prepared =>
      refine ⟨hchanged index changed fun assigns => ?_, hattempts, hdistinct⟩
      have hsame := (Projection.prepared_kept prepared).1
      rw [hsame] at assigns
      exact (directed.flights flight (List.mem_of_getElem? found) assigns).prepare found prepared
  | @inserts index now flight changed found inserted =>
      refine ⟨hchanged index changed fun assigns => ?_, hattempts, hdistinct⟩
      have hsame := Projection.envelope_inserted inserted
      rw [hsame] at assigns
      exact (hkept flight (List.mem_of_getElem? found) assigns).insert inserted
  | @commits index now flight found =>
      refine ⟨fun other hother => hkept other (List.mem_of_mem_eraseIdx hother),
        fun attempt hattempt assigns => ?_, hdistinct⟩
      rcases List.mem_append.mp hattempt with hold | hnew
      · exact hattempts attempt hold assigns
      · rw [List.mem_singleton] at hnew
        subst hnew
        exact (hkept flight (List.mem_of_getElem? found) assigns).messages

theorem Directed.step {turn : Turn} (directed : Directed dispatch) (timely : Timely dispatch turn) :
    Directed (dispatch.step publicBaseUrl turn) := by
  cases turn with
  | command command answers now =>
      obtain ⟨hflights, hmessages, hattempts⟩ := @appended_kept publicBaseUrl now
        ((Command.settled (command, answers) dispatch.records).outboxEvents.drop
          dispatch.records.outboxEvents.length) dispatch.projection
      have hstays : Projection.Moves publicBaseUrl dispatch.projection (.crash 0)
          (dispatch.step publicBaseUrl (.command command answers now)).projection :=
        .stays (by rw [← hflights]; exact List.Sublist.refl _) hmessages hattempts
      have hmoved := directed.moves hstays fun _ _ hact => by cases hact
      rw [show dispatch.projection.looks (.crash 0) = [] from rfl, List.append_nil] at hmoved
      exact ⟨hmoved.flights, hmoved.attempts, hmoved.distinct⟩
  | start index card publicToken locationToken =>
      rcases hheld : dispatch.projection.site.held[index]? with _ | ⟨worker, envelope⟩
      · simpa only [Dispatch.step, hheld] using directed
      · have hmoved := directed.moves (Projection.step_moves publicBaseUrl dispatch.projection
          (.start index ⟨dispatch.records.orders.get?
            (envelope.data.organizationId, envelope.data.aggregateId), card, publicToken,
            locationToken⟩)) (by
            intro other readings hact item hitem assigns
            cases hact
            rw [hheld] at hitem
            cases hitem
            exact timely (worker, envelope) hheld assigns)
        simp only [Projection.looks, List.append_nil] at hmoved
        simpa only [Dispatch.step, hheld] using hmoved
  | work act own =>
      refine directed.moves (Projection.step_moves publicBaseUrl dispatch.projection act) ?_
      rintro index readings rfl
      exact own.elim

theorem buttons_of_offers {attempt : Attempt} {message : OutboundMessage}
    (offers : attempt.Offers message) : message.buttons ≠ [] := by
  obtain ⟨button, hmem, -⟩ := offers
  exact List.ne_nil_of_mem hmem

theorem mem_notices {assignment : Assignment} {message : OutboundMessage}
    (mem : message ∈ dispatch.notices assignment) :
    ∃ attempt ∈ dispatch.projection.attempts,
      assignmentOf attempt.envelope.data = some assignment ∧
        message ∈ attempt.messages ∧ attempt.Offers message := by
  obtain ⟨attempt, hattempt, hmem⟩ := List.mem_flatMap.mp mem
  by_cases hevent : assignmentOf attempt.envelope.data = some assignment
  · rw [if_pos hevent, List.mem_filter] at hmem
    exact ⟨attempt, hattempt, hevent, hmem.1, of_decide_eq_true hmem.2⟩
  · rw [if_neg hevent] at hmem
    contradiction

theorem notices_sublist (distinct : dispatch.projection.Distinct) (assignment : Assignment) :
    (dispatch.notices assignment).Sublist dispatch.projection.messages := by
  rw [distinct.messages]
  refine List.Sublist.flatMap_right _ fun attempt _ => ?_
  by_cases hevent : assignmentOf attempt.envelope.data = some assignment
  · rw [if_pos hevent]
    exact List.filter_sublist
  · rw [if_neg hevent]
    exact List.nil_sublist _

theorem length_le_one_of_keys {messages : List OutboundMessage}
    (nodup : (Projection.keys messages).Nodup)
    (same : ∀ first ∈ messages, ∀ second ∈ messages,
      first.deduplicationKey = second.deduplicationKey) : messages.length ≤ 1 := by
  rcases messages with _ | ⟨first, _ | ⟨second, rest⟩⟩
  · simp
  · simp
  · have hsame := same first (by simp) second (by simp)
    simp [Projection.keys, hsame] at nodup

theorem Directed.letter (directed : Directed dispatch) {assignment : Assignment}
    {message : OutboundMessage} (mem : message ∈ dispatch.notices assignment) :
    message.deduplicationKey = deduplicationKey assignment.eventId "assignment" message.provider
        message.recipientId ∧
      ∃ lookup ∈ dispatch.lookups, lookup.event.eventId = assignment.eventId ∧
        lookup.Finds message.provider message.recipientId assignment.executorId := by
  obtain ⟨attempt, hattempt, hassignment, hmessage, offers⟩ := mem_notices mem
  unfold assignmentOf at hassignment
  rw [Option.ite_none_right_eq_some, Option.some.injEq] at hassignment
  obtain ⟨assigns, rfl⟩ := hassignment
  rcases directed.attempts attempt hattempt assigns message hmessage with
    hnone | ⟨hkey, lookup, hlookup, hevent, hfinds⟩
  · exact absurd hnone (buttons_of_offers offers)
  · exact ⟨hkey, lookup, hlookup, congrArg DomainEvent.eventId hevent, hfinds⟩

theorem Directed.wellAddressed (directed : Directed dispatch) : WellAddressed dispatch := by
  have hnodup : ∀ assignment, (Projection.keys (dispatch.notices assignment)).Nodup := by
    intro assignment
    have hwritten : (dispatch.notices assignment).Sublist dispatch.projection.written :=
      (notices_sublist directed.distinct assignment).trans (List.sublist_append_left _ _)
    exact List.Nodup.sublist (hwritten.map _) directed.distinct.keys
  constructor
  · intro attempt hattempt assigns message hmessage offers
    rcases directed.attempts attempt hattempt assigns message hmessage with hnone | ⟨-, hsought⟩
    · exact absurd hnone (buttons_of_offers offers)
    · exact hsought
  · intro assignment provider user
    apply length_le_one_of_keys (List.Nodup.sublist (List.filter_sublist.map _) (hnodup assignment))
    intro first hfirst second hsecond
    obtain ⟨hfirst, haccount⟩ := List.mem_filter.mp hfirst
    obtain ⟨hsecond, hsame⟩ := List.mem_filter.mp hsecond
    simp only [decide_eq_true_eq] at haccount hsame
    rw [(directed.letter hfirst).1, (directed.letter hsecond).1, haccount.1, haccount.2, hsame.1,
      hsame.2]
  · intro sole assignment
    apply length_le_one_of_keys (hnodup assignment)
    intro first hfirst second hsecond
    obtain ⟨hkey, lookup, hlookup, hevent, hfinds⟩ := directed.letter hfirst
    obtain ⟨hother, later, hlater, hagain, hfound⟩ := directed.letter hsecond
    obtain ⟨hprovider, huser⟩ := sole lookup hlookup later hlater (hevent.trans hagain.symm)
      _ _ _ _ _ hfinds hfound
    rw [hkey, hother, hprovider, huser]

end Dispatch

/-- In every run in which no projector comes to an assignment while somebody else is on its order,
every message with buttons that is made for an assignment goes to the event's executor, and tells
each account of theirs once. -/
theorem assignments_well_addressed (publicBaseUrl : Option String) {turns : List Turn}
    (timely : Throughout (Dispatch.step publicBaseUrl) Timely .empty turns) :
    ∀ before, before <+: turns →
      (before.foldl (Dispatch.step publicBaseUrl) .empty).WellAddressed :=
  fun before hprefix => (timely.invariant
    (fun _ _ directed careful => Dispatch.Directed.step directed careful) Dispatch.directed_empty
      before hprefix).wellAddressed

def sampleCreated : Turn :=
  .command (.createOrder ⟨⟨0⟩, "e0"⟩ "f" (some "o1")
    ⟨"acme", "repair", "web", .empty, none, none⟩) ⟨"A001", false⟩ ⟨0⟩

def sampleChange (seconds : Int) (eventId : String) (call : Call) (plain : Plain call) : Turn :=
  .command (.change ⟨⟨seconds⟩, eventId⟩ "acme" "o1" call plain) ⟨"", false⟩ ⟨seconds⟩

/-- A worker projects one of the events it has claimed. -/
def projecting (index : Nat) (tokens : List String) : List Turn :=
  [.start index "card" none none, .work (.prepare 0 tokens Projection.sampleMasters ⟨9⟩) trivial,
    .work (.insert 0 ⟨9⟩) trivial, .work (.insert 0 ⟨9⟩) trivial, .work (.commit 0 ⟨9⟩) trivial]

def claiming : Turn := .work (.claim 0 ⟨none⟩ 50 120 (fun _ => false) ⟨9⟩) trivial

/-- Ann is assigned and gives the order back, and Bob is assigned before the workers come to it. -/
def overtaken : List Turn :=
  [sampleCreated, sampleChange 1 "e1" (.assign "ann" (some "op")) trivial,
    sampleChange 2 "e2" (.rejectAssignment "ann") trivial,
    sampleChange 3 "e3" (.assign "bob" (some "op")) trivial, claiming] ++
    projecting 1 ["t1", "t2"] ++ projecting 2 ["t3", "t4"]

/-- Bob has two assignment messages for his one assignment, Ann's among them. -/
theorem assignments_misaddressed :
    let dispatch := overtaken.foldl (Dispatch.step none) .empty
    (dispatch.notices ⟨"e1", "ann"⟩).map (fun message => (message.provider, message.recipientId)) =
        [(.telegram, "2")] ∧
      (dispatch.notices ⟨"e3", "bob"⟩).map (fun message => (message.provider, message.recipientId)) =
        [(.telegram, "2")] ∧
      (∀ lookup ∈ dispatch.lookups, lookup.Finds .telegram "2" "bob") ∧
      ¬dispatch.WellAddressed := by
  intro dispatch
  have hann : (dispatch.notices ⟨"e1", "ann"⟩).map
      (fun message => (message.provider, message.recipientId)) = [(.telegram, "2")] := by
    decide +kernel
  have hbob : ∀ lookup ∈ dispatch.lookups, lookup.Finds .telegram "2" "bob" := by
    unfold Lookup.Finds
    decide +kernel
  refine ⟨hann, by decide +kernel, hbob, fun wellAddressed => ?_⟩
  obtain ⟨message, hmem, haccount⟩ := List.mem_map.mp (hann ▸ List.mem_singleton_self _)
  obtain ⟨hprovider, huser⟩ := Prod.mk.inj haccount
  obtain ⟨attempt, hattempt, hassignment, hmessage, offers⟩ := Dispatch.mem_notices hmem
  unfold assignmentOf at hassignment
  rw [Option.ite_none_right_eq_some, Option.some.injEq] at hassignment
  obtain ⟨assigns, hassignment⟩ := hassignment
  have hexecutor : executorOf attempt.envelope.data = "ann" :=
    congrArg Assignment.executorId hassignment
  obtain ⟨lookup, hlookup, -, hfinds⟩ :=
    wellAddressed.addressed attempt hattempt assigns message hmessage offers
  have hfound := hbob lookup hlookup
  rw [hprovider, huser, hexecutor] at hfinds
  unfold Lookup.Finds at hfinds hfound
  rw [hfound] at hfinds
  exact absurd hfinds (by decide)

/-- Both assignments, each projected before the next command. -/
def punctual : List Turn :=
  [sampleCreated, sampleChange 1 "e1" (.assign "ann" (some "op")) trivial, claiming] ++
    projecting 1 ["t1", "t2"] ++
    [sampleChange 2 "e2" (.rejectAssignment "ann") trivial,
      sampleChange 3 "e3" (.assign "bob" (some "op")) trivial, claiming] ++
    projecting 2 ["t3", "t4"]

theorem assignments_punctual :
    let dispatch := punctual.foldl (Dispatch.step none) .empty
    (dispatch.notices ⟨"e1", "ann"⟩).map OutboundMessage.recipientId = ["1"] ∧
      (dispatch.notices ⟨"e3", "bob"⟩).map OutboundMessage.recipientId = ["2"] ∧
      dispatch.WellAddressed := by
  have timely : Throughout (Dispatch.step none) Timely .empty punctual := by decide +kernel
  exact ⟨by decide +kernel, by decide +kernel,
    assignments_well_addressed none timely _ (List.prefix_refl _)⟩

end DispatchCore.Messaging
