import DispatchCore.Application.Histories
import DispatchCore.Application.Interleaving
import DispatchCore.Library.Reliance

/-! What every store keeps count of.  An order is submitted once, and a number goes to one
order at most: between drawing and using it, it belongs to the command that drew it. -/
namespace DispatchCore.Application

open DispatchCore.Library DispatchCore.Domain DispatchCore.Infrastructure

/-- The submissions of an order that the outbox holds. -/
def submissions (key : Key) (records : Records) : List DomainEvent :=
  (eventsOf .workOrder key records.outboxEvents).filter fun event => event.name = .submitted

/-- What a creation has to name. -/
def Creation.Complete (creation : Creation) (orderId : String) : Prop :=
  orderId ≠ "" ∧ creation.organizationId ≠ "" ∧ creation.workType ≠ ""

/-- The order is what the creation asks for. -/
structure Fulfils (creation : Creation) (orderId : String) (order : WorkOrder) : Prop where
  key : orderKey order = (creation.organizationId, orderId)
  workType : order.workType = creation.workType
  source : order.source = creation.source
  requesterId : order.requesterId = creation.requesterId
  details : order.details = creation.details ∨ order.details.same creation.details
  evidenceRequirements :
    order.evidenceRequirements = creation.evidenceRequirements.getD .default

theorem Fulfils.pulled {creation : Creation} {orderId : String} {order : WorkOrder}
    (fulfils : Fulfils creation orderId order) : Fulfils creation orderId order.pullEvents.2 := by
  obtain ⟨hkey, htype, hsource, hrequester, hdetails, hevidence⟩ := fulfils
  exact ⟨hkey, htype, hsource, hrequester, hdetails, hevidence⟩

/-- A submission ends with its order, as it was at some time. -/
def Answered (creation : Creation) (orderId : String) (order : WorkOrder) (records : Records) :
    Prop :=
  Fulfils creation orderId order ∧
    ∃ stored, records.orders.get? (creation.organizationId, orderId) = some stored ∧
      originOf stored = originOf order ∧ order.version ≤ stored.version

/-- Or it is refused: its name is taken, or it names too little. -/
def Refused (creation : Creation) (orderId : String) (failure : Failure) : Prop :=
  failure.isConcurrencyConflict ∨
    (¬creation.Complete orderId ∧
      failure = .valueError "id, public_number, organization_id and work_type are required")

/-! ### The books of a store and its numbers -/

/-- The last sequence drawn for an organization. -/
def counter (store : AsyncMemoryStore) (organizationId : String) : Nat :=
  (store.orderNumberCounters.get? organizationId).getD 0

/-- Which sequence a command has drawn and not used. -/
abbrev Draws := Nat → Option (String × Nat)

structure Booked (store : AsyncMemoryStore) (draws : Draws) : Prop where
  valid : Valid store.toRecords
  capacity : Capacity store.toRecords
  once : ∀ key, (submissions key store.toRecords).length =
    if (store.orders.get? key).isSome then 1 else 0
  numbered : ∀ key order, store.orders.get? key = some order →
    ∃ sequence, sequence ≤ counter store key.1 ∧
      formatOrderNumber sequence = .ok order.publicNumber
  distinct : ∀ first second left right, store.orders.get? first = some left →
    store.orders.get? second = some right → first.1 = second.1 →
      left.publicNumber = right.publicNumber → first = second
  drawn : ∀ index organizationId sequence, draws index = some (organizationId, sequence) →
    sequence ≤ counter store organizationId ∧
      ∀ key order, store.orders.get? key = some order → key.1 = organizationId →
        formatOrderNumber sequence ≠ .ok order.publicNumber
  apart : ∀ first second draw, draws first = some draw → draws second = some draw →
    first = second

/-- A command relies on growth, and on nobody using what it drew. -/
def bookkeeping : Coroutine.Contract AsyncMemoryStore Draws where
  valid := Booked
  rely := fun index store draws later laterDraws =>
    Grows store.toRecords later.toRecords ∧ laterDraws index = draws index
  relyRefl := fun _ _ _ => ⟨.refl _, rfl⟩
  relyTrans := fun left right => ⟨left.1.trans right.1, right.2.trans left.2⟩

theorem booked_empty : Booked .empty fun _ => none := by
  refine ⟨valid_empty, rfl, fun key => ?_, fun key order h => ?_, fun first second left right h => ?_,
    fun index organizationId sequence h => ?_, fun first second draw h => ?_⟩
  · rfl
  · simp [AsyncMemoryStore.empty, Records.empty] at h
  · simp [AsyncMemoryStore.empty, Records.empty] at h
  · contradiction
  · contradiction

/-- What commands other than creations keep. -/
structure SameOrders (records after : Records) : Prop where
  origins : ∀ key, (after.orders.get? key).map originOf = (records.orders.get? key).map originOf
  submissions : ∀ key, submissions key after = submissions key records

section books

variable {store : AsyncMemoryStore} {draws : Draws}

theorem SameOrders.stored {records after : Records} (same : SameOrders records after) {key : Key}
    {order : WorkOrder} (h : after.orders.get? key = some order) :
    ∃ before, records.orders.get? key = some before ∧ originOf order = originOf before := by
  have horigin := same.origins key
  rw [h, Option.map_some] at horigin
  obtain ⟨before, hbefore, hsame⟩ := Option.map_eq_some_iff.mp horigin.symm
  exact ⟨before, hbefore, hsame.symm⟩

theorem SameOrders.refl (records : Records) : SameOrders records records :=
  ⟨fun _ => rfl, fun _ => rfl⟩

/-- Orders change, and no order comes. -/
theorem Booked.keep (booked : Booked store draws) {after : AsyncMemoryStore}
    (valid : Valid after.toRecords) (capacity : Capacity after.toRecords)
    (same : SameOrders store.toRecords after.toRecords)
    (counters : ∀ organizationId, counter store organizationId ≤ counter after organizationId) :
    Booked after draws := by
  refine ⟨valid, capacity, fun key => ?_, fun key order h => ?_,
    fun first second left right hleft hright hwithin hnumber => ?_,
    fun index organizationId sequence h => ?_, booked.apart⟩
  · have horigin := congrArg Option.isSome (same.origins key)
    simp only [Option.isSome_map] at horigin
    rw [same.submissions, booked.once, horigin]
  · obtain ⟨before, hbefore, hsame⟩ := same.stored h
    obtain ⟨sequence, hbound, hformat⟩ := booked.numbered key before hbefore
    refine ⟨sequence, hbound.trans (counters key.1), ?_⟩
    rw [hformat]
    exact congrArg (fun origin => Except.ok origin.publicNumber) hsame.symm
  · obtain ⟨beforeLeft, hbeforeLeft, hsameLeft⟩ := same.stored hleft
    obtain ⟨beforeRight, hbeforeRight, hsameRight⟩ := same.stored hright
    refine booked.distinct first second _ _ hbeforeLeft hbeforeRight hwithin ?_
    calc beforeLeft.publicNumber = left.publicNumber :=
          (congrArg Origin.publicNumber hsameLeft).symm
      _ = right.publicNumber := hnumber
      _ = beforeRight.publicNumber := congrArg Origin.publicNumber hsameRight
  · obtain ⟨hbound, hunused⟩ := booked.drawn index organizationId sequence h
    refine ⟨hbound.trans (counters organizationId), fun key order horder hwithin => ?_⟩
    obtain ⟨before, hbefore, hsame⟩ := same.stored horder
    have hnumber : order.publicNumber = before.publicNumber := congrArg Origin.publicNumber hsame
    rw [hnumber]
    exact hunused key before hbefore hwithin

/-- The store after a sequence is drawn. -/
def afterDraw (store : AsyncMemoryStore) (organizationId : String) : AsyncMemoryStore :=
  { store with
    orderNumberCounters :=
      store.orderNumberCounters.set organizationId (counter store organizationId + 1) }

theorem counter_afterDraw (store : AsyncMemoryStore) (organizationId other : String) :
    counter (afterDraw store organizationId) other =
      if other = organizationId then counter store organizationId + 1 else counter store other := by
  unfold counter afterDraw
  rw [Dict.get?_set]
  split <;> rfl

theorem counter_le_afterDraw (store : AsyncMemoryStore) (organizationId other : String) :
    counter store other ≤ counter (afterDraw store organizationId) other := by
  rw [counter_afterDraw]
  split
  · rename_i hsame
    rw [hsame]
    omega
  · exact le_rfl

/-- A sequence is drawn: nobody has it yet. -/
theorem Booked.draw (booked : Booked store draws) (index : Nat) (organizationId : String) :
    Booked (afterDraw store organizationId)
      (Function.update draws index (some (organizationId, counter store organizationId + 1))) := by
  have hkept : Booked (afterDraw store organizationId) draws :=
    booked.keep booked.valid booked.capacity (.refl _) (counter_le_afterDraw store organizationId)
  refine ⟨hkept.valid, hkept.capacity, hkept.once, hkept.numbered, hkept.distinct,
    fun holder organization sequence h => ?_, fun first second draw hfirst hsecond => ?_⟩
  · by_cases hholder : holder = index
    · subst hholder
      rw [Function.update_self] at h
      cases h
      refine ⟨by rw [counter_afterDraw, if_pos rfl], fun key order horder hwithin hformat => ?_⟩
      obtain ⟨used, hbound, hused⟩ := booked.numbered key order horder
      have hsame := formatOrderNumber_injective hformat hused
      rw [hwithin] at hbound
      omega
    · rw [Function.update_of_ne hholder] at h
      exact hkept.drawn holder organization sequence h
  · have hnew : ∀ holder, holder ≠ index →
        draws holder ≠ some (organizationId, counter store organizationId + 1) := by
      intro holder _ hdraw
      have hbound := (booked.drawn holder _ _ hdraw).1
      omega
    by_cases hleft : first = index
    · by_cases hright : second = index
      · rw [hleft, hright]
      · subst hleft
        rw [Function.update_self] at hfirst
        rw [Function.update_of_ne hright, ← hfirst] at hsecond
        exact absurd hsecond (hnew second hright)
    · rw [Function.update_of_ne hleft] at hfirst
      by_cases hright : second = index
      · subst hright
        rw [Function.update_self] at hsecond
        rw [← hsecond] at hfirst
        exact absurd hfirst (hnew first hleft)
      · rw [Function.update_of_ne hright] at hsecond
        exact booked.apart first second draw hfirst hsecond

/-- A creation that goes through. -/
structure Submitted (creation : Creation) (orderId publicNumber : String) (order : WorkOrder) :
    Prop where
  fulfils : Fulfils creation orderId order
  number : order.publicNumber = publicNumber
  event : ∃ event, order.events = [event] ∧ event.name = .submitted ∧
    Owned .workOrder (orderKey order) event

theorem creation_submitted {creation : Creation} {ambient : Ambient} {orderId publicNumber : String}
    {order : WorkOrder} (h : creation.order ambient orderId publicNumber = .ok order) :
    Submitted creation orderId publicNumber order := by
  unfold Creation.order WorkOrder.create at h
  simp only at h
  split at h
  · cases h
    refine ⟨⟨rfl, rfl, rfl, rfl, .inl rfl, rfl⟩, rfl, _, rfl, rfl, rfl, rfl⟩
  · contradiction

theorem creation_refused {creation : Creation} {ambient : Ambient} {orderId publicNumber : String}
    (numbered : publicNumber ≠ "") {failure : Failure}
    (h : creation.order ambient orderId publicNumber = .error failure) :
    Refused creation orderId failure := by
  unfold Creation.order WorkOrder.create at h
  simp only at h
  split at h
  · contradiction
  · rename_i hmissing
    cases h
    exact .inr ⟨fun hcomplete => hmissing ⟨hcomplete.1, numbered, hcomplete.2⟩, rfl⟩

theorem submissions_append (key : Key) (records : Records) (orders : Dict Key WorkOrder)
    (sessions : Dict Key TrackingSession) (events : List DomainEvent) :
    submissions key ⟨orders, sessions, records.outboxEvents ++ events⟩ =
      submissions key records ++
        (eventsOf .workOrder key events).filter fun event => event.name = .submitted := by
  unfold submissions
  rw [eventsOf_append, List.filter_append]

/-- The drawn number goes to the order that is created. -/
theorem Booked.created (booked : Booked store draws) {index : Nat} {creation : Creation}
    {orderId publicNumber : String} {order : WorkOrder} {sequence : Nat}
    (made : Created creation orderId order)
    (submitted : Submitted creation orderId publicNumber order)
    (absent : store.orders.get? (orderKey order) = none)
    (capacity : Capacity (putOrder order store.toRecords))
    (formatted : formatOrderNumber sequence = .ok publicNumber)
    (held : draws index = some (creation.organizationId, sequence)) :
    Booked { store with toRecords := putOrder order store.toRecords }
      (Function.update draws index none) := by
  obtain ⟨hbound, hunused⟩ := booked.drawn index _ _ held
  have hput : ∀ key, (putOrder order store.toRecords).orders.get? key =
      if key = orderKey order then some order.pullEvents.2 else store.orders.get? key :=
    fun key => Dict.get?_set _ _ _ _
  have horganization : (orderKey order).1 = creation.organizationId :=
    congrArg Prod.fst submitted.fulfils.key
  have hnumber : formatOrderNumber sequence = .ok order.pullEvents.2.publicNumber :=
    formatted.trans (congrArg Except.ok submitted.number.symm)
  have hfollows := made.follows
  rw [← absent] at hfollows
  refine ⟨booked.valid.put_order hfollows, capacity, fun key => ?_, fun key found h => ?_,
    fun first second left right hleft hright hwithin hsame => ?_,
    fun holder organization drawn h => ?_, fun first second draw hfirst hsecond => ?_⟩
  · obtain ⟨event, hevents, hname, howned⟩ := submitted.event
    have hsubmissions : submissions key (putOrder order store.toRecords) =
        submissions key store.toRecords ++
          (eventsOf .workOrder key [event]).filter fun event => event.name = .submitted := by
      rw [← hevents]
      exact submissions_append key store.toRecords _ _ _
    rw [hsubmissions, List.length_append, booked.once, hput]
    by_cases hkey : key = orderKey order
    · subst hkey
      simp [absent, eventsOf, howned, hname]
    · have hforeign : ¬Owned .workOrder key event := fun h => hkey (h.2.symm.trans howned.2)
      simp [hkey, eventsOf, hforeign]
  · rw [hput] at h
    split at h
    · rename_i hkey
      cases h
      rw [hkey, horganization]
      exact ⟨sequence, hbound, hnumber⟩
    · exact booked.numbered key found h
  · rw [hput] at hleft hright
    split at hleft <;> split at hright
    · rename_i hfirst hsecond
      rw [hfirst, hsecond]
    · rename_i hfirst _
      cases hleft
      refine absurd (hnumber.trans (congrArg Except.ok hsame)) (hunused second right hright ?_)
      rw [← hwithin, hfirst, horganization]
    · rename_i _ hsecond
      cases hright
      refine absurd (hnumber.trans (congrArg Except.ok hsame.symm)) (hunused first left hleft ?_)
      rw [hwithin, hsecond, horganization]
    · exact booked.distinct first second left right hleft hright hwithin hsame
  · by_cases hholder : holder = index
    · subst hholder
      rw [Function.update_self] at h
      contradiction
    · rw [Function.update_of_ne hholder] at h
      obtain ⟨hdrawn, hfree⟩ := booked.drawn holder organization drawn h
      refine ⟨hdrawn, fun key found hfound hwithin hformat => ?_⟩
      rw [hput] at hfound
      split at hfound
      · rename_i hkey
        cases hfound
        have hsequence := formatOrderNumber_injective hformat hnumber
        have horganizations : organization = creation.organizationId := by
          rw [← hwithin, hkey, horganization]
        rw [hsequence, horganizations] at h
        exact hholder (booked.apart holder index _ h held)
      · exact hfree key found hfound hwithin hformat
  · have hkept : ∀ holder, Function.update draws index none holder = some draw →
        draws holder = some draw := by
      intro holder h
      by_cases hholder : holder = index
      · subst hholder
        rw [Function.update_self] at h
        contradiction
      · rwa [Function.update_of_ne hholder] at h
    exact booked.apart first second draw (hkept first hfirst) (hkept second hsecond)

end books

/-! ### Commands that create nothing -/

/-- The commands that may bring in an order. -/
def Command.creates : Command → Bool
  | .createOrder _ _ _ _ => true
  | .createOrderOnce _ _ _ => true
  | _ => false

section other

variable {records after : Records}

theorem orders_of_recordLocation {ambient : Ambient} {report : LocationReport} {seen : Bool}
    (h : Atomic.recordLocation ambient report seen records = .ok after) :
    after.orders = records.orders := by
  obtain ⟨session, -, h⟩ := except_bind_ok.mp h
  split at h
  · split at h
    · obtain ⟨-, rfl⟩ := (commit_empty records after).mp h
      rfl
    · obtain ⟨point, -, h⟩ := except_bind_ok.mp h
      obtain ⟨changed, -, hcommit⟩ := except_bind_ok.mp h
      obtain ⟨-, -, rfl⟩ := (commit_session _ _ records after).mp hcommit
      rfl
  · contradiction

theorem origins_apply (valid : Valid records) {command : Command} {answers : Answers}
    (other : command.creates = false) (h : command.apply answers records = .ok after) (key : Key) :
    (after.orders.get? key).map originOf = (records.orders.get? key).map originOf := by
  have hcall : ∀ place call, command.call? = some (place, call) →
      (after.orders.get? key).map originOf = (records.orders.get? key).map originOf := by
    intro place call hasked
    obtain ⟨⟨order, ambient, hstored, -, horders⟩, -⟩ := apply_call valid hasked h
    rw [horders, Dict.get?_set]
    split
    · rename_i hsame
      rw [hsame, hstored]
      exact congrArg some (originOf_change ambient none call order)
    · rfl
  cases command with
  | createOrder ambient freshId orderId creation => contradiction
  | createOrderOnce ambient orderId creation => contradiction
  | recordLocation ambient report => rw [orders_of_recordLocation h]
  | _ => exact hcall _ _ rfl

theorem change_not_submitted {order : WorkOrder} (pulled : order.events = []) (ambient : Ambient)
    (call : Call) : ∀ event ∈ (call.change ambient none order).events, event.name ≠ .submitted := by
  have hname : call.eventName ≠ .submitted := by
    cases call <;> simp [Call.eventName]
  unfold Call.change
  split
  · simp [pulled]
  · simpa [WorkOrder.recorded, pulled, DomainEvent.create] using hname

theorem submissions_putOrder {order : WorkOrder}
    (silent : ∀ event ∈ order.events, event.name ≠ .submitted) (key : Key) :
    submissions key (putOrder order records) = submissions key records := by
  have hnone : (eventsOf .workOrder key order.events).filter
      (fun event => event.name = .submitted) = [] := by
    apply List.filter_eq_nil_iff.mpr
    intro event hevent
    simpa using silent event (List.mem_filter.mp hevent).1
  exact (submissions_append key records _ _ _).trans (by rw [hnone, List.append_nil])

theorem submissions_putSession {before : Option TrackingSession} {session : TrackingSession}
    (follows : sessionAggregate.Follows before session) (key : Key) :
    submissions key (putSession session records) = submissions key records := by
  have hnone : eventsOf .workOrder key session.events = [] := by
    apply eventsOf_foreign
    intro event hevent howned
    have hsession := (follows.owned event hevent).1
    rw [howned.1] at hsession
    contradiction
  refine (submissions_append key records _ _ _).trans ?_
  rw [hnone, List.filter_nil, List.append_nil]

/-- No order comes, so nothing is submitted. -/
theorem submissions_takes (valid : Valid records) {fresh : Option (SessionAmbient × Key)}
    (takes : Takes fresh records after)
    (origins : ∀ key, (after.orders.get? key).map originOf =
      (records.orders.get? key).map originOf) (key : Key) :
    submissions key after = submissions key records := by
  cases takes with
  | nothing => rfl
  | @created creation orderId order made absent =>
      have horigin := origins (orderKey order)
      have hput : (putOrder order records).orders.get? (orderKey order) = some order.pullEvents.2 :=
        Dict.get?_set_self _ _ _
      rw [absent, hput] at horigin
      contradiction
  | changed ambient stored plain enabled =>
      exact submissions_putOrder (change_not_submitted (valid.orderKeyed stored).2 ambient _) key
  | travelled ambient brought stored enabled started absent =>
      rw [submissions_putSession (follows_started started) key]
      exact submissions_putOrder (change_not_submitted (valid.orderKeyed stored).2 ambient _) key
  | located stored follows same => exact submissions_putSession follows key
  | closed ambient stored ends enabled untracked =>
      exact submissions_putOrder (change_not_submitted (valid.orderKeyed stored).2 ambient _) key
  | closedSession ambient stored ends enabled tracked follows ended =>
      rw [submissions_putSession follows key]
      exact submissions_putOrder (change_not_submitted (valid.orderKeyed stored).2 ambient _) key

theorem sameOrders_apply (valid : Valid records) {command : Command} {answers : Answers}
    (other : command.creates = false) (h : command.apply answers records = .ok after) :
    SameOrders records after :=
  ⟨origins_apply valid other h,
    submissions_takes valid (apply_takes valid h) (origins_apply valid other h)⟩

end other

/-! ### No command lowers a counter -/

def CountersGrow (store after : AsyncMemoryStore) : Prop :=
  ∀ organizationId, counter store organizationId ≤ counter after organizationId

section counters

open Coroutine

theorem CountersGrow.refl (store : AsyncMemoryStore) : CountersGrow store store :=
  fun _ => le_rfl

theorem always_read {α : Type} (look : AsyncMemoryStore → Except Failure α) :
    Always CountersGrow (Coroutine.read look) :=
  .read CountersGrow.refl

theorem always_finish (work : UnitOfWork) : Always CountersGrow (finish work) := by
  refine .bind (.segment CountersGrow.refl fun store value after h => ?_) fun _ => trivial
  cases hcommit : work.commit store.toRecords with
  | ok records =>
      rw [hcommit] at h
      cases h
      exact .refl store
  | error failure =>
      rw [hcommit] at h
      contradiction

theorem always_pause_bind {next : Unit → StoreTask Unit} (rest : Always CountersGrow (next ())) :
    Always CountersGrow (pause >>= next) :=
  (always_read fun _ => .ok ()).bind fun _ => rest

theorem always_task {command : Command} (other : command.creates = false) :
    Always CountersGrow (command.task .live) := by
  have hclose : ∀ organizationId orderId change close, Always CountersGrow
      (Command.dropResult (AsyncDispatchService.closeOrder organizationId orderId change close)) := by
    intro organizationId orderId change close
    rw [closeOrder_eq]
    refine .bind (always_read _) fun order => .bind .attempt fun changed => always_pause_bind ?_
    refine .bind (always_read _) fun session => ?_
    cases session with
    | none => exact always_pause_bind (always_finish _)
    | some session =>
        exact .bind .attempt fun closed => always_pause_bind (always_pause_bind (always_finish _))
  cases command with
  | createOrder ambient freshId orderId creation => contradiction
  | createOrderOnce ambient orderId creation => contradiction
  | change ambient organizationId orderId call plain =>
      simp only [Command.task, changeTask_eq, changeOrder_eq]
      exact .bind (always_read _) fun order => .bind .attempt fun changed =>
        always_pause_bind (always_pause_bind (always_finish _))
  | startTravel ambient sessionAmbient organizationId orderId freshId executorId sessionId =>
      simp only [Command.task, startTravel_eq]
      exact .bind (always_read _) fun order => .bind .attempt fun changed =>
        .bind .attempt fun session =>
          always_pause_bind (always_pause_bind (always_pause_bind (always_finish _)))
  | recordLocation ambient report =>
      have hlocate : ∀ session, Always CountersGrow (locateTask ambient report session) :=
        fun session => .bind .attempt fun point => .bind .attempt fun changed =>
          always_pause_bind (always_pause_bind (always_finish _))
      simp only [Command.task, recordLocation_eq]
      refine .bind (always_read _) fun session => ?_
      split
      · split
        · exact hlocate session
        · refine .bind (show Always CountersGrow (hasSourceEvent _ _ _) from always_read _)
            fun seen => ?_
          split
          · exact always_finish _
          · exact hlocate session
      · trivial
  | completeOrder ambient sessionAmbient organizationId orderId executorId report =>
      exact hclose _ _ _ _
  | cancelOrder ambient sessionAmbient organizationId orderId reason actorId =>
      exact hclose _ _ _ _

end counters

end DispatchCore.Application
