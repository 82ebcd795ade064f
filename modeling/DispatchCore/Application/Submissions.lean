import DispatchCore.Application.Bookkeeping

/-! Submitting an order twice.  A submission that meets its own order returns it, and one
that meets another's is refused. -/
namespace DispatchCore.Application

open DispatchCore.Library DispatchCore.Domain DispatchCore.Infrastructure

/-- A submission, or any other command. -/
inductive Request
  | submit (ambient : Ambient) (orderId : String) (creation : Creation)
  | other (command : Command)

namespace Request

def task : Request → StoreTask (Option WorkOrder)
  | submit ambient orderId creation => do
      return some (← AsyncDispatchService.createOrderOnce .live ambient orderId creation)
  | other command => do
      command.task .live
      return none

def command : Request → Command
  | submit ambient orderId creation => .createOrderOnce ambient orderId creation
  | other command => command

theorem drop_task (request : Request) :
    (request.task >>= fun _ => .done ()) = request.command.task .live := by
  cases request with
  | submit ambient orderId creation =>
      simp only [task, command, Command.task, Command.dropResult, bind_assoc,
        Coroutine.pure_eq, Coroutine.done_bind]
  | other command =>
      simp only [task, Request.command, bind_assoc, Coroutine.pure_eq, Coroutine.done_bind]
      exact bind_pure _

end Request

/-- All requests over one store, none of them started. -/
def submitted (requests : List Request) :
    Coroutine.Pool AsyncMemoryStore Failure (Option WorkOrder) :=
  { state := .empty, tasks := requests.map Request.task }

/-! ### Every request keeps the books -/

section keeps

open Coroutine

variable {index : Nat} {store : AsyncMemoryStore} {draws : Draws}

theorem keeps_other {command : Command} (other : command.creates = false) :
    Keeps bookkeeping index (fun _ _ _ => True) (fun _ _ _ => True) (command.task .live) store
      draws := by
  refine CommitsOnce.keeps (fun {state ghost current now} h => ?_) (fun {state ghost} h => ?_)
    (fun {current now after} booked counters h => ?_) (commits_task command store)
    (always_task other)
  · exact h.1
  · exact Booked.valid h
  · rcases h with hquiet | ⟨answers, hstep⟩
    · change after.toRecords = current.toRecords at hquiet
      refine ⟨booked.keep ?_ ?_ ?_ counters, fun _ => ⟨?_, rfl⟩⟩
      · rw [hquiet]
        exact booked.valid
      · rw [hquiet]
        exact booked.capacity
      · rw [hquiet]
        exact .refl _
      · rw [hquiet]
        exact .refl _
    · obtain ⟨records, happly, rfl⟩ := commitStep_iff.mp hstep
      obtain ⟨hvalid, hgrows⟩ := (apply_takes booked.valid happly).sound booked.valid
      exact ⟨booked.keep hvalid (apply_orders booked.valid happly).2
        (sameOrders_apply booked.valid other happly) counters, fun _ => ⟨hgrows, rfl⟩⟩

theorem createNewOrder_run (ambient : Ambient) (orderId : String) (creation : Creation) :
    AsyncDispatchService.createNewOrder .live ambient orderId creation =
      (do
        let publicNumber ← allocatePublicNumber creation.organizationId
        let order ← attempt (creation.order ambient orderId publicNumber)
        pause
        pause
        commitSegment (Atomic.newOrder order)
        return order.pullEvents.2) := by
  simp only [AsyncDispatchService.createNewOrder, Work.transaction, StateT.run_bind,
    StateT.run_pure, run_lift, run_attempt, run_saveOrder, run_addEvents, run_commit, bind_assoc,
    done_bind, pure_eq]
  rfl

theorem confirmSubmission_run (ambient : Ambient) (orderId : String) (creation : Creation) :
    AsyncDispatchService.confirmSubmission ambient orderId creation =
      (do
        let existing ← getOrder creation.organizationId orderId
        let candidate ← attempt (creation.order ambient orderId existing.publicNumber)
        if sameSubmission existing candidate then do
          commitSegment .empty
          return existing
        else raise (.concurrencyConflict
          s!"work order {Text.repr orderId} belongs to a different submission")) := by
  simp only [AsyncDispatchService.confirmSubmission, Work.transaction, StateT.run_bind, run_lift,
    run_attempt, bind_assoc, done_bind, pure_eq]
  congr 1
  funext existing
  congr 1
  funext candidate
  by_cases h : sameSubmission existing candidate
  · simp [h, run_commit, bind_assoc]
  · simp [h]

theorem formatOrderNumber_ne_empty {sequence : Nat} {text : String}
    (h : formatOrderNumber sequence = .ok text) : text ≠ "" := by
  rintro rfl
  by_cases hpositive : 1 ≤ sequence
  · rw [formatOrderNumber_eq hpositive, Except.ok.injEq] at h
    have hempty : Text.size "" = 0 := rfl
    split at h
    · have hsize := size_shortNumber (sequence - 1)
      rw [h] at hsize
      omega
    · have hsize := size_longNumber sequence
      rw [h] at hsize
      omega
  · unfold formatOrderNumber at h
    rw [if_pos (by omega)] at h
    contradiction

/-- What stays of an order that was seen. -/
theorem Answered.grows {creation : Creation} {orderId : String} {order : WorkOrder}
    {records later : Records} (answered : Answered creation orderId order records)
    (grows : Grows records later) : Answered creation orderId order later := by
  obtain ⟨hfulfils, stored, hstored, horigin, hversion⟩ := answered
  obtain ⟨next, hnext, hstep⟩ := grows.orders _ _ hstored
  refine ⟨hfulfils, next, hnext, (grows.origins _ _ _ hstored hnext).trans horigin, ?_⟩
  rcases hstep with rfl | hstep
  · exact hversion
  · exact hversion.trans hstep.le

/-- The only reason not to create a complete order is one under its name. -/
theorem newOrder_conflict {records : Records} (capacity : Capacity records) {creation : Creation}
    {ambient : Ambient} {orderId publicNumber : String} {order : WorkOrder}
    (made : creation.order ambient orderId publicNumber = .ok order) {failure : Failure}
    (h : (Atomic.newOrder order).commit records = .error failure) :
    failure.isConcurrencyConflict ∧
      (records.orders.get? (creation.organizationId, orderId)).isSome := by
  have hcreated := creation_ok made
  cases htaken : records.orders.get? (creation.organizationId, orderId) with
  | none =>
      have hcommit : (Atomic.newOrder order).commit records = .ok (putOrder order records) := by
        refine (commit_order order none records _).mpr ⟨?_, (capacity_put capacity).mpr ?_, rfl⟩
        · rw [hcreated.named, htaken]
          rfl
        · intro executor hoccupies
          simp [UnitOfWork.occupies, hcreated.unassigned] at hoccupies
      rw [hcommit] at h
      contradiction
  | some existing =>
      obtain ⟨conflict, hconflict, htakes⟩ := createNewOrder_taken made htaken
      unfold Atomic.createNewOrder at htakes
      rw [made] at htakes
      change (Atomic.newOrder order).commit records = _ at htakes
      rw [htakes] at h
      cases h
      exact ⟨hconflict, rfl⟩

/-- A stored order is what the submission asks for. -/
def SameIntent (creation : Creation) (existing : WorkOrder) : Prop :=
  existing.workType = creation.workType ∧ existing.source = creation.source ∧
    existing.requesterId = creation.requesterId ∧
    existing.details.same creation.details ∧
    existing.evidenceRequirements = creation.evidenceRequirements.getD .default

/-- A submission that is complete, under a name that is free or stands for the same. -/
structure Acceptable (records : Records) (orderId : String) (creation : Creation) : Prop where
  complete : orderId ≠ "" ∧ creation.organizationId ≠ "" ∧ creation.workType ≠ ""
  same : ∀ existing, records.orders.get? (creation.organizationId, orderId) = some existing →
    SameIntent creation existing

theorem creation_complete {creation : Creation} {ambient : Ambient} {orderId publicNumber : String}
    (numbered : publicNumber ≠ "") :
    (∃ order, creation.order ambient orderId publicNumber = .ok order) ↔
      orderId ≠ "" ∧ creation.organizationId ≠ "" ∧ creation.workType ≠ "" := by
  unfold Creation.order WorkOrder.create
  dsimp only
  split
  · rename_i hcomplete
    exact iff_of_true ⟨_, rfl⟩ ⟨hcomplete.1, hcomplete.2.2⟩
  · rename_i hmissing
    refine iff_of_false ?_ fun hcomplete => hmissing ⟨hcomplete.1, numbered, hcomplete.2⟩
    rintro ⟨order, hmade⟩
    cases hmade

theorem sameSubmission_iff {creation : Creation} {ambient : Ambient} {orderId publicNumber : String}
    {existing candidate : WorkOrder}
    (made : creation.order ambient orderId publicNumber = .ok candidate)
    (named : orderKey existing = (creation.organizationId, orderId)) :
    sameSubmission existing candidate = true ↔ SameIntent creation existing := by
  have hkey := Prod.mk.inj named
  have hcandidate := (creation_submitted made).fulfils
  have hcandidateKey := Prod.mk.inj hcandidate.key
  have hdetails : candidate.details = creation.details := by
    unfold Creation.order WorkOrder.create at made
    dsimp only at made
    split at made
    · cases made
      rfl
    · cases made
  unfold sameSubmission SameIntent
  simp only [Bool.and_eq_true, decide_eq_true_eq, hkey.1, hkey.2, hcandidateKey.1,
    hcandidateKey.2, hcandidate.workType, hcandidate.source, hcandidate.requesterId, hdetails,
    hcandidate.evidenceRequirements, true_and, and_assoc]

/-- Whether a submission is taken hangs on what is stored under its name, and on nothing that
is drawn for it. -/
theorem createOrderOnce_ok_iff {records : Records} (valid : Valid records)
    (capacity : Capacity records) {creation : Creation} {ambient : Ambient}
    {orderId publicNumber : String} (numbered : publicNumber ≠ "") :
    (∃ after, Atomic.createOrderOnce ambient orderId creation publicNumber records = .ok after) ↔
      Acceptable records orderId creation := by
  unfold Atomic.createOrderOnce
  by_cases hcomplete : orderId ≠ "" ∧ creation.organizationId ≠ "" ∧ creation.workType ≠ ""
  · obtain ⟨order, hmade⟩ := (creation_complete numbered).mpr hcomplete
    cases htaken : records.orders.get? (creation.organizationId, orderId) with
    | none =>
        have hcreated : ∃ after,
            Atomic.createNewOrder ambient orderId creation publicNumber records = .ok after := by
          cases hnew : Atomic.createNewOrder ambient orderId creation publicNumber records with
          | ok after => exact ⟨after, rfl⟩
          | error failure =>
              unfold Atomic.createNewOrder at hnew
              rw [hmade] at hnew
              obtain ⟨-, hsome⟩ := newOrder_conflict capacity hmade hnew
              rw [htaken] at hsome
              contradiction
        obtain ⟨after, hnew⟩ := hcreated
        rw [hnew]
        refine iff_of_true ⟨after, rfl⟩ ⟨hcomplete, fun existing hexisting => ?_⟩
        rw [htaken] at hexisting
        contradiction
    | some existing =>
        obtain ⟨conflict, hconflict, hnew⟩ := createNewOrder_taken hmade htaken
        rw [hnew]
        dsimp only
        rw [if_pos hconflict]
        have hnumber : existing.publicNumber ≠ "" := existing.required.2.1
        obtain ⟨candidate, hcandidate⟩ := (creation_complete hnumber).mpr hcomplete
        have hnamed : orderKey existing = (creation.organizationId, orderId) :=
          (valid.orderKeyed htaken).1
        have hsame := sameSubmission_iff hcandidate hnamed
        have hcommit : UnitOfWork.empty.commit records = .ok records :=
          (commit_empty _ _).mpr ⟨capacity, rfl⟩
        unfold Atomic.confirmSubmission
        rw [getOrder_ok.mpr htaken]
        show (∃ after, (creation.order ambient orderId existing.publicNumber >>= fun candidate =>
          if sameSubmission existing candidate then UnitOfWork.empty.commit records
          else _) = .ok after) ↔ _
        rw [hcandidate]
        show (∃ after, (if sameSubmission existing candidate then UnitOfWork.empty.commit records
          else _) = .ok after) ↔ _
        by_cases hintent : SameIntent creation existing
        · rw [if_pos (hsame.mpr hintent), hcommit]
          refine iff_of_true ⟨records, rfl⟩ ⟨hcomplete, fun other hother => ?_⟩
          rw [htaken] at hother
          cases hother
          exact hintent
        · rw [if_neg fun hother => hintent (hsame.mp hother)]
          refine iff_of_false ?_ fun hacceptable => hintent (hacceptable.same existing htaken)
          rintro ⟨after, hmade⟩
          cases hmade
  · have hrefused : ∃ failure, creation.order ambient orderId publicNumber = .error failure ∧
        failure.isConcurrencyConflict = false := by
      cases hmade : creation.order ambient orderId publicNumber with
      | ok order => exact absurd ((creation_complete numbered).mp ⟨order, hmade⟩) hcomplete
      | error failure =>
          refine ⟨failure, rfl, ?_⟩
          unfold Creation.order WorkOrder.create at hmade
          dsimp only at hmade
          split at hmade
          · cases hmade
          · cases hmade
            rfl
    obtain ⟨failure, hmade, hkind⟩ := hrefused
    have hnew : Atomic.createNewOrder ambient orderId creation publicNumber records =
        .error failure := by
      unfold Atomic.createNewOrder
      rw [hmade]
      rfl
    rw [hnew]
    dsimp only
    rw [hkind, if_neg Bool.false_ne_true]
    refine iff_of_false ?_ fun hacceptable => hcomplete hacceptable.complete
    rintro ⟨after, hmade⟩
    cases hmade

variable {ambient : Ambient} {orderId : String} {creation : Creation}

theorem keeps_createNewOrder :
    Keeps bookkeeping index (fun order store _ => Answered creation orderId order store.toRecords)
      (fun failure store _ => Refused creation orderId failure ∧ (failure.isConcurrencyConflict →
        (store.orders.get? (creation.organizationId, orderId)).isSome))
      (AsyncDispatchService.createNewOrder .live ambient orderId creation) store draws := by
  rw [createNewOrder_run]
  simp only [allocatePublicNumber, bind_assoc]
  refine .segment_bind (fun first held _ booked sequence after h => ?_) fun _ _ _ _ _ h => by
    contradiction
  cases h
  refine ⟨_, booked.draw index creation.organizationId, fun other hother =>
    ⟨.refl _, Function.update_of_ne hother _ _⟩, ?_⟩
  refine .attempt_bind (fun publicNumber hformat => ?_) fun failure hformat => ?_
  · refine .attempt_bind (fun order hmade => ?_) fun failure hmade => ?_
    · refine .pause_bind fun second held₂ hrely₂ _ => ?_
      refine .pause_bind fun third held₃ hrely₃ _ => ?_
      refine .segment_bind (fun last held₄ hrely₄ booked₄ _ after h => ?_)
        fun last held₄ _ booked₄ failure h => ?_
      · have hcreated := creation_ok hmade
        have hsubmitted := creation_submitted hmade
        cases hcommit : (Atomic.newOrder order).commit last.toRecords with
        | error failure =>
            rw [hcommit] at h
            contradiction
        | ok records =>
            rw [hcommit] at h
            cases h
            obtain ⟨habsent, hcapacity, rfl⟩ := (commit_order order none _ records).mp hcommit
            have hheld : held₄ index = some (creation.organizationId,
                counter first creation.organizationId + 1) := by
              rw [hrely₄.2, hrely₃.2, hrely₂.2]
              exact Function.update_self ..
            have hnone := Option.map_eq_none_iff.mp habsent
            refine ⟨_, booked₄.created hcreated hsubmitted hnone hcapacity hformat hheld,
              fun other hother => ⟨?_, Function.update_of_ne hother _ _⟩, hsubmitted.fulfils.pulled,
              order.pullEvents.2, ?_, rfl, le_rfl⟩
            · have htakes : Takes none last.toRecords (putOrder order last.toRecords) :=
                .created hcreated hnone
              exact (htakes.sound booked₄.valid).2
            · rw [← hcreated.named]
              exact Dict.get?_set_self _ _ _
      · cases hcommit : (Atomic.newOrder order).commit last.toRecords with
        | ok records =>
            rw [hcommit] at h
            contradiction
        | error found =>
            rw [hcommit] at h
            cases h
            obtain ⟨hconflict, htaken⟩ := newOrder_conflict booked₄.capacity hmade hcommit
            exact ⟨.inl hconflict, fun _ => htaken⟩
    · have hrefused := creation_refused (formatOrderNumber_ne_empty hformat) hmade
      refine ⟨hrefused, fun hconflict => ?_⟩
      obtain ⟨rfl⟩ : failure = .valueError
          "id, public_number, organization_id and work_type are required" := by
        unfold Creation.order WorkOrder.create at hmade
        simp only at hmade
        split at hmade
        · contradiction
        · cases hmade
          rfl
      contradiction
  · rw [formatOrderNumber_eq (by omega)] at hformat
    contradiction

/-- An order that compares as the same submission is what was asked for. -/
theorem fulfils_of_same {existing candidate : WorkOrder} {publicNumber : String}
    (made : creation.order ambient orderId publicNumber = .ok candidate)
    (same : sameSubmission existing candidate) : Fulfils creation orderId existing := by
  unfold sameSubmission at same
  simp only [Bool.and_eq_true, decide_eq_true_eq] at same
  obtain ⟨⟨⟨⟨⟨⟨hid, horganization⟩, htype⟩, hsource⟩, hrequester⟩, hdetails⟩, hevidence⟩ := same
  have hcandidate := (creation_submitted made).fulfils
  have hexact : candidate.details = creation.details := by
    unfold Creation.order WorkOrder.create at made
    simp only at made
    split at made
    · cases made
      rfl
    · contradiction
  refine ⟨(Prod.ext horganization hid).trans hcandidate.key, htype.trans hcandidate.workType,
    hsource.trans hcandidate.source, hrequester.trans hcandidate.requesterId, .inr ?_,
    hevidence.trans hcandidate.evidenceRequirements⟩
  rwa [← hexact]

theorem keeps_confirmSubmission
    (taken : (store.orders.get? (creation.organizationId, orderId)).isSome) :
    Keeps bookkeeping index (fun order store _ => Answered creation orderId order store.toRecords)
      (fun failure _ _ => Refused creation orderId failure)
      (AsyncDispatchService.confirmSubmission ambient orderId creation) store draws := by
  rw [confirmSubmission_run]
  refine .read_bind (fun first held hrely booked existing hget => ?_)
    fun first held hrely booked failure hget => ?_
  · have hstored := getOrder_ok.mp hget
    refine .attempt_bind (fun candidate hmade => ?_) fun failure hmade => ?_
    · split
      · rename_i hsame
        have hanswered : Answered creation orderId existing first.toRecords :=
          ⟨fulfils_of_same hmade hsame, existing, hstored, rfl, le_rfl⟩
        refine .segment_bind (fun last held₂ hrely₂ booked₂ _ after h => ?_)
          fun last held₂ _ booked₂ failure h => ?_
        · cases hcommit : UnitOfWork.empty.commit last.toRecords with
          | error failure =>
              rw [hcommit] at h
              contradiction
          | ok records =>
              rw [hcommit] at h
              cases h
              obtain ⟨-, rfl⟩ := (commit_empty last.toRecords records).mp hcommit
              exact ⟨held₂, booked₂, fun _ _ => ⟨.refl _, rfl⟩, hanswered.grows hrely₂.1⟩
        · have hcommit : UnitOfWork.empty.commit last.toRecords = .ok last.toRecords :=
            (commit_empty _ _).mpr ⟨booked₂.capacity, rfl⟩
          rw [hcommit] at h
          contradiction
      · exact .inl rfl
    · obtain ⟨sequence, -, hformat⟩ := booked.numbered _ existing hstored
      exact creation_refused (formatOrderNumber_ne_empty hformat) hmade
  · obtain ⟨before, hbefore⟩ := Option.isSome_iff_exists.mp taken
    obtain ⟨next, hnext, -⟩ := hrely.1.orders _ _ hbefore
    rw [getOrder_ok.mpr hnext] at hget
    contradiction

theorem keeps_createOrderOnce :
    Keeps bookkeeping index (fun order store _ => Answered creation orderId order store.toRecords)
      (fun failure _ _ => Refused creation orderId failure)
      (AsyncDispatchService.createOrderOnce .live ambient orderId creation) store draws := by
  refine keeps_createNewOrder.tryCatch fun failure current held h => ?_
  obtain ⟨hrefused, htaken⟩ := h
  split
  · rename_i hconflict
    exact keeps_confirmSubmission (htaken hconflict)
  · exact hrefused

theorem keeps_drop {α : Type} {returned : α → AsyncMemoryStore → Draws → Prop}
    {raised : Failure → AsyncMemoryStore → Draws → Prop} {task : StoreTask α}
    (keeps : Keeps bookkeeping index returned raised task store draws) :
    Keeps bookkeeping index (fun _ _ _ => True) (fun _ _ _ => True) (Command.dropResult task) store
      draws :=
  (keeps.weaken (fun _ _ _ h => h) fun _ _ _ _ => trivial).bind fun _ _ _ _ => trivial

theorem keeps_command (command : Command) :
    Keeps bookkeeping index (fun _ _ _ => True) (fun _ _ _ => True) (command.task .live) store
      draws := by
  cases command with
  | createOrder ambient freshId orderId creation => exact keeps_drop keeps_createNewOrder
  | createOrderOnce ambient orderId creation => exact keeps_drop keeps_createOrderOnce
  | _ => exact keeps_other rfl

/-- What a request may end with. -/
def Request.Returned : Request → Option WorkOrder → Records → Prop
  | .submit _ orderId creation, some order, records => Answered creation orderId order records
  | .submit _ _ _, none, _ => False
  | .other _, _, _ => True

def Request.Raised : Request → Failure → Prop
  | .submit _ orderId creation, failure => Refused creation orderId failure
  | .other _, _ => True

theorem Request.Returned.grows {request : Request} {result : Option WorkOrder}
    {records later : Records} (returned : request.Returned result records)
    (grows : Grows records later) : request.Returned result later := by
  cases request with
  | submit ambient orderId creation =>
      cases result with
      | none => exact returned
      | some order => exact Answered.grows returned grows
  | other command => trivial

theorem keeps_request (request : Request) :
    Keeps bookkeeping index (fun result store _ => request.Returned result store.toRecords)
      (fun failure _ _ => request.Raised failure) request.task store draws := by
  cases request with
  | submit ambient orderId creation =>
      exact keeps_createOrderOnce.bind fun order current held h => h
  | other command =>
      exact (keeps_command command).bind fun _ _ _ _ => trivial

end keeps

/-! ### Every run of requests -/

section runs

variable (requests : List Request) (schedule : List Nat)

theorem submitted_kept :
    ∃ draws, Coroutine.Pool.Kept bookkeeping
      (fun index result store _ => ∀ request, requests[index]? = some request →
        request.Returned result store.toRecords)
      (fun index failure _ _ => ∀ request, requests[index]? = some request →
        request.Raised failure)
      ((submitted requests).run schedule) draws := by
  refine Coroutine.Pool.Kept.run ⟨booked_empty, fun index task htask => ?_⟩
    (fun index result store held later laterHeld hseen h request hrequest =>
      (h request hrequest).grows hseen.1)
    (fun index failure store held later laterHeld _ h => h) schedule
  rw [submitted, List.getElem?_map] at htask
  obtain ⟨request, hrequest, rfl⟩ := Option.map_eq_some_iff.mp htask
  refine (keeps_request request).weaken (fun result store held h other hother => ?_)
    fun failure store held h other hother => ?_
  · rw [hrequest] at hother
    cases hother
    exact h
  · rw [hrequest] at hother
    cases hother
    exact h

/-- A segment writes records only if it is the last of a request that returns. -/
theorem submitted_commits (index : Nat) :
    let reached := (submitted requests).run schedule
    (reached.advance index).state.toRecords = reached.state.toRecords ∨
      ∃ result, (reached.advance index).tasks[index]? = some (.done result) := by
  intro reached
  have hstart : Coroutine.Pool.Orderly interference (poolStep (requests.map Request.command)) .empty
      [] (submitted requests) := by
    refine .start valid_empty fun index task htask => ?_
    rw [List.getElem?_map] at htask
    obtain ⟨request, hrequest, rfl⟩ := Option.map_eq_some_iff.mp htask
    have hcommits := commits_task request.command .empty
    rw [← request.drop_task] at hcommits
    refine hcommits.of_drop.weaken fun _ _ _ hstep => ⟨request.command, ?_, hstep⟩
    rw [List.getElem?_map, hrequest]
    rfl
  obtain ⟨log, orderly⟩ := hstart.run (fun hstep => poolStep_lawful hstep) schedule
  rcases orderly.advance (fun hstep => poolStep_lawful hstep) index with
    ⟨hquiet, -⟩ | ⟨answers, -, hdone, -⟩
  · exact .inl hquiet
  · exact .inr hdone

end runs

/-- What submissions leave, in whatever order everything ran. -/
structure Idempotent (requests : List Request)
    (reached : Coroutine.Pool AsyncMemoryStore Failure (Option WorkOrder)) : Prop where
  /-- A name holds one order at most, submitted once if there is one. -/
  once : ∀ key, (∀ order, reached.state.orders.get? key = some order → orderKey order = key) ∧
    (submissions key reached.state.toRecords).length =
      if (reached.state.orders.get? key).isSome then 1 else 0
  /-- A submission that returned, returned the order of that name, as it was asked for. -/
  returned : ∀ (index : Nat) ambient orderId creation result,
    requests[index]? = some (Request.submit ambient orderId creation) →
    reached.tasks[index]? = some (Coroutine.done result) →
      ∃ order, result = some order ∧ Answered creation orderId order reached.state.toRecords
  /-- One that raised found another order, or named too little. -/
  refused : ∀ (index : Nat) ambient orderId creation failure,
    requests[index]? = some (Request.submit ambient orderId creation) →
    reached.tasks[index]? = some (Coroutine.raise failure) → Refused creation orderId failure
  /-- A segment that writes an order, a session or an event ends a request that returns. -/
  silent : ∀ index, (reached.advance index).state.toRecords = reached.state.toRecords ∨
    ∃ result, (reached.advance index).tasks[index]? = some (.done result)
  /-- Within an organization a public number belongs to one order. -/
  numbers : ∀ first second left right, reached.state.orders.get? first = some left →
    reached.state.orders.get? second = some right → left.organizationId = right.organizationId →
      left.publicNumber = right.publicNumber → first = second

theorem submissions_idempotent (requests : List Request) (schedule : List Nat) :
    Idempotent requests ((submitted requests).run schedule) := by
  obtain ⟨draws, hbooked, htasks⟩ := submitted_kept requests schedule
  constructor
  case once =>
    exact fun key => ⟨fun order h => (Booked.valid hbooked).orderKeyed h |>.1,
      Booked.once hbooked key⟩
  case returned =>
    intro index ambient orderId creation result hrequest hdone
    have hreturned : Request.Returned (.submit ambient orderId creation) result _ :=
      htasks index _ hdone _ hrequest
    cases result with
    | none => exact hreturned.elim
    | some order => exact ⟨order, rfl, hreturned⟩
  case refused =>
    intro index ambient orderId creation failure hrequest hraised
    exact htasks index _ hraised _ hrequest
  case silent => exact submitted_commits requests schedule
  case numbers =>
    intro first second left right hleft hright hwithin hnumber
    have hfirst := (Booked.valid hbooked).orderKeyed hleft |>.1
    have hsecond := (Booked.valid hbooked).orderKeyed hright |>.1
    refine Booked.distinct hbooked first second left right hleft hright ?_ hnumber
    rw [← hfirst, ← hsecond]
    exact hwithin

/-- A submission that names no kind of work is refused for that, and not as a conflict. -/
theorem incomplete_submission_refused :
    let reached := (submitted [.submit ⟨⟨0⟩, "e"⟩ "order-1"
      ⟨"acme", "", "web", .empty, none, none⟩]).run [0]
    reached.tasks = [.raise
        (.valueError "id, public_number, organization_id and work_type are required")] ∧
      Failure.isConcurrencyConflict
        (.valueError "id, public_number, organization_id and work_type are required") = false := by
  exact ⟨rfl, rfl⟩

end DispatchCore.Application
