import DispatchCore.Application.AsyncService

/-! The commands without interference: each is one function on the records it
finds.  The two lookups outside the version checks are answered from outside. -/
namespace DispatchCore.Application

open DispatchCore.Library DispatchCore.Domain DispatchCore.Infrastructure

/-- The calls the service makes on an order and nothing else. -/
def Plain : Call → Prop
  | .startTravel _ => False
  | .complete _ _ => False
  | .cancel _ _ => False
  | _ => True

/-- A command of the service with its arguments and what it reads from outside. -/
inductive Command
  | createOrder (ambient : Ambient) (freshId : String) (orderId : Option String)
      (creation : Creation)
  | createOrderOnce (ambient : Ambient) (orderId : String) (creation : Creation)
  | change (ambient : Ambient) (organizationId orderId : String) (call : Call)
      (plain : Plain call)
  | startTravel (ambient : Ambient) (sessionAmbient : SessionAmbient)
      (organizationId orderId freshId executorId : String) (sessionId : Option String)
  | recordLocation (ambient : Ambient) (report : LocationReport)
  | completeOrder (ambient sessionAmbient : Ambient)
      (organizationId orderId executorId : String) (report : CompletionReport)
  | cancelOrder (ambient sessionAmbient : Ambient) (organizationId orderId reason : String)
      (actorId : Option String)

namespace Command

def dropResult {α : Type} (task : StoreTask α) : StoreTask Unit := do
  let _ ← task
  return

/-- The service method a plain call belongs to. -/
def changeTask (ambient : Ambient) (organizationId orderId : String) :
    (call : Call) → Plain call → StoreTask WorkOrder
  | .claimCoordination coordinatorId, _ =>
      AsyncDispatchService.claimCoordination ambient organizationId orderId coordinatorId
  | .publishPool mode actorId, _ =>
      AsyncDispatchService.publishPool ambient organizationId orderId mode actorId
  | .expressInterest executorId, _ =>
      AsyncDispatchService.expressInterest ambient organizationId orderId executorId
  | .withdrawInterest executorId, _ =>
      AsyncDispatchService.withdrawInterest ambient organizationId orderId executorId
  | .claimFirst executorId, _ =>
      AsyncDispatchService.claimFirst ambient organizationId orderId executorId
  | .assign executorId actorId, _ =>
      AsyncDispatchService.assignOrder ambient organizationId orderId executorId actorId
  | .accept executorId, _ =>
      AsyncDispatchService.acceptOrder ambient organizationId orderId executorId
  | .rejectAssignment executorId, _ =>
      AsyncDispatchService.rejectAssignment ambient organizationId orderId executorId
  | .startWork executorId, _ =>
      AsyncDispatchService.startWork ambient organizationId orderId executorId
  | .startTravel _, plain => plain.elim
  | .complete _ _, plain => plain.elim
  | .cancel _ _, plain => plain.elim

def task (lookups : Lookups) : Command → StoreTask Unit
  | createOrder ambient freshId orderId creation =>
      dropResult (AsyncDispatchService.createOrder lookups ambient freshId orderId creation)
  | createOrderOnce ambient orderId creation =>
      dropResult (AsyncDispatchService.createOrderOnce lookups ambient orderId creation)
  | change ambient organizationId orderId call plain =>
      dropResult (changeTask ambient organizationId orderId call plain)
  | startTravel ambient sessionAmbient organizationId orderId freshId executorId sessionId =>
      dropResult (AsyncDispatchService.startTravel ambient organizationId orderId
        sessionAmbient freshId executorId sessionId)
  | recordLocation ambient report =>
      dropResult (AsyncDispatchService.recordLocation lookups ambient report)
  | completeOrder ambient sessionAmbient organizationId orderId executorId report =>
      dropResult (AsyncDispatchService.completeOrder ambient organizationId orderId
        sessionAmbient executorId report)
  | cancelOrder ambient sessionAmbient organizationId orderId reason actorId =>
      dropResult (AsyncDispatchService.cancelOrder ambient organizationId orderId
        sessionAmbient reason actorId)

end Command

/-- The number a creation was given, and whether a location report was found to
be recorded already. -/
structure Answers where
  publicNumber : String
  seen : Bool

def Lookups.recorded (answers : Answers) : Lookups :=
  ⟨fun _ => pure answers.publicNumber, fun _ _ _ => pure answers.seen⟩

namespace Atomic

/-- What a method leaves of an object, or its failure. -/
def outcome {σ : Type} (method : Method Failure σ Unit) (object : σ) : Except Failure σ :=
  match method.run object with
  | .ok _ after => .ok after
  | .error failure _ => .error failure

def newOrder (order : WorkOrder) : UnitOfWork :=
  (UnitOfWork.empty.stageOrder order none).stageEvents order.events

def changedOrder (order changed : WorkOrder) : UnitOfWork :=
  (UnitOfWork.empty.stageOrder changed (some order.version)).stageEvents changed.events

def createNewOrder (ambient : Ambient) (orderId : String) (creation : Creation)
    (publicNumber : String) (records : Records) : Except Failure Records := do
  let order ← creation.order ambient orderId publicNumber
  (newOrder order).commit records

def confirmSubmission (ambient : Ambient) (orderId : String) (creation : Creation)
    (records : Records) : Except Failure Records := do
  let existing ← records.getOrder creation.organizationId orderId
  let candidate ← creation.order ambient orderId existing.publicNumber
  if sameSubmission existing candidate then UnitOfWork.empty.commit records
  else throw (.concurrencyConflict
    s!"work order {Text.repr orderId} belongs to a different submission")

def createOrderOnce (ambient : Ambient) (orderId : String) (creation : Creation)
    (publicNumber : String) (records : Records) : Except Failure Records :=
  match createNewOrder ambient orderId creation publicNumber records with
  | .ok after => .ok after
  | .error failure =>
      if failure.isConcurrencyConflict then confirmSubmission ambient orderId creation records
      else .error failure

def changeOrder (organizationId orderId : String) (change : Method Failure WorkOrder Unit)
    (records : Records) : Except Failure Records := do
  let order ← records.getOrder organizationId orderId
  let changed ← outcome change order
  (changedOrder order changed).commit records

def startTravel (ambient : Ambient) (sessionAmbient : SessionAmbient)
    (organizationId orderId executorId sessionId : String) (records : Records) :
    Except Failure Records := do
  let order ← records.getOrder organizationId orderId
  let changed ← outcome (WorkOrder.startTravel ambient executorId none) order
  let session ← TrackingSession.start sessionAmbient sessionId organizationId changed.id
    executorId none none none
  (((UnitOfWork.empty.stageOrder changed (some order.version)).stageTracking session
    none).stageEvents (changed.events ++ session.events)).commit records

def closeOrder (organizationId orderId : String) (change : Method Failure WorkOrder Unit)
    (close : Method Failure TrackingSession Unit) (records : Records) :
    Except Failure Records := do
  let order ← records.getOrder organizationId orderId
  let changed ← outcome change order
  let session ← records.findActiveForOrder organizationId orderId
  match session with
  | none => (changedOrder order changed).commit records
  | some session =>
      let closed ← outcome close session
      (((UnitOfWork.empty.stageOrder changed (some order.version)).stageTracking closed
        (some session.version)).stageEvents (changed.events ++ closed.events)).commit records

/-- Add the reported point to the session and commit. -/
def locate (ambient : Ambient) (report : LocationReport) (session : TrackingSession)
    (records : Records) : Except Failure Records := do
  let point ← TrackingPoint.make report.latitude report.longitude
    (AsyncDispatchService.observedAt report session ambient.clock) ambient.clock
    report.source report.accuracyM report.sourceEventId
  let changed ← outcome (TrackingSession.addPoint ambient point) session
  ((UnitOfWork.empty.stageTracking changed (some session.version)).stageEvents
    changed.events).commit records

def recordLocation (ambient : Ambient) (report : LocationReport) (seen : Bool)
    (records : Records) : Except Failure Records := do
  let session ← records.getTracking report.organizationId report.sessionId
  if session.executorId = report.executorId then
    if report.sourceEventId.isSome && seen then UnitOfWork.empty.commit records
    else locate ambient report session records
  else throw (.invalidTransition "session does not belong to this executor")

end Atomic

/-- What a command does to the records it finds, with its lookups answered. -/
def Command.apply (answers : Answers) : Command → Records → Except Failure Records
  | createOrder ambient freshId orderId creation =>
      Atomic.createNewOrder ambient (AsyncDispatchService.orFresh orderId freshId) creation
        answers.publicNumber
  | createOrderOnce ambient orderId creation =>
      Atomic.createOrderOnce ambient orderId creation answers.publicNumber
  | change ambient organizationId orderId call _ =>
      Atomic.changeOrder organizationId orderId (call.perform ambient none)
  | startTravel ambient sessionAmbient organizationId orderId freshId executorId sessionId =>
      Atomic.startTravel ambient sessionAmbient organizationId orderId executorId
        (AsyncDispatchService.orFresh sessionId freshId)
  | recordLocation ambient report => Atomic.recordLocation ambient report answers.seen
  | completeOrder ambient sessionAmbient organizationId orderId executorId report =>
      Atomic.closeOrder organizationId orderId (WorkOrder.complete ambient executorId report none)
        (TrackingSession.complete sessionAmbient none)
  | cancelOrder ambient sessionAmbient organizationId orderId reason actorId =>
      Atomic.closeOrder organizationId orderId (WorkOrder.cancel ambient reason actorId none)
        (TrackingSession.cancel sessionAmbient reason none)

/-- A command run alone, its result dropped. -/
def settle (store : AsyncMemoryStore) :
    Except Failure Records → Except Failure Unit × AsyncMemoryStore
  | .ok records => (.ok (), { store with toRecords := records })
  | .error failure => (.error failure, store)

open Coroutine Atomic Command

section run
variable (work : UnitOfWork)

theorem run_lift {α : Type} (task : StoreTask α) :
    (liftM task : Work α).run work = task >>= fun value => done (value, work) := rfl

theorem run_saveOrder (order : WorkOrder) (expectedVersion : Option Nat) :
    (Work.saveOrder order expectedVersion).run work =
      pause >>= fun _ => done ((), work.stageOrder order expectedVersion) := rfl

theorem run_saveTracking (session : TrackingSession) (expectedVersion : Option Nat) :
    (Work.saveTracking session expectedVersion).run work =
      pause >>= fun _ => done ((), work.stageTracking session expectedVersion) := rfl

theorem run_addEvents (events : List DomainEvent) :
    (Work.addEvents events).run work =
      pause >>= fun _ => done ((), work.stageEvents events) := rfl

theorem run_commit :
    Work.commit.run work = commitSegment work >>= fun _ => done ((), UnitOfWork.empty) := by
  simp only [Work.commit, StateT.run_bind, StateT.run_get, StateT.run_set, pure_eq, done_bind,
    run_lift, bind_assoc]

theorem run_call {σ : Type} (method : Method Failure σ Unit) (object : σ) :
    (Work.call method object).run work =
      attempt (outcome method object) >>= fun after => done (after, work) := by
  unfold Work.call outcome
  cases method.run object <;> rfl

theorem run_attempt {α : Type} (result : Except Failure α) :
    (liftM result : Work α).run work = attempt result >>= fun value => done (value, work) := by
  cases result <;> rfl

theorem run_throw {α : Type} (failure : Failure) :
    (throw failure : Work α).run work = raise failure := rfl

end run

theorem changeTask_eq (ambient : Ambient) (organizationId orderId : String) (call : Call)
    (plain : Plain call) :
    Command.changeTask ambient organizationId orderId call plain =
      AsyncDispatchService.changeOrder organizationId orderId (call.perform ambient none) := by
  cases call <;> first | rfl | exact plain.elim

/-- Commit, and nothing after it. -/
def finish (work : UnitOfWork) : StoreTask Unit := do
  commitSegment work
  return

theorem changeOrder_eq (organizationId orderId : String)
    (change : Method Failure WorkOrder Unit) :
    dropResult (AsyncDispatchService.changeOrder organizationId orderId change) =
      (do
        let order ← getOrder organizationId orderId
        let changed ← attempt (outcome change order)
        pause
        pause
        finish (changedOrder order changed)) := by
  simp only [AsyncDispatchService.changeOrder, Work.transaction, dropResult,
    StateT.run_bind, StateT.run_pure, run_lift, run_call, run_saveOrder, run_addEvents,
    run_commit, bind_assoc, done_bind, pure_eq]
  rfl

theorem createNewOrder_eq (lookups : Lookups) (ambient : Ambient) (orderId : String)
    (creation : Creation) :
    dropResult (AsyncDispatchService.createNewOrder lookups ambient orderId creation) =
      (do
        let publicNumber ← lookups.allocateNumber creation.organizationId
        let order ← attempt (creation.order ambient orderId publicNumber)
        pause
        pause
        finish (newOrder order)) := by
  simp only [AsyncDispatchService.createNewOrder, Work.transaction, dropResult,
    StateT.run_bind, StateT.run_pure, run_lift, run_attempt, run_saveOrder, run_addEvents,
    run_commit, bind_assoc, done_bind, pure_eq]
  rfl

theorem confirmSubmission_eq (ambient : Ambient) (orderId : String) (creation : Creation) :
    dropResult (AsyncDispatchService.confirmSubmission ambient orderId creation) =
      (do
        let existing ← getOrder creation.organizationId orderId
        let candidate ← attempt (creation.order ambient orderId existing.publicNumber)
        if sameSubmission existing candidate then finish .empty
        else raise (.concurrencyConflict
          s!"work order {Text.repr orderId} belongs to a different submission")) := by
  simp only [AsyncDispatchService.confirmSubmission, Work.transaction, dropResult,
    StateT.run_bind, run_lift, run_attempt, bind_assoc, done_bind, pure_eq]
  congr 1
  funext existing
  congr 1
  funext candidate
  by_cases h : sameSubmission existing candidate
  · simp [h, run_commit, finish, bind_assoc]
  · simp [h]

theorem startTravel_eq (ambient : Ambient) (sessionAmbient : SessionAmbient)
    (organizationId orderId freshId executorId : String) (sessionId : Option String) :
    dropResult (AsyncDispatchService.startTravel ambient organizationId orderId sessionAmbient
        freshId executorId sessionId) =
      (do
        let order ← getOrder organizationId orderId
        let changed ← attempt (outcome (WorkOrder.startTravel ambient executorId none) order)
        let session ← attempt (TrackingSession.start sessionAmbient
          (AsyncDispatchService.orFresh sessionId freshId) organizationId changed.id executorId
          none none none)
        pause
        pause
        pause
        finish (((UnitOfWork.empty.stageOrder changed (some order.version)).stageTracking session
          none).stageEvents (changed.events ++ session.events))) := by
  simp only [AsyncDispatchService.startTravel, Work.transaction, dropResult,
    StateT.run_bind, StateT.run_pure, run_lift, run_attempt, run_call, run_saveOrder,
    run_saveTracking, run_addEvents, run_commit, bind_assoc, done_bind, pure_eq]
  rfl

theorem closeOrder_eq (organizationId orderId : String)
    (change : Method Failure WorkOrder Unit) (close : Method Failure TrackingSession Unit) :
    dropResult (AsyncDispatchService.closeOrder organizationId orderId change close) =
      (do
        let order ← getOrder organizationId orderId
        let changed ← attempt (outcome change order)
        pause
        let session ← findActiveForOrder organizationId orderId
        match session with
        | none => do
            pause
            finish (changedOrder order changed)
        | some session => do
            let closed ← attempt (outcome close session)
            pause
            pause
            finish (((UnitOfWork.empty.stageOrder changed (some order.version)).stageTracking
              closed (some session.version)).stageEvents (changed.events ++ closed.events))) := by
  simp only [AsyncDispatchService.closeOrder, Work.transaction, dropResult,
    StateT.run_bind, run_lift, run_call, run_saveOrder, bind_assoc, done_bind, pure_eq]
  congr 1
  funext order
  congr 1
  funext changed
  congr 1
  funext _
  congr 1
  funext session
  cases session with
  | none =>
      simp only [StateT.run_bind, StateT.run_pure, run_addEvents, run_commit, bind_assoc,
        done_bind, pure_eq]
      rfl
  | some session =>
      simp only [StateT.run_bind, StateT.run_pure, run_call, run_saveTracking, run_addEvents,
        run_commit, bind_assoc, done_bind, pure_eq]
      rfl

/-- `record_location` once it is known that the point is new. -/
def locateTask (ambient : Ambient) (report : LocationReport) (session : TrackingSession) :
    StoreTask Unit := do
  let point ← attempt (TrackingPoint.make report.latitude report.longitude
    (AsyncDispatchService.observedAt report session ambient.clock) ambient.clock
    report.source report.accuracyM report.sourceEventId)
  let changed ← attempt (outcome (TrackingSession.addPoint ambient point) session)
  pause
  pause
  finish ((UnitOfWork.empty.stageTracking changed (some session.version)).stageEvents
    changed.events)

theorem recordLocation_eq (lookups : Lookups) (ambient : Ambient) (report : LocationReport) :
    dropResult (AsyncDispatchService.recordLocation lookups ambient report) =
      (do
        let session ← getTracking report.organizationId report.sessionId
        if session.executorId = report.executorId then
          match report.sourceEventId with
          | none => locateTask ambient report session
          | some sourceEventId =>
              let seen ← lookups.hasEvent report.organizationId report.source sourceEventId
              if seen then finish .empty else locateTask ambient report session
        else raise (.invalidTransition "session does not belong to this executor")) := by
  simp only [AsyncDispatchService.recordLocation, Work.transaction, dropResult,
    StateT.run_bind, run_lift, bind_assoc, done_bind, pure_eq]
  congr 1
  funext session
  by_cases howner : session.executorId = report.executorId
  · cases hsource : report.sourceEventId with
    | none =>
        simp [howner, run_call, run_saveTracking, run_addEvents, run_commit, -bind_pure_comp,
          locateTask, hsource]
        rfl
    | some sourceEventId =>
        simp only [howner, ne_eq, not_true_eq_false, if_false, if_true, StateT.run_bind, run_lift,
          bind_assoc, done_bind]
        congr 1
        funext seen
        cases seen <;>
          simp [run_call, run_saveTracking, run_addEvents, run_commit, -bind_pure_comp,
            locateTask, hsource] <;> rfl
  · simp [howner]

theorem alone_finish (work : UnitOfWork) (store : AsyncMemoryStore) :
    (finish work).alone store = settle store (work.commit store.toRecords) := by
  unfold finish commitSegment
  rw [alone_segment_bind]
  cases h : work.commit store.toRecords with
  | ok records => simp [Except.map, settle]
  | error failure => simp [Except.map, settle]

theorem alone_attempt_settle {α : Type} (result : Except Failure α)
    (next : α → StoreTask Unit) (rest : α → Except Failure Records) (store : AsyncMemoryStore)
    (h : ∀ value, (next value).alone store = settle store (rest value)) :
    (attempt result >>= next).alone store = settle store (result >>= rest) := by
  cases result with
  | ok value => exact h value
  | error failure => rfl

theorem alone_read_settle {α : Type} (look : AsyncMemoryStore → Except Failure α)
    (next : α → StoreTask Unit) (rest : α → Except Failure Records) (store : AsyncMemoryStore)
    (h : ∀ value, (next value).alone store = settle store (rest value)) :
    (read look >>= next).alone store = settle store (look store >>= rest) := by
  rw [alone_read_bind]
  cases look store with
  | ok value => exact h value
  | error failure => rfl

section alone

variable (store : AsyncMemoryStore)

theorem alone_changeOrder (organizationId orderId : String)
    (change : Method Failure WorkOrder Unit) :
    (dropResult (AsyncDispatchService.changeOrder organizationId orderId change)).alone store =
      settle store (Atomic.changeOrder organizationId orderId change store.toRecords) := by
  rw [changeOrder_eq]
  refine alone_read_settle _ _ _ store fun order => ?_
  refine alone_attempt_settle _ _ _ store fun changed => ?_
  exact alone_finish _ store

theorem alone_createNewOrder (answers : Answers) (ambient : Ambient) (orderId : String)
    (creation : Creation) :
    (dropResult (AsyncDispatchService.createNewOrder (.recorded answers) ambient orderId
        creation)).alone store =
      settle store (Atomic.createNewOrder ambient orderId creation answers.publicNumber
        store.toRecords) := by
  rw [createNewOrder_eq]
  refine alone_attempt_settle _ _ _ store fun order => ?_
  exact alone_finish _ store

theorem alone_confirmSubmission (ambient : Ambient) (orderId : String)
    (creation : Creation) :
    (dropResult (AsyncDispatchService.confirmSubmission ambient orderId creation)).alone
        store =
      settle store (Atomic.confirmSubmission ambient orderId creation store.toRecords) := by
  rw [confirmSubmission_eq]
  refine alone_read_settle _ _ _ store fun existing => ?_
  refine alone_attempt_settle _ _ _ store fun candidate => ?_
  split
  · exact alone_finish _ store
  · rfl

theorem createOrderOnce_eq (lookups : Lookups) (ambient : Ambient) (orderId : String)
    (creation : Creation) :
    dropResult (AsyncDispatchService.createOrderOnce lookups ambient orderId creation) =
      (dropResult (AsyncDispatchService.createNewOrder lookups ambient orderId
        creation)).tryCatch fun failure =>
          if failure.isConcurrencyConflict then
            dropResult (AsyncDispatchService.confirmSubmission ambient orderId creation)
          else raise failure := by
  unfold AsyncDispatchService.createOrderOnce dropResult
  generalize AsyncDispatchService.createNewOrder lookups ambient orderId creation = task
  induction task with
  | done value => rfl
  | raise failure =>
      simp only [Coroutine.tryCatch, raise_bind]
      split <;> rfl
  | await effect resume ih =>
      simp only [Coroutine.tryCatch, await_bind]
      congr 1
      funext state
      exact ih state

theorem alone_createOrderOnce (answers : Answers) (ambient : Ambient) (orderId : String)
    (creation : Creation) :
    (dropResult (AsyncDispatchService.createOrderOnce (.recorded answers) ambient orderId
        creation)).alone store =
      settle store (Atomic.createOrderOnce ambient orderId creation answers.publicNumber
        store.toRecords) := by
  rw [createOrderOnce_eq, alone_tryCatch, alone_createNewOrder]
  unfold Atomic.createOrderOnce
  cases Atomic.createNewOrder ambient orderId creation answers.publicNumber store.toRecords with
  | ok records => rfl
  | error failure =>
      simp only [settle]
      split
      · exact alone_confirmSubmission store ambient orderId creation
      · rfl

theorem alone_startTravel (ambient : Ambient) (sessionAmbient : SessionAmbient)
    (organizationId orderId freshId executorId : String) (sessionId : Option String) :
    (dropResult (AsyncDispatchService.startTravel ambient organizationId orderId
        sessionAmbient freshId executorId sessionId)).alone store =
      settle store (Atomic.startTravel ambient sessionAmbient organizationId orderId
        executorId (AsyncDispatchService.orFresh sessionId freshId) store.toRecords) := by
  rw [startTravel_eq]
  refine alone_read_settle _ _ _ store fun order => ?_
  refine alone_attempt_settle _ _ _ store fun changed => ?_
  refine alone_attempt_settle _ _ _ store fun session => ?_
  exact alone_finish _ store

theorem alone_closeOrder (organizationId orderId : String)
    (change : Method Failure WorkOrder Unit) (close : Method Failure TrackingSession Unit) :
    (dropResult (AsyncDispatchService.closeOrder organizationId orderId change
        close)).alone store =
      settle store (Atomic.closeOrder organizationId orderId change close store.toRecords) := by
  rw [closeOrder_eq]
  refine alone_read_settle _ _ _ store fun order => ?_
  refine alone_attempt_settle _ _ _ store fun changed => ?_
  rw [alone_pause_bind]
  refine alone_read_settle _ _ _ store fun session => ?_
  cases session with
  | none => exact alone_finish _ store
  | some session =>
      refine alone_attempt_settle _ _ _ store fun closed => ?_
      exact alone_finish _ store

theorem alone_recordLocation (answers : Answers) (ambient : Ambient)
    (report : LocationReport) :
    (dropResult (AsyncDispatchService.recordLocation (.recorded answers) ambient
        report)).alone store =
      settle store (Atomic.recordLocation ambient report answers.seen store.toRecords) := by
  have hlocate (session : TrackingSession) : (locateTask ambient report session).alone store =
      settle store (Atomic.locate ambient report session store.toRecords) := by
    refine alone_attempt_settle _ _ _ store fun point => ?_
    refine alone_attempt_settle _ _ _ store fun changed => ?_
    exact alone_finish _ store
  rw [recordLocation_eq]
  refine alone_read_settle _ _ _ store fun session => ?_
  split
  · cases report.sourceEventId with
    | none => exact hlocate session
    | some sourceEventId =>
        cases hseen : answers.seen with
        | false => simpa [Lookups.recorded, hseen] using hlocate session
        | true => simpa [Lookups.recorded, hseen] using alone_finish .empty store
  · rfl

/-- A command run alone, with its lookups answered, does what `apply` says. -/
theorem alone_task (answers : Answers) (command : Command) :
    (command.task (.recorded answers)).alone store =
      settle store (command.apply answers store.toRecords) := by
  cases command with
  | createOrder ambient freshId orderId creation =>
      exact alone_createNewOrder store answers ambient _ creation
  | createOrderOnce ambient orderId creation =>
      exact alone_createOrderOnce store answers ambient orderId creation
  | change ambient organizationId orderId call plain =>
      simp only [Command.task, changeTask_eq]
      exact alone_changeOrder store organizationId orderId _
  | startTravel ambient sessionAmbient organizationId orderId freshId executorId sessionId =>
      exact alone_startTravel store ambient sessionAmbient organizationId orderId freshId
        executorId sessionId
  | recordLocation ambient report => exact alone_recordLocation store answers ambient report
  | completeOrder ambient sessionAmbient organizationId orderId executorId report =>
      exact alone_closeOrder store organizationId orderId _ _
  | cancelOrder ambient sessionAmbient organizationId orderId reason actorId =>
      exact alone_closeOrder store organizationId orderId _ _

end alone
end DispatchCore.Application
