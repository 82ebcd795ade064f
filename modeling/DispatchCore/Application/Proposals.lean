import DispatchCore.Application.Effects
import DispatchCore.Application.Service
import DispatchCore.Infrastructure.ExecutorCapacity

/-! What a command asks its unit of work to store.  Both services read, check,
propose and commit; run with nobody else, a command of either is its proposal
followed by the commit of the store it works on. -/
namespace DispatchCore.Application

open DispatchCore.Library DispatchCore.Domain DispatchCore.Infrastructure

/-- The copies a command saves, each with the version its reader saw. -/
structure Proposal where
  order : Option (WorkOrder × Option Nat)
  session : Option (TrackingSession × Option Nat)

namespace Proposal

def events (proposal : Proposal) : List DomainEvent :=
  match proposal.order, proposal.session with
  | none, none => []
  | some order, none => order.1.events
  | none, some session => session.1.events
  | some order, some session => order.1.events ++ session.1.events

def work (proposal : Proposal) : UnitOfWork :=
  let ordered := proposal.order.elim UnitOfWork.empty fun saved =>
    UnitOfWork.empty.stageOrder saved.1 saved.2
  let tracked := proposal.session.elim ordered fun saved =>
    ordered.stageTracking saved.1 saved.2
  tracked.stageEvents proposal.events

def staged (proposal : Proposal) : InMemoryUnitOfWork :=
  let ordered := proposal.order.elim InMemoryUnitOfWork.empty fun saved =>
    InMemoryUnitOfWork.empty.stageOrder saved.1 saved.2
  let tracked := proposal.session.elim ordered fun saved =>
    ordered.stageTracking saved.1 saved.2
  tracked.stageEvents proposal.events

end Proposal

/-- The lookups a command makes before it proposes. -/
structure Reads where
  getOrder : String → String → Except Failure WorkOrder
  getTracking : String → String → Except Failure TrackingSession
  findActiveForOrder : String → String → Except Failure (Option TrackingSession)

def readsOfRecords (records : Records) : Reads :=
  ⟨records.getOrder, records.getTracking, records.findActiveForOrder⟩

def readsOfStore (store : MemoryStore) : Reads :=
  ⟨store.getOrder, store.getTracking, store.findActiveForOrder⟩

namespace Reads

variable (reads : Reads)

def change (organizationId orderId : String) (change : Method Failure WorkOrder Unit) :
    Except Failure Proposal := do
  let order ← reads.getOrder organizationId orderId
  let changed ← Atomic.outcome change order
  return ⟨some (changed, some order.version), none⟩

def startTravel (ambient : Ambient) (sessionAmbient : SessionAmbient)
    (organizationId orderId executorId sessionId : String) : Except Failure Proposal := do
  let order ← reads.getOrder organizationId orderId
  let changed ← Atomic.outcome (WorkOrder.startTravel ambient executorId none) order
  let session ← TrackingSession.start sessionAmbient sessionId organizationId changed.id
    executorId none none none
  return ⟨some (changed, some order.version), some (session, none)⟩

def close (organizationId orderId : String) (change : Method Failure WorkOrder Unit)
    (close : Method Failure TrackingSession Unit) : Except Failure Proposal := do
  let order ← reads.getOrder organizationId orderId
  let changed ← Atomic.outcome change order
  let session ← reads.findActiveForOrder organizationId orderId
  match session with
  | none => return ⟨some (changed, some order.version), none⟩
  | some session =>
      let closed ← Atomic.outcome close session
      return ⟨some (changed, some order.version), some (closed, some session.version)⟩

/-- A new point of the session, captured at the given instant. -/
def place (ambient : Ambient) (report : LocationReport) (session : TrackingSession)
    (instant : Instant) : Except Failure Proposal := do
  let point ← TrackingPoint.make report.latitude report.longitude instant ambient.clock
    report.source report.accuracyM report.sourceEventId
  let changed ← Atomic.outcome (TrackingSession.addPoint ambient point) session
  return ⟨none, some (changed, some session.version)⟩

/-- `record_location` with what the service knows of the source event and how it dates a late
point. -/
def locate (ambient : Ambient) (report : LocationReport) (seen : Bool)
    (observedAt : TrackingSession → Instant) : Except Failure Proposal := do
  let session ← reads.getTracking report.organizationId report.sessionId
  if session.executorId = report.executorId then
    if report.sourceEventId.isSome && seen then return ⟨none, none⟩
    else place ambient report session (observedAt session)
  else throw (.invalidTransition "session does not belong to this executor")

end Reads

/-- The creation with the number it was given. -/
def Creation.propose (creation : Creation) (ambient : Ambient) (orderId : String)
    (number : Except Failure String) : Except Failure Proposal := do
  let publicNumber ← number
  let order ← creation.order ambient orderId publicNumber
  return ⟨some (order, none), none⟩

/-- The number the next creation of the organization is given. -/
def nextNumber (counters : Dict String Nat) (organizationId : String) : Except Failure String :=
  formatOrderNumber ((counters.get? organizationId).getD 0 + 1)

def drawNumber (counters : Dict String Nat) (organizationId : String) : Dict String Nat :=
  counters.set organizationId ((counters.get? organizationId).getD 0 + 1)

/-- What a shared command proposes, over its lookups, the counters, what the service knows of
source events and how it dates late points. -/
def Command.propose (reads : Reads) (counters : Dict String Nat) (seen : LocationReport → Bool)
    (observedAt : LocationReport → TrackingSession → Instant → Instant) :
    (command : Command) → command.Shared → Except Failure Proposal
  | createOrder ambient freshId orderId creation, _ =>
      creation.propose ambient (AsyncDispatchService.orFresh orderId freshId)
        (nextNumber counters creation.organizationId)
  | createOrderOnce _ _ _, shared => shared.elim
  | change ambient organizationId orderId call _, _ =>
      reads.change organizationId orderId (call.perform ambient none)
  | startTravel ambient sessionAmbient organizationId orderId freshId executorId sessionId, _ =>
      reads.startTravel ambient sessionAmbient organizationId orderId executorId
        (AsyncDispatchService.orFresh sessionId freshId)
  | recordLocation ambient report, _ =>
      reads.locate ambient report (seen report)
        fun session => observedAt report session ambient.clock
  | completeOrder ambient sessionAmbient organizationId orderId executorId report, _ =>
      reads.close organizationId orderId (WorkOrder.complete ambient executorId report none)
        (TrackingSession.complete sessionAmbient none)
  | cancelOrder ambient sessionAmbient organizationId orderId reason actorId, _ =>
      reads.close organizationId orderId (WorkOrder.cancel ambient reason actorId none)
        (TrackingSession.cancel sessionAmbient reason none)

/-- The counters after a command: a creation has drawn its number, whatever became of it. -/
def Command.draw (counters : Dict String Nat) : Command → Dict String Nat
  | createOrder _ _ _ creation => drawNumber counters creation.organizationId
  | createOrderOnce _ _ creation => drawNumber counters creation.organizationId
  | _ => counters

/-! ### The synchronous service -/

def Proposal.submit (proposal : Proposal) (store : MemoryStore) : Except Failure MemoryStore := do
  proposal.staged.checkVersions store
  proposal.staged.checkExecutorCapacity store
  return proposal.staged.stored store

/-- The call after its proposal was submitted, or refused. -/
def concluded (store : MemoryStore) :
    Except Failure MemoryStore → EStateM.Result Failure MemoryStore Unit
  | .ok after => .ok () after
  | .error failure => .error failure store

section serve

variable (store : MemoryStore) (work : InMemoryUnitOfWork)

/-- What a body that has come this far does, run to its end and its result dropped. -/
def finished {α : Type} (body : MemoryWork α) : EStateM.Result Failure MemoryStore Unit :=
  (Command.discard (do
    let result ← body.run work
    return result.1)).run store

theorem finished_attempt_bind {α β : Type} (result : Except Failure α)
    (next : α → MemoryWork β) :
    finished store work (MemoryWork.attempt result >>= next) =
      match result with
      | .ok value => finished store work (next value)
      | .error failure => .error failure store := by
  cases result <;> rfl

theorem finished_read_bind {α β : Type} (look : MemoryStore → Except Failure α)
    (next : α → MemoryWork β) :
    finished store work (MemoryWork.read look >>= next) =
      match look store with
      | .ok value => finished store work (next value)
      | .error failure => .error failure store := by
  change finished store work (MemoryWork.attempt (look store) >>= next) = _
  exact finished_attempt_bind store work (look store) next

theorem finished_call_bind {σ β : Type} (method : Method Failure σ Unit) (object : σ)
    (next : σ → MemoryWork β) :
    finished store work (MemoryWork.call method object >>= next) =
      match Atomic.outcome method object with
      | .ok value => finished store work (next value)
      | .error failure => .error failure store := by
  unfold MemoryWork.call Atomic.outcome
  cases method.run object <;> rfl

theorem finished_saveOrder_bind {β : Type} (order : WorkOrder) (expectedVersion : Option Nat)
    (next : Unit → MemoryWork β) :
    finished store work (MemoryWork.saveOrder order expectedVersion >>= next) =
      finished store (work.stageOrder order expectedVersion) (next ()) := rfl

theorem finished_commit {α : Type} (value : α) :
    finished store work (MemoryWork.commit >>= fun _ => pure value) =
      concluded store (do
        work.checkVersions store
        work.checkExecutorCapacity store
        return work.stored store) := by
  unfold finished Command.discard
  rw [StateT.run_bind]
  simp only [bind_assoc, EStateM.run_bind, MemoryWork.run_commit]
  cases work.checkVersions store with
  | error failure => rfl
  | ok done =>
      cases work.checkExecutorCapacity store with
      | error failure => rfl
      | ok done => rfl

/-- A body run from its start. -/
theorem discard_transaction {α : Type} (body : MemoryWork α) :
    (Command.discard (MemoryWork.transaction body)).run store = finished store .empty body := rfl

end serve

section serve

variable (store : MemoryStore)

theorem serve_changeOrder (organizationId orderId : String)
    (change : Method Failure WorkOrder Unit) :
    (Command.discard (DispatchService.changeOrder organizationId orderId change)).run store =
      concluded store (((readsOfStore store).change organizationId orderId change) >>=
        fun proposal => proposal.submit store) := by
  unfold DispatchService.changeOrder Reads.change
  rw [discard_transaction, MemoryWork.getOrder, finished_read_bind]
  change _ = concluded store ((store.getOrder organizationId orderId >>= _) >>= _)
  cases store.getOrder organizationId orderId with
  | error failure => rfl
  | ok order =>
      simp only [finished_call_bind]
      change _ = concluded store ((Atomic.outcome change order >>= _) >>= _)
      cases Atomic.outcome change order with
      | error failure => rfl
      | ok changed =>
          exact finished_commit store
            (Proposal.staged ⟨some (changed, some order.version), none⟩) changed.pullEvents.2

/-- The store once a number was drawn for the organization. -/
def afterNumber (organizationId : String) : MemoryStore :=
  { store with orderNumberCounters := drawNumber store.orderNumberCounters organizationId }

theorem finished_allocate_bind (work : InMemoryUnitOfWork) (organizationId : String) {β : Type}
    (next : String → MemoryWork β) :
    finished store work (MemoryWork.allocatePublicNumber organizationId >>= next) =
      match nextNumber store.orderNumberCounters organizationId with
      | .ok number => finished (afterNumber store organizationId) work (next number)
      | .error failure => .error failure (afterNumber store organizationId) := by
  change finished (afterNumber store organizationId) work
    (MemoryWork.attempt (nextNumber store.orderNumberCounters organizationId) >>= next) = _
  rw [finished_attempt_bind]
  cases nextNumber store.orderNumberCounters organizationId <;> rfl

theorem serve_createOrder (ambient : Ambient) (freshId : String) (orderId : Option String)
    (creation : Creation) :
    (Command.discard (DispatchService.createOrder ambient freshId orderId creation)).run store =
      concluded (afterNumber store creation.organizationId)
        (creation.propose ambient (AsyncDispatchService.orFresh orderId freshId)
            (nextNumber store.orderNumberCounters creation.organizationId) >>=
          fun proposal => proposal.submit (afterNumber store creation.organizationId)) := by
  unfold DispatchService.createOrder Creation.propose
  rw [discard_transaction, finished_allocate_bind]
  cases nextNumber store.orderNumberCounters creation.organizationId with
  | error failure => rfl
  | ok number =>
      simp only [finished_attempt_bind]
      change _ = concluded _
        ((creation.order ambient (AsyncDispatchService.orFresh orderId freshId) number >>= _) >>= _)
      cases creation.order ambient (AsyncDispatchService.orFresh orderId freshId) number with
      | error failure => rfl
      | ok order =>
          exact finished_commit (afterNumber store creation.organizationId)
            (Proposal.staged ⟨some (order, none), none⟩) order.pullEvents.2

theorem serve_startTravel (ambient : Ambient) (sessionAmbient : SessionAmbient)
    (organizationId orderId freshId executorId : String) (sessionId : Option String) :
    (Command.discard (DispatchService.startTravel ambient organizationId orderId sessionAmbient
        freshId executorId sessionId)).run store =
      concluded store ((readsOfStore store).startTravel ambient sessionAmbient organizationId
          orderId executorId (AsyncDispatchService.orFresh sessionId freshId) >>=
        fun proposal => proposal.submit store) := by
  unfold DispatchService.startTravel Reads.startTravel
  rw [discard_transaction, MemoryWork.getOrder, finished_read_bind]
  change _ = concluded store ((store.getOrder organizationId orderId >>= _) >>= _)
  cases store.getOrder organizationId orderId with
  | error failure => rfl
  | ok order =>
      simp only [finished_call_bind]
      change _ = concluded store
        ((Atomic.outcome (WorkOrder.startTravel ambient executorId none) order >>= _) >>= _)
      cases Atomic.outcome (WorkOrder.startTravel ambient executorId none) order with
      | error failure => rfl
      | ok changed =>
          simp only [finished_attempt_bind]
          change _ = concluded store ((TrackingSession.start _ _ _ _ _ _ _ _ >>= _) >>= _)
          cases TrackingSession.start sessionAmbient
            (AsyncDispatchService.orFresh sessionId freshId) organizationId changed.id executorId
            none none none with
          | error failure => rfl
          | ok session =>
              exact finished_commit store
                (Proposal.staged ⟨some (changed, some order.version), some (session, none)⟩)
                (changed.pullEvents.2, session.pullEvents.2)

theorem serve_closeOrder (organizationId orderId : String)
    (change : Method Failure WorkOrder Unit) (close : Method Failure TrackingSession Unit) :
    (Command.discard (DispatchService.closeOrder organizationId orderId change close)).run store =
      concluded store (((readsOfStore store).close organizationId orderId change close) >>=
        fun proposal => proposal.submit store) := by
  unfold DispatchService.closeOrder Reads.close
  rw [discard_transaction, MemoryWork.getOrder, finished_read_bind]
  change _ = concluded store ((store.getOrder organizationId orderId >>= _) >>= _)
  cases store.getOrder organizationId orderId with
  | error failure => rfl
  | ok order =>
      simp only [finished_call_bind]
      change _ = concluded store ((Atomic.outcome change order >>= _) >>= _)
      cases Atomic.outcome change order with
      | error failure => rfl
      | ok changed =>
          simp only [finished_saveOrder_bind]
          rw [MemoryWork.findActiveForOrder, finished_read_bind]
          change _ = concluded store ((store.findActiveForOrder organizationId orderId >>= _) >>= _)
          cases store.findActiveForOrder organizationId orderId with
          | error failure => rfl
          | ok found =>
              cases found with
              | none =>
                  exact finished_commit store
                    (Proposal.staged ⟨some (changed, some order.version), none⟩)
                    changed.pullEvents.2
              | some session =>
                  simp only [bind_assoc, finished_call_bind]
                  change _ = concluded store ((Atomic.outcome close session >>= _) >>= _)
                  cases Atomic.outcome close session with
                  | error failure => rfl
                  | ok closed =>
                      exact finished_commit store (Proposal.staged
                        ⟨some (changed, some order.version), some (closed, some session.version)⟩)
                        changed.pullEvents.2

theorem finished_place (ambient : Ambient) (report : LocationReport) (session : TrackingSession)
    (instant : Instant) :
    (finished store .empty do
        let point ← MemoryWork.attempt (TrackingPoint.make report.latitude report.longitude
          instant ambient.clock report.source report.accuracyM report.sourceEventId)
        let changed ← MemoryWork.call (TrackingSession.addPoint ambient point) session
        MemoryWork.saveTracking changed (some session.version)
        MemoryWork.addEvents changed.pullEvents.1
        MemoryWork.commit
        return changed.pullEvents.2) =
      concluded store (Reads.place ambient report session instant >>=
        fun proposal => proposal.submit store) := by
  unfold Reads.place
  rw [finished_attempt_bind]
  cases TrackingPoint.make report.latitude report.longitude instant ambient.clock report.source
    report.accuracyM report.sourceEventId with
  | error failure => rfl
  | ok point =>
      simp only [finished_call_bind]
      change _ = concluded store
        ((Atomic.outcome (TrackingSession.addPoint ambient point) session >>= _) >>= _)
      cases Atomic.outcome (TrackingSession.addPoint ambient point) session with
      | error failure => rfl
      | ok changed =>
          exact finished_commit store (Proposal.staged ⟨none, some (changed, some session.version)⟩)
            changed.pullEvents.2

theorem serve_recordLocation (ambient : Ambient) (report : LocationReport) :
    (Command.discard (DispatchService.recordLocation ambient report)).run store =
      concluded store (((readsOfStore store).locate ambient report false
          fun session => DispatchService.observedAt report session ambient.clock) >>=
        fun proposal => proposal.submit store) := by
  unfold DispatchService.recordLocation Reads.locate
  rw [discard_transaction, MemoryWork.getTracking, finished_read_bind]
  change _ = concluded store
    ((store.getTracking report.organizationId report.sessionId >>= _) >>= _)
  cases store.getTracking report.organizationId report.sessionId with
  | error failure => rfl
  | ok session =>
      by_cases howner : session.executorId = report.executorId
      · simp only [howner, ne_eq, not_true_eq_false, if_false]
        refine (finished_place store ambient report session _).trans ?_
        change _ = concluded store ((if _ then (if _ then _ else _) else _) >>= _)
        rw [if_pos howner, Bool.and_false]
        rfl
      · simp only [howner, ne_eq, not_false_eq_true, if_true]
        change _ = concluded store ((if _ then (if _ then _ else _) else _) >>= _)
        rw [if_neg howner]
        rfl

theorem changeMethod_eq (ambient : Ambient) (organizationId orderId : String) (call : Call)
    (plain : Plain call) :
    Command.changeMethod ambient organizationId orderId call plain =
      DispatchService.changeOrder organizationId orderId (call.perform ambient none) := by
  cases call <;> first | rfl | exact plain.elim

/-- A command of the synchronous service is its proposal, submitted to the store. -/
theorem serve_run (command : Command) (shared : command.Shared) :
    (command.serve shared).run store =
      let drawn := { store with orderNumberCounters := command.draw store.orderNumberCounters }
      concluded drawn
        (command.propose (readsOfStore store) store.orderNumberCounters (fun _ => false)
            DispatchService.observedAt shared >>=
          fun proposal => proposal.submit drawn) := by
  cases command with
  | createOrder ambient freshId orderId creation =>
      exact serve_createOrder store ambient freshId orderId creation
  | createOrderOnce ambient orderId creation => exact shared.elim
  | change ambient organizationId orderId call plain =>
      simp only [Command.serve, changeMethod_eq]
      exact serve_changeOrder store organizationId orderId _
  | startTravel ambient sessionAmbient organizationId orderId freshId executorId sessionId =>
      exact serve_startTravel store ambient sessionAmbient organizationId orderId freshId
        executorId sessionId
  | recordLocation ambient report => exact serve_recordLocation store ambient report
  | completeOrder ambient sessionAmbient organizationId orderId executorId report =>
      exact serve_closeOrder store organizationId orderId _ _
  | cancelOrder ambient sessionAmbient organizationId orderId reason actorId =>
      exact serve_closeOrder store organizationId orderId _ _

end serve
/-! ### The asynchronous service -/

section alone

open Coroutine Atomic Command

variable (records : Records)

theorem changeOrder_propose (organizationId orderId : String)
    (change : Method Failure WorkOrder Unit) :
    Atomic.changeOrder organizationId orderId change records =
      ((readsOfRecords records).change organizationId orderId change) >>=
        fun proposal => proposal.work.commit records := by
  unfold Atomic.changeOrder Reads.change
  change _ = (records.getOrder organizationId orderId >>= _) >>= _
  cases records.getOrder organizationId orderId with
  | error failure => rfl
  | ok order =>
      change (outcome change order >>= _) = (outcome change order >>= _) >>= _
      cases outcome change order <;> rfl

theorem startTravel_propose (ambient : Ambient) (sessionAmbient : SessionAmbient)
    (organizationId orderId executorId sessionId : String) :
    Atomic.startTravel ambient sessionAmbient organizationId orderId executorId sessionId records =
      ((readsOfRecords records).startTravel ambient sessionAmbient organizationId orderId
        executorId sessionId) >>= fun proposal => proposal.work.commit records := by
  unfold Atomic.startTravel Reads.startTravel
  change _ = (records.getOrder organizationId orderId >>= _) >>= _
  cases records.getOrder organizationId orderId with
  | error failure => rfl
  | ok order =>
      change (outcome (WorkOrder.startTravel ambient executorId none) order >>= _) =
        (outcome (WorkOrder.startTravel ambient executorId none) order >>= _) >>= _
      cases outcome (WorkOrder.startTravel ambient executorId none) order with
      | error failure => rfl
      | ok changed =>
          change (TrackingSession.start _ _ _ _ _ _ _ _ >>= _) =
            (TrackingSession.start _ _ _ _ _ _ _ _ >>= _) >>= _
          cases TrackingSession.start sessionAmbient sessionId organizationId changed.id
            executorId none none none <;> rfl

theorem closeOrder_propose (organizationId orderId : String)
    (change : Method Failure WorkOrder Unit) (close : Method Failure TrackingSession Unit) :
    Atomic.closeOrder organizationId orderId change close records =
      ((readsOfRecords records).close organizationId orderId change close) >>=
        fun proposal => proposal.work.commit records := by
  unfold Atomic.closeOrder Reads.close
  change _ = (records.getOrder organizationId orderId >>= _) >>= _
  cases records.getOrder organizationId orderId with
  | error failure => rfl
  | ok order =>
      change (outcome change order >>= _) = (outcome change order >>= _) >>= _
      cases outcome change order with
      | error failure => rfl
      | ok changed =>
          change (records.findActiveForOrder organizationId orderId >>= _) =
            (records.findActiveForOrder organizationId orderId >>= _) >>= _
          cases records.findActiveForOrder organizationId orderId with
          | error failure => rfl
          | ok found =>
              cases found with
              | none => rfl
              | some session =>
                  change (outcome close session >>= _) = (outcome close session >>= _) >>= _
                  cases outcome close session <;> rfl

theorem recordLocation_propose (ambient : Ambient) (report : LocationReport) (seen : Bool) :
    Atomic.recordLocation ambient report seen records =
      ((readsOfRecords records).locate ambient report seen
          fun session => AsyncDispatchService.observedAt report session ambient.clock) >>=
        fun proposal => proposal.work.commit records := by
  unfold Atomic.recordLocation Reads.locate
  change _ = (records.getTracking report.organizationId report.sessionId >>= _) >>= _
  cases records.getTracking report.organizationId report.sessionId with
  | error failure => rfl
  | ok session =>
      change (if _ then (if _ then _ else _) else _) = (if _ then (if _ then _ else _) else _) >>= _
      by_cases howner : session.executorId = report.executorId
      · rw [if_pos howner, if_pos howner]
        by_cases hseen : report.sourceEventId.isSome && seen
        · rw [if_pos hseen, if_pos hseen]
          rfl
        · rw [if_neg hseen, if_neg hseen]
          unfold locate Reads.place
          cases TrackingPoint.make report.latitude report.longitude
            (AsyncDispatchService.observedAt report session ambient.clock) ambient.clock
            report.source report.accuracyM report.sourceEventId with
          | error failure => rfl
          | ok point =>
              change (outcome (TrackingSession.addPoint ambient point) session >>= _) =
                (outcome (TrackingSession.addPoint ambient point) session >>= _) >>= _
              cases outcome (TrackingSession.addPoint ambient point) session <;> rfl
      · rw [if_neg howner, if_neg howner]
        rfl

/-- The source event of the report is on record in the organization. -/
def seenBefore (report : LocationReport) : Bool :=
  match report.sourceEventId with
  | none => false
  | some sourceEventId => records.hasSourceEvent report.organizationId report.source sourceEventId

theorem alone_live_recordLocation (store : AsyncMemoryStore) (ambient : Ambient)
    (report : LocationReport) :
    (dropResult (AsyncDispatchService.recordLocation .live ambient report)).alone store =
      settle store (Atomic.recordLocation ambient report (seenBefore store.toRecords report)
        store.toRecords) := by
  rw [← alone_recordLocation store ⟨"", seenBefore store.toRecords report⟩ ambient report,
    recordLocation_eq, recordLocation_eq]
  rw [getTracking, alone_read_bind, alone_read_bind]
  cases store.getTracking report.organizationId report.sessionId with
  | error failure => rfl
  | ok session =>
      simp only
      split
      · cases hsource : report.sourceEventId with
        | none => rfl
        | some sourceEventId =>
            simp only [Lookups.live, hasSourceEvent, alone_read_bind, Lookups.recorded, seenBefore,
              hsource]
            rfl
      · rfl

theorem alone_live_createOrder (store : AsyncMemoryStore) (ambient : Ambient) (freshId : String)
    (orderId : Option String) (creation : Creation) :
    (dropResult (AsyncDispatchService.createOrder .live ambient freshId orderId
        creation)).alone store =
      settle { store with
          orderNumberCounters := drawNumber store.orderNumberCounters creation.organizationId }
        (creation.propose ambient (AsyncDispatchService.orFresh orderId freshId)
            (nextNumber store.orderNumberCounters creation.organizationId) >>=
          fun proposal => proposal.work.commit store.toRecords) := by
  unfold AsyncDispatchService.createOrder
  rw [createNewOrder_eq]
  simp only [Lookups.live, allocatePublicNumber, bind_assoc]
  rw [alone_segment_bind]
  change ((attempt (nextNumber store.orderNumberCounters creation.organizationId) :
    StoreTask String) >>= _).alone _ = _
  rw [alone_attempt_bind]
  cases nextNumber store.orderNumberCounters creation.organizationId with
  | error failure => rfl
  | ok number =>
      simp only [Creation.propose]
      rw [alone_attempt_bind]
      change _ = settle _ ((creation.order ambient (AsyncDispatchService.orFresh orderId freshId)
        number >>= _) >>= _)
      cases creation.order ambient (AsyncDispatchService.orFresh orderId freshId) number with
      | error failure => rfl
      | ok order => exact alone_finish (newOrder order) _

/-- A command of the asynchronous service, with nobody else running, is its proposal, committed. -/
theorem task_alone (store : AsyncMemoryStore) (command : Command) (shared : command.Shared) :
    (command.task .live).alone store =
      settle { store with orderNumberCounters := command.draw store.orderNumberCounters }
        (command.propose (readsOfRecords store.toRecords) store.orderNumberCounters
            (seenBefore store.toRecords) AsyncDispatchService.observedAt shared >>=
          fun proposal => proposal.work.commit store.toRecords) := by
  cases command with
  | createOrder ambient freshId orderId creation =>
      exact alone_live_createOrder store ambient freshId orderId creation
  | createOrderOnce ambient orderId creation => exact shared.elim
  | change ambient organizationId orderId call plain =>
      simp only [Command.task, changeTask_eq]
      rw [alone_changeOrder, changeOrder_propose]
      rfl
  | startTravel ambient sessionAmbient organizationId orderId freshId executorId sessionId =>
      refine (alone_startTravel store ambient sessionAmbient organizationId orderId freshId
        executorId sessionId).trans ?_
      rw [startTravel_propose]
      rfl
  | recordLocation ambient report =>
      refine (alone_live_recordLocation store ambient report).trans ?_
      rw [recordLocation_propose]
      rfl
  | completeOrder ambient sessionAmbient organizationId orderId executorId report =>
      refine (alone_closeOrder store organizationId orderId _ _).trans ?_
      rw [closeOrder_propose]
      rfl
  | cancelOrder ambient sessionAmbient organizationId orderId reason actorId =>
      refine (alone_closeOrder store organizationId orderId _ _).trans ?_
      rw [closeOrder_propose]
      rfl

end alone
end DispatchCore.Application
