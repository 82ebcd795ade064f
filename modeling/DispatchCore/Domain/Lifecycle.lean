import DispatchCore.Domain.Transitions

/-! The lifecycle invariant of a work order: what holds of every order that was
created and then put through any calls, whether they returned or raised. -/
namespace DispatchCore.Domain

open DispatchCore.Library

/-- One call of a run, with what it reads from outside and its `now` argument. -/
structure Request where
  ambient : Ambient
  now : Option Instant
  call : Call

def runCalls (order : WorkOrder) (requests : List Request) : WorkOrder :=
  requests.foldl
    (fun current request => (request.call.perform request.ambient request.now).final current)
    order

/-- The report meets every evidence requirement of the order. -/
structure Meets (rules : EvidenceRequirements) (report : CompletionReport) : Prop where
  photos : rules.minimumPhotos ≤ report.photoRefs.length
  comment : rules.commentRequired = true →
    ∃ comment, report.comment = some comment ∧ Text.strip comment ≠ ""
  signature : rules.signatureRequired = true →
    ∃ signature, report.signatureRef = some signature ∧ signature ≠ ""
  customerCode : rules.customerCodeRequired = true →
    ∃ code, report.customerCode = some code ∧ code ≠ ""

theorem exists_of_getD_ne {text : Option String} (h : text.getD "" ≠ "") :
    ∃ value, text = some value ∧ value ≠ "" := by
  cases text with
  | none => simp at h
  | some value => exact ⟨value, rfl, h⟩

theorem meets_of_missingEvidence {rules : EvidenceRequirements} {report : CompletionReport}
    (h : WorkOrder.missingEvidence rules report = []) : Meets rules report := by
  simp only [WorkOrder.missingEvidence, List.append_eq_nil_iff, ite_eq_right_iff,
    List.cons_ne_nil, imp_false, not_and] at h
  obtain ⟨⟨⟨photos, comment⟩, signature⟩, code⟩ := h
  refine ⟨by omega, fun required => ?_, fun required => ?_, fun required => ?_⟩
  · have hstrip := comment required
    obtain ⟨value, hvalue, -⟩ := exists_of_getD_ne (Text.ne_empty_of_strip hstrip)
    exact ⟨value, hvalue, by simpa [hvalue] using hstrip⟩
  · exact exists_of_getD_ne (signature required)
  · exact exists_of_getD_ne (code required)

/-- The states in which an executor is at work on the order. -/
def assignedStatuses : List WorkOrderStatus :=
  [.assigned, .accepted, .enRoute, .inProgress, .completed]

structure Sound (order : WorkOrder) : Prop where
  assigned : order.status ∈ assignedStatuses →
    ∃ executorId, order.assigneeId = some executorId ∧ executorId ≠ ""
  unassigned : order.status ∈ [WorkOrderStatus.submitted, .poolOpen] → order.assigneeId = none
  submitted : order.status = .submitted → order.poolMode = none
  pooled : order.status = .poolOpen → order.poolMode.isSome
  reported : order.report.isSome ↔ order.status = .completed
  evidence : ∀ report, order.report = some report → Meets order.evidenceRequirements report
  interested : ∀ executorId, order.responseStatus executorId = some .interested →
    order.poolMode = some .curated ∧ order.status ∈ [WorkOrderStatus.poolOpen, .cancelled]

/-- The version counts the recorded events, which are numbered from one. -/
structure Versioned (order : WorkOrder) : Prop where
  counted : order.version = order.events.length
  numbered : Numbered 0 order.events

section step

variable {order : WorkOrder} {ambient : Ambient} {name : EventName}
  {payload : List (String × Json)} {now : Option Instant}

theorem Sound.recorded (sound : Sound order) :
    Sound (order.recorded ambient name payload now) := by
  obtain ⟨assigned, unassigned, submitted, pooled, reported, evidence, interested⟩ := sound
  exact ⟨assigned, unassigned, submitted, pooled, reported, evidence, interested⟩

theorem Versioned.recorded (versioned : Versioned order) :
    Versioned (order.recorded ambient name payload now) := by
  obtain ⟨counted, numbered⟩ := versioned
  constructor
  · simp [WorkOrder.recorded, counted]
  · simp [WorkOrder.recorded, numbered_append, numbered, Numbered, DomainEvent.create, counted]

end step

theorem Sound.report_eq_none {order : WorkOrder} (sound : Sound order)
    (h : order.status ≠ .completed) : order.report = none := by
  rw [← Option.not_isSome_iff_eq_none, sound.reported]
  exact h

theorem Sound.not_interested {order : WorkOrder} (sound : Sound order)
    (h : order.status ∉ [WorkOrderStatus.poolOpen, .cancelled]) (executorId : String) :
    order.responseStatus executorId ≠ some .interested :=
  fun interest => h (sound.interested executorId interest).2

/-- An order under way: somebody is assigned, nothing is reported, nobody waits. -/
theorem Sound.underway {order : WorkOrder} {executorId : String}
    (status : order.status ∈ [WorkOrderStatus.assigned, .accepted, .enRoute, .inProgress])
    (assignee : order.assigneeId = some executorId) (named : executorId ≠ "")
    (unreported : order.report = none)
    (quiet : ∀ other, order.responseStatus other ≠ some .interested) : Sound order := by
  have hopen : order.status ≠ .submitted ∧ order.status ≠ .poolOpen ∧
      order.status ≠ .completed := by
    refine ⟨?_, ?_, ?_⟩ <;>
    · intro heq
      rw [heq] at status
      revert status
      decide
  refine ⟨fun _ => ⟨executorId, assignee, named⟩, fun h => ?_, fun h => absurd h hopen.1,
    fun h => absurd h hopen.2.1, ?_, fun report h => ?_, fun other h => absurd h (quiet other)⟩
  · simp [hopen] at h
  · simp [unreported, hopen]
  · rw [unreported] at h
    contradiction

/-- An order nobody is assigned to and nobody has reported on. -/
theorem Sound.waiting {order : WorkOrder} (assignee : order.assigneeId = none)
    (unreported : order.report = none)
    (status : (order.status = .submitted ∧ order.poolMode = none) ∨
      (order.status = .poolOpen ∧ order.poolMode.isSome))
    (interested : ∀ other, order.responseStatus other = some .interested →
      order.poolMode = some .curated) : Sound order := by
  rcases status with ⟨hstatus, hmode⟩ | ⟨hstatus, hmode⟩
  · refine ⟨fun h => ?_, fun _ => assignee, fun _ => hmode, fun h => ?_, ?_, ?_,
      fun other h => ?_⟩
    · rw [hstatus] at h
      simp [assignedStatuses] at h
    · rw [hstatus] at h
      contradiction
    · simp [unreported, hstatus]
    · simp [unreported]
    · rw [interested other h] at hmode
      contradiction
  · refine ⟨fun h => ?_, fun _ => assignee, fun h => ?_, fun _ => hmode, ?_, ?_,
      fun other h => ⟨interested other h, ?_⟩⟩
    · rw [hstatus] at h
      simp [assignedStatuses] at h
    · rw [hstatus] at h
      contradiction
    · simp [unreported, hstatus]
    · simp [unreported]
    · simp [hstatus]

/-- What an enabled call writes keeps the order sound. -/
theorem Sound.writes {order : WorkOrder} (sound : Sound order) {call : Call}
    (enabled : call.Enabled order) (instant : Instant) :
    Sound (call.writes instant order) := by
  cases call with
  | claimCoordination coordinatorId =>
      obtain ⟨assigned, unassigned, submitted, pooled, reported, evidence, interested⟩ := sound
      exact ⟨assigned, unassigned, submitted, pooled, reported, evidence, interested⟩
  | publishPool mode actorId =>
      obtain ⟨status, -⟩ := enabled
      refine .waiting (sound.unassigned (by simp [status]))
        (sound.report_eq_none (by simp [status])) (.inr ⟨rfl, rfl⟩) fun other interest => ?_
      exact absurd interest (sound.not_interested (by simp [status]) other)
  | expressInterest executorId =>
      obtain ⟨status, mode, -⟩ := enabled
      exact .waiting (sound.unassigned (by simp [status]))
        (sound.report_eq_none (by simp [status])) (.inr ⟨status, sound.pooled status⟩)
        fun _ _ => mode
  | withdrawInterest executorId =>
      obtain ⟨status, mode, -⟩ := enabled
      exact .waiting (sound.unassigned (by simp [status]))
        (sound.report_eq_none (by simp [status])) (.inr ⟨status, sound.pooled status⟩)
        fun _ _ => mode
  | claimFirst executorId =>
      obtain ⟨status, mode, named⟩ := enabled
      refine @Sound.underway _ executorId (by simp [Call.writes, WorkOrder.respond]) rfl
        named (sound.report_eq_none (by simp [status])) fun other => ?_
      rw [Call.writes, WorkOrder.responseStatus_respond]
      split
      · simp
      · intro interest
        have hmode := (sound.interested other interest).1
        rw [mode] at hmode
        contradiction
  | assign executorId actorId =>
      obtain ⟨status, -, named⟩ := enabled
      have hreport : order.report = none :=
        sound.report_eq_none (by rintro heq; simp [heq] at status)
      unfold Call.writes
      simp only
      split
      · exact .underway (by simp [WorkOrder.resolveCuratedResponses]) rfl named hreport
          fun other => WorkOrder.not_interested_resolveCuratedResponses _ _ _ _
      · rename_i mode
        exact .underway (by simp) rfl named hreport
          fun other interest => mode (sound.interested other interest).1
  | accept executorId =>
      obtain ⟨status, assignee⟩ := enabled
      obtain ⟨found, hassignee, named⟩ := sound.assigned (by simp [assignedStatuses, status])
      exact .underway (by simp [Call.writes]) hassignee named
        (sound.report_eq_none (by simp [status])) (sound.not_interested (by simp [status]))
  | rejectAssignment executorId =>
      obtain ⟨status, assignee⟩ := enabled
      have hquiet := sound.not_interested (by simp [status])
      have hreport := sound.report_eq_none (by simp [status])
      by_cases hresponse : order.poolResponses.contains executorId
      · simp only [Call.writes, hresponse, if_true]
        refine .waiting rfl hreport ?_ fun other interest => ?_
        · cases hmode : order.poolMode <;> simp [WorkOrder.respond, hmode]
        · change (order.respond executorId .withdrawn instant).responseStatus other = _ at interest
          rw [WorkOrder.responseStatus_respond] at interest
          split at interest
          · simp at interest
          · exact absurd interest (hquiet other)
      · simp only [Call.writes, hresponse]
        refine .waiting rfl hreport ?_ fun other interest => absurd interest (hquiet other)
        cases hmode : order.poolMode <;> simp [hmode]
  | startTravel executorId =>
      obtain ⟨assignee, status⟩ := enabled
      obtain ⟨found, hassignee, named⟩ := sound.assigned (by simp [assignedStatuses, status])
      exact .underway (by simp [Call.writes]) hassignee named
        (sound.report_eq_none (by simp [status])) (sound.not_interested (by simp [status]))
  | startWork executorId =>
      obtain ⟨assignee, status⟩ := enabled
      simp only [List.mem_cons, List.not_mem_nil, or_false] at status
      obtain ⟨found, hassignee, named⟩ :=
        sound.assigned (by rcases status with h | h <;> simp [assignedStatuses, h])
      exact .underway (by simp [Call.writes]) hassignee named
        (sound.report_eq_none (by rcases status with h | h <;> simp [h]))
        (sound.not_interested (by rcases status with h | h <;> simp [h]))
  | complete executorId report =>
      obtain ⟨assignee, status, evidence⟩ := enabled
      have hquiet := sound.not_interested (by simp [status])
      refine ⟨fun _ => sound.assigned (by simp [assignedStatuses, status]), ?_, ?_, ?_, ?_, ?_,
        fun other interest => absurd interest (hquiet other)⟩
      · simp [Call.writes]
      · simp [Call.writes]
      · simp [Call.writes]
      · simp [Call.writes]
      · intro found hfound
        cases hfound
        exact meets_of_missingEvidence evidence
  | cancel reason actorId =>
      obtain ⟨status, -⟩ := enabled
      simp only [terminalStatuses, List.mem_cons, List.not_mem_nil, or_false, not_or] at status
      have hreport := sound.report_eq_none status.1
      refine ⟨?_, ?_, ?_, ?_, ?_, ?_, fun other interest => ?_⟩
      · simp [Call.writes, assignedStatuses]
      · simp [Call.writes]
      · simp [Call.writes]
      · simp [Call.writes]
      · simp [Call.writes, hreport]
      · simp [Call.writes, hreport]
      · exact ⟨(sound.interested other interest).1, by simp [Call.writes]⟩

theorem Sound.change {order : WorkOrder} (sound : Sound order) {call : Call}
    (enabled : call.Enabled order) (ambient : Ambient) (now : Option Instant) :
    Sound (call.change ambient now order) := by
  unfold Call.change
  split
  · exact sound
  · exact (sound.writes enabled _).recorded

theorem Versioned.change {order : WorkOrder} (versioned : Versioned order) (call : Call)
    (ambient : Ambient) (now : Option Instant) : Versioned (call.change ambient now order) := by
  unfold Call.change
  split
  · exact versioned
  · apply Versioned.recorded
    constructor
    · simpa using versioned.counted
    · simpa using versioned.numbered

/-- A successful call either asks for nothing new or raises the version by one
and appends the event that carries the new version. -/
theorem change_effect (order : WorkOrder) (call : Call) (ambient : Ambient)
    (now : Option Instant) :
    call.change ambient now order = order ∨
      ((call.change ambient now order).version = order.version + 1 ∧
        ∃ event, (call.change ambient now order).events = order.events ++ [event] ∧
          event.aggregateVersion = order.version + 1) := by
  unfold Call.change
  split
  · exact .inl rfl
  · refine .inr ⟨by simp, ?_⟩
    simp [WorkOrder.recorded, DomainEvent.create]

theorem poolMode_change {order : WorkOrder} (sound : Sound order) {call : Call}
    (enabled : call.Enabled order) (ambient : Ambient) (now : Option Instant)
    {mode : PoolMode} (h : order.poolMode = some mode) :
    (call.change ambient now order).poolMode = some mode := by
  unfold Call.change
  split
  · exact h
  · rw [WorkOrder.recorded_poolMode]
    cases call
    case publishPool chosen actorId =>
      have hnone := sound.submitted enabled.1
      rw [h] at hnone
      contradiction
    case assign executorId actorId =>
      simp only [Call.writes]
      split <;> exact h
    case rejectAssignment executorId =>
      simp only [Call.writes]
      split <;> exact h
    all_goals exact h

theorem coordinatorId_change {order : WorkOrder} {call : Call}
    (enabled : call.Enabled order) (ambient : Ambient) (now : Option Instant)
    {coordinatorId : String} (h : order.coordinatorId = some coordinatorId) :
    (call.change ambient now order).coordinatorId = some coordinatorId := by
  unfold Call.change
  split
  · exact h
  · rename_i busy
    rw [WorkOrder.recorded_coordinatorId]
    cases call
    case claimCoordination claimant =>
      rcases enabled.2.2 with hsame | hnone
      · exact absurd hsame busy
      · rw [h] at hnone
        contradiction
    case assign executorId actorId =>
      simp only [Call.writes]
      split <;> exact h
    case rejectAssignment executorId =>
      simp only [Call.writes]
      split <;> exact h
    all_goals exact h

/-- A property every enabled change keeps holds after every run. -/
theorem runCalls_induction (property : WorkOrder → Prop)
    (step : ∀ {order call}, property order → call.Enabled order → ∀ ambient now,
      property (Call.change ambient now call order))
    {order : WorkOrder} (start : property order) (requests : List Request) :
    property (runCalls order requests) := by
  induction requests generalizing order with
  | nil => exact start
  | cons request rest ih =>
      refine ih (?_ : property ((request.call.perform request.ambient request.now).final order))
      rw [Call.final_perform]
      split
      · exact step start ‹_› _ _
      · exact start

theorem sound_create {ambient : Ambient}
    {orderId publicNumber organizationId workType source : String}
    {details : Dict String Json} {requesterId : Option String}
    {evidenceRequirements : Option EvidenceRequirements} {now : Option Instant}
    {order : WorkOrder}
    (h : WorkOrder.create ambient orderId publicNumber organizationId workType source details
      requesterId evidenceRequirements now = .ok order) :
    Sound order ∧ Versioned order := by
  unfold WorkOrder.create at h
  split at h
  · cases h
    refine ⟨Sound.recorded ?_, Versioned.recorded ⟨rfl, trivial⟩⟩
    exact .waiting rfl rfl (.inl ⟨rfl, rfl⟩) fun other interest => by
      simp [WorkOrder.responseStatus] at interest
  · contradiction

/-- The `actor_id` that a guarded call acts under. -/
def Call.actor? : Call → Option (Option String)
  | publishPool _ actorId => some actorId
  | assign _ actorId => some actorId
  | cancel _ actorId => some actorId
  | _ => none

theorem actor_of_enabled {order : WorkOrder} {call : Call} (enabled : call.Enabled order)
    {coordinatorId : String} (h : order.coordinatorId = some coordinatorId)
    {actorId : Option String} (hactor : call.actor? = some actorId) :
    actorId = some coordinatorId := by
  have may : Call.MayAct order actorId := by
    cases call
    case publishPool => cases hactor; exact enabled.2
    case assign => cases hactor; exact enabled.2.1
    case cancel => cases hactor; exact enabled.2.1
    all_goals contradiction
  rcases may with hnone | hsame
  · rw [h] at hnone
    contradiction
  · rw [hsame, h]

/-- Whatever calls a created order is put through: it stays sound, its version
counts its events, a pool mode and a coordinator stay once they are set, only
the coordinator publishes, assigns and cancels, and a call that raises changes
nothing. -/
theorem lifecycle_invariant {ambient : Ambient}
    {orderId publicNumber organizationId workType source : String}
    {details : Dict String Json} {requesterId : Option String}
    {evidenceRequirements : Option EvidenceRequirements} {now : Option Instant}
    {order : WorkOrder}
    (created : WorkOrder.create ambient orderId publicNumber organizationId workType source
      details requesterId evidenceRequirements now = .ok order)
    (requests : List Request) :
    let reached := runCalls order requests
    Sound reached ∧ Versioned reached ∧
      (∀ mode, reached.poolMode = some mode →
        ∀ later, (runCalls reached later).poolMode = some mode) ∧
      (∀ coordinatorId, reached.coordinatorId = some coordinatorId →
        (∀ later, (runCalls reached later).coordinatorId = some coordinatorId) ∧
        ∀ (next : Request) (actorId : Option String) (after : WorkOrder), next.call.actor? = some actorId →
          (next.call.perform next.ambient next.now).run reached =
              EStateM.Result.ok () after →
            actorId = some coordinatorId) ∧
      (∀ (next : Request) (failure : Failure) (after : WorkOrder),
        (next.call.perform next.ambient next.now).run reached =
            EStateM.Result.error failure after →
          after = reached) ∧
      (∀ (next : Request) (after : WorkOrder),
        (next.call.perform next.ambient next.now).run reached = EStateM.Result.ok () after →
        after = reached ∨ (after.version = reached.version + 1 ∧
          ∃ event, after.events = reached.events ++ [event] ∧
            event.aggregateVersion = after.version)) := by
  intro reached
  have hsound : Sound reached :=
    runCalls_induction Sound (fun sound enabled => sound.change enabled) (sound_create created).1
      requests
  have hversioned : Versioned reached :=
    runCalls_induction Versioned (fun versioned _ => versioned.change _) (sound_create created).2 requests
  refine ⟨hsound, hversioned, fun mode hmode later => ?_, fun coordinatorId hcoordinator =>
    ⟨fun later => ?_, fun next actorId after hactor hrun => ?_⟩, fun next failure after hrun => ?_,
    fun next after hrun => ?_⟩
  · have hkept := runCalls_induction
      (fun current => Sound current ∧ current.poolMode = some mode)
      (fun held enabled ambient now =>
        ⟨held.1.change enabled ambient now, poolMode_change held.1 enabled ambient now held.2⟩)
      ⟨hsound, hmode⟩ later
    exact hkept.2
  · exact runCalls_induction
      (fun current => current.coordinatorId = some coordinatorId)
      (fun held enabled ambient now => coordinatorId_change enabled ambient now held)
      hcoordinator later
  · obtain ⟨enabled, -⟩ := (Call.perform_ok _ _ _).mp hrun
    exact actor_of_enabled enabled hcoordinator hactor
  · exact (Call.perform_error _ _ _ hrun).2
  · obtain ⟨-, rfl⟩ := (Call.perform_ok _ _ _).mp hrun
    rcases change_effect reached next.call next.ambient next.now with hsame | ⟨hversion, effect⟩
    · exact .inl hsame
    · exact .inr ⟨hversion, by rw [hversion]; exact effect⟩

theorem lifecycle_invariant_visit :
    ∃ order, WorkOrder.create ⟨⟨0⟩, "e1"⟩ "o1" "A000" "acme" "repair" "telegram" .empty none none
        none = .ok order ∧
      let reached := runCalls order
        ([.claimCoordination "operator", .publishPool .curated (some "operator"),
          .expressInterest "ann", .expressInterest "bob", .assign "ann" (some "operator"),
          .cancel "late" (some "bob"), .accept "ann", .startTravel "ann", .startWork "ann",
          .complete "ann" ⟨[], none, none, none⟩].map (Request.mk ⟨⟨1⟩, "e2"⟩ none))
      reached.status = .completed ∧ reached.version = 10 ∧ Sound reached ∧ Versioned reached := by
  have created : WorkOrder.create ⟨⟨0⟩, "e1"⟩ "o1" "A000" "acme" "repair" "telegram" .empty none
      none none = .ok _ := rfl
  have holds := lifecycle_invariant created
  exact ⟨_, created, by decide, by decide, (holds _).1, (holds _).2.1⟩

end DispatchCore.Domain
