import DispatchCore.Domain.Lifecycle
import DispatchCore.Library.Runs

/-! Who the pool says was chosen: the response of the assigned executor, and when
an assignment leaves it as it was. -/
namespace DispatchCore.Domain

open DispatchCore.Library

/-- The assigned executor's response, if there is one, is selected, and no other is. -/
def Chosen (order : WorkOrder) : Prop :=
  ∀ executorId, order.assigneeId = some executorId →
    (∀ status, order.responseStatus executorId = some status → status = .selected) ∧
      ∀ other, other ≠ executorId → order.responseStatus other ≠ some .selected

/-- Whoever is assigned by the call had not answered, or was waiting to be chosen. -/
def Answerable (order : WorkOrder) (request : Request) : Prop :=
  match request.call with
  | .assign executorId actorId =>
      Call.Enabled order (.assign executorId actorId) →
        order.responseStatus executorId = none ∨
          order.responseStatus executorId = some .interested
  | _ => True

instance (order : WorkOrder) (request : Request) : Decidable (Answerable order request) := by
  unfold Answerable
  split <;> infer_instance

/-- Only the assignee's response can be selected. -/
def Lone (order : WorkOrder) : Prop :=
  ∀ executorId, order.responseStatus executorId = some .selected →
    order.assigneeId = some executorId

/-- The assignee, if any, has no response or a selected one. -/
def Settled (order : WorkOrder) : Prop :=
  ∀ executorId, order.assigneeId = some executorId →
    ∀ status, order.responseStatus executorId = some status → status = .selected

theorem chosen_iff_settled {order : WorkOrder} (lone : Lone order) :
    Chosen order ↔ Settled order := by
  constructor
  · intro chosen executorId hassignee
    exact (chosen executorId hassignee).1
  · intro settled executorId hassignee
    refine ⟨settled executorId hassignee, fun other hother hselected => hother ?_⟩
    have hsame := lone other hselected
    rw [hassignee] at hsame
    exact (Option.some.inj hsame).symm

/-- Nobody is selected while nobody is assigned. -/
theorem Lone.nobody {order : WorkOrder} (lone : Lone order) (h : order.assigneeId = none)
    (executorId : String) : order.responseStatus executorId ≠ some .selected := by
  intro hselected
  have hassignee := lone executorId hselected
  rw [h] at hassignee
  contradiction

section step

variable {order : WorkOrder} {instant : Instant}

/-- A call that touches neither the assignee nor the responses. -/
theorem Lone.same {after : WorkOrder} (lone : Lone order)
    (assignee : after.assigneeId = order.assigneeId)
    (responses : after.poolResponses = order.poolResponses) : Lone after := by
  intro executorId hselected
  rw [assignee]
  exact lone executorId (by rw [← hselected]; simp [WorkOrder.responseStatus, responses])

theorem settled_same {after : WorkOrder} (assignee : after.assigneeId = order.assigneeId)
    (responses : after.poolResponses = order.poolResponses) : Settled after ↔ Settled order := by
  simp [Settled, WorkOrder.responseStatus, assignee, responses]

theorem settled_of_none (h : order.assigneeId = none) : Settled order := by
  intro executorId hassignee
  rw [h] at hassignee
  contradiction

/-- A response that is not a selection, while nobody is assigned. -/
theorem Lone.respond (lone : Lone order) (h : order.assigneeId = none) {executorId : String}
    {status : PoolResponseStatus} (hstatus : status ≠ .selected) :
    Lone (order.respond executorId status instant) := by
  intro other hselected
  rw [WorkOrder.responseStatus_respond] at hselected
  split at hselected
  · exact absurd (Option.some.inj hselected) hstatus
  · exact absurd hselected (lone.nobody h other)

/-- What an enabled call writes leaves at most the assignee selected. -/
theorem Lone.writes (lone : Lone order) (sound : Sound order) {call : Call}
    (enabled : call.Enabled order) : Lone (call.writes instant order) := by
  cases call with
  | claimCoordination coordinatorId => exact lone.same rfl rfl
  | publishPool mode actorId => exact lone.same rfl rfl
  | accept executorId => exact lone.same rfl rfl
  | startTravel executorId => exact lone.same rfl rfl
  | startWork executorId => exact lone.same rfl rfl
  | complete executorId report => exact lone.same rfl rfl
  | cancel reason actorId => exact lone.same rfl rfl
  | expressInterest executorId =>
      exact lone.respond (sound.unassigned (by simp [enabled.1])) (by decide)
  | withdrawInterest executorId =>
      exact lone.respond (sound.unassigned (by simp [enabled.1])) (by decide)
  | claimFirst executorId =>
      have hnobody := lone.nobody (sound.unassigned (by simp [enabled.1]))
      intro other hselected
      rw [Call.writes, WorkOrder.responseStatus_respond] at hselected
      split at hselected
      · rename_i hsame
        rw [hsame]
        rfl
      · exact absurd hselected (hnobody other)
  | assign executorId actorId =>
      have hnobody := lone.nobody (sound.unassigned enabled.1)
      intro other hselected
      unfold Call.writes at hselected ⊢
      simp only at hselected ⊢
      split at hselected
      · rename_i hmode
        rw [if_pos hmode]
        rw [WorkOrder.responseStatus_resolveCuratedResponses, Option.map_eq_some_iff] at hselected
        obtain ⟨status, hstatus, hselected⟩ := hselected
        split at hselected
        · split at hselected
          · rename_i hsame
            rw [hsame]
            rfl
          · contradiction
        · rw [hselected] at hstatus
          exact absurd hstatus (hnobody other)
      · exact absurd hselected (hnobody other)
  | rejectAssignment executorId =>
      -- The only one who may be selected is the one who rejects, and that response is withdrawn.
      intro other hselected
      exfalso
      by_cases hresponse : order.poolResponses.contains executorId
      · simp only [Call.writes, hresponse, if_true] at hselected
        change (order.respond executorId .withdrawn instant).responseStatus other = _ at hselected
        rw [WorkOrder.responseStatus_respond] at hselected
        split at hselected
        · contradiction
        · rename_i hother
          have hassignee := lone other hselected
          rw [enabled.2] at hassignee
          exact hother (Option.some.inj hassignee).symm
      · simp only [Call.writes, hresponse] at hselected
        change order.responseStatus other = _ at hselected
        have hassignee := lone other hselected
        rw [enabled.2] at hassignee
        rw [← Option.some.inj hassignee] at hselected
        apply hresponse
        rw [WorkOrder.responseStatus, Option.map_eq_some_iff] at hselected
        obtain ⟨response, hfound, -⟩ := hselected
        simp [Dict.contains, hfound]

/-- Every call but an assignment leaves the assignee settled. -/
theorem Settled.writes (settled : Settled order) (sound : Sound order) {call : Call}
    (enabled : call.Enabled order) (h : ∀ executorId actorId, call ≠ .assign executorId actorId) :
    Settled (call.writes instant order) := by
  cases call with
  | assign executorId actorId => exact absurd rfl (h executorId actorId)
  | claimCoordination coordinatorId => exact (settled_same rfl rfl).mpr settled
  | publishPool mode actorId => exact (settled_same rfl rfl).mpr settled
  | accept executorId => exact (settled_same rfl rfl).mpr settled
  | startTravel executorId => exact (settled_same rfl rfl).mpr settled
  | startWork executorId => exact (settled_same rfl rfl).mpr settled
  | complete executorId report => exact (settled_same rfl rfl).mpr settled
  | cancel reason actorId => exact (settled_same rfl rfl).mpr settled
  | expressInterest executorId =>
      exact settled_of_none (sound.unassigned (by simp [enabled.1]))
  | withdrawInterest executorId =>
      exact settled_of_none (sound.unassigned (by simp [enabled.1]))
  | rejectAssignment executorId => exact settled_of_none rfl
  | claimFirst executorId =>
      intro other hassignee status hstatus
      have hsame : executorId = other := Option.some.inj hassignee
      rw [Call.writes, WorkOrder.responseStatus_respond, if_pos hsame.symm] at hstatus
      exact (Option.some.inj hstatus).symm

theorem assigneeId_assign (executorId : String) (actorId : Option String) :
    (Call.writes instant order (.assign executorId actorId)).assigneeId = some executorId := by
  simp only [Call.writes]
  split <;> rfl

theorem responseStatus_assign (sound : Sound order) (executorId : String)
    (actorId : Option String) :
    (Call.writes instant order (.assign executorId actorId)).responseStatus executorId =
      (order.responseStatus executorId).map fun status =>
        if status = .interested then .selected else status := by
  by_cases hmode : order.poolMode = some .curated
  · simp only [Call.writes]
    rw [if_pos hmode, WorkOrder.responseStatus_resolveCuratedResponses]
    simp only [if_true]
    rfl
  · -- Nobody waits outside the curated mode, so there is nothing to resolve.
    have hquiet : order.responseStatus executorId ≠ some .interested :=
      fun interest => hmode (sound.interested executorId interest).1
    simp only [Call.writes]
    rw [if_neg hmode]
    change order.responseStatus executorId = _
    cases hstatus : order.responseStatus executorId with
    | none => rfl
    | some status =>
        rw [hstatus] at hquiet
        have hother : status ≠ .interested := fun h => hquiet (congrArg some h)
        rw [Option.map_some, if_neg hother]

/-- An assignment settles the executor who was waiting, and leaves any other answer as it was. -/
theorem settled_assign_iff (sound : Sound order) (lone : Lone order) {executorId : String}
    {actorId : Option String} (enabled : Call.Enabled order (.assign executorId actorId)) :
    Settled (Call.writes instant order (.assign executorId actorId)) ↔
      order.responseStatus executorId = none ∨
        order.responseStatus executorId = some .interested := by
  have hnobody := lone.nobody (sound.unassigned enabled.1) executorId
  have hresponse := @responseStatus_assign order instant sound executorId actorId
  constructor
  · intro settled
    cases hstatus : order.responseStatus executorId with
    | none => exact .inl rfl
    | some status =>
        rw [hstatus, Option.map_some] at hresponse
        have hselected := settled executorId (assigneeId_assign executorId actorId) _ hresponse
        split at hselected
        · rename_i hinterested
          exact .inr (congrArg some hinterested)
        · rw [hstatus] at hnobody
          exact absurd (congrArg some hselected) hnobody
  · intro answerable other hassignee status hfound
    rw [assigneeId_assign] at hassignee
    have hsame : executorId = other := Option.some.inj hassignee
    rw [← hsame, hresponse] at hfound
    rcases answerable with hnone | hinterested
    · rw [hnone] at hfound
      contradiction
    · rw [hinterested] at hfound
      exact (Option.some.inj hfound).symm

end step

/-- What a request leaves of an order, whether its call returns or raises. -/
def Request.after (order : WorkOrder) (request : Request) : WorkOrder :=
  (request.call.perform request.ambient request.now).final order

section request

variable {order : WorkOrder}

theorem Lone.recorded {ambient : Ambient} {name : EventName} {payload : List (String × Json)}
    {now : Option Instant} (lone : Lone order) : Lone (order.recorded ambient name payload now) :=
  lone.same rfl rfl

theorem Lone.after (lone : Lone order) (sound : Sound order) (request : Request) :
    Lone (request.after order) := by
  unfold Request.after
  rw [Call.final_perform]
  split
  · rename_i enabled
    unfold Call.change
    split
    · exact lone
    · exact (lone.writes sound enabled).recorded
  · exact lone

theorem Sound.after (sound : Sound order) (request : Request) : Sound (request.after order) := by
  unfold Request.after
  rw [Call.final_perform]
  split
  · exact sound.change ‹_› _ _
  · exact sound

theorem settled_after_iff (sound : Sound order) (lone : Lone order) (settled : Settled order)
    (request : Request) : Settled (request.after order) ↔ Answerable order request := by
  obtain ⟨ambient, now, call⟩ := request
  unfold Request.after
  rw [Call.final_perform]
  cases call with
  | assign executorId actorId =>
      by_cases enabled : Call.Enabled order (.assign executorId actorId)
      · rw [if_pos enabled]
        have hidle : ¬Call.Idle order (.assign executorId actorId) := fun h => h
        unfold Call.change
        rw [if_neg hidle]
        refine Iff.trans (settled_same rfl rfl) ((settled_assign_iff sound lone enabled).trans ?_)
        exact ⟨fun h _ => h, fun h => h enabled⟩
      · rw [if_neg enabled]
        exact ⟨fun _ h => absurd h enabled, fun _ => settled⟩
  | _ =>
      refine ⟨fun _ => True.intro, fun _ => ?_⟩
      split
      · unfold Call.change
        split
        · exact settled
        · refine (settled_same rfl rfl).mpr (settled.writes sound ‹_› fun _ _ h => ?_)
          contradiction
      · exact settled

end request

theorem settled_create {ambient : Ambient}
    {orderId publicNumber organizationId workType source : String}
    {details : Dict String Json} {requesterId : Option String}
    {evidenceRequirements : Option EvidenceRequirements} {now : Option Instant}
    {order : WorkOrder}
    (h : WorkOrder.create ambient orderId publicNumber organizationId workType source details
      requesterId evidenceRequirements now = .ok order) :
    Settled order ∧ Lone order := by
  unfold WorkOrder.create at h
  split at h
  · cases h
    refine ⟨settled_of_none rfl, fun executorId hselected => ?_⟩
    simp [WorkOrder.responseStatus] at hselected
  · contradiction

/-- Whatever a created order is put through, the assigned executor's response is the selected
one in every state on the way exactly when no assignment on it found an executor who had been
turned down or had withdrawn. -/
theorem chosen_is_selected_iff {ambient : Ambient}
    {orderId publicNumber organizationId workType source : String}
    {details : Dict String Json} {requesterId : Option String}
    {evidenceRequirements : Option EvidenceRequirements} {now : Option Instant}
    {order : WorkOrder}
    (created : WorkOrder.create ambient orderId publicNumber organizationId workType source
      details requesterId evidenceRequirements now = .ok order)
    (requests : List Request) :
    (∀ before, before <+: requests → Chosen (runCalls order before)) ↔
      Throughout (fun current request => request.after current) Answerable order requests := by
  obtain ⟨settled, lone⟩ := settled_create created
  have kept (current : WorkOrder) (request : Request) (books : Sound current ∧ Lone current) :
      Sound (request.after current) ∧ Lone (request.after current) :=
    ⟨books.1.after request, books.2.after books.1 request⟩
  refine Throughout.iff_good kept ?_ ⟨(sound_create created).1, lone⟩
    ((chosen_iff_settled lone).mpr settled)
  intro current request books chosen
  refine (chosen_iff_settled (kept current request books).2).trans ?_
  exact settled_after_iff books.1 books.2 ((chosen_iff_settled books.2).mp chosen) request

/-- The order the runs below start from, and who is assigned on the way. -/
def curatedVisit : List Call :=
  [.publishPool .curated none, .expressInterest "ann", .expressInterest "bob", .assign "ann" none]

theorem chosen_is_selected_visit :
    ∃ order, WorkOrder.create ⟨⟨0⟩, "e1"⟩ "o1" "A000" "acme" "repair" "telegram" .empty none none
        none = .ok order ∧
      ∀ before, before <+: curatedVisit.map (Request.mk ⟨⟨1⟩, "e2"⟩ none) →
        Chosen (runCalls order before) := by
  have created : WorkOrder.create ⟨⟨0⟩, "e1"⟩ "o1" "A000" "acme" "repair" "telegram" .empty none
      none none = .ok _ := rfl
  exact ⟨_, created, (chosen_is_selected_iff created _).mpr (by decide)⟩

/-- The assignee rejects, and the operator turns to the executor whose interest was turned down
with that first choice: the response stays rejected while the order is assigned. -/
theorem turned_down_not_selected :
    ∃ order, WorkOrder.create ⟨⟨0⟩, "e1"⟩ "o1" "A000" "acme" "repair" "telegram" .empty none none
        none = .ok order ∧
      let reached := runCalls order
        ((curatedVisit ++ [Call.rejectAssignment "ann", .assign "bob" none]).map
          (Request.mk ⟨⟨1⟩, "e2"⟩ none))
      reached.status = .assigned ∧ reached.assigneeId = some "bob" ∧
        reached.responseStatus "bob" = some .rejected ∧ ¬Chosen reached := by
  refine ⟨_, rfl, by decide, by decide, by decide, fun chosen => ?_⟩
  have hselected := (chosen "bob" (by decide)).1 .rejected (by decide)
  contradiction

end DispatchCore.Domain
