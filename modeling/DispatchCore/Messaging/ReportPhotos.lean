import DispatchCore.Application.Interleaving
import DispatchCore.Library.Crew
import DispatchCore.Messaging.Processor

/-! The photos of a report.  A photo is appended to the draft after a look at the
order; the report is read from the draft, handed in with the order, and the draft
is deleted.  Between any two of these store calls, and between the look and the
append, other workers may run. -/
namespace DispatchCore.Messaging

open DispatchCore.Library DispatchCore.Domain DispatchCore.Infrastructure
  DispatchCore.Application

/-- What the reply of a photo or of a report says. -/
inductive DeskReply
  | photoAdded (orderId photoRef : String) (count : Nat)
  | notWorking
  | accepted

def DeskReply.text : DeskReply → String
  | photoAdded _ _ count => s!"Фото добавлено в отчёт: {count}."
  | notWorking => "Фото отчёта принимается только во время работы."
  | accepted => "Отчёт принят, заявка завершена."

structure Photo where
  provider : Provider
  mediaId : String

def Photo.ref (photo : Photo) : String := photo.provider.value ++ ":" ++ photo.mediaId

/-- A press of the report button, with what completing the order reads from outside. -/
structure Submission where
  orderId : String
  ambient : Ambient
  sessionAmbient : Ambient

/-- A photo or a report on its way, by the store call it comes to next. -/
inductive DeskJob
  | looking (photo : Photo)
  | appending (photo : Photo) (orderId : String)
  | reading (submission : Submission)
  | completing (submission : Submission) (report : CompletionReport)
  | rereading (submission : Submission) (failure : Failure)
  | clearing (submission : Submission)
  | replied (reply : DeskReply)
  | raised (failure : Failure)

inductive DeskEvent
  | photo (photo : Photo)
  | submitReport (submission : Submission)

def DeskEvent.job : DeskEvent → DeskJob
  | photo taken => .looking taken
  | submitReport submission => .reading submission

/-- `append_photo`: a photo that the draft has is not added again. -/
def appendPhoto (organizationId orderId executorId photoRef : String) (backend : Backend) :
    Nat × Backend :=
  let draft := reportDraft backend organizationId orderId executorId
  let photoRefs := if photoRef ∈ draft.photoRefs then draft.photoRefs
    else draft.photoRefs ++ [photoRef]
  (photoRefs.length, { backend with
    drafts := backend.drafts.set (organizationId, orderId, executorId) { draft with photoRefs } })

def clearDraft (organizationId orderId executorId : String) (backend : Backend) : Backend :=
  { backend with drafts := backend.drafts.erase (organizationId, orderId, executorId) }

section step

variable (identity : ActorIdentity)

def Submission.command (submission : Submission) (report : CompletionReport) : Command :=
  .completeOrder submission.ambient submission.sessionAmbient identity.organizationId
    submission.orderId identity.actorId report

/-- One store call, and what the handler does until the next one. -/
def DeskJob.step (job : DeskJob) (backend : Backend) : DeskJob × Backend :=
  match job with
  | looking photo =>
      -- The order is looked up for masters only.
      let execution := if identity.role = .master then
        activeForExecutor backend.records identity.organizationId identity.actorId else none
      match execution with
      | none => (.replied .notWorking, backend)
      | some order =>
          if order.status = .inProgress then (appending photo order.id, backend)
          else (replied .notWorking, backend)
  | appending photo orderId =>
      let appended := appendPhoto identity.organizationId orderId identity.actorId photo.ref backend
      (.replied (.photoAdded orderId photo.ref appended.1), appended.2)
  | reading submission =>
      match requireOrder submission.orderId >>= fun _ => requireRole identity [.master] with
      | .error failure => (.raised failure, backend)
      | .ok _ => (.completing submission (reportDraft backend identity.organizationId
          submission.orderId identity.actorId), backend)
  | completing submission report =>
      match (submission.command identity report).apply ⟨"", false⟩ backend.records with
      | .ok records => (.clearing submission, { backend with records })
      | .error failure =>
          if failure.isInvalidTransition then (.rereading submission failure, backend)
          else (.raised failure, backend)
  | rereading submission failure =>
      match backend.records.getOrder identity.organizationId submission.orderId with
      | .error missing => (.raised missing, backend)
      | .ok order =>
          if order.status = .completed then (.clearing submission, backend)
          else (.raised failure, backend)
  | clearing submission => (.replied .accepted,
      clearDraft identity.organizationId submission.orderId identity.actorId backend)
  | replied reply => (.replied reply, backend)
  | raised failure => (.raised failure, backend)

abbrev Desk := Crew Backend DeskJob

def Desk.advance (desk : Desk) (index : Nat) : Desk := Crew.advance (DeskJob.step identity) desk index

/-- The events of one master at workers, none of them started. -/
def Desk.open (backend : Backend) (events : List DeskEvent) : Desk :=
  { state := backend, jobs := events.map DeskEvent.job }

/-- The photo is in the report of the order, or in its draft while it is not completed. -/
def Secured (backend : Backend) (orderId photoRef : String) : Prop :=
  ∃ order, backend.records.orders.get? (identity.organizationId, orderId) = some order ∧
    if order.status = .completed then
      ∃ report, order.report = some report ∧ photoRef ∈ report.photoRefs
    else photoRef ∈
      (reportDraft backend identity.organizationId orderId identity.actorId).photoRefs

/-- The photo was acknowledged as added to the report of the order. -/
def Desk.Acknowledged (desk : Desk) (orderId photoRef : String) : Prop :=
  ∃ (index count : Nat), desk.jobs[index]? = some (.replied (.photoAdded orderId photoRef count))

def Desk.PhotosKept (desk : Desk) : Prop :=
  ∀ orderId photoRef, desk.Acknowledged orderId photoRef →
    Secured identity desk.state orderId photoRef

/-- A photo is not appended to a completed order whose report lacks it, and no order is
completed with a report that lacks a photo acknowledged for it. -/
def Desk.Careful (desk : Desk) (index : Nat) : Prop :=
  match desk.jobs[index]? with
  | some (.appending photo orderId) =>
      ∀ order, desk.state.records.orders.get? (identity.organizationId, orderId) = some order →
        order.status = .completed →
          ∃ report, order.report = some report ∧ photo.ref ∈ report.photoRefs
  | some (.completing submission report) =>
      ∀ records, (submission.command identity report).apply ⟨"", false⟩ desk.state.records =
          .ok records →
        ∀ photoRef, desk.Acknowledged submission.orderId photoRef → photoRef ∈ report.photoRefs
  | _ => True

end step

/-! ### What a step does -/

section effect

variable {identity : ActorIdentity} {backend : Backend}

/-- An order that a report completes. -/
theorem completed_effect (valid : Valid backend.records) {submission : Submission}
    {report : CompletionReport} {after : Records}
    (h : (submission.command identity report).apply ⟨"", false⟩ backend.records = .ok after) :
    ∃ order next, backend.records.orders.get? (identity.organizationId, submission.orderId) =
        some order ∧ order.status = .inProgress ∧ next.status = .completed ∧
      next.report = some report ∧ after.orders = backend.records.orders.set
        (identity.organizationId, submission.orderId) next := by
  obtain ⟨⟨order, ambient, hstored, henabled, horders⟩, -⟩ := apply_call valid
    (show (submission.command identity report).call? = some
      ((identity.organizationId, submission.orderId), .complete identity.actorId report)
        from rfl) h
  exact ⟨order, _, hstored, henabled.2.1, rfl, rfl, horders⟩

/-- Every order stays, and a completed one stays as it is. -/
theorem step_orders (valid : Valid backend.records) (job : DeskJob) {key : Key}
    {order : WorkOrder} (stored : backend.records.orders.get? key = some order) :
    ∃ next, (job.step identity backend).2.records.orders.get? key = some next ∧
      (order.status = .completed → next = order) := by
  have hsame : ∃ next, backend.records.orders.get? key = some next ∧
      (order.status = .completed → next = order) := ⟨order, stored, fun _ => rfl⟩
  cases job with
  | completing submission report =>
      simp only [DeskJob.step]
      cases happly : (submission.command identity report).apply ⟨"", false⟩ backend.records with
      | error failure =>
          simp only
          split <;> exact hsame
      | ok after =>
          simp only
          obtain ⟨current, next, hcurrent, hworking, -, -, horders⟩ := completed_effect valid happly
          rw [horders, Dict.get?_set]
          by_cases hkey : key = (identity.organizationId, submission.orderId)
          · rw [if_pos hkey]
            refine ⟨next, rfl, fun hcompleted => ?_⟩
            rw [hkey, hcurrent] at stored
            cases stored
            rw [hworking] at hcompleted
            contradiction
          · rw [if_neg hkey]
            exact hsame
  | looking photo =>
      simp only [DeskJob.step]
      split
      · exact hsame
      · split <;> exact hsame
  | reading submission =>
      simp only [DeskJob.step]
      split <;> exact hsame
  | rereading submission failure =>
      simp only [DeskJob.step]
      split
      · exact hsame
      · split <;> exact hsame
  | _ => exact hsame

/-- What a job in the middle of its work has seen. -/
def DeskJob.Grounded (identity : ActorIdentity) (backend : Backend) : DeskJob → Prop
  | appending _ orderId =>
      ∃ order, backend.records.orders.get? (identity.organizationId, orderId) = some order
  | clearing submission => ∃ order, backend.records.orders.get?
      (identity.organizationId, submission.orderId) = some order ∧ order.status = .completed
  | _ => True

theorem grounded_others (valid : Valid backend.records) (job : DeskJob) {other : DeskJob}
    (grounded : other.Grounded identity backend) :
    other.Grounded identity (job.step identity backend).2 := by
  cases other with
  | appending photo orderId =>
      obtain ⟨order, hstored⟩ := grounded
      obtain ⟨next, hnext, -⟩ := step_orders valid job hstored
      exact ⟨next, hnext⟩
  | clearing submission =>
      obtain ⟨order, hstored, hcompleted⟩ := grounded
      obtain ⟨next, hnext, hsame⟩ := step_orders valid job hstored
      exact ⟨next, hnext, by rw [hsame hcompleted]; exact hcompleted⟩
  | _ => trivial

/-- The order an executor is on is stored under its own key. -/
theorem activeForExecutor_stored {records : Records} (valid : Valid records)
    {organizationId executorId : String} {order : WorkOrder}
    (h : activeForExecutor records organizationId executorId = some order) :
    records.orders.get? (organizationId, order.id) = some order := by
  unfold activeForExecutor at h
  have hactive := List.find?_some h
  simp only [decide_eq_true_eq] at hactive
  obtain ⟨key, hstored⟩ := (Dict.mem_values _ _).mp (List.mem_of_find?_eq_some h)
  obtain ⟨hkey, -⟩ := valid.orderKeyed hstored
  rw [← hactive.1]
  exact (congrArg records.orders.get? hkey).trans hstored

theorem grounded_own (valid : Valid backend.records) (job : DeskJob) :
    (job.step identity backend).1.Grounded identity (job.step identity backend).2 := by
  cases job with
  | looking photo =>
      simp only [DeskJob.step]
      split
      · trivial
      · rename_i order hexecution
        split
        · by_cases hrole : identity.role = .master
          · rw [if_pos hrole] at hexecution
            exact ⟨order, activeForExecutor_stored valid hexecution⟩
          · rw [if_neg hrole] at hexecution
            contradiction
        · trivial
  | completing submission report =>
      simp only [DeskJob.step]
      cases happly : (submission.command identity report).apply ⟨"", false⟩ backend.records with
      | error failure =>
          simp only
          split <;> trivial
      | ok after =>
          obtain ⟨order, next, -, -, hcompleted, -, horders⟩ := completed_effect valid happly
          refine ⟨next, ?_, hcompleted⟩
          rw [horders, Dict.get?_set_self]
  | reading submission =>
      simp only [DeskJob.step]
      split <;> trivial
  | rereading submission failure =>
      simp only [DeskJob.step]
      split
      · trivial
      · rename_i order hread
        split
        · rename_i hcompleted
          exact ⟨order, getOrder_ok.mp hread, hcompleted⟩
        · trivial
  | _ => trivial

theorem step_valid (valid : Valid backend.records) (job : DeskJob) :
    Valid (job.step identity backend).2.records := by
  cases job with
  | completing submission report =>
      simp only [DeskJob.step]
      cases happly : (submission.command identity report).apply ⟨"", false⟩ backend.records with
      | error failure =>
          simp only
          split <;> exact valid
      | ok after => exact ((apply_takes valid happly).sound valid).1
  | looking photo =>
      simp only [DeskJob.step]
      split
      · exact valid
      · split <;> exact valid
  | reading submission =>
      simp only [DeskJob.step]
      split <;> exact valid
  | rereading submission failure =>
      simp only [DeskJob.step]
      split
      · exact valid
      · split <;> exact valid
  | _ => exact valid

end effect

/-! ### Photos that stay -/

section secured

variable {identity : ActorIdentity} {backend : Backend} {orderId photoRef : String}

theorem mem_appendPhoto (other : String) :
    photoRef ∈ (reportDraft (appendPhoto identity.organizationId orderId identity.actorId other
        backend).2 identity.organizationId orderId identity.actorId).photoRefs ↔
      photoRef = other ∨ photoRef ∈
        (reportDraft backend identity.organizationId orderId identity.actorId).photoRefs := by
  unfold appendPhoto
  simp only
  rw [show ∀ (drafts : Dict (String × String × String) CompletionReport) draft,
    (reportDraft { backend with
      drafts := drafts.set (identity.organizationId, orderId, identity.actorId) draft }
      identity.organizationId orderId identity.actorId) = draft from fun drafts draft => by
        simp [reportDraft]]
  by_cases h : other ∈
      (reportDraft backend identity.organizationId orderId identity.actorId).photoRefs
  · rw [if_pos h]
    constructor
    · exact .inr
    · rintro (rfl | hmem)
      · exact h
      · exact hmem
  · rw [if_neg h, List.mem_append, List.mem_singleton, or_comm]

theorem reportDraft_appendPhoto_of_ne {other : String} (h : orderId ≠ other) (ref : String) :
    reportDraft (appendPhoto identity.organizationId other identity.actorId ref backend).2
        identity.organizationId orderId identity.actorId =
      reportDraft backend identity.organizationId orderId identity.actorId := by
  unfold appendPhoto reportDraft
  simp only
  rw [Dict.get?_set_of_ne]
  simpa using h

theorem reportDraft_clearDraft_of_ne {other : String} (h : orderId ≠ other) :
    reportDraft (clearDraft identity.organizationId other identity.actorId backend)
        identity.organizationId orderId identity.actorId =
      reportDraft backend identity.organizationId orderId identity.actorId := by
  unfold clearDraft reportDraft
  simp only
  rw [Dict.get?_erase, if_neg]
  simpa using h

theorem Secured.append (secured : Secured identity backend orderId photoRef)
    (other ref : String) :
    Secured identity (appendPhoto identity.organizationId other identity.actorId ref backend).2
      orderId photoRef := by
  obtain ⟨order, hstored, hkept⟩ := secured
  refine ⟨order, hstored, ?_⟩
  by_cases hcompleted : order.status = .completed
  · rw [if_pos hcompleted] at hkept ⊢
    exact hkept
  · rw [if_neg hcompleted] at hkept ⊢
    by_cases hsame : orderId = other
    · subst hsame
      exact (mem_appendPhoto ref).mpr (.inr hkept)
    · rwa [reportDraft_appendPhoto_of_ne hsame]

theorem Secured.clear (secured : Secured identity backend orderId photoRef) {other : String}
    (completed : ∃ order, backend.records.orders.get? (identity.organizationId, other) =
      some order ∧ order.status = .completed) :
    Secured identity (clearDraft identity.organizationId other identity.actorId backend) orderId
      photoRef := by
  obtain ⟨order, hstored, hkept⟩ := secured
  obtain ⟨finished, hfinished, hover⟩ := completed
  refine ⟨order, hstored, ?_⟩
  by_cases hcompleted : order.status = .completed
  · rw [if_pos hcompleted] at hkept ⊢
    exact hkept
  · rw [if_neg hcompleted] at hkept ⊢
    have hne : orderId ≠ other := by
      rintro rfl
      rw [hstored] at hfinished
      cases hfinished
      exact hcompleted hover
    rwa [reportDraft_clearDraft_of_ne hne]

/-- After an order is completed, its photos are those of its report and the others' are where
they were. -/
theorem secured_completed (valid : Valid backend.records) {submission : Submission}
    {report : CompletionReport} {after : Records}
    (h : (submission.command identity report).apply ⟨"", false⟩ backend.records = .ok after) :
    Secured identity { backend with records := after } orderId photoRef ↔
      if orderId = submission.orderId then photoRef ∈ report.photoRefs
      else Secured identity backend orderId photoRef := by
  obtain ⟨order, next, -, -, hcompleted, hreport, horders⟩ := completed_effect valid h
  unfold Secured
  simp only [horders, Dict.get?_set]
  by_cases hsame : orderId = submission.orderId
  · subst hsame
    simp only [if_true]
    constructor
    · rintro ⟨found, heq, hkept⟩
      cases heq
      rw [if_pos hcompleted, hreport] at hkept
      obtain ⟨kept, heq, hmem⟩ := hkept
      cases heq
      exact hmem
    · intro hmem
      refine ⟨next, rfl, ?_⟩
      rw [if_pos hcompleted]
      exact ⟨report, hreport, hmem⟩
  · have hkey : ¬(identity.organizationId, orderId) =
        (identity.organizationId, submission.orderId) := by simpa using hsame
    simp only [hkey, hsame, if_false]
    rfl

/-- Only completing an order can leave a photo behind. -/
theorem Secured.step (secured : Secured identity backend orderId photoRef) {job : DeskJob}
    (grounded : job.Grounded identity backend)
    (idle : ∀ submission report after, job = .completing submission report →
      (submission.command identity report).apply ⟨"", false⟩ backend.records ≠ .ok after) :
    Secured identity (job.step identity backend).2 orderId photoRef := by
  cases job with
  | appending photo other => exact secured.append other photo.ref
  | clearing submission => exact secured.clear grounded
  | completing submission report =>
      simp only [DeskJob.step]
      cases happly : (submission.command identity report).apply ⟨"", false⟩ backend.records with
      | ok after => exact absurd happly (idle submission report after rfl)
      | error failure =>
          simp only
          split <;> exact secured
  | looking photo =>
      simp only [DeskJob.step]
      split
      · exact secured
      · split <;> exact secured
  | reading submission =>
      simp only [DeskJob.step]
      split <;> exact secured
  | rereading submission failure =>
      simp only [DeskJob.step]
      split
      · exact secured
      · split <;> exact secured
  | replied reply => exact secured
  | raised failure => exact secured

end secured

/-! ### Acknowledged photos -/

section acknowledged

variable {identity : ActorIdentity} {desk : Desk} {index : Nat} {job : DeskJob}
  {orderId photoRef : String}

/-- What the step of a job acknowledges is a photo it appends, or nothing new. -/
theorem step_acknowledges {backend : Backend} {count : Nat}
    (h : (job.step identity backend).1 = .replied (.photoAdded orderId photoRef count)) :
    job = .replied (.photoAdded orderId photoRef count) ∨
      ∃ photo, job = .appending photo orderId ∧ photoRef = photo.ref := by
  cases job with
  | appending photo other =>
      simp only [DeskJob.step, DeskJob.replied.injEq, DeskReply.photoAdded.injEq] at h
      exact .inr ⟨photo, by rw [h.1], h.2.1.symm⟩
  | looking photo =>
      simp only [DeskJob.step] at h
      split at h
      · simp at h
      · split at h <;> simp at h
  | reading submission =>
      simp only [DeskJob.step] at h
      split at h <;> simp at h
  | completing submission report =>
      simp only [DeskJob.step] at h
      split at h
      · simp at h
      · split at h <;> simp at h
  | rereading submission failure =>
      simp only [DeskJob.step] at h
      split at h
      · simp at h
      · split at h <;> simp at h
  | clearing submission => simp [DeskJob.step] at h
  | replied reply => exact .inl h
  | raised failure => simp [DeskJob.step] at h

/-- An acknowledgement stays, and a new one is of a photo that was just appended. -/
theorem acknowledged_advance (h : desk.jobs[index]? = some job) :
    Desk.Acknowledged (desk.advance identity index) orderId photoRef ↔
      desk.Acknowledged orderId photoRef ∨
        ∃ photo, job = .appending photo orderId ∧ photoRef = photo.ref := by
  unfold Desk.Acknowledged Desk.advance
  simp only [Crew.jobs_advance h]
  constructor
  · rintro ⟨other, count, hother⟩
    by_cases hsame : other = index
    · rw [if_pos hsame, Option.some.injEq] at hother
      rcases step_acknowledges hother with hjob | happended
      · exact .inl ⟨index, count, by rw [h, hjob]⟩
      · exact .inr happended
    · rw [if_neg hsame] at hother
      exact .inl ⟨other, count, hother⟩
  · rintro (⟨other, count, hother⟩ | ⟨photo, hjob, hphoto⟩)
    · refine ⟨other, count, ?_⟩
      by_cases hsame : other = index
      · subst hsame
        rw [h] at hother
        cases hother
        rw [if_pos rfl]
        rfl
      · rw [if_neg hsame]
        exact hother
    · subst hjob hphoto
      refine ⟨index, (appendPhoto identity.organizationId orderId identity.actorId photo.ref
        desk.state).1, ?_⟩
      rw [if_pos rfl]
      rfl

end acknowledged

/-! ### Runs -/

section runs

variable {identity : ActorIdentity}

/-- The books are in order, and every job in the middle of its work has seen what it must. -/
def Desk.Sound (identity : ActorIdentity) (desk : Desk) : Prop :=
  Crew.Sound (fun backend => Valid backend.records)
    (fun job backend => job.Grounded identity backend) desk

theorem Desk.Sound.advance {desk : Desk} (sound : desk.Sound identity) (index : Nat) :
    (desk.advance identity index).Sound identity :=
  Crew.Sound.advance sound
    (fun job _ => ⟨step_valid sound.valid job, grounded_own sound.valid job⟩)
    fun job _ _ _ _ hfound => grounded_others sound.valid job (sound.claims _ _ hfound)

/-- A step that starts with every photo in its place keeps them there exactly when it is
careful. -/
theorem kept_advance {desk : Desk} (sound : desk.Sound identity) (kept : desk.PhotosKept identity)
    (index : Nat) :
    Desk.PhotosKept identity (desk.advance identity index) ↔ desk.Careful identity index := by
  cases hjob : desk.jobs[index]? with
  | none =>
      unfold Desk.advance Desk.Careful
      rw [Crew.advance_idle hjob, hjob]
      exact ⟨fun _ => trivial, fun _ => kept⟩
  | some job =>
      have hgrounded := sound.claims index job hjob
      have hstate : (desk.advance identity index).state = (job.step identity desk.state).2 := by
        unfold Desk.advance
        rw [Crew.advance_job hjob]
      unfold Desk.PhotosKept
      simp only [acknowledged_advance hjob, hstate]
      unfold Desk.Careful
      rw [hjob]
      cases job with
      | appending photo orderId =>
          constructor
          · intro hkept order hstored hcompleted
            obtain ⟨found, hfound, hplace⟩ := hkept orderId photo.ref (.inr ⟨photo, rfl, rfl⟩)
            change desk.state.records.orders.get? _ = some found at hfound
            rw [hstored] at hfound
            cases hfound
            rwa [if_pos hcompleted] at hplace
          · rintro hcareful other photoRef (hacknowledged | ⟨taken, heq, rfl⟩)
            · exact (kept other photoRef hacknowledged).step hgrounded
                fun _ _ _ h => by contradiction
            · cases heq
              obtain ⟨order, hstored⟩ := hgrounded
              refine ⟨order, hstored, ?_⟩
              by_cases hcompleted : order.status = .completed
              · rw [if_pos hcompleted]
                exact hcareful order hstored hcompleted
              · rw [if_neg hcompleted]
                exact (mem_appendPhoto _).mpr (.inl rfl)
      | completing submission report =>
          cases happly : (submission.command identity report).apply ⟨"", false⟩
              desk.state.records with
          | error failure =>
              constructor
              · intro _ records h
                rw [happly] at h
                contradiction
              · rintro - other photoRef (hacknowledged | ⟨taken, heq, -⟩)
                · refine (kept other photoRef hacknowledged).step hgrounded ?_
                  intro _ _ after heq
                  cases heq
                  rw [happly]
                  exact fun h => by contradiction
                · contradiction
          | ok after =>
              have hafter : ((DeskJob.completing submission report).step identity
                  desk.state).2 = { desk.state with records := after } := by
                simp only [DeskJob.step, happly]
              rw [hafter]
              simp only [secured_completed sound.valid happly]
              constructor
              · intro hkept records hrecords photoRef hacknowledged
                have hplace := hkept submission.orderId photoRef (.inl hacknowledged)
                rwa [if_pos rfl] at hplace
              · rintro hcareful other photoRef (hacknowledged | ⟨taken, heq, -⟩)
                · by_cases hsame : other = submission.orderId
                  · subst hsame
                    rw [if_pos rfl]
                    exact hcareful after happly photoRef hacknowledged
                  · rw [if_neg hsame]
                    exact kept other photoRef hacknowledged
                · contradiction
      | _ =>
          refine ⟨fun _ => trivial, ?_⟩
          rintro - other photoRef (hacknowledged | ⟨taken, heq, -⟩)
          · exact (kept other photoRef hacknowledged).step hgrounded fun _ _ _ h => by contradiction
          · contradiction

end runs

def sampleMaster : ActorIdentity := ⟨"acme", "ann", .master⟩

/-- An order that its executor works on. -/
def sampleWork : List (Command × Answers) :=
  [(sampleCreate "a", ⟨"A000", false⟩),
    (.change ⟨⟨0⟩, "e"⟩ "acme" "a" (.assign "ann" none) trivial, ⟨"", false⟩),
    (.change ⟨⟨0⟩, "e"⟩ "acme" "a" (.accept "ann") trivial, ⟨"", false⟩),
    (.change ⟨⟨0⟩, "e"⟩ "acme" "a" (.startWork "ann") trivial, ⟨"", false⟩)]

/-- A report that was read, and a photo that is appended before it is handed in. -/
def sampleRace : Desk :=
  [0, 1, 1, 0, 0].foldl (Desk.advance sampleMaster)
    (Desk.open ⟨.empty, runCommands .empty sampleWork, .empty⟩
      [.submitReport ⟨"a", ⟨⟨0⟩, "e"⟩, ⟨⟨0⟩, "e"⟩⟩, .photo ⟨.telegram, "p"⟩])

end DispatchCore.Messaging
