import DispatchCore.Application.Growth

/-! Commands that interleave at their awaits.  Whatever runs in between, every
segment of a command leaves the records alone until its commit, and the commit
does what the whole command would do if it ran alone at that moment. -/
namespace DispatchCore.Application

open DispatchCore.Library DispatchCore.Domain DispatchCore.Infrastructure

/-- Commands rely on the books and on growth; the number counters may change
behind their backs. -/
def interference : Coroutine.Interference AsyncMemoryStore where
  valid := fun store => Valid store.toRecords
  grows := fun before after => Grows before.toRecords after.toRecords
  quiet := fun before after => after.toRecords = before.toRecords
  growsRefl := fun _ => .refl _
  growsTrans := fun left right => left.trans right
  quietRefl := fun _ => rfl
  quietValid := fun same valid => by rwa [same]
  quietGrows := fun same => by rw [same]; exact .refl _

/-- The command, run alone with these answers, succeeds and leads from one
store to the other. -/
def commitStep (command : Command) (answers : Answers) (before after : AsyncMemoryStore) :
    Prop :=
  (command.task (.recorded answers)).alone before = (.ok (), after)

theorem commitStep_iff {command : Command} {answers : Answers}
    {before after : AsyncMemoryStore} :
    commitStep command answers before after ↔
      ∃ records, command.apply answers before.toRecords = .ok records ∧
        after = { before with toRecords := records } := by
  unfold commitStep
  rw [alone_task]
  cases command.apply answers before.toRecords with
  | ok records => simp [settle, eq_comm]
  | error failure => simp [settle]

theorem commitStep_lawful {command : Command} {answers : Answers}
    {before after : AsyncMemoryStore} (step : commitStep command answers before after)
    (valid : interference.valid before) :
    interference.valid after ∧ interference.grows before after := by
  obtain ⟨records, happly, rfl⟩ := commitStep_iff.mp step
  exact (apply_takes valid happly).sound valid

section commits

open Coroutine Command

variable {step : Answers → AsyncMemoryStore → AsyncMemoryStore → Prop}
  {raised : Failure → AsyncMemoryStore → Prop} {state : AsyncMemoryStore}

/-- The step covers what an atomic function does to the records. -/
def Covers (step : Answers → AsyncMemoryStore → AsyncMemoryStore → Prop)
    (atomic : Records → Except Failure Records) : Prop :=
  ∀ (store : AsyncMemoryStore) records, atomic store.toRecords = .ok records →
    ∃ answers, step answers store { store with toRecords := records }

theorem commits_finish {work : UnitOfWork}
    (success : ∀ current, interference.grows state current → interference.valid current →
      ∀ records, work.commit current.toRecords = .ok records →
        ∃ answers, step answers current { current with toRecords := records }) :
    CommitsOnce interference step (fun _ _ => True) (finish work) state := by
  refine CommitsOnce.segment_last (fun _ => ())
    (fun current hgrows hvalid value after h => ?_) fun _ _ _ _ _ => trivial
  cases hcommit : work.commit current.toRecords with
  | ok records =>
      rw [hcommit] at h
      cases h
      exact success current hgrows hvalid records hcommit
  | error failure =>
      rw [hcommit] at h
      contradiction

/-- An order whose version is still the one that was read. -/
theorem reread_order {first last : Records} (valid : Valid first) (grows : Grows first last)
    {key : Key} {order : WorkOrder} (read : first.orders.get? key = some order)
    (checked : (last.orders.get? (orderKey order)).map WorkOrder.version = some order.version) :
    last.orders.get? key = some order := by
  obtain ⟨hkey, -⟩ := valid.orderKeyed read
  rw [hkey] at checked
  obtain ⟨current, hcurrent, hversion⟩ := Option.map_eq_some_iff.mp checked
  rw [hcurrent, grows.orders.unchanged read hcurrent hversion]

theorem reread_session {first last : Records} (valid : Valid first)
    (grows : Grows first last) {key : Key} {session : TrackingSession}
    (read : first.trackingSessions.get? key = some session)
    (checked : (last.trackingSessions.get? (sessionKey session)).map
      TrackingSession.version = some session.version) :
    last.trackingSessions.get? key = some session := by
  obtain ⟨hkey, -⟩ := valid.sessionKeyed read
  rw [hkey] at checked
  obtain ⟨current, hcurrent, hversion⟩ := Option.map_eq_some_iff.mp checked
  rw [hcurrent, grows.sessions.unchanged read hcurrent hversion]

theorem orderKey_outcome {ambient : Ambient} {call : Call} {order changed : WorkOrder}
    (h : Atomic.outcome (call.perform ambient none) order = .ok changed) :
    orderKey changed = orderKey order := by
  obtain ⟨-, rfl⟩ := (Call.perform_ok ambient none call).mp (outcome_ok.mp h)
  exact orderKey_change ambient none call order

theorem commits_changeOrder {ambient : Ambient} {organizationId orderId : String} {call : Call}
    (covers : Covers step
      (Atomic.changeOrder organizationId orderId (call.perform ambient none))) :
    CommitsOnce interference step (fun _ _ => True)
      (dropResult (AsyncDispatchService.changeOrder organizationId orderId
        (call.perform ambient none))) state := by
  rw [changeOrder_eq]
  refine CommitsOnce.read_bind (fun first _ valid order hget => ?_) fun _ _ _ _ _ => trivial
  refine CommitsOnce.attempt_bind (fun changed houtcome => ?_) fun _ _ => trivial
  refine CommitsOnce.pause_bind fun second grows₂ _ => ?_
  refine CommitsOnce.pause_bind fun third grows₃ _ => ?_
  refine commits_finish fun last grows₄ _ records hcommit => covers last records ?_
  obtain ⟨hversion, -⟩ := (commit_order _ _ _ records).mp hcommit
  rw [orderKey_outcome houtcome] at hversion
  have hreread := reread_order valid ((grows₂.trans grows₃).trans grows₄)
    (getOrder_ok.mp hget) hversion
  exact except_bind_ok.mpr ⟨order, getOrder_ok.mpr hreread,
    except_bind_ok.mpr ⟨changed, houtcome, hcommit⟩⟩

theorem commits_startTravel {ambient : Ambient} {sessionAmbient : SessionAmbient}
    {organizationId orderId freshId executorId : String} {sessionId : Option String}
    (covers : Covers step (Atomic.startTravel ambient sessionAmbient organizationId orderId
      executorId (AsyncDispatchService.orFresh sessionId freshId))) :
    CommitsOnce interference step (fun _ _ => True)
      (dropResult (AsyncDispatchService.startTravel ambient organizationId orderId
        sessionAmbient freshId executorId sessionId)) state := by
  rw [startTravel_eq]
  refine CommitsOnce.read_bind (fun first _ valid order hget => ?_) fun _ _ _ _ _ => trivial
  refine CommitsOnce.attempt_bind (fun changed houtcome => ?_) fun _ _ => trivial
  refine CommitsOnce.attempt_bind (fun session hstart => ?_) fun _ _ => trivial
  refine CommitsOnce.pause_bind fun second grows₂ _ => ?_
  refine CommitsOnce.pause_bind fun third grows₃ _ => ?_
  refine CommitsOnce.pause_bind fun fourth grows₄ _ => ?_
  refine commits_finish fun last grows₅ _ records hcommit => covers last records ?_
  obtain ⟨hversion, -⟩ := (commit_both _ _ _ _ _ records).mp hcommit
  have hkey : orderKey changed = orderKey order :=
    orderKey_outcome (show Atomic.outcome ((Call.startTravel executorId).perform ambient none)
      order = .ok changed from houtcome)
  rw [hkey] at hversion
  have hreread := reread_order valid (((grows₂.trans grows₃).trans grows₄).trans grows₅)
    (getOrder_ok.mp hget) hversion
  exact except_bind_ok.mpr ⟨order, getOrder_ok.mpr hreread,
    except_bind_ok.mpr ⟨changed, houtcome, except_bind_ok.mpr ⟨session, hstart, hcommit⟩⟩⟩

/-- While the order is as it was read, its active sessions are the ones that
were found. -/
theorem refind_active {first found last : Records} (early : Grows first found)
    (late : Grows found last) {key : Key} {order : WorkOrder}
    (read : first.orders.get? key = some order) (reread : last.orders.get? key = some order) :
    activeKeys last key = activeKeys found key :=
  late.active key order (early.orders.between late.orders read reread) reread

theorem activeEntries_eq_nil {records : Records} {key : Key}
    (h : activeKeys records key = []) : records.activeEntries key.1 key.2 = [] :=
  List.map_eq_nil_iff.mp h

theorem activeEntries_eq_singleton {records : Records} {key active : Key}
    {session : TrackingSession} (h : activeKeys records key = [active])
    (stored : records.trackingSessions.get? active = some session) :
    records.activeEntries key.1 key.2 = [(active, session)] := by
  obtain ⟨⟨other, found⟩, hentries, hkey⟩ := List.map_eq_singleton_iff.mp h
  cases hkey
  obtain ⟨hfound, -⟩ := tracked_mem hentries
  rw [hfound] at stored
  cases stored
  exact hentries

theorem commits_closeOrder {ambient : Ambient} {organizationId orderId : String} (call : Call)
    {close : Method Failure TrackingSession Unit}
    (closes : ∀ session changed, close.run session = .ok () changed →
      sessionKey changed = sessionKey session)
    (covers : Covers step
      (Atomic.closeOrder organizationId orderId (call.perform ambient none) close)) :
    CommitsOnce interference step (fun _ _ => True)
      (dropResult (AsyncDispatchService.closeOrder organizationId orderId
        (call.perform ambient none) close)) state := by
  rw [closeOrder_eq]
  refine CommitsOnce.read_bind (fun first _ valid order hget => ?_) fun _ _ _ _ _ => trivial
  refine CommitsOnce.attempt_bind (fun changed houtcome => ?_) fun _ _ => trivial
  refine CommitsOnce.pause_bind fun second grows₂ _ => ?_
  refine CommitsOnce.read_bind (fun found grows₃ validFound active hactive => ?_)
    fun _ _ _ _ _ => trivial
  have hread := getOrder_ok.mp hget
  rcases findActiveForOrder_ok.mp hactive with ⟨rfl, huntracked⟩ | ⟨key, session, rfl, htracked⟩
  · refine CommitsOnce.pause_bind fun fourth grows₄ _ => ?_
    refine commits_finish fun last grows₅ _ records hcommit => covers last records ?_
    obtain ⟨hversion, -⟩ := (commit_order _ _ _ records).mp hcommit
    rw [orderKey_outcome houtcome] at hversion
    have early := grows₂.trans grows₃
    have late := grows₄.trans grows₅
    have hreread := reread_order valid (early.trans late) hread hversion
    have hkeys := refind_active early late hread hreread
    have hnone : activeKeys found.toRecords (organizationId, orderId) = [] := by
      simpa [activeKeys] using huntracked
    rw [hnone] at hkeys
    exact except_bind_ok.mpr ⟨order, getOrder_ok.mpr hreread,
      except_bind_ok.mpr ⟨changed, houtcome, except_bind_ok.mpr ⟨none,
        findActiveForOrder_ok.mpr (.inl ⟨rfl, activeEntries_eq_nil hkeys⟩), hcommit⟩⟩⟩
  · refine CommitsOnce.attempt_bind (fun closed hclosed => ?_) fun _ _ => trivial
    refine CommitsOnce.pause_bind fun fourth grows₄ _ => ?_
    refine CommitsOnce.pause_bind fun fifth grows₅ _ => ?_
    refine commits_finish fun last grows₆ _ records hcommit => covers last records ?_
    obtain ⟨hversion, hsession, -⟩ := (commit_both _ _ _ _ _ records).mp hcommit
    rw [orderKey_outcome houtcome] at hversion
    have early := grows₂.trans grows₃
    have late := (grows₄.trans grows₅).trans grows₆
    have hreread := reread_order valid (early.trans late) hread hversion
    have hkeys := refind_active early late hread hreread
    have hone : activeKeys found.toRecords (organizationId, orderId) = [key] := by
      simp [activeKeys, htracked]
    rw [hone] at hkeys
    obtain ⟨hstored, -⟩ := tracked_mem htracked
    rw [closes _ _ (outcome_ok.mp hclosed)] at hsession
    have hsessionLast := reread_session validFound late hstored hsession
    exact except_bind_ok.mpr ⟨order, getOrder_ok.mpr hreread,
      except_bind_ok.mpr ⟨changed, houtcome, except_bind_ok.mpr ⟨some session,
        findActiveForOrder_ok.mpr (.inr ⟨key, session, rfl,
          activeEntries_eq_singleton hkeys hsessionLast⟩),
        except_bind_ok.mpr ⟨closed, hclosed, hcommit⟩⟩⟩⟩

theorem commits_recordLocation {ambient : Ambient} {report : LocationReport}
    (covers : ∀ seen, Covers step (Atomic.recordLocation ambient report seen)) :
    CommitsOnce interference step (fun _ _ => True)
      (dropResult (AsyncDispatchService.recordLocation .live ambient report)) state := by
  rw [recordLocation_eq]
  refine CommitsOnce.read_bind (fun first _ valid session hget => ?_) fun _ _ _ _ _ => trivial
  have hread := getTracking_ok.mp hget
  by_cases howner : session.executorId = report.executorId
  · rw [if_pos howner]
    have hlocate {second : AsyncMemoryStore} (early : Grows first.toRecords second.toRecords) :
        CommitsOnce interference step (fun _ _ => True) (locateTask ambient report session)
          second := by
      refine CommitsOnce.attempt_bind (fun point hpoint => ?_) fun _ _ => trivial
      refine CommitsOnce.attempt_bind (fun changed houtcome => ?_) fun _ _ => trivial
      refine CommitsOnce.pause_bind fun third grows₃ _ => ?_
      refine CommitsOnce.pause_bind fun fourth grows₄ _ => ?_
      refine commits_finish fun last grows₅ _ records hcommit => covers false last records ?_
      obtain ⟨hversion, -⟩ := (commit_session _ _ _ records).mp hcommit
      have hkey : sessionKey changed = sessionKey session := by
        rcases TrackingSession.addPoint_ok (outcome_ok.mp houtcome) with ⟨-, rfl⟩ | ⟨-, rfl⟩ <;>
          rfl
      rw [hkey] at hversion
      have hreread := reread_session valid (((early.trans grows₃).trans grows₄).trans grows₅)
        hread hversion
      refine except_bind_ok.mpr ⟨session, getTracking_ok.mpr hreread, ?_⟩
      simp only [howner, if_true, Bool.and_false, Bool.false_eq_true, if_false]
      exact except_bind_ok.mpr ⟨point, hpoint, except_bind_ok.mpr ⟨changed, houtcome, hcommit⟩⟩
    cases hsource : report.sourceEventId with
    | none => exact hlocate (.refl _)
    | some sourceEventId =>
        change CommitsOnce interference step (fun _ _ => True) (do
          let seen ← hasSourceEvent report.organizationId report.source sourceEventId
          if seen then finish .empty else locateTask ambient report session) first
        refine CommitsOnce.read_bind (fun second grows₂ _ seen _ => ?_) fun _ _ _ _ _ => trivial
        cases seen with
        | false => exact hlocate grows₂
        | true =>
            refine commits_finish fun last grows₃ _ records hcommit => covers true last records ?_
            have grows := grows₂.trans grows₃
            obtain ⟨next, hnext, -⟩ := grows.sessions _ _ hread
            have hsame := grows.executors _ _ _ hread hnext
            refine except_bind_ok.mpr ⟨next, getTracking_ok.mpr hnext, ?_⟩
            simpa [hsame, howner, hsource] using hcommit
  · rw [if_neg howner]
    trivial

theorem commits_createNewOrder {ambient : Ambient} {orderId : String} {creation : Creation}
    (covers : ∀ publicNumber, Covers step
      (Atomic.createNewOrder ambient orderId creation publicNumber)) :
    CommitsOnce interference step (fun _ _ => True)
      (dropResult (AsyncDispatchService.createNewOrder .live ambient orderId creation))
      state := by
  rw [createNewOrder_eq]
  simp only [Lookups.live, allocatePublicNumber, bind_assoc]
  refine CommitsOnce.quiet_bind (fun first _ valid sequence second h => ?_)
    fun _ _ _ _ _ => trivial
  cases h
  refine ⟨rfl, CommitsOnce.attempt_bind (fun publicNumber _ => ?_) fun _ _ => trivial⟩
  refine CommitsOnce.attempt_bind (fun order hmade => ?_) fun _ _ => trivial
  refine CommitsOnce.pause_bind fun third _ _ => ?_
  refine CommitsOnce.pause_bind fun fourth _ _ => ?_
  refine commits_finish fun last _ _ records hcommit => covers publicNumber last records ?_
  exact except_bind_ok.mpr ⟨order, hmade, hcommit⟩

/-- A name that is taken is a conflict for whoever creates it again. -/
theorem createNewOrder_taken {ambient : Ambient} {orderId publicNumber : String}
    {creation : Creation} {candidate existing : WorkOrder} {records : Records}
    (made : creation.order ambient orderId publicNumber = .ok candidate)
    (taken : records.orders.get? (creation.organizationId, orderId) = some existing) :
    ∃ failure, failure.isConcurrencyConflict = true ∧
      Atomic.createNewOrder ambient orderId creation publicNumber records = .error failure := by
  have hkey : orderKey candidate = (creation.organizationId, orderId) := (creation_ok made).named
  rw [← hkey] at taken
  have hcheck : UnitOfWork.checkVersions (Atomic.newOrder candidate) records =
      .error (.concurrencyConflict
        s!"aggregate {UnitOfWork.showKey (orderKey candidate)} already exists") := by
    simp only [UnitOfWork.checkVersions, Atomic.newOrder, UnitOfWork.stageEvents,
      UnitOfWork.stageOrder, UnitOfWork.empty, Dict.set, Dict.empty, Dict.assign,
      UnitOfWork.checkCollectionVersions, UnitOfWork.checkVersion]
    rw [show (candidate.organizationId, candidate.id) = orderKey candidate from rfl, taken]
    rfl
  have hcommit : (Atomic.newOrder candidate).commit records =
      .error (.concurrencyConflict
        s!"aggregate {UnitOfWork.showKey (orderKey candidate)} already exists") := by
    unfold UnitOfWork.commit
    rw [hcheck]
    rfl
  refine ⟨.concurrencyConflict
    s!"aggregate {UnitOfWork.showKey (orderKey candidate)} already exists", rfl, ?_⟩
  unfold Atomic.createNewOrder
  rw [made]
  exact hcommit

theorem commits_createOrderOnce {ambient : Ambient} {orderId : String} {creation : Creation}
    (covers : ∀ publicNumber, Covers step
      (Atomic.createOrderOnce ambient orderId creation publicNumber)) :
    CommitsOnce interference step (fun _ _ => True)
      (dropResult (AsyncDispatchService.createOrderOnce .live ambient orderId creation))
      state := by
  rw [createOrderOnce_eq]
  refine CommitsOnce.tryCatch (commits_createNewOrder fun publicNumber store records h =>
    covers publicNumber store records ?_) fun failure first _ => ?_
  · unfold Atomic.createOrderOnce
    rw [h]
  split
  · rw [confirmSubmission_eq]
    refine CommitsOnce.read_bind (fun second _ _ existing hget => ?_) fun _ _ _ _ _ => trivial
    refine CommitsOnce.attempt_bind (fun candidate hmade => ?_) fun _ _ => trivial
    split
    · rename_i hsame
      refine commits_finish fun last grows _ records hcommit =>
        covers existing.publicNumber last records ?_
      obtain ⟨next, hnext, -⟩ := grows.orders _ _ (getOrder_ok.mp hget)
      have horigin := grows.origins _ _ _ (getOrder_ok.mp hget) hnext
      obtain ⟨conflict, hconflict, htaken⟩ := createNewOrder_taken hmade hnext
      unfold Atomic.createOrderOnce
      rw [htaken]
      simp only [hconflict, if_true]
      have hnumber : next.publicNumber = existing.publicNumber :=
        congrArg Origin.publicNumber horigin
      refine except_bind_ok.mpr ⟨next, getOrder_ok.mpr hnext, except_bind_ok.mpr
        ⟨candidate, by rw [hnumber]; exact hmade, ?_⟩⟩
      rw [sameSubmission_congr horigin, if_pos hsame]
      exact hcommit
    · trivial
  · trivial

end commits

theorem covers_commitStep {command : Command} {atomic : Records → Except Failure Records}
    (answers : Answers) (h : command.apply answers = atomic) :
    Covers (commitStep command) atomic := by
  subst h
  exact fun store records happly => ⟨answers, commitStep_iff.mpr ⟨records, happly, rfl⟩⟩

/-- Every command of the service commits at most once, as if it ran alone. -/
theorem commits_task (command : Command) (store : AsyncMemoryStore) :
    Coroutine.CommitsOnce interference (commitStep command) (fun _ _ => True)
      (command.task .live) store := by
  have unasked : Answers := ⟨"", false⟩
  cases command with
  | createOrder ambient freshId orderId creation =>
      exact commits_createNewOrder fun publicNumber =>
        covers_commitStep ⟨publicNumber, false⟩ rfl
  | createOrderOnce ambient orderId creation =>
      exact commits_createOrderOnce fun publicNumber =>
        covers_commitStep ⟨publicNumber, false⟩ rfl
  | change ambient organizationId orderId call plain =>
      simp only [Command.task, changeTask_eq]
      exact commits_changeOrder (covers_commitStep unasked rfl)
  | startTravel ambient sessionAmbient organizationId orderId freshId executorId sessionId =>
      exact commits_startTravel (covers_commitStep unasked rfl)
  | recordLocation ambient report =>
      exact commits_recordLocation fun seen => covers_commitStep ⟨"", seen⟩ rfl
  | completeOrder ambient sessionAmbient organizationId orderId executorId report =>
      refine commits_closeOrder (.complete executorId report) (fun session changed h => ?_)
        (covers_commitStep unasked rfl)
      rw [(TrackingSession.complete_ok h).2]
      rfl
  | cancelOrder ambient sessionAmbient organizationId orderId reason actorId =>
      refine commits_closeOrder (.cancel reason actorId) (fun session changed h => ?_)
        (covers_commitStep unasked rfl)
      rw [(TrackingSession.cancel_ok h).2]
      rfl

end DispatchCore.Application
