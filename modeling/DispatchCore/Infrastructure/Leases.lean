import DispatchCore.Infrastructure.Queues
import DispatchCore.Library.Lease

/-! Workers over one queue: they claim batches, answer each claimed item with at
most one mark, and may crash at any point.  Every row follows a lease that
nothing fences. -/
namespace DispatchCore.Infrastructure

open DispatchCore.Library DispatchCore.Domain

/-- `takeover` tells that the row was taken from a worker as stale. -/
structure Handover (κ : Type) where
  key : κ
  worker : Nat
  number : Nat
  takeover : Bool
deriving DecidableEq

/-- The table, the claimed items the workers have not marked yet, and a record of
all claims. -/
structure Site (κ δ : Type) [DecidableEq κ] where
  rows : QueueRows κ δ
  held : List (Nat × Envelope κ δ)
  handovers : List (Handover κ)

/-- `mark_processed`, `mark_projected` and `mark_delivered`, or `mark_failed`. -/
inductive Mark
  | settled (externalMessageId : Option String)
  | failed (error : String) (retryAfterSeconds : Option Rat) (fraction : Rat)

inductive Statement (κ δ π : Type)
  | insert (key : κ) (data : δ) (now : Instant)
  | claim (worker : Nat) (query : π) (limit : Nat) (staleAfterSeconds : Int)
      (locked : κ → Bool) (now : Instant)
  | mark (index : Nat) (mark : Mark) (now : Instant)
  | crash (worker : Nat)

section site

variable {κ δ π : Type} [DecidableEq κ]

namespace Site

def empty : Site κ δ := ⟨.empty, [], []⟩

def handed (site : Site κ δ) (key : κ) : List (Handover κ) :=
  site.handovers.filter fun handover => handover.key = key

def claims (site : Site κ δ) (key : κ) : Nat := (site.handed key).length

def takeovers (site : Site κ δ) (key : κ) : Nat :=
  ((site.handed key).filter Handover.takeover).length

def processing (site : Site κ δ) (key : κ) : Bool :=
  (site.rows.get? key).any fun row => row.status = .processing

/-- The numbers of the claims of a row still in some worker's hands. -/
def outstanding (site : Site κ δ) (key : κ) : List Nat :=
  (site.held.filter fun item => item.2.key = key).map fun item => item.2.attempts

end Site

def Mark.answer (mark : Mark) (envelope : Envelope κ δ) (now : Instant) (rows : QueueRows κ δ) :
    Except Failure (QueueRows κ δ) :=
  match mark with
  | .settled externalMessageId => .ok (markSettled envelope externalMessageId now rows)
  | .failed error retryAfterSeconds fraction =>
      markFailed envelope error maxAttempts retryAfterSeconds fraction now rows

/-- A call that raises leaves the table alone; its worker drops the item. -/
def QueueStore.step (store : QueueStore κ δ π) (site : Site κ δ) :
    Statement κ δ π → Site κ δ
  | .insert key data now => { site with rows := (insertRow key data now site.rows).2 }
  | .claim worker query limit staleAfterSeconds locked now =>
      match claimRows (store.selects query) store.precedes limit staleAfterSeconds locked now
        site.rows with
      | .error _ => site
      | .ok (envelopes, rows) =>
          { rows
            held := site.held ++ envelopes.map fun envelope => (worker, envelope)
            handovers := site.handovers ++ envelopes.map fun envelope =>
              ⟨envelope.key, worker, envelope.attempts, site.processing envelope.key⟩ }
  | .mark index mark now =>
      match site.held[index]? with
      | none => site
      | some (_, envelope) =>
          { site with
            rows := (mark.answer envelope now site.rows).toOption.getD site.rows
            held := site.held.eraseIdx index }
  | .crash worker => { site with held := site.held.filter fun item => item.1 ≠ worker }

def QueueStore.runFrom (store : QueueStore κ δ π) (site : Site κ δ)
    (statements : List (Statement κ δ π)) : Site κ δ :=
  statements.foldl store.step site

def QueueStore.run (store : QueueStore κ δ π) (statements : List (Statement κ δ π)) : Site κ δ :=
  store.runFrom .empty statements

/-- What a claim would hand out. -/
def QueueStore.claimed (store : QueueStore κ δ π) (site : Site κ δ) (query : π) (limit : Nat)
    (staleAfterSeconds : Int) (locked : κ → Bool) (now : Instant) : List (Envelope κ δ) :=
  match claimRows (store.selects query) store.precedes limit staleAfterSeconds locked now
    site.rows with
  | .error _ => []
  | .ok (envelopes, _) => envelopes

/-- No statement of a run marks the row. -/
def QueueStore.Unmarked (store : QueueStore κ δ π) (key : κ) :
    Site κ δ → List (Statement κ δ π) → Prop
  | _, [] => True
  | site, statement :: rest =>
      (∀ index mark now, statement = .mark index mark now →
        ∀ worker envelope, site.held[index]? = some (worker, envelope) → envelope.key ≠ key) ∧
      store.Unmarked key (store.step site statement) rest

def QueueStatus.terminal (status : QueueStatus) : Prop := status = .settled ∨ status = .dead

end site

section represents

variable {κ δ π : Type} [DecidableEq κ]

def stageOf : QueueStatus → Stage
  | .pending => .waiting
  | .processing => .leased
  | .settled => .closed
  | .dead => .closed

/-- The lease a row follows; a row not inserted yet is waiting. -/
structure Represents (site : Site κ δ) (key : κ) (lease : Lease) : Prop where
  stage : lease.stage = ((site.rows.get? key).map fun row => stageOf row.status).getD .waiting
  attempts : lease.claims = ((site.rows.get? key).map QueueRow.attempts).getD 0
  claims : lease.claims = site.claims key
  takeovers : lease.takeovers = site.takeovers key
  outstanding : lease.outstanding = site.outstanding key

theorem stageOf_eq_closed (status : QueueStatus) : stageOf status = .closed ↔ status.terminal := by
  cases status <;> simp [stageOf, QueueStatus.terminal]

theorem filter_of_nodup {row : QueueRow δ} {key : κ} {chosen : List (κ × QueueRow δ)}
    (distinct : (chosen.map Prod.fst).Nodup) (mem : (key, row) ∈ chosen) :
    chosen.filter (fun entry => entry.1 = key) = [(key, row)] := by
  induction chosen with
  | nil => cases mem
  | cons entry rest ih =>
      rw [List.map_cons, List.nodup_cons] at distinct
      cases List.mem_cons.mp mem with
      | inl heq =>
          subst heq
          have hrest : rest.filter (fun entry => entry.1 = key) = [] := by
            rw [List.filter_eq_nil_iff]
            intro other hother hkey
            apply distinct.1
            exact List.mem_map.mpr ⟨other, hother, by simpa using hkey⟩
          simp [hrest]
      | inr hmem =>
          have hne : entry.1 ≠ key := by
            intro heq
            apply distinct.1
            rw [heq]
            exact List.mem_map.mpr ⟨(key, row), hmem, rfl⟩
          rw [List.filter_cons_of_neg (by simpa using hne)]
          exact ih distinct.2 hmem

theorem filter_of_notMem {key : κ} {chosen : List (κ × QueueRow δ)}
    (absent : key ∉ chosen.map Prod.fst) :
    chosen.filter (fun entry => entry.1 = key) = [] := by
  rw [List.filter_eq_nil_iff]
  intro entry hmem hkey
  exact absent (List.mem_map.mpr ⟨entry, hmem, by simpa using hkey⟩)

theorem outstanding_subperm {site later : Site κ δ} {key : κ}
    (h : later.held.Sublist site.held) :
    (later.outstanding key).Subperm (site.outstanding key) :=
  ((h.filter _).map _).subperm

theorem outstanding_answered {site : Site κ δ} {index worker : Nat} {envelope : Envelope κ δ}
    (item : site.held[index]? = some (worker, envelope)) :
    (envelope.attempts ::
        (⟨site.rows, site.held.eraseIdx index, site.handovers⟩ : Site κ δ).outstanding
          envelope.key).Subperm (site.outstanding envelope.key) := by
  obtain ⟨hlength, hget⟩ := List.getElem?_eq_some_iff.mp item
  have hperm := List.getElem_cons_eraseIdx_perm hlength
  rw [hget] at hperm
  have hfiltered := hperm.filter fun held => decide (held.2.key = envelope.key)
  rw [List.filter_cons_of_pos (by simp)] at hfiltered
  exact (hfiltered.map fun held => held.2.attempts).subperm

theorem Represents.empty (key : κ) : Represents (Site.empty : Site κ δ) key .fresh := by
  constructor <;> rfl

theorem Represents.insert {store : QueueStore κ δ π} {site : Site κ δ} {key other : κ} {data : δ}
    {now : Instant} {lease : Lease} (represents : Represents site key lease) :
    Represents (store.step site (.insert other data now)) key lease := by
  have hget := get?_insertRow other key data now site.rows
  constructor
  · rw [represents.stage]
    show _ = (((insertRow other data now site.rows).2.get? key).map _).getD _
    rw [hget]
    cases site.rows.get? key <;> by_cases h : key = other <;> simp [h, stageOf, QueueRow.create]
  · rw [represents.attempts]
    show _ = (((insertRow other data now site.rows).2.get? key).map _).getD _
    rw [hget]
    cases site.rows.get? key <;> by_cases h : key = other <;> simp [h, QueueRow.create]
  · exact represents.claims
  · exact represents.takeovers
  · exact represents.outstanding

theorem Represents.held {site later : Site κ δ} {key : κ} {lease : Lease}
    (represents : Represents site key lease) (rows : later.rows.get? key = site.rows.get? key)
    (handovers : later.handovers = site.handovers) :
    Represents later key { lease with outstanding := later.outstanding key } := by
  constructor
  · rw [rows]; exact represents.stage
  · rw [rows]; exact represents.attempts
  · unfold Site.claims Site.handed; rw [handovers]; exact represents.claims
  · unfold Site.takeovers Site.handed; rw [handovers]; exact represents.takeovers
  · rfl

/-- A claim raises, or hands out distinct rows that wait or are out. -/
theorem QueueStore.step_claim (store : QueueStore κ δ π) (site : Site κ δ) (worker : Nat)
    (query : π) (limit : Nat) (staleAfterSeconds : Int) (locked : κ → Bool) (now : Instant) :
    (store.step site (.claim worker query limit staleAfterSeconds locked now) = site ∧
      store.claimed site query limit staleAfterSeconds locked now = []) ∨
    ∃ chosen : List (κ × QueueRow δ),
      (chosen.map Prod.fst).Nodup ∧
      (∀ entry ∈ chosen, site.rows.get? entry.1 = some entry.2 ∧
        (entry.2.status = .pending ∨ entry.2.status = .processing)) ∧
      store.claimed site query limit staleAfterSeconds locked now =
        chosen.map (fun entry => ⟨entry.1, entry.2.data, entry.2.attempts + 1⟩) ∧
      store.step site (.claim worker query limit staleAfterSeconds locked now) =
        { rows := site.rows.mapValues fun key row =>
            if key ∈ chosen.map Prod.fst then row.claim now else row
          held := site.held ++ chosen.map fun entry =>
            (worker, ⟨entry.1, entry.2.data, entry.2.attempts + 1⟩)
          handovers := site.handovers ++ chosen.map fun entry =>
            ⟨entry.1, worker, entry.2.attempts + 1, site.processing entry.1⟩ } := by
  unfold QueueStore.step QueueStore.claimed claimRows
  by_cases hlimit : 1 ≤ limit ∧ limit ≤ 1000
  · right
    refine ⟨candidates (store.selects query) store.precedes limit staleAfterSeconds locked now
      site.rows, nodup_candidates _ _ _ _ _ _, ?_, ?_, ?_⟩
    · intro entry hentry
      obtain ⟨hget, hclaimable⟩ := mem_candidates hentry
      exact ⟨hget, claimable_status hclaimable⟩
    · rw [if_pos hlimit]
      rfl
    · simp only [if_pos hlimit, List.map_map, Function.comp_def]
      rfl
  · left
    simp [hlimit]

theorem Represents.claim {store : QueueStore κ δ π} {site : Site κ δ} {key : κ} {lease : Lease}
    (represents : Represents site key lease) (worker : Nat) (query : π) (limit : Nat)
    (staleAfterSeconds : Int) (locked : κ → Bool) (now : Instant) :
    ∃ next, Relation.ReflTransGen (Lease.Move maxAttempts) lease next ∧
      Represents (store.step site (.claim worker query limit staleAfterSeconds locked now))
        key next := by
  cases store.step_claim site worker query limit staleAfterSeconds locked now with
  | inl h =>
      rw [h.1]
      exact ⟨lease, .refl, represents⟩
  | inr h =>
      obtain ⟨chosen, hdistinct, hrows, -, hstep⟩ := h
      rw [hstep]
      by_cases hkey : key ∈ chosen.map Prod.fst
      · obtain ⟨row, hmem⟩ : ∃ row, (key, row) ∈ chosen := by
          obtain ⟨entry, hmem, heq⟩ := List.mem_map.mp hkey
          exact ⟨entry.2, heq ▸ hmem⟩
        have hget : site.rows.get? key = some row := (hrows _ hmem).1
        have hstatus : row.status = .pending ∨ row.status = .processing := (hrows _ hmem).2
        have hfilter := filter_of_nodup hdistinct hmem
        have hstage : lease.stage = stageOf row.status := by
          rw [represents.stage, hget]
          rfl
        have hattempts : lease.claims = row.attempts := by
          rw [represents.attempts, hget]
          rfl
        have hprocessing : site.processing key = decide (row.status = .processing) := by
          simp [Site.processing, hget]
        have havailable : lease.stage ≠ .closed := by
          rw [hstage]
          cases hstatus with
          | inl hpending => rw [hpending]; simp [stageOf]
          | inr hout => rw [hout]; simp [stageOf]
        have hleased : (lease.stage = .leased) = (row.status = .processing) := by
          rw [hstage]
          cases hstatus with
          | inl hpending => rw [hpending]; simp [stageOf]
          | inr hout => rw [hout]; simp [stageOf]
        have hhanded : (lease.outstanding ++ [lease.claims + 1]).Perm
            ((lease.claims + 1) :: lease.outstanding) := List.perm_append_singleton _ _
        rw [← hstep]
        have hrecord : (store.step site (.claim worker query limit staleAfterSeconds locked
            now)).handed key =
              site.handed key ++ [⟨key, worker, row.attempts + 1, site.processing key⟩] := by
          rw [hstep]
          simp [Site.handed, List.filter_map, Function.comp_def, hfilter]
        refine ⟨_, .single (.claim havailable hhanded), ?_⟩
        constructor
        · simp [hstep, hget, hkey, QueueRow.claim, stageOf]
        · simp [hstep, hget, hkey, QueueRow.claim, hattempts]
        · rw [Site.claims, hrecord, List.length_append, represents.claims]
          rfl
        · rw [Site.takeovers, hrecord, List.filter_append, List.length_append, hprocessing]
          simp only [hleased, represents.takeovers, Site.takeovers]
          by_cases hout : row.status = .processing <;> simp [hout]
        · simp [hstep, Site.outstanding, List.filter_map, Function.comp_def, hfilter, hattempts,
            represents.outstanding]
      · have hfilter := filter_of_notMem hkey
        refine ⟨lease, .refl, ?_⟩
        constructor
        · rw [represents.stage]
          cases hget : site.rows.get? key <;> simp [hget, hkey]
        · rw [represents.attempts]
          cases hget : site.rows.get? key <;> simp [hget, hkey]
        · simp [Site.claims, Site.handed, List.filter_map, Function.comp_def, hfilter,
            represents.claims]
        · simp only [Site.takeovers, Site.handed, List.filter_append, List.filter_map,
            Function.comp_def, hfilter, List.map_nil, List.append_nil, represents.takeovers]
        · simp [Site.outstanding, List.filter_map, Function.comp_def, hfilter,
            represents.outstanding]

/-- What a mark writes into a row that is out.  Only a failed early claim makes the
row wait again. -/
theorem Mark.answer_ok (mark : Mark) {envelope : Envelope κ δ} (now : Instant)
    (rows : QueueRows κ δ) (claimed : 1 ≤ envelope.attempts) :
    ∃ change : QueueRow δ → QueueRow δ,
      mark.answer envelope now rows = .ok (updateProcessing envelope.key change rows) ∧
      ∀ row, (change row).attempts = row.attempts ∧
        ((change row).status.terminal ∨
          ((change row).status = .pending ∧ envelope.attempts < maxAttempts)) := by
  cases mark with
  | settled externalMessageId => exact ⟨_, rfl, fun row => ⟨rfl, .inl (.inl rfl)⟩⟩
  | failed error retryAfterSeconds fraction =>
      have hdelay : ∃ delay,
          failureDelay envelope.attempts retryAfterSeconds fraction = .ok delay := by
        cases retryAfterSeconds with
        | some seconds => exact ⟨_, rfl⟩
        | none => exact defaultRetryDelay_ok fraction claimed
      obtain ⟨delay, hdelay⟩ := hdelay
      refine ⟨fun row => row.fail now (decide (maxAttempts ≤ envelope.attempts)) delay error,
        ?_, fun row => ⟨rfl, ?_⟩⟩
      · simp only [Mark.answer, markFailed, hdelay]
        rfl
      · by_cases hdead : maxAttempts ≤ envelope.attempts
        · left; right
          simp [QueueRow.fail, hdead]
        · right
          exact ⟨by simp [QueueRow.fail, hdead], by omega⟩

theorem QueueStore.step_mark (store : QueueStore κ δ π) {site : Site κ δ} {index worker : Nat}
    {envelope : Envelope κ δ} (mark : Mark) (now : Instant)
    (item : site.held[index]? = some (worker, envelope)) :
    store.step site (.mark index mark now) =
      { site with
        rows := (mark.answer envelope now site.rows).toOption.getD site.rows
        held := site.held.eraseIdx index } := by
  simp only [QueueStore.step, item]

/-- The items in the workers' hands carry the number of a claim. -/
def Site.Numbered (site : Site κ δ) : Prop := ∀ item ∈ site.held, 1 ≤ item.2.attempts

theorem Site.Numbered.step {store : QueueStore κ δ π} {site : Site κ δ} (numbered : site.Numbered)
    (statement : Statement κ δ π) : (store.step site statement).Numbered := by
  cases statement with
  | insert key data now => exact numbered
  | claim worker query limit staleAfterSeconds locked now =>
      cases store.step_claim site worker query limit staleAfterSeconds locked now with
      | inl h =>
          rw [h.1]
          exact numbered
      | inr h =>
          obtain ⟨chosen, -, -, -, hstep⟩ := h
          rw [hstep]
          intro item hitem
          cases List.mem_append.mp hitem with
          | inl hheld => exact numbered item hheld
          | inr hnew =>
              obtain ⟨entry, -, rfl⟩ := List.mem_map.mp hnew
              exact Nat.succ_pos _
  | mark index mark now =>
      cases hitem : site.held[index]? with
      | none =>
          simp only [QueueStore.step, hitem]
          exact numbered
      | some item =>
          rw [store.step_mark mark now hitem]
          intro other hother
          exact numbered other (List.mem_of_mem_eraseIdx hother)
  | crash worker =>
      intro item hitem
      exact numbered item (List.mem_of_mem_filter hitem)

theorem Represents.mark {store : QueueStore κ δ π} {site : Site κ δ} {key : κ} {lease : Lease}
    (represents : Represents site key lease) (numbered : site.Numbered) (index : Nat) (mark : Mark)
    (now : Instant) :
    ∃ next, Relation.ReflTransGen (Lease.Move maxAttempts) lease next ∧
      Represents (store.step site (.mark index mark now)) key next := by
  cases hitem : site.held[index]? with
  | none =>
      simp only [QueueStore.step, hitem]
      exact ⟨lease, .refl, represents⟩
  | some item =>
      obtain ⟨worker, envelope⟩ := item
      have hclaimed : 1 ≤ envelope.attempts := numbered _ (List.mem_of_getElem? hitem)
      obtain ⟨change, hanswer, hchange⟩ := mark.answer_ok now site.rows hclaimed
      have hstep := store.step_mark mark now hitem
      rw [hanswer] at hstep
      have hget : (store.step site (.mark index mark now)).rows.get? key =
          (site.rows.get? key).map fun row =>
            if key = envelope.key ∧ row.status = .processing then change row else row := by
        rw [hstep]
        exact get?_updateProcessing _ _ _ _
      have hkept : ((store.step site (.mark index mark now)).outstanding key).Subperm
          lease.outstanding := by
        rw [represents.outstanding, hstep]
        exact outstanding_subperm (List.eraseIdx_sublist _ _)
      have hrecord : (store.step site (.mark index mark now)).handovers = site.handovers := by
        rw [hstep]
      by_cases hout : key = envelope.key ∧ site.processing key
      · obtain ⟨rfl, hprocessing⟩ := hout
        obtain ⟨row, hrow, hstatus⟩ : ∃ row, site.rows.get? envelope.key = some row ∧
            row.status = .processing := by
          simpa [Site.processing, Option.any_eq_true] using hprocessing
        have hleased : lease.stage = .leased := by
          rw [represents.stage, hrow]
          simp [hstatus, stageOf]
        have hattempts : lease.claims = row.attempts := by
          rw [represents.attempts, hrow]
          rfl
        rw [hrow] at hget
        simp only [hstatus, and_self, if_true, Option.map_some] at hget
        cases (hchange row).2 with
        | inl hterminal =>
            refine ⟨_, .single (.close hleased hkept), ?_⟩
            constructor
            · simp [hget, (stageOf_eq_closed _).mpr hterminal]
            · simp [hget, hattempts, (hchange row).1]
            · simp [Site.claims, Site.handed, hrecord, represents.claims]
            · simp [Site.takeovers, Site.handed, hrecord, represents.takeovers]
            · rfl
        | inr hpending =>
            have hanswered : (envelope.attempts ::
                (store.step site (.mark index mark now)).outstanding envelope.key).Subperm
                  lease.outstanding := by
              rw [represents.outstanding, hstep]
              exact outstanding_answered hitem
            refine ⟨_, .single (.reopen hleased hpending.2 hanswered), ?_⟩
            constructor
            · simp [hget, hpending.1, stageOf]
            · simp [hget, hattempts, (hchange row).1]
            · simp [Site.claims, Site.handed, hrecord, represents.claims]
            · simp [Site.takeovers, Site.handed, hrecord, represents.takeovers]
            · rfl
      · refine ⟨_, .single (.forget hkept), represents.held ?_ hrecord⟩
        rw [hget]
        cases hrow : site.rows.get? key with
        | none => rfl
        | some row =>
            have hnot : ¬(key = envelope.key ∧ row.status = .processing) := by
              simpa [Site.processing, hrow] using hout
            simp [hnot]

/-- One statement makes at most one move of the lease of each row. -/
theorem Represents.step (store : QueueStore κ δ π) {site : Site κ δ} {key : κ} {lease : Lease}
    (represents : Represents site key lease) (numbered : site.Numbered)
    (statement : Statement κ δ π) :
    ∃ next, Relation.ReflTransGen (Lease.Move maxAttempts) lease next ∧
      Represents (store.step site statement) key next := by
  cases statement with
  | insert other data now => exact ⟨lease, .refl, represents.insert⟩
  | claim worker query limit staleAfterSeconds locked now =>
      exact represents.claim worker query limit staleAfterSeconds locked now
  | mark index mark now => exact represents.mark numbered index mark now
  | crash worker =>
      refine ⟨_, .single (.forget ?_), represents.held ?_ ?_⟩
      · rw [represents.outstanding]
        exact outstanding_subperm List.filter_sublist
      · rfl
      · rfl

theorem Represents.run (store : QueueStore κ δ π) {site : Site κ δ} {key : κ} {lease : Lease}
    (represents : Represents site key lease) (numbered : site.Numbered)
    (statements : List (Statement κ δ π)) :
    ∃ last, Relation.ReflTransGen (Lease.Move maxAttempts) lease last ∧
      Represents (store.runFrom site statements) key last ∧
      (store.runFrom site statements).Numbered := by
  induction statements generalizing site lease with
  | nil => exact ⟨lease, .refl, represents, numbered⟩
  | cons statement rest ih =>
      obtain ⟨next, hmove, hnext⟩ := represents.step store numbered statement
      obtain ⟨last, hmoves, hlast⟩ := ih hnext (numbered.step statement)
      exact ⟨last, hmove.trans hmoves, hlast⟩

theorem reached (store : QueueStore κ δ π) (statements : List (Statement κ δ π)) (key : κ) :
    ∃ lease, Lease.Reached maxAttempts lease ∧ Represents (store.run statements) key lease ∧
      (store.run statements).Numbered :=
  (Represents.empty key).run store (fun _ hitem => nomatch hitem) statements

/-- What a statement inserts under a key. -/
def Statement.inserted (key : κ) : Statement κ δ π → Option δ
  | .insert other data _ => if other = key then some data else none
  | _ => none

/-- The data of a row never changes. -/
theorem QueueStore.step_data (store : QueueStore κ δ π) (site : Site κ δ)
    (statement : Statement κ δ π) (key : κ) :
    ((store.step site statement).rows.get? key).map QueueRow.data =
      ((site.rows.get? key).map QueueRow.data).or (statement.inserted key) := by
  cases statement with
  | insert other data now =>
      show ((insertRow other data now site.rows).2.get? key).map _ = _
      rw [get?_insertRow]
      cases site.rows.get? key <;> by_cases h : key = other <;>
        simp [Statement.inserted, h, QueueRow.create, eq_comm (a := other)]
  | claim worker query limit staleAfterSeconds locked now =>
      cases store.step_claim site worker query limit staleAfterSeconds locked now with
      | inl h => simp [h.1, Statement.inserted]
      | inr h =>
          obtain ⟨chosen, -, -, -, hstep⟩ := h
          rw [hstep]
          cases hrow : site.rows.get? key <;> by_cases hkey : key ∈ chosen.map Prod.fst <;>
            simp [Statement.inserted, hrow, hkey, QueueRow.claim]
  | mark index mark now =>
      cases hitem : site.held[index]? with
      | none => simp [QueueStore.step, hitem, Statement.inserted]
      | some item =>
          obtain ⟨worker, envelope⟩ := item
          rw [store.step_mark mark now hitem]
          have hkept : ∀ change : QueueRow δ → QueueRow δ, (∀ row, (change row).data = row.data) →
              ((updateProcessing envelope.key change site.rows).get? key).map QueueRow.data =
                (site.rows.get? key).map QueueRow.data := by
            intro change hdata
            rw [get?_updateProcessing]
            cases site.rows.get? key with
            | none => rfl
            | some row =>
                simp only [Option.map_some]
                split <;> simp [hdata]
          simp only [Statement.inserted, Option.or_none]
          cases mark with
          | settled externalMessageId => exact hkept _ fun row => rfl
          | failed error retryAfterSeconds fraction =>
              simp only [Mark.answer, markFailed]
              cases failureDelay envelope.attempts retryAfterSeconds fraction with
              | error failure => rfl
              | ok delay => exact hkept _ fun row => rfl
  | crash worker => simp [QueueStore.step, Statement.inserted]

/-- A worker holds items it held before, or items of the table. -/
theorem QueueStore.step_held (store : QueueStore κ δ π) {site : Site κ δ}
    (statement : Statement κ δ π) {item : Nat × Envelope κ δ}
    (mem : item ∈ (store.step site statement).held) :
    item ∈ site.held ∨ ∃ row, site.rows.get? item.2.key = some row ∧ row.data = item.2.data := by
  cases statement with
  | insert key data now => exact .inl mem
  | claim worker query limit staleAfterSeconds locked now =>
      cases store.step_claim site worker query limit staleAfterSeconds locked now with
      | inl h => exact .inl (h.1 ▸ mem)
      | inr h =>
          obtain ⟨chosen, -, hrows, -, hstep⟩ := h
          rw [hstep] at mem
          cases List.mem_append.mp mem with
          | inl hheld => exact .inl hheld
          | inr hnew =>
              obtain ⟨entry, hentry, rfl⟩ := List.mem_map.mp hnew
              exact .inr ⟨entry.2, (hrows entry hentry).1, rfl⟩
  | mark index mark now =>
      cases hitem : site.held[index]? with
      | none =>
          simp only [QueueStore.step, hitem] at mem
          exact .inl mem
      | some held =>
          rw [store.step_mark mark now hitem] at mem
          exact .inl (List.mem_of_mem_eraseIdx mem)
  | crash worker => exact .inl (List.mem_of_mem_filter mem)

/-- Only a settling mark settles a row. -/
theorem QueueStore.settled_of_step (store : QueueStore κ δ π) {site : Site κ δ}
    {statement : Statement κ δ π} {key : κ} {row : QueueRow δ}
    (unsettling : ∀ index externalMessageId now,
      statement ≠ .mark index (.settled externalMessageId) now)
    (present : (store.step site statement).rows.get? key = some row)
    (settled : row.status = .settled) : site.rows.get? key = some row := by
  cases statement with
  | insert other data now =>
      change (insertRow other data now site.rows).2.get? key = _ at present
      rw [get?_insertRow] at present
      split at present
      · cases hrow : site.rows.get? key with
        | none =>
            rw [hrow] at present
            cases present
            cases settled
        | some old =>
            rw [hrow] at present
            exact present
      · exact present
  | claim worker query limit staleAfterSeconds locked now =>
      cases store.step_claim site worker query limit staleAfterSeconds locked now with
      | inl h => rwa [h.1] at present
      | inr h =>
          obtain ⟨chosen, -, -, -, hstep⟩ := h
          rw [hstep, Dict.get?_mapValues] at present
          obtain ⟨old, hold, hclaimed⟩ := Option.map_eq_some_iff.mp present
          by_cases hkey : key ∈ chosen.map Prod.fst
          · rw [if_pos hkey] at hclaimed
            subst hclaimed
            cases settled
          · rw [if_neg hkey] at hclaimed
            exact hclaimed ▸ hold
  | mark index mark now =>
      cases hitem : site.held[index]? with
      | none =>
          simp only [QueueStore.step, hitem] at present
          exact present
      | some item =>
          obtain ⟨worker, envelope⟩ := item
          cases mark with
          | settled externalMessageId => exact absurd rfl (unsettling index externalMessageId now)
          | failed error retryAfterSeconds fraction =>
              rw [store.step_mark _ now hitem] at present
              simp only [Mark.answer, markFailed] at present
              cases hdelay : failureDelay envelope.attempts retryAfterSeconds fraction with
              | error failure =>
                  rw [hdelay] at present
                  exact present
              | ok delay =>
                  rw [hdelay] at present
                  change (updateProcessing _ _ _).get? key = _ at present
                  rw [get?_updateProcessing] at present
                  obtain ⟨old, hold, hfailed⟩ := Option.map_eq_some_iff.mp present
                  split at hfailed
                  · subst hfailed
                    unfold QueueRow.fail at settled
                    dsimp only at settled
                    split at settled <;> contradiction
                  · exact hfailed ▸ hold
  | crash worker => exact present

/-- A row that is settled or dead is left alone by every statement. -/
theorem terminal_step (store : QueueStore κ δ π) {site : Site κ δ} {key : κ} {row : QueueRow δ}
    (numbered : site.Numbered) (present : site.rows.get? key = some row)
    (terminal : row.status.terminal) (statement : Statement κ δ π) :
    (store.step site statement).rows.get? key = some row := by
  have hnot : row.status ≠ .pending ∧ row.status ≠ .processing := by
    cases terminal with
    | inl h => simp [h]
    | inr h => simp [h]
  cases statement with
  | insert other data now =>
      show (insertRow other data now site.rows).2.get? key = _
      rw [get?_insertRow, present]
      simp
  | claim worker query limit staleAfterSeconds locked now =>
      cases store.step_claim site worker query limit staleAfterSeconds locked now with
      | inl h => rw [h.1, present]
      | inr h =>
          obtain ⟨chosen, -, hrows, -, hstep⟩ := h
          have hkey : key ∉ chosen.map Prod.fst := by
            intro hkey
            obtain ⟨entry, hmem, rfl⟩ := List.mem_map.mp hkey
            obtain ⟨hget, hstatus⟩ := hrows entry hmem
            rw [present] at hget
            cases hget
            exact hstatus.elim hnot.1 hnot.2
          simp [hstep, present, hkey]
  | mark index mark now =>
      cases hitem : site.held[index]? with
      | none =>
          simp only [QueueStore.step, hitem]
          exact present
      | some item =>
          have hclaimed : 1 ≤ item.2.attempts := numbered _ (List.mem_of_getElem? hitem)
          obtain ⟨change, hanswer, -⟩ := mark.answer_ok now site.rows hclaimed
          rw [store.step_mark mark now hitem, hanswer]
          show (updateProcessing item.2.key change site.rows).get? key = _
          rw [get?_updateProcessing, present]
          simp [hnot.2]
  | crash worker => exact present

theorem terminal_run (store : QueueStore κ δ π) {site : Site κ δ} {key : κ} {row : QueueRow δ}
    (numbered : site.Numbered) (present : site.rows.get? key = some row)
    (terminal : row.status.terminal) (statements : List (Statement κ δ π)) :
    (store.runFrom site statements).rows.get? key = some row := by
  induction statements generalizing site with
  | nil => exact present
  | cons statement rest ih =>
      exact ih (numbered.step statement) (terminal_step store numbered present terminal statement)

/-- Where a row is out and nobody marks it, it stays out. -/
theorem processing_step (store : QueueStore κ δ π) {site : Site κ δ} {key : κ}
    (numbered : site.Numbered) (out : site.processing key = true) (statement : Statement κ δ π)
    (unmarked : ∀ index mark now, statement = .mark index mark now →
      ∀ worker envelope, site.held[index]? = some (worker, envelope) → envelope.key ≠ key) :
    (store.step site statement).processing key = true := by
  obtain ⟨row, hrow, hstatus⟩ : ∃ row, site.rows.get? key = some row ∧
      row.status = .processing := by
    simpa [Site.processing, Option.any_eq_true] using out
  cases statement with
  | insert other data now =>
      show Option.any _ ((insertRow other data now site.rows).2.get? key) = _
      rw [get?_insertRow, hrow]
      simp [hstatus]
  | claim worker query limit staleAfterSeconds locked now =>
      cases store.step_claim site worker query limit staleAfterSeconds locked now with
      | inl h => rw [h.1, out]
      | inr h =>
          obtain ⟨chosen, -, -, -, hstep⟩ := h
          rw [hstep]
          by_cases hkey : key ∈ chosen.map Prod.fst
          · simp [Site.processing, hrow, hkey, QueueRow.claim]
          · simp [Site.processing, hrow, hkey, hstatus]
  | mark index mark now =>
      cases hitem : site.held[index]? with
      | none =>
          simp only [QueueStore.step, hitem]
          exact out
      | some item =>
          have hclaimed : 1 ≤ item.2.attempts := numbered _ (List.mem_of_getElem? hitem)
          have hother : key ≠ item.2.key := (unmarked index mark now rfl item.1 item.2 hitem).symm
          obtain ⟨change, hanswer, -⟩ := mark.answer_ok now site.rows hclaimed
          rw [store.step_mark mark now hitem, hanswer]
          show Option.any _ ((updateProcessing item.2.key change site.rows).get? key) = _
          rw [get?_updateProcessing, hrow]
          simp [hother, hstatus]
  | crash worker => exact out

theorem processing_run (store : QueueStore κ δ π) {site : Site κ δ} {key : κ}
    (numbered : site.Numbered) (out : site.processing key = true)
    {statements : List (Statement κ δ π)} (unmarked : store.Unmarked key site statements) :
    (store.runFrom site statements).processing key = true := by
  induction statements generalizing site with
  | nil => exact out
  | cons statement rest ih =>
      exact ih (numbered.step statement) (processing_step store numbered out statement unmarked.1)
        unmarked.2

theorem claimed_processing (store : QueueStore κ δ π) (site : Site κ δ) {worker : Nat} {query : π}
    {limit : Nat} {staleAfterSeconds : Int} {locked : κ → Bool} {now : Instant}
    {envelope : Envelope κ δ}
    (claimed : envelope ∈ store.claimed site query limit staleAfterSeconds locked now) :
    (store.step site (.claim worker query limit staleAfterSeconds locked now)).processing
      envelope.key = true := by
  cases store.step_claim site worker query limit staleAfterSeconds locked now with
  | inl h =>
      rw [h.2] at claimed
      cases claimed
  | inr h =>
      obtain ⟨chosen, -, hrows, hclaimed, hstep⟩ := h
      rw [hclaimed] at claimed
      obtain ⟨entry, hmem, rfl⟩ := List.mem_map.mp claimed
      have hget := (hrows entry hmem).1
      have hkey : entry.1 ∈ chosen.map Prod.fst := List.mem_map.mpr ⟨entry, hmem, rfl⟩
      rw [hstep]
      simp only [Site.processing, Dict.get?_mapValues, hget, Option.map_some, if_pos hkey]
      rfl

end represents

section claims

variable {κ δ π : Type} [DecidableEq κ]

/-- A mark for a claim that was taken over leaves the row unchanged. -/
def SupersededMarksIgnored (store : QueueStore κ δ π) : Prop :=
  ∀ (statements : List (Statement κ δ π)) (index worker : Nat) (envelope : Envelope κ δ)
    (row : QueueRow δ) (mark : Mark) (now : Instant),
    (store.run statements).held[index]? = some (worker, envelope) →
    (store.run statements).rows.get? envelope.key = some row →
    row.attempts ≠ envelope.attempts →
    (store.step (store.run statements) (.mark index mark now)).rows.get? envelope.key = some row

/-- The mark of the worker that claimed last settles the row. -/
def OwnersMarkSettles (store : QueueStore κ δ π) : Prop :=
  ∀ (statements : List (Statement κ δ π)) (index worker : Nat) (envelope : Envelope κ δ)
    (row : QueueRow δ) (externalMessageId : Option String) (now : Instant),
    (store.run statements).held[index]? = some (worker, envelope) →
    (store.run statements).rows.get? envelope.key = some row →
    row.attempts = envelope.attempts →
    ∃ after, (store.step (store.run statements)
        (.mark index (.settled externalMessageId) now)).rows.get? envelope.key = some after ∧
      after.status = .settled

/-- What the status guard does give. -/
structure GuardedByStatus (store : QueueStore κ δ π) (site : Site κ δ) : Prop where
  /-- A mark changes its row exactly when the row is out, and no other row. -/
  guarded : ∀ index worker envelope mark now,
    site.held[index]? = some (worker, envelope) →
    ((store.step site (.mark index mark now)).rows.get? envelope.key ≠
        site.rows.get? envelope.key ↔
      ∃ row, site.rows.get? envelope.key = some row ∧ row.status = .processing) ∧
    ∀ other, other ≠ envelope.key →
      (store.step site (.mark index mark now)).rows.get? other = site.rows.get? other
  /-- A settled or dead row is never changed or claimed again. -/
  final : ∀ key row later, site.rows.get? key = some row → row.status.terminal →
    (store.runFrom site later).rows.get? key = some row ∧
    (store.runFrom site later).claims key = site.claims key
  /-- Where nobody else marks the row after a claim, its worker settles it for good. -/
  owner : ∀ worker query limit staleAfterSeconds locked now envelope later,
    envelope ∈ store.claimed site query limit staleAfterSeconds locked now →
    let claimed := store.step site (.claim worker query limit staleAfterSeconds locked now)
    store.Unmarked envelope.key claimed later →
    ∀ index externalMessageId settledAt,
      (store.runFrom claimed later).held[index]? = some (worker, envelope) →
      let settled := store.step (store.runFrom claimed later)
        (.mark index (.settled externalMessageId) settledAt)
      ∃ row, row.status = .settled ∧ row.settledAt = some settledAt ∧
        row.externalMessageId = externalMessageId ∧
        ∀ rest, (store.runFrom settled rest).rows.get? envelope.key = some row ∧
          (store.runFrom settled rest).claims envelope.key = settled.claims envelope.key

theorem terminal_unclaimed (store : QueueStore κ δ π) {site : Site κ δ} {key : κ}
    {row : QueueRow δ} {lease : Lease} (represents : Represents site key lease)
    (numbered : site.Numbered) (present : site.rows.get? key = some row)
    (terminal : row.status.terminal) (later : List (Statement κ δ π)) :
    (store.runFrom site later).claims key = site.claims key := by
  obtain ⟨last, hmoves, hlast, -⟩ := represents.run store numbered later
  have hclosed : lease.stage = .closed := by
    rw [represents.stage, present]
    exact (stageOf_eq_closed _).mpr terminal
  have hclaims := (Lease.closed_forever hmoves hclosed).2
  rw [← hlast.claims, hclaims, represents.claims]

/-- Stale claims aside a row is claimed at most ten times. -/
structure BoundedClaims (store : QueueStore κ δ π) (site : Site κ δ) (key : κ) : Prop where
  bounded : site.claims key ≤ maxAttempts + site.takeovers key
  counted : ∀ row, site.rows.get? key = some row → row.attempts = site.claims key
  spent : ∀ row, site.rows.get? key = some row →
    site.claims key = maxAttempts + site.takeovers key → row.status ≠ .pending
  dead : ∀ index worker envelope error retryAfterSeconds fraction now,
    site.held[index]? = some (worker, envelope) → envelope.key = key →
    maxAttempts ≤ envelope.attempts → site.processing key = true →
    ∃ row, (store.step site
        (.mark index (.failed error retryAfterSeconds fraction) now)).rows.get? key = some row ∧
      row.status = .dead
  final : ∀ row later, site.rows.get? key = some row → row.status.terminal →
    (store.runFrom site later).claims key = site.claims key

end claims

section samples

def sampleMessage : OutboundMessage :=
  { deduplicationKey := "reply:1", organizationId := "acme", provider := .telegram,
    recipientId := "42", text := "ok", buttons := [], consumerKey := "", createdAt := ⟨0⟩ }

def sampleClaim (worker : Nat) (seconds : Int) : Statement Nat OutboundMessage OutboundQuery :=
  .claim worker ⟨.telegram, some "acme", [""]⟩ 50 120 (fun _ => false) (Instant.addSeconds ⟨0⟩ seconds)

/-- The second worker takes the message over from the first. -/
def takenOver : List (Statement Nat OutboundMessage OutboundQuery) :=
  [.insert 1 sampleMessage ⟨0⟩, sampleClaim 0 0, sampleClaim 1 121]

/-- The first worker's late failure reopens the message the second one has sent. -/
def reopened : List (Statement Nat OutboundMessage OutboundQuery) :=
  takenOver ++ [.mark 0 (.failed "timeout" none 0) (Instant.addSeconds ⟨0⟩ 122)]

end samples

end DispatchCore.Infrastructure
