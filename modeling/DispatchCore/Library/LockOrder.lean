import DispatchCore.Library.Transactions
import Mathlib.Data.List.Perm.Basic
import Mathlib.Logic.Hydra

/-! Clients that take their locks in ascending order.  No such clients wait for each other in a
circle, and so what they have begun can come to its end. -/
namespace DispatchCore.Library

namespace Isolation

variable {Op : Type} {Answer : Op → Type} {ε α β τ ω κ : Type}

/-- What holds of the tables whatever is written, where the statements write what is fine. -/
structure Steady (execute : (op : Op) → τ → Except ε (Executed ω κ (Answer op))) (apply : τ → ω → τ)
    (seen : τ → Prop) (fine : ω → Prop) : Prop where
  apply : ∀ tables write, seen tables → fine write → seen (apply tables write)
  execute : ∀ op tables found, execute op tables = .ok found → ∀ write ∈ found.writes, fine write

/-- Every statement locks what its client holds, or what stands above all that its client
holds. -/
def Ascends (execute : (op : Op) → τ → Except ε (Executed ω κ (Answer op))) (rank : κ → Nat)
    (seen : τ → Prop) (promise : α → List κ → Prop) : Program Op Answer ε α → List κ → Prop
  | .done value, locks => promise value locks
  | .raise _, _ => True
  | .call op resume, locks => ∀ view, seen view → ∀ found, execute op view = .ok found →
      (∀ lock ∈ found.locks, lock ∈ locks ∨ ∀ held ∈ locks, rank held < rank lock) ∧
        Ascends execute rank seen promise (resume found.answer) (locks ++ found.locks)

variable {execute : (op : Op) → τ → Except ε (Executed ω κ (Answer op))} {apply : τ → ω → τ}
  {rank : κ → Nat} {seen : τ → Prop} {fine : ω → Prop} {locks : List κ}

section ascends

variable {promise : α → List κ → Prop} {program : Program Op Answer ε α}

theorem Ascends.bind {middle : β → List κ → Prop} {first : Program Op Answer ε β}
    {next : β → Program Op Answer ε α} (ascends : Ascends execute rank seen middle first locks)
    (rest : ∀ value locks, middle value locks →
      Ascends execute rank seen promise (next value) locks) :
    Ascends execute rank seen promise (first >>= next) locks := by
  induction first generalizing locks with
  | done value => exact rest value locks ascends
  | raise failure => exact trivial
  | call op resume ih =>
      intro view hseen found hfound
      obtain ⟨habove, hnext⟩ := ascends view hseen found hfound
      exact ⟨habove, ih found.answer hnext⟩

theorem ascends_asked {op : Op} {promise : Answer op → List κ → Prop}
    (h : ∀ view, seen view → ∀ found, execute op view = .ok found →
      (∀ lock ∈ found.locks, lock ∈ locks ∨ ∀ held ∈ locks, rank held < rank lock) ∧
        promise found.answer (locks ++ found.locks)) :
    Ascends execute rank seen promise (Program.request op) locks :=
  h

end ascends

/-! ### The order of a client's stages -/

/-- A client in a transaction makes its next statement, or comes to its end. -/
inductive Follows (execute : (op : Op) → τ → Except ε (Executed ω κ (Answer op))) :
    Client Op Answer ε α → Client Op Answer ε α → Prop
  | returned {value : α} {otherwise : ε → Option (Program Op Answer ε α)} :
      Follows execute (.returned value) (.transacting (.done value) otherwise)
  | rolledBack {failure : ε} {otherwise : ε → Option (Program Op Answer ε α)} :
      Follows execute (Client.rolledBack otherwise failure)
        (.transacting (.raise failure) otherwise)
  | asked {op : Op} {resume : Answer op → Program Op Answer ε α}
      {otherwise : ε → Option (Program Op Answer ε α)} (answer : Answer op) :
      Follows execute (.transacting (resume answer) otherwise)
        (.transacting (.call op resume) otherwise)
  | failed {op : Op} {resume : Answer op → Program Op Answer ε α}
      {otherwise : ε → Option (Program Op Answer ε α)} (failure : ε) :
      Follows execute (.transacting (.raise failure) otherwise)
        (.transacting (.call op resume) otherwise)

theorem acc_of_raise {otherwise : ε → Option (Program Op Answer ε α)}
    (raised : ∀ failure, Acc (Follows execute) (Client.rolledBack otherwise failure))
    (body : Program Op Answer ε α) : Acc (Follows execute) (.transacting body otherwise) := by
  have hraise (failure : ε) :
      Acc (Follows execute) (Client.transacting (.raise failure) otherwise) := by
    refine ⟨_, fun next h => ?_⟩
    cases h with
    | rolledBack => exact raised failure
  induction body with
  | done value =>
      refine ⟨_, fun next h => ?_⟩
      cases h with
      | returned => exact ⟨_, fun _ h => by cases h⟩
  | raise failure => exact hraise failure
  | call op resume ih =>
      refine ⟨_, fun next h => ?_⟩
      cases h with
      | asked answer => exact ih answer
      | failed failure => exact hraise failure

/-- A client makes so many statements and no more. -/
theorem wellFounded_follows : WellFounded (Follows execute (α := α)) := by
  have hraised (failure : ε) : Acc (Follows execute) (Client.raised failure :
      Client Op Answer ε α) := ⟨_, fun _ h => by cases h⟩
  have hlast (body : Program Op Answer ε α) :
      Acc (Follows execute) (.transacting body fun _ => none) :=
    acc_of_raise hraised body
  refine ⟨fun stage => ?_⟩
  cases stage with
  | returned value => exact ⟨_, fun _ h => by cases h⟩
  | raised failure => exact hraised failure
  | lost => exact ⟨_, fun _ h => by cases h⟩
  | transacting body otherwise =>
      refine acc_of_raise (fun failure => ?_) body
      unfold Client.rolledBack
      cases otherwise failure with
      | none => exact hraised failure
      | some next => exact hlast next

/-! ### Databases of such clients -/

variable [DecidableEq κ]

/-- A transaction ascends, and so does the one that follows where it raises; a client that has
ended holds no lock. -/
def Climbs (execute : (op : Op) → τ → Except ε (Executed ω κ (Answer op))) (rank : κ → Nat)
    (seen : τ → Prop) : Client Op Answer ε α → List κ → Prop
  | .transacting body otherwise, locks =>
      Ascends execute rank seen (fun _ _ => True) body locks ∧
        ∀ failure next, otherwise failure = some next →
          Ascends execute rank seen (fun _ _ => True) next []
  | _, locks => locks = []

structure Ordered (execute : (op : Op) → τ → Except ε (Executed ω κ (Answer op))) (rank : κ → Nat)
    (seen : τ → Prop) (fine : ω → Prop) (clients : Clients Op Answer ε α τ ω κ) : Prop where
  exclusive : Database.Exclusive clients.sessions
  tables : seen clients.tables
  writes : ∀ (index : Nat) session, clients.sessions[index]? = some session →
    ∀ write ∈ session.writes, fine write
  climbs : ∀ (index : Nat) session, clients.sessions[index]? = some session →
    Climbs execute rank seen session.stage session.locks

variable {clients : Clients Op Answer ε α τ ω κ} {session : Session (Client Op Answer ε α) ω κ}
  {index : Nat}

omit [DecidableEq κ] in
theorem Steady.foldl (steady : Steady execute apply seen fine) {tables : τ} {writes : List ω}
    (h : seen tables) (hwrites : ∀ write ∈ writes, fine write) :
    seen (writes.foldl apply tables) := by
  induction writes generalizing tables with
  | nil => exact h
  | cons write rest ih =>
      exact ih (steady.apply tables write h (hwrites write (List.mem_cons_self ..)))
        fun other hother => hwrites other (List.mem_cons_of_mem _ hother)

theorem Ordered.put (ordered : Ordered execute rank seen fine clients)
    (h : clients.sessions[index]? = some session) {next : Session (Client Op Answer ε α) ω κ}
    {after : τ} (tables : seen after)
    (taken : ∀ lock ∈ next.locks, lock ∈ session.locks ∨
      Database.free clients.sessions index lock = true)
    (writes : ∀ write ∈ next.writes, fine write)
    (climbs : Climbs execute rank seen next.stage next.locks) :
    Ordered execute rank seen fine ⟨after, clients.sessions.set index next⟩ where
  exclusive := ordered.exclusive.put h taken
  tables := tables
  writes other found hfound := by
    rw [Database.getElem?_put h] at hfound
    by_cases hsame : other = index
    · rw [if_pos hsame] at hfound
      cases hfound
      exact writes
    · rw [if_neg hsame] at hfound
      exact ordered.writes other found hfound
  climbs other found hfound := by
    rw [Database.getElem?_put h] at hfound
    by_cases hsame : other = index
    · rw [if_pos hsame] at hfound
      cases hfound
      exact climbs
    · rw [if_neg hsame] at hfound
      exact ordered.climbs other found hfound

omit [DecidableEq κ] in
theorem climbs_rolledBack {body : Program Op Answer ε α}
    {otherwise : ε → Option (Program Op Answer ε α)} {locks : List κ}
    (climbs : Climbs execute rank seen (.transacting body otherwise) locks) (failure : ε) :
    Climbs execute rank seen (Client.rolledBack otherwise failure) [] := by
  unfold Client.rolledBack
  cases hotherwise : otherwise failure with
  | none => rfl
  | some next => exact ⟨climbs.2 failure next hotherwise, fun _ _ h => by contradiction⟩

omit [DecidableEq κ] in
/-- A statement that is run leaves a client that ascends. -/
theorem climbs_statement {stage next : Client Op Answer ε α} {locks more : List κ}
    {writes : List ω} {view : τ} (climbs : Climbs execute rank seen stage locks)
    (viewed : seen view) (h : Client.statement execute stage view = .run more writes next) :
    Climbs execute rank seen next (locks ++ more) := by
  unfold Client.statement at h
  split at h
  · contradiction
  · contradiction
  · split at h
    · rename_i found hfound
      cases h
      exact ⟨(climbs.1 _ viewed found hfound).2, climbs.2⟩
    · cases h
      exact ⟨trivial, climbs.2⟩
  · cases h
    rw [List.append_nil]
    exact climbs

omit [DecidableEq κ] in
theorem fine_statement (steady : Steady execute apply seen fine) {stage next : Client Op Answer ε α}
    {more : List κ} {writes : List ω} {view : τ}
    (h : Client.statement execute stage view = .run more writes next) :
    ∀ write ∈ writes, fine write := by
  unfold Client.statement at h
  split at h
  · contradiction
  · contradiction
  · split at h
    · rename_i found hfound
      cases h
      exact steady.execute _ _ found hfound
    · cases h
      exact fun _ hmem => absurd hmem List.not_mem_nil
  · cases h
    exact fun _ hmem => absurd hmem List.not_mem_nil

omit [DecidableEq κ] in
theorem climbs_commit {stage next : Client Op Answer ε α} {view : τ}
    (h : Client.statement execute stage view = (.commit next : TransactionStep _ ω κ)) :
    Climbs execute rank seen next ([] : List κ) := by
  unfold Client.statement at h
  split at h
  · cases h
    rfl
  · contradiction
  · split at h <;> contradiction
  · contradiction

omit [DecidableEq κ] in
theorem climbs_rollback {stage next : Client Op Answer ε α} {locks : List κ} {view : τ}
    (climbs : Climbs execute rank seen stage locks)
    (h : Client.statement execute stage view = (.rollback next : TransactionStep _ ω κ)) :
    Climbs execute rank seen next [] := by
  unfold Client.statement at h
  split at h
  · contradiction
  · cases h
    exact climbs_rolledBack climbs _
  · split at h <;> contradiction
  · contradiction

theorem Ordered.turn (steady : Steady execute apply seen fine)
    (ordered : Ordered execute rank seen fine clients) (next : Database.Turn) :
    Ordered execute rank seen fine (turn execute apply clients next) := by
  cases next with
  | abort index =>
      simp only [Isolation.turn, Database.turn]
      split
      · rename_i session hsession
        split
        · rename_i stage hstage
          refine ordered.put hsession ordered.tables (fun _ h => absurd h List.not_mem_nil)
            (fun _ h => absurd h List.not_mem_nil) ?_
          unfold Client.cancelled at hstage
          split at hstage
          · cases hstage
            rfl
          · contradiction
        · exact ordered
      · exact ordered
  | step index =>
      simp only [Isolation.turn, Database.turn]
      split
      · rename_i session hsession
        have hwrites := ordered.writes index session hsession
        have hclimbs := ordered.climbs index session hsession
        have hviewed := steady.foldl ordered.tables hwrites
        unfold Database.perform Database.view
        split
        · rename_i locks writes stage hstage
          split
          · rename_i hfree
            refine ordered.put hsession ordered.tables (fun lock hlock => ?_) (fun write h => ?_)
              (climbs_statement hclimbs hviewed hstage)
            · rcases List.mem_append.mp hlock with hmine | htaken
              · exact .inl hmine
              · exact .inr (List.all_eq_true.mp hfree lock htaken)
            · rcases List.mem_append.mp h with hold | hnew
              · exact hwrites write hold
              · exact fine_statement steady hstage write hnew
          · exact ordered
        · rename_i stage hstage
          refine ordered.put hsession hviewed (fun _ h => absurd h List.not_mem_nil)
            (fun _ h => absurd h List.not_mem_nil) ?_
          exact climbs_commit hstage
        · rename_i stage hstage
          refine ordered.put hsession ordered.tables (fun _ h => absurd h List.not_mem_nil)
            (fun _ h => absurd h List.not_mem_nil) ?_
          exact climbs_rollback hclimbs hstage
      · exact ordered

/-! ### Nobody waits for ever -/

/-- A client is in a transaction. -/
def Transacting (clients : Clients Op Answer ε α τ ω κ) (index : Nat) : Prop :=
  ∃ session body otherwise, clients.sessions[index]? = some session ∧
    session.stage = .transacting body otherwise

/-- The next statement of a transaction need not wait. -/
def Ready (execute : (op : Op) → τ → Except ε (Executed ω κ (Answer op))) (apply : τ → ω → τ)
    (clients : Clients Op Answer ε α τ ω κ) (index : Nat) : Prop :=
  ∃ session body otherwise, clients.sessions[index]? = some session ∧
    session.stage = .transacting body otherwise ∧
    ∀ locks writes next, Client.statement execute session.stage
        (Database.view apply clients.tables session) = .run locks writes next →
      locks.all (Database.free clients.sessions index) = true

/-- Whoever must wait does so for a lock above all it holds, and somebody else holds it. -/
theorem Ordered.waits (steady : Steady execute apply seen fine)
    (ordered : Ordered execute rank seen fine clients)
    (transacting : Transacting clients index) (waiting : ¬Ready execute apply clients index) :
    ∃ session lock, clients.sessions[index]? = some session ∧
      (∀ held ∈ session.locks, rank held < rank lock) ∧ ∃ (other : Nat) (holder : Session _ ω κ),
        clients.sessions[other]? = some holder ∧ lock ∈ holder.locks := by
  obtain ⟨session, body, otherwise, hsession, hstage⟩ := transacting
  have hblocked : ∃ locks writes next, Client.statement execute session.stage
      (Database.view apply clients.tables session) = .run locks writes next ∧
        ¬locks.all (Database.free clients.sessions index) = true := by
    by_contra hnone
    refine waiting ⟨session, body, otherwise, hsession, hstage, fun locks writes next h => ?_⟩
    by_contra hheld
    exact hnone ⟨locks, writes, next, h, hheld⟩
  obtain ⟨locks, writes, next, hstatement, hheld⟩ := hblocked
  obtain ⟨lock, hlock, htaken⟩ : ∃ lock ∈ locks,
      ¬Database.free clients.sessions index lock = true := by
    simpa using hheld
  have hholder : ∃ (other : Nat) (holder : Session _ ω κ), clients.sessions[other]? = some holder ∧
      other ≠ index ∧ lock ∈ holder.locks := by
    by_contra hnone
    refine htaken (Database.free_iff.mpr fun other found hfound hother hmem => ?_)
    exact hnone ⟨other, found, hfound, hother, hmem⟩
  obtain ⟨other, holder, hother, hne, hmem⟩ := hholder
  refine ⟨session, lock, hsession, ?_, other, holder, hother, hmem⟩
  have hviewed := steady.foldl ordered.tables (ordered.writes index session hsession)
  have hclimbs := ordered.climbs index session hsession
  rw [hstage] at hstatement hclimbs
  cases body with
  | done value => contradiction
  | raise failure => contradiction
  | call op resume =>
      simp only [Client.statement] at hstatement
      split at hstatement
      · rename_i found hfound
        cases hstatement
        rcases (hclimbs.1 _ hviewed found hfound).1 lock hlock with hmine | habove
        · exact absurd hmem (ordered.exclusive index other session holder lock hne.symm hsession
            hother hmine)
        · exact habove
      · cases hstatement
        exact absurd hlock List.not_mem_nil

omit [DecidableEq κ] in
/-- Whoever holds a lock is in a transaction. -/
theorem Ordered.holds (ordered : Ordered execute rank seen fine clients)
    (h : clients.sessions[index]? = some session) {lock : κ} (held : lock ∈ session.locks) :
    Transacting clients index := by
  have hclimbs := ordered.climbs index session h
  cases hstage : session.stage with
  | transacting body otherwise => exact ⟨session, body, otherwise, h, hstage⟩
  | returned value | raised failure | lost =>
      rw [hstage] at hclimbs
      rw [show session.locks = [] from hclimbs] at held
      contradiction

/-- There is no deadlock: while anybody is in a transaction, somebody need not wait. -/
theorem Ordered.exists_ready (steady : Steady execute apply seen fine)
    (ordered : Ordered execute rank seen fine clients)
    (transacting : ∃ index, Transacting clients index) :
    ∃ index, Ready execute apply clients index := by
  by_contra hnone
  have hwaiting (index : Nat) (h : Transacting clients index) :=
    ordered.waits steady h fun ready => hnone ⟨index, ready⟩
  have hclimb (height : Nat) : ∃ lock, height ≤ rank lock ∧ ∃ (other : Nat)
      (holder : Session _ ω κ), clients.sessions[other]? = some holder ∧ lock ∈ holder.locks := by
    induction height with
    | zero =>
        obtain ⟨index, htransacting⟩ := transacting
        obtain ⟨session, lock, -, -, hholder⟩ := hwaiting index htransacting
        exact ⟨lock, Nat.zero_le _, hholder⟩
    | succ height ih =>
        obtain ⟨lock, hheight, other, holder, hother, hheld⟩ := ih
        obtain ⟨session, above, hsession, habove, hholder⟩ :=
          hwaiting other (ordered.holds hother hheld)
        cases hother.symm.trans hsession
        have hhigher := habove lock hheld
        exact ⟨above, by omega, hholder⟩
  obtain ⟨lock, hhigh, other, holder, hother, hheld⟩ :=
    hclimb (((clients.sessions.flatMap Session.locks).map rank).max?.getD 0 + 1)
  have hmem : rank lock ∈ (clients.sessions.flatMap Session.locks).map rank :=
    List.mem_map_of_mem (List.mem_flatMap.mpr ⟨holder, List.mem_of_getElem? hother, hheld⟩)
  have hbound : rank lock ≤ ((clients.sessions.flatMap Session.locks).map rank).max?.getD 0 :=
    List.le_max?_getD_of_mem hmem
  omega

/-- A statement that need not wait brings its client on. -/
theorem Ready.step (ready : Ready execute apply clients index) :
    ∃ session next, clients.sessions[index]? = some session ∧
      Follows execute next.stage session.stage ∧
      (turn execute apply clients (.step index)).sessions = clients.sessions.set index next := by
  obtain ⟨session, body, otherwise, hsession, hstage, hfree⟩ := ready
  refine ⟨session, ?_⟩
  simp only [Isolation.turn, Database.turn, hsession, Database.perform]
  rw [hstage] at hfree ⊢
  cases body with
  | done value => exact ⟨⟨.returned value, [], []⟩, trivial, .returned, rfl⟩
  | raise failure =>
      exact ⟨⟨Client.rolledBack otherwise failure, [], []⟩, trivial, .rolledBack, rfl⟩
  | call op resume =>
      simp only [Client.statement] at hfree ⊢
      cases hexecute : execute op (Database.view apply clients.tables session) with
      | error failure =>
          rw [hexecute] at hfree
          simp only [List.all_nil, if_true]
          exact ⟨_, trivial, .failed failure, rfl⟩
      | ok found =>
          rw [hexecute] at hfree
          simp only [hfree _ _ _ rfl, if_true]
          exact ⟨_, trivial, .asked found.answer, rfl⟩

def stages (clients : Clients Op Answer ε α τ ω κ) : Multiset (Client Op Answer ε α) :=
  clients.sessions.map Session.stage

omit [DecidableEq κ] in
theorem stages_set (h : clients.sessions[index]? = some session)
    {next : Session (Client Op Answer ε α) ω κ} (follows : Follows execute next.stage session.stage)
    {after : Clients Op Answer ε α τ ω κ}
    (same : after.sessions = clients.sessions.set index next) :
    Relation.CutExpand (Follows execute) (stages after) (stages clients) := by
  refine ⟨{next.stage}, session.stage, fun other hother => ?_, ?_⟩
  · rw [Multiset.mem_singleton.mp hother]
    exact follows
  · obtain ⟨hbound, hfound⟩ := List.getElem?_eq_some_iff.mp h
    have hafter : stages after =
        next.stage ::ₘ (clients.sessions.map Session.stage).eraseIdx index := by
      unfold stages
      rw [same, List.map_set]
      exact Multiset.coe_eq_coe.mpr
        (List.set_perm_cons_eraseIdx (by rw [List.length_map]; exact hbound) _)
    have hbefore : stages clients =
        session.stage ::ₘ (clients.sessions.map Session.stage).eraseIdx index := by
      have hlength : index < (clients.sessions.map Session.stage).length := by
        rw [List.length_map]
        exact hbound
      have hperm := List.getElem_cons_eraseIdx_perm hlength
      rw [List.getElem_map, hfound] at hperm
      exact (Multiset.coe_eq_coe.mpr hperm).symm
    rw [hafter, hbefore, ← Multiset.singleton_add, ← Multiset.singleton_add]
    ac_rfl

/-- Whatever is under way can come to its end, and nobody need be cancelled for it. -/
theorem Ordered.finishes (steady : Steady execute apply seen fine)
    (ordered : Ordered execute rank seen fine clients) :
    ∃ rest : List Nat, ∀ index, ¬Transacting
      ((rest.map Database.Turn.step).foldl (Isolation.turn execute apply) clients) index := by
  have hwell : WellFounded (Follows execute (α := α)) := wellFounded_follows
  -- Every step that need not wait replaces the stage of one client by one that follows it.
  induction hstages : stages clients using hwell.cutExpand.induction generalizing clients with
  | _ before ih =>
      by_cases hdone : ∃ index, Transacting clients index
      · obtain ⟨index, hready⟩ := ordered.exists_ready steady hdone
        obtain ⟨session, next, hsession, hfollows, hsame⟩ := hready.step
        obtain ⟨rest, hrest⟩ := ih _ (hstages ▸ stages_set hsession hfollows hsame)
          (ordered.turn steady (.step index)) rfl
        exact ⟨index :: rest, hrest⟩
      · exact ⟨[], fun index h => hdone ⟨index, h⟩⟩

end Isolation
end DispatchCore.Library
