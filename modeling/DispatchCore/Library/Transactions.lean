import DispatchCore.Library.Program
import DispatchCore.Library.RowLocks
import Mathlib.Logic.Relation

/-! Clients of a database.  Each runs a program of statements in a transaction, and commits where
the program returns.  What a client promises about its commit it may promise by what it has read
under its locks: the commits of the others leave that alone. -/
namespace DispatchCore.Library

/-- What a statement locks, writes and answers. -/
structure Executed (ω κ α : Type) where
  locks : List κ
  writes : List ω
  answer : α

/-- A client in a transaction, with the transaction it tries next should this one raise; or at
its end. -/
inductive Client (Op : Type) (Answer : Op → Type) (ε α : Type)
  | transacting (body : Program Op Answer ε α) (otherwise : ε → Option (Program Op Answer ε α))
  | returned (value : α)
  | raised (failure : ε)
  | lost

namespace Client

variable {Op : Type} {Answer : Op → Type} {ε α τ ω κ : Type}

/-- After a rollback. -/
def rolledBack (otherwise : ε → Option (Program Op Answer ε α)) (failure : ε) :
    Client Op Answer ε α :=
  match otherwise failure with
  | some body => transacting body fun _ => none
  | none => raised failure

def statement (execute : (op : Op) → τ → Except ε (Executed ω κ (Answer op))) :
    Client Op Answer ε α → τ → TransactionStep (Client Op Answer ε α) ω κ
  | transacting (.done value) _, _ => .commit (returned value)
  | transacting (.raise failure) otherwise, _ => .rollback (rolledBack otherwise failure)
  | transacting (.call op resume) otherwise, view =>
      match execute op view with
      | .ok found => .run found.locks found.writes (transacting (resume found.answer) otherwise)
      | .error failure => .run [] [] (transacting (.raise failure) otherwise)
  | client, _ => .run [] [] client

/-- A transaction that is not over may fail: by a deadlock, or with its connection. -/
def cancelled : Client Op Answer ε α → Option (Client Op Answer ε α)
  | transacting _ _ => some lost
  | _ => none

end Client

/-- What holds of the committed tables, what a commit of the client with that position and these
locks does to them, and what a client knows that has not committed. -/
structure Isolation (τ κ : Type) where
  valid : τ → Prop
  effect : Nat → List κ → τ → τ → Prop
  known : Nat → τ → Prop
  kept : ∀ {index other : Nat} {held : List κ} {before after : τ}, other ≠ index →
    effect other held before after → known index before → known index after

namespace Isolation

variable {Op : Type} {Answer : Op → Type} {ε α β τ ω κ : Type} (isolation : Isolation τ κ)

/-- Another client commits, and holds none of the locks. -/
def Beside (index : Nat) (locks : List κ) (before after : τ) : Prop :=
  ∃ other held, other ≠ index ∧ (∀ lock ∈ locks, lock ∉ held) ∧
    isolation.effect other held before after ∧ isolation.valid before ∧ isolation.valid after

/-- The tables some commits of other clients later, valid and with the client not committed. -/
structure Later (index : Nat) (locks : List κ) (before after : τ) : Prop where
  commits : Relation.ReflTransGen (isolation.Beside index locks) before after
  valid : isolation.valid after
  known : isolation.known index after

/-- Whatever the others commit in between: where the program ends, the promise holds. -/
def Keeps (execute : (op : Op) → τ → Except ε (Executed ω κ (Answer op))) (apply : τ → ω → τ)
    (index : Nat) (promise : α → List ω → List κ → τ → Prop) :
    Program Op Answer ε α → List ω → List κ → τ → Prop
  | .done value, writes, locks, tables => promise value writes locks tables
  | .raise _, _, _, _ => True
  | .call op resume, writes, locks, tables => ∀ now, isolation.Later index locks tables now →
      ∀ found, execute op (writes.foldl apply now) = .ok found →
        Keeps execute apply index promise (resume found.answer) (writes ++ found.writes)
          (locks ++ found.locks) now

/-- The writes can be committed at any time from now. -/
def Commits (apply : τ → ω → τ) (index : Nat) (writes : List ω) (locks : List κ) (tables : τ) :
    Prop :=
  ∀ now, isolation.Later index locks tables now →
    isolation.valid (writes.foldl apply now) ∧
      isolation.effect index locks now (writes.foldl apply now)

/-- The commits of others do not touch what the locks protect. -/
def Stable (index : Nat) (locks : List κ) (property : τ → Prop) : Prop :=
  ∀ before after, isolation.Beside index locks before after → property before → property after

variable {isolation} {execute : (op : Op) → τ → Except ε (Executed ω κ (Answer op))}
  {apply : τ → ω → τ} {index : Nat} {writes : List ω} {locks : List κ} {tables now : τ}

theorem Later.trans (first : isolation.Later index locks tables now) {last : τ}
    (second : isolation.Later index locks now last) : isolation.Later index locks tables last :=
  ⟨first.commits.trans second.commits, second.valid, second.known⟩

theorem Stable.later {property : τ → Prop} (stable : isolation.Stable index locks property)
    (later : isolation.Later index locks tables now) (held : property tables) : property now := by
  have hcommits := later.commits
  clear later
  induction hcommits with
  | refl => exact held
  | tail _ beside ih => exact stable _ _ beside ih

theorem Stable.and {first second : τ → Prop} (left : isolation.Stable index locks first)
    (right : isolation.Stable index locks second) :
    isolation.Stable index locks fun tables => first tables ∧ second tables :=
  fun before after beside held =>
    ⟨left before after beside held.1, right before after beside held.2⟩

/-- What is stable under fewer locks is stable under more. -/
theorem Stable.more {property : τ → Prop} (stable : isolation.Stable index locks property)
    {taken : List κ} (h : locks ⊆ taken) : isolation.Stable index taken property := by
  rintro before after ⟨other, held, hother, hfree, heffect⟩
  exact stable before after ⟨other, held, hother, fun lock hlock => hfree lock (h hlock), heffect⟩

section Keeps

variable {promise : α → List ω → List κ → τ → Prop} {program : Program Op Answer ε α}

/-- A program does not mind what the others commit, where its promise does not. -/
theorem Keeps.later
    (keeps : isolation.Keeps execute apply index promise program writes locks tables)
    (stable : ∀ value, promise value writes locks tables → promise value writes locks now)
    (later : isolation.Later index locks tables now) :
    isolation.Keeps execute apply index promise program writes locks now := by
  cases program with
  | done value => exact stable value keeps
  | raise failure => exact trivial
  | call op resume => exact fun last hlast => keeps last (later.trans hlast)

theorem Keeps.bind {middle : β → List ω → List κ → τ → Prop} {first : Program Op Answer ε β}
    {next : β → Program Op Answer ε α}
    (keeps : isolation.Keeps execute apply index middle first writes locks tables)
    (rest : ∀ value writes locks tables, middle value writes locks tables →
      isolation.Keeps execute apply index promise (next value) writes locks tables) :
    isolation.Keeps execute apply index promise (first >>= next) writes locks tables := by
  induction first generalizing writes locks tables with
  | done value => exact rest value writes locks tables keeps
  | raise failure => exact trivial
  | call op resume ih =>
      exact fun last hlast found hfound => ih found.answer (keeps last hlast found hfound)

theorem Keeps.weaken {weaker : α → List ω → List κ → τ → Prop}
    (keeps : isolation.Keeps execute apply index promise program writes locks tables)
    (h : ∀ value writes locks tables, promise value writes locks tables →
      weaker value writes locks tables) :
    isolation.Keeps execute apply index weaker program writes locks tables := by
  induction program generalizing writes locks tables with
  | done value => exact h value writes locks tables keeps
  | raise failure => exact trivial
  | call op resume ih =>
      exact fun last hlast found hfound => ih found.answer (keeps last hlast found hfound)

/-- What the locks protect is still so where the program ends, and the locks are still held. -/
theorem Keeps.frame
    (keeps : isolation.Keeps execute apply index promise program writes locks tables)
    {property : τ → Prop} (stable : isolation.Stable index locks property)
    (held : property tables) :
    isolation.Keeps execute apply index
      (fun value after taken tables => promise value after taken tables ∧ locks ⊆ taken ∧
        property tables) program writes locks tables := by
  have hall : ∀ taken tables, locks ⊆ taken → property tables → ∀ writes,
      isolation.Keeps execute apply index promise program writes taken tables →
      isolation.Keeps execute apply index
        (fun value after taken tables => promise value after taken tables ∧ locks ⊆ taken ∧
          property tables) program writes taken tables := by
    clear keeps held
    induction program with
    | done value => exact fun taken tables hsubset hheld writes keeps => ⟨keeps, hsubset, hheld⟩
    | raise failure => exact fun _ _ _ _ _ _ => trivial
    | call op resume ih =>
        intro taken tables hsubset hheld writes keeps now hlater found hfound
        exact ih found.answer _ now (List.Subset.trans hsubset (List.subset_append_left ..))
          ((stable.more hsubset).later hlater hheld) _ (keeps now hlater found hfound)
  exact hall locks tables (List.Subset.refl _) held writes keeps

/-- One statement, by what it does in the tables it finds. -/
theorem keeps_asked {op : Op} {promise : Answer op → List ω → List κ → τ → Prop}
    (h : ∀ now, isolation.Later index locks tables now → ∀ found,
      execute op (writes.foldl apply now) = .ok found →
        promise found.answer (writes ++ found.writes) (locks ++ found.locks) now) :
    isolation.Keeps execute apply index promise (Program.request op) writes locks tables :=
  h

theorem keeps_attempt {result : Except ε α}
    (h : ∀ value, result = .ok value → promise value writes locks tables) :
    isolation.Keeps execute apply index promise (Program.attempt result) writes locks tables := by
  cases result with
  | ok value => exact h value rfl
  | error failure => exact trivial

end Keeps

theorem Commits.later (commits : isolation.Commits apply index writes locks tables)
    (later : isolation.Later index locks tables now) :
    isolation.Commits apply index writes locks now :=
  fun last hlast => commits last (later.trans hlast)

/-! ### Databases of clients -/

/-- A body that may be begun whenever the client has not committed. -/
def Begins (isolation : Isolation τ κ)
    (execute : (op : Op) → τ → Except ε (Executed ω κ (Answer op))) (apply : τ → ω → τ)
    (index : Nat) (body : Program Op Answer ε α) : Prop :=
  ∀ tables, isolation.valid tables → isolation.known index tables →
    isolation.Keeps execute apply index
      (fun _ writes locks tables => isolation.Commits apply index writes locks tables)
      body [] [] tables

/-- What every statement keeps and no other client takes away holds where the program ends. -/
theorem keeps_carried {carried : List ω → List κ → τ → Prop}
    (statement : ∀ op writes locks now found, isolation.valid now → carried writes locks now →
      execute op (writes.foldl apply now) = .ok found →
        carried (writes ++ found.writes) (locks ++ found.locks) now)
    (beside : ∀ writes locks before after, isolation.Beside index locks before after →
      carried writes locks before → carried writes locks after)
    (program : Program Op Answer ε α) (h : carried writes locks tables) :
    isolation.Keeps execute apply index (fun _ => carried) program writes locks tables := by
  induction program generalizing writes locks tables with
  | done value => exact h
  | raise failure => exact trivial
  | call op resume ih =>
      intro now hlater found hfound
      have hstable : isolation.Stable index locks (carried writes locks) :=
        fun before after => beside writes locks before after
      exact ih found.answer
        (statement op writes locks now found hlater.valid (hstable.later hlater h) hfound)

/-- What a session of the database may claim. -/
def Claims (isolation : Isolation τ κ)
    (execute : (op : Op) → τ → Except ε (Executed ω κ (Answer op))) (apply : τ → ω → τ)
    (index : Nat) (session : Session (Client Op Answer ε α) ω κ) (tables : τ) : Prop :=
  match session.stage with
  | .transacting body otherwise => isolation.known index tables ∧
      isolation.Keeps execute apply index
        (fun _ writes locks tables => isolation.Commits apply index writes locks tables)
        body session.writes session.locks tables ∧
      ∀ failure next, otherwise failure = some next →
        isolation.Begins execute apply index next
  | _ => True

variable [DecidableEq κ]

abbrev Clients (Op : Type) (Answer : Op → Type) (ε α τ ω κ : Type) :=
  Database τ (Client Op Answer ε α) ω κ

def turn (execute : (op : Op) → τ → Except ε (Executed ω κ (Answer op))) (apply : τ → ω → τ)
    (clients : Clients Op Answer ε α τ ω κ) (next : Database.Turn) :
    Clients Op Answer ε α τ ω κ :=
  Database.turn apply (Client.statement execute) Client.cancelled clients next

/-- No lock is held twice, the tables are valid, and every client can keep its promise. -/
structure Kept (isolation : Isolation τ κ)
    (execute : (op : Op) → τ → Except ε (Executed ω κ (Answer op))) (apply : τ → ω → τ)
    (clients : Clients Op Answer ε α τ ω κ) : Prop where
  exclusive : Database.Exclusive clients.sessions
  valid : isolation.valid clients.tables
  claims : ∀ (index : Nat) session, clients.sessions[index]? = some session →
    isolation.Claims execute apply index session clients.tables

variable {clients : Clients Op Answer ε α τ ω κ} {session : Session (Client Op Answer ε α) ω κ}

/-- A change of one session that the tables do not see. -/
theorem Kept.put (kept : isolation.Kept execute apply clients)
    (h : clients.sessions[index]? = some session) {next : Session (Client Op Answer ε α) ω κ}
    (taken : ∀ lock ∈ next.locks, lock ∈ session.locks ∨
      Database.free clients.sessions index lock = true)
    (own : isolation.Claims execute apply index next clients.tables) :
    isolation.Kept execute apply
      { clients with sessions := clients.sessions.set index next } where
  exclusive := kept.exclusive.put h taken
  valid := kept.valid
  claims other found hfound := by
    rw [Database.getElem?_put h] at hfound
    by_cases hsame : other = index
    · rw [if_pos hsame] at hfound
      cases hfound
      rw [hsame]
      exact own
    · rw [if_neg hsame] at hfound
      exact kept.claims other found hfound

omit [DecidableEq κ] in
/-- A client that is not the one that commits goes on as it was. -/
theorem Claims.beside {other : Nat} {found : Session (Client Op Answer ε α) ω κ} {after : τ}
    (claims : isolation.Claims execute apply other found tables)
    (beside : isolation.Beside other found.locks tables after) :
    isolation.Claims execute apply other found after := by
  obtain ⟨committer, held, hother, hfree, heffect, hbefore, hafter⟩ := beside
  unfold Claims at claims ⊢
  cases hstage : found.stage with
  | returned value => exact trivial
  | raised failure => exact trivial
  | lost => exact trivial
  | transacting body otherwise =>
      rw [hstage] at claims
      obtain ⟨hknown, hkeeps, hnext⟩ := claims
      have hlater : isolation.Later other found.locks tables after :=
        ⟨.single ⟨committer, held, hother, hfree, heffect, hbefore, hafter⟩, hafter,
          isolation.kept hother heffect hknown⟩
      exact ⟨hlater.known, hkeeps.later (fun _ commits => commits.later hlater) hlater, hnext⟩

/-- The client has committed. -/
def Finished (clients : Clients Op Answer ε α τ ω κ) (index : Nat) : Prop :=
  ∃ session value, clients.sessions[index]? = some session ∧ session.stage = .returned value

/-- What a turn does to the committed tables: nothing, or what one client commits. -/
def Advances (isolation : Isolation τ κ) (before after : Clients Op Answer ε α τ ω κ) : Prop :=
  (after.tables = before.tables ∧ ∀ index, Finished after index ↔ Finished before index) ∨
    ∃ index locks, ¬Finished before index ∧
      (∀ other, Finished after other ↔ other = index ∨ Finished before other) ∧
      isolation.effect index locks before.tables after.tables

omit [DecidableEq κ] in
theorem finished_put (h : clients.sessions[index]? = some session)
    (next : Session (Client Op Answer ε α) ω κ) (after : τ) (other : Nat) :
    Finished (⟨after, clients.sessions.set index next⟩ : Clients Op Answer ε α τ ω κ) other ↔
      if other = index then ∃ value, next.stage = .returned value else Finished clients other := by
  unfold Finished
  simp only [Database.getElem?_put h]
  by_cases hsame : other = index
  · simp [hsame]
  · simp [hsame]

omit [DecidableEq κ] in
/-- A client that goes on without a commit. -/
theorem Advances.quiet (h : clients.sessions[index]? = some session)
    {next : Session (Client Op Answer ε α) ω κ}
    (same : (∃ value, next.stage = .returned value) ↔ ∃ value, session.stage = .returned value) :
    isolation.Advances clients
      { clients with sessions := clients.sessions.set index next } := by
  refine .inl ⟨rfl, fun other => (finished_put h next clients.tables other).trans ?_⟩
  by_cases hsame : other = index
  · rw [if_pos hsame, same, hsame]
    simp [Finished, h]
  · rw [if_neg hsame]

omit [DecidableEq κ] in
theorem Advances.idle : isolation.Advances clients clients :=
  .inl ⟨rfl, fun _ => Iff.rfl⟩

omit [DecidableEq κ] in
theorem Later.here (valid : isolation.valid tables) (known : isolation.known index tables) :
    isolation.Later index locks tables tables :=
  ⟨.refl, valid, known⟩

/-- A commit is seen by all, and leaves to the others what they hold. -/
theorem Kept.commit (kept : isolation.Kept execute apply clients)
    (h : clients.sessions[index]? = some session) {value : α}
    (valid : isolation.valid (session.writes.foldl apply clients.tables))
    (effect : isolation.effect index session.locks clients.tables
      (session.writes.foldl apply clients.tables)) :
    isolation.Kept execute apply
      ⟨session.writes.foldl apply clients.tables,
        clients.sessions.set index ⟨.returned value, [], []⟩⟩ where
  exclusive := kept.exclusive.put h fun lock hlock => absurd hlock List.not_mem_nil
  valid := valid
  claims other found hfound := by
    rw [Database.getElem?_put h] at hfound
    by_cases hsame : other = index
    · rw [if_pos hsame] at hfound
      cases hfound
      exact trivial
    · rw [if_neg hsame] at hfound
      refine (kept.claims other found hfound).beside
        ⟨index, session.locks, Ne.symm hsame, fun lock hlock => ?_, effect, kept.valid, valid⟩
      exact kept.exclusive other index found session lock hsame hfound h hlock

omit [DecidableEq κ] in
/-- A commit is of a client that has not committed before. -/
theorem Advances.commit {body : Program Op Answer ε α}
    {otherwise : ε → Option (Program Op Answer ε α)}
    (h : clients.sessions[index]? = some session)
    (stage : session.stage = .transacting body otherwise) {after : τ} (value : α)
    (effect : isolation.effect index session.locks clients.tables after) :
    isolation.Advances clients ⟨after, clients.sessions.set index ⟨.returned value, [], []⟩⟩ := by
  refine .inr ⟨index, session.locks, ?_, fun other => ?_, effect⟩
  · rintro ⟨found, result, hfound, hreturned⟩
    cases h.symm.trans hfound
    rw [stage] at hreturned
    contradiction
  · rw [finished_put h]
    by_cases hsame : other = index
    · simp [hsame]
    · simp [hsame]

/-- The next statement of a client in a transaction. -/
theorem Kept.statement (kept : isolation.Kept execute apply clients)
    {body : Program Op Answer ε α} {otherwise : ε → Option (Program Op Answer ε α)}
    (h : clients.sessions[index]? = some session)
    (stage : session.stage = .transacting body otherwise) :
    isolation.Kept execute apply
        (Database.perform apply (Client.statement execute) clients index session) ∧
      isolation.Advances clients
        (Database.perform apply (Client.statement execute) clients index session) := by
  have hclaims := kept.claims index session h
  unfold Claims at hclaims
  rw [stage] at hclaims
  obtain ⟨hknown, hkeeps, hnext⟩ := hclaims
  simp only [Database.perform, Database.view, stage]
  cases body with
  | done value =>
      obtain ⟨hvalid, heffect⟩ := hkeeps _ (Later.here kept.valid hknown)
      exact ⟨kept.commit h hvalid heffect, .commit h stage value heffect⟩
  | raise failure =>
      refine ⟨kept.put h (fun lock hlock => absurd hlock List.not_mem_nil) ?_, .quiet h ?_⟩
      · unfold Claims Client.rolledBack
        cases hotherwise : otherwise failure with
        | none => exact trivial
        | some next =>
            refine ⟨hknown, hnext failure next hotherwise _ kept.valid hknown,
              fun other body hbody => ?_⟩
            contradiction
      · unfold Client.rolledBack
        cases otherwise failure <;> simp [stage]
  | call op resume =>
      simp only [Client.statement]
      cases hexecute : execute op (session.writes.foldl apply clients.tables) with
      | error failure =>
          simp only [List.all_nil, if_true, List.append_nil]
          refine ⟨kept.put h (fun lock hlock => .inl hlock) ?_, .quiet h (by simp [stage])⟩
          exact ⟨hknown, trivial, hnext⟩
      | ok found =>
          simp only
          by_cases hfree : found.locks.all (Database.free clients.sessions index) = true
          · rw [if_pos hfree]
            refine ⟨kept.put h (fun lock hlock => ?_) ?_, .quiet h (by simp [stage])⟩
            · rcases List.mem_append.mp hlock with hmine | htaken
              · exact .inl hmine
              · exact .inr (List.all_eq_true.mp hfree lock htaken)
            · exact ⟨hknown, hkeeps _ (Later.here kept.valid hknown) found hexecute, hnext⟩
          · rw [if_neg hfree]
            exact ⟨kept, .idle⟩

/-- A client that has ended does nothing more. -/
theorem Kept.ended (kept : isolation.Kept execute apply clients)
    (h : clients.sessions[index]? = some session)
    (ended : ∀ view, Client.statement execute session.stage view = .run [] [] session.stage) :
    isolation.Kept execute apply
        (Database.perform apply (Client.statement execute) clients index session) ∧
      isolation.Advances clients
        (Database.perform apply (Client.statement execute) clients index session) := by
  simp only [Database.perform, ended, List.all_nil, if_true, List.append_nil]
  exact ⟨kept.put h (fun lock hlock => .inl hlock) (kept.claims index session h),
    .quiet h Iff.rfl⟩

/-- Whatever happens next, the promises are kept. -/
theorem Kept.turn (kept : isolation.Kept execute apply clients) (next : Database.Turn) :
    isolation.Kept execute apply (turn execute apply clients next) ∧
      isolation.Advances clients (turn execute apply clients next) := by
  cases next with
  | step index =>
      simp only [Isolation.turn, Database.turn]
      cases hsession : clients.sessions[index]? with
      | none => exact ⟨kept, .idle⟩
      | some session =>
          cases hstage : session.stage with
          | transacting body otherwise => exact kept.statement hsession hstage
          | returned value => exact kept.ended hsession fun view => by rw [hstage]; rfl
          | raised failure => exact kept.ended hsession fun view => by rw [hstage]; rfl
          | lost => exact kept.ended hsession fun view => by rw [hstage]; rfl
  | abort index =>
      simp only [Isolation.turn, Database.turn]
      cases hsession : clients.sessions[index]? with
      | none => exact ⟨kept, .idle⟩
      | some session =>
          simp only
          cases hcancelled : Client.cancelled session.stage with
          | none => exact ⟨kept, .idle⟩
          | some stage =>
              cases hstage : session.stage <;> rw [hstage] at hcancelled <;> cases hcancelled
              refine ⟨kept.put hsession (fun lock hlock => absurd hlock List.not_mem_nil) trivial,
                .quiet hsession (by simp [hstage])⟩

/-! ### Runs -/

/-- One commit after the other, in the order of the list. -/
inductive Serial (does : Nat → τ → τ → Prop) : List Nat → τ → τ → Prop
  | nothing (tables : τ) : Serial does [] tables tables
  | commits {order : List Nat} {index : Nat} {before middle after : τ}
      (earlier : Serial does order before middle) (last : does index middle after) :
      Serial does (order ++ [index]) before after

omit [DecidableEq κ] in
theorem Serial.weaken {σ : Type} {does : Nat → τ → τ → Prop} {less : Nat → σ → σ → Prop}
    {order : List Nat} {before after : τ} (serial : Serial does order before after) (f : τ → σ)
    (h : ∀ index before after, does index before after → less index (f before) (f after)) :
    Serial less order (f before) (f after) := by
  induction serial with
  | nothing tables => exact .nothing _
  | commits _ last ih => exact .commits ih (h _ _ _ last)

/-- The tables are what the clients that have returned make of the first ones, each once. -/
def Serialized (isolation : Isolation τ κ) (first : τ) (clients : Clients Op Answer ε α τ ω κ) :
    Prop :=
  ∃ order : List Nat, order.Nodup ∧ (∀ index, index ∈ order ↔ Finished clients index) ∧
    Serial (fun index before after => ∃ locks, isolation.effect index locks before after) order
      first clients.tables

omit [DecidableEq κ] in
theorem Serialized.advance {first : τ} {after : Clients Op Answer ε α τ ω κ}
    (serialized : isolation.Serialized first clients)
    (advances : isolation.Advances clients after) :
    isolation.Serialized first after := by
  obtain ⟨order, hnodup, hreturned, hserial⟩ := serialized
  rcases advances with ⟨hsame, hquiet⟩ | ⟨index, locks, hnew, hcommit, heffect⟩
  · rw [← hsame] at hserial
    exact ⟨order, hnodup, fun index => (hreturned index).trans (hquiet index).symm, hserial⟩
  · refine ⟨order ++ [index], ?_, fun other => ?_, .commits hserial ⟨locks, heffect⟩⟩
    · rw [List.nodup_append]
      refine ⟨hnodup, by simp, fun left hleft right hright hsame => hnew ?_⟩
      rw [← List.mem_singleton.mp hright, ← hsame]
      exact (hreturned left).mp hleft
    · rw [hcommit, List.mem_append, List.mem_singleton, hreturned, or_comm]

omit [DecidableEq κ] in
/-- Clients at their start, on valid tables. -/
theorem kept_open {tables : τ} {bodies : List (Client Op Answer ε α)}
    (valid : isolation.valid tables)
    (claims : ∀ (index : Nat) stage, bodies[index]? = some stage →
      isolation.Claims execute apply index ⟨stage, [], []⟩ tables) :
    isolation.Kept execute apply (Database.open tables bodies) where
  exclusive first second left right lock _ hleft _ hlock := by
    obtain ⟨stage, -, rfl⟩ := List.mem_map.mp (List.mem_of_getElem? hleft)
    exact absurd hlock List.not_mem_nil
  valid := valid
  claims index session hsession := by
    change (bodies.map _)[index]? = some session at hsession
    rw [List.getElem?_map] at hsession
    obtain ⟨stage, hstage, rfl⟩ := Option.map_eq_some_iff.mp hsession
    exact claims index stage hstage

omit [DecidableEq κ] in
theorem serialized_open {tables : τ} {bodies : List (Client Op Answer ε α)}
    (fresh : ∀ stage ∈ bodies, ∀ value, stage ≠ .returned value) :
    isolation.Serialized tables
      (Database.open tables bodies : Clients Op Answer ε α τ ω κ) := by
  refine ⟨[], List.nodup_nil, fun index => ?_, .nothing tables⟩
  refine ⟨fun h => absurd h List.not_mem_nil, ?_⟩
  rintro ⟨session, value, hsession, hreturned⟩
  obtain ⟨stage, hstage, rfl⟩ := List.mem_map.mp (List.mem_of_getElem? hsession)
  exact absurd hreturned (fresh stage hstage value)

/-- Whatever the order of the turns, what the clients do is done one after the other. -/
theorem Kept.run {first : τ} (kept : isolation.Kept execute apply clients)
    (serialized : isolation.Serialized first clients) (schedule : List Database.Turn) :
    isolation.Kept execute apply (schedule.foldl (Isolation.turn execute apply) clients) ∧
      isolation.Serialized first (schedule.foldl (Isolation.turn execute apply) clients) := by
  induction schedule generalizing clients with
  | nil => exact ⟨kept, serialized⟩
  | cons next rest ih =>
      obtain ⟨hkept, hadvances⟩ := kept.turn next
      exact ih hkept (serialized.advance hadvances)

end Isolation
end DispatchCore.Library
