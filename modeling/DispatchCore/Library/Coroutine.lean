import Mathlib.Data.List.Nodup

/-! Coroutines over a shared state.  Between two awaits a coroutine runs without
interruption; at an await any other coroutine may run.  The second half is a
rely-guarantee argument: coroutines that stay quiet up to one committing
segment, whatever the others do meanwhile, run as if each took effect alone at
the moment it commits. -/
namespace DispatchCore.Library

/-- A suspended computation: it has returned, has raised, or waits to run its
next segment, which reads and rewrites the shared state it finds. -/
inductive Coroutine (σ ε α : Type) where
  | done (value : α)
  | raise (failure : ε)
  | await (effect : σ → σ) (resume : σ → Coroutine σ ε α)

namespace Coroutine

variable {σ ε α β : Type}

def bind : Coroutine σ ε α → (α → Coroutine σ ε β) → Coroutine σ ε β
  | done value, next => next value
  | raise failure, _ => raise failure
  | await effect resume, next => await effect fun state => (resume state).bind next

instance : Monad (Coroutine σ ε) where
  pure := done
  bind := bind

@[simp] theorem pure_eq (value : α) : (pure value : Coroutine σ ε α) = done value := rfl

@[simp] theorem done_bind (value : α) (next : α → Coroutine σ ε β) :
    (done value >>= next) = next value := rfl

@[simp] theorem raise_bind (failure : ε) (next : α → Coroutine σ ε β) :
    ((raise failure : Coroutine σ ε α) >>= next) = raise failure := rfl

@[simp] theorem await_bind (effect : σ → σ) (resume : σ → Coroutine σ ε α)
    (next : α → Coroutine σ ε β) :
    (await effect resume >>= next) = await effect fun state => resume state >>= next := rfl

theorem bind_done (task : Coroutine σ ε α) : task.bind done = task := by
  induction task with
  | done value => rfl
  | raise failure => rfl
  | await effect resume ih =>
      simp only [bind]
      congr 1
      funext state
      exact ih state

theorem bind_bind {γ : Type} (task : Coroutine σ ε α) (next : α → Coroutine σ ε β)
    (last : β → Coroutine σ ε γ) :
    (task.bind next).bind last = task.bind fun value => (next value).bind last := by
  induction task with
  | done value => rfl
  | raise failure => rfl
  | await effect resume ih =>
      simp only [bind]
      congr 1
      funext state
      exact ih state

instance : LawfulMonad (Coroutine σ ε) :=
  LawfulMonad.mk' _ bind_done (fun _ _ => rfl) bind_bind

/-- Run the handler where the body raises. -/
def tryCatch : Coroutine σ ε α → (ε → Coroutine σ ε α) → Coroutine σ ε α
  | done value, _ => done value
  | raise failure, handler => handler failure
  | await effect resume, handler => await effect fun state => (resume state).tryCatch handler

instance : MonadExceptOf ε (Coroutine σ ε) where
  throw := raise
  tryCatch := tryCatch

@[simp] theorem throw_eq (failure : ε) : (throw failure : Coroutine σ ε α) = raise failure := rfl

/-- One uninterrupted segment; if it raises, the state is left as found. -/
def segment (body : σ → Except ε (α × σ)) : Coroutine σ ε α :=
  await
    (fun state => match body state with
      | .ok (_, after) => after
      | .error _ => state)
    (fun state => match body state with
      | .ok (value, _) => done value
      | .error failure => raise failure)

/-- A segment that only looks at the state. -/
def read (look : σ → Except ε α) : Coroutine σ ε α :=
  segment fun state => (look state).map fun value => (value, state)

/-- An await that does nothing to the state. -/
def pause : Coroutine σ ε Unit := read fun _ => .ok ()

def attempt : Except ε α → Coroutine σ ε α
  | .ok value => done value
  | .error failure => raise failure

instance : MonadLift (Except ε) (Coroutine σ ε) := ⟨attempt⟩

/-- Run to the end with nobody else running. -/
def alone : Coroutine σ ε α → σ → Except ε α × σ
  | done value, state => (.ok value, state)
  | raise failure, state => (.error failure, state)
  | await effect resume, state => (resume state).alone (effect state)

@[simp] theorem alone_done (value : α) (state : σ) :
    (done value : Coroutine σ ε α).alone state = (.ok value, state) := rfl

@[simp] theorem alone_raise (failure : ε) (state : σ) :
    (raise failure : Coroutine σ ε α).alone state = (.error failure, state) := rfl

theorem alone_bind (task : Coroutine σ ε α) (next : α → Coroutine σ ε β) (state : σ) :
    (task >>= next).alone state =
      match task.alone state with
      | (.ok value, after) => (next value).alone after
      | (.error failure, after) => (.error failure, after) := by
  induction task generalizing state with
  | done value => rfl
  | raise failure => rfl
  | await effect resume ih => exact ih state (effect state)

theorem alone_tryCatch (task : Coroutine σ ε α) (handler : ε → Coroutine σ ε α) (state : σ) :
    (task.tryCatch handler).alone state =
      match task.alone state with
      | (.ok value, after) => (.ok value, after)
      | (.error failure, after) => (handler failure).alone after := by
  induction task generalizing state with
  | done value => rfl
  | raise failure => rfl
  | await effect resume ih => exact ih state (effect state)

theorem alone_segment (body : σ → Except ε (α × σ)) (state : σ) :
    (segment body).alone state =
      match body state with
      | .ok (value, after) => (.ok value, after)
      | .error failure => (.error failure, state) := by
  unfold segment
  cases h : body state with
  | ok result => simp [alone, h]
  | error failure => simp [alone, h]

theorem alone_read (look : σ → Except ε α) (state : σ) :
    (read look).alone state = (look state, state) := by
  unfold read
  rw [alone_segment]
  cases h : look state with
  | ok value => simp [Except.map]
  | error failure => simp [Except.map]

theorem alone_segment_bind (body : σ → Except ε (α × σ)) (next : α → Coroutine σ ε β)
    (state : σ) :
    (segment body >>= next).alone state =
      match body state with
      | .ok (value, after) => (next value).alone after
      | .error failure => (.error failure, state) := by
  rw [alone_bind, alone_segment]
  cases body state <;> rfl

theorem alone_read_bind (look : σ → Except ε α) (next : α → Coroutine σ ε β) (state : σ) :
    (read look >>= next).alone state =
      match look state with
      | .ok value => (next value).alone state
      | .error failure => (.error failure, state) := by
  rw [alone_bind, alone_read]
  cases look state <;> rfl

@[simp] theorem alone_pause_bind (next : Unit → Coroutine σ ε β) (state : σ) :
    ((pause : Coroutine σ ε Unit) >>= next).alone state = (next ()).alone state := rfl

theorem alone_attempt_bind (result : Except ε α) (next : α → Coroutine σ ε β) (state : σ) :
    (attempt result >>= next).alone state =
      match result with
      | .ok value => (next value).alone state
      | .error failure => (.error failure, state) := by
  cases result <;> rfl

/-! ### Interference -/

/-- What the coroutines of a system may rely on: the states stay valid, they
only grow, and a quiet segment is one nobody needs to notice. -/
structure Interference (σ : Type) where
  valid : σ → Prop
  grows : σ → σ → Prop
  quiet : σ → σ → Prop
  growsRefl : ∀ state, grows state state
  growsTrans : ∀ {first second third}, grows first second → grows second third →
    grows first third
  quietRefl : ∀ state, quiet state state
  quietValid : ∀ {before after}, quiet before after → valid before → valid after
  quietGrows : ∀ {before after}, quiet before after → grows before after

/-- Whatever grows in between, every segment is quiet until one that takes a
step of its own and finishes the coroutine; where the coroutine raises instead,
`raised` holds. -/
def CommitsOnce {ι : Type} (rely : Interference σ) (step : ι → σ → σ → Prop)
    (raised : ε → σ → Prop) : Coroutine σ ε α → σ → Prop
  | done _, _ => False
  | raise failure, state => raised failure state
  | await effect resume, state => ∀ current, rely.grows state current → rely.valid current →
      (rely.quiet current (effect current) ∧
        CommitsOnce rely step raised (resume current) (effect current)) ∨
      ∃ label value, step label current (effect current) ∧ resume current = done value

namespace CommitsOnce

variable {ι : Type} {rely : Interference σ} {step : ι → σ → σ → Prop}
  {raised : ε → σ → Prop}

/-- A waiting coroutine does not mind the state growing. -/
theorem mono {task : Coroutine σ ε α} {state later : σ}
    (commits : CommitsOnce rely step raised task state) (grown : rely.grows state later)
    (stable : ∀ failure, raised failure state → raised failure later) :
    CommitsOnce rely step raised task later := by
  cases task with
  | done value => exact commits
  | raise failure => exact stable failure commits
  | await effect resume =>
      exact fun current hgrows hvalid => commits current (rely.growsTrans grown hgrows) hvalid

/-- A coroutine that takes steps of one kind takes steps of any wider kind. -/
theorem weaken {wider : ι → σ → σ → Prop} {task : Coroutine σ ε α} {state : σ}
    (commits : CommitsOnce rely step raised task state)
    (h : ∀ label before after, step label before after → wider label before after) :
    CommitsOnce rely wider raised task state := by
  induction task generalizing state with
  | done value => exact commits
  | raise failure => exact commits
  | await effect resume ih =>
      intro current hgrows hvalid
      rcases commits current hgrows hvalid with ⟨hquiet, hrest⟩ | ⟨label, value, hstep, hdone⟩
      · exact .inl ⟨hquiet, ih current hrest⟩
      · exact .inr ⟨label, value, h _ _ _ hstep, hdone⟩

/-- After a look at the state, the rest must do. -/
theorem read_bind {look : σ → Except ε α} {next : α → Coroutine σ ε β} {state : σ}
    (found : ∀ current, rely.grows state current → rely.valid current →
      ∀ value, look current = .ok value → CommitsOnce rely step raised (next value) current)
    (missing : ∀ current, rely.grows state current → rely.valid current →
      ∀ failure, look current = .error failure → raised failure current) :
    CommitsOnce rely step raised (read look >>= next) state := by
  intro current hgrows hvalid
  left
  cases h : look current with
  | ok value =>
      simp only [h, Except.map]
      exact ⟨rely.quietRefl current, found current hgrows hvalid value h⟩
  | error failure =>
      simp only [h, Except.map]
      exact ⟨rely.quietRefl current, missing current hgrows hvalid failure h⟩

theorem pause_bind {next : Unit → Coroutine σ ε β} {state : σ}
    (rest : ∀ current, rely.grows state current → rely.valid current →
      CommitsOnce rely step raised (next ()) current) :
    CommitsOnce rely step raised (pause >>= next) state :=
  read_bind (fun current hgrows hvalid _ _ => rest current hgrows hvalid)
    fun _ _ _ _ h => by contradiction

theorem attempt_bind {result : Except ε α} {next : α → Coroutine σ ε β} {state : σ}
    (found : ∀ value, result = .ok value → CommitsOnce rely step raised (next value) state)
    (missing : ∀ failure, result = .error failure → raised failure state) :
    CommitsOnce rely step raised (attempt result >>= next) state := by
  cases result with
  | ok value => exact found value rfl
  | error failure => exact missing failure rfl

/-- A segment that changes the state without anyone needing to notice. -/
theorem quiet_bind {body : σ → Except ε (α × σ)} {next : α → Coroutine σ ε β} {state : σ}
    (found : ∀ current, rely.grows state current → rely.valid current →
      ∀ value after, body current = .ok (value, after) →
        rely.quiet current after ∧ CommitsOnce rely step raised (next value) after)
    (missing : ∀ current, rely.grows state current → rely.valid current →
      ∀ failure, body current = .error failure → raised failure current) :
    CommitsOnce rely step raised (segment body >>= next) state := by
  intro current hgrows hvalid
  left
  cases h : body current with
  | ok result =>
      simp only [h]
      exact found current hgrows hvalid result.1 result.2 h
  | error failure =>
      simp only [h]
      exact ⟨rely.quietRefl current, missing current hgrows hvalid failure h⟩

/-- The committing segment, and nothing to await after it. -/
theorem segment_last {body : σ → Except ε (α × σ)} (last : α → β) {state : σ}
    (success : ∀ current, rely.grows state current → rely.valid current →
      ∀ value after, body current = .ok (value, after) → ∃ label, step label current after)
    (missing : ∀ current, rely.grows state current → rely.valid current →
      ∀ failure, body current = .error failure → raised failure current) :
    CommitsOnce rely step raised (segment body >>= fun value => done (last value)) state := by
  intro current hgrows hvalid
  cases h : body current with
  | ok result =>
      right
      obtain ⟨label, hstep⟩ := success current hgrows hvalid result.1 result.2 h
      simp only [h]
      exact ⟨label, last result.1, hstep, rfl⟩
  | error failure =>
      left
      simp only [h]
      exact ⟨rely.quietRefl current, missing current hgrows hvalid failure h⟩

/-- A handler takes over where the body raises. -/
theorem tryCatch {task : Coroutine σ ε α} {handler : ε → Coroutine σ ε α} {state : σ}
    {first : ε → σ → Prop} (commits : CommitsOnce rely step first task state)
    (handles : ∀ failure current, first failure current →
      CommitsOnce rely step raised (handler failure) current) :
    CommitsOnce rely step raised (task.tryCatch handler) state := by
  induction task generalizing state with
  | done value => exact commits
  | raise failure => exact handles failure state commits
  | await effect resume ih =>
      intro current hgrows hvalid
      rcases commits current hgrows hvalid with ⟨hquiet, hrest⟩ | ⟨label, value, hstep, hdone⟩
      · exact .inl ⟨hquiet, ih current hrest⟩
      · exact .inr ⟨label, value, hstep, by simp only [hdone, Coroutine.tryCatch]⟩

end CommitsOnce

/-! ### Pools of coroutines -/

/-- Coroutines that share one state. -/
structure Pool (σ ε α : Type) where
  state : σ
  tasks : List (Coroutine σ ε α)

namespace Pool

/-- Let one coroutine run its next segment; a finished one does nothing. -/
def advance (pool : Pool σ ε α) (index : Nat) : Pool σ ε α :=
  match pool.tasks[index]? with
  | some (.await effect resume) =>
      { state := effect pool.state
        tasks := pool.tasks.set index (resume pool.state) }
  | _ => pool

/-- Run segments in the order of the schedule. -/
def run (pool : Pool σ ε α) (schedule : List Nat) : Pool σ ε α :=
  schedule.foldl advance pool

/-- A run as its committed steps, in order, with quiet segments between them. -/
inductive Trace {ι : Type} (quiet : σ → σ → Prop) (step : Nat → ι → σ → σ → Prop)
    (start : σ) : List (Nat × ι) → σ → Prop
  | start : Trace quiet step start [] start
  | quiet {log before after} (trace : Trace quiet step start log before)
      (silent : quiet before after) : Trace quiet step start log after
  | step {log before after index label} (trace : Trace quiet step start log before)
      (taken : step index label before after) :
      Trace quiet step start (log ++ [(index, label)]) after

variable {ι : Type} {rely : Interference σ} {step : Nat → ι → σ → σ → Prop}

/-- A property that quiet segments and steps keep holds all along a trace. -/
theorem Trace.invariant {quiet : σ → σ → Prop} {start last : σ} {log : List (Nat × ι)}
    (trace : Trace quiet step start log last) (property : σ → Prop) (initial : property start)
    (silent : ∀ {before after}, quiet before after → property before → property after)
    (taken : ∀ {index label before after}, step index label before after → property before →
      property after) : property last := by
  induction trace with
  | start => exact initial
  | quiet _ hquiet ih => exact silent hquiet ih
  | step _ hstep ih => exact taken hstep ih

/-- What holds between segments: the log tells who has committed, and the
others still commit at most once. -/
structure Orderly (rely : Interference σ) (step : Nat → ι → σ → σ → Prop) (start : σ)
    (log : List (Nat × ι)) (pool : Pool σ ε α) : Prop where
  valid : rely.valid pool.state
  trace : Trace rely.quiet step start log pool.state
  once : (log.map Prod.fst).Nodup
  pending : ∀ index task, pool.tasks[index]? = some task → index ∉ log.map Prod.fst →
    CommitsOnce rely (step index) (fun _ _ => True) task pool.state
  finished : ∀ index, index ∈ log.map Prod.fst →
    ∃ value, pool.tasks[index]? = some (.done value)

theorem advance_state_eq {pool : Pool σ ε α} {index : Nat}
    (idle : ∀ effect resume, pool.tasks[index]? ≠ some (.await effect resume)) :
    pool.advance index = pool := by
  unfold advance
  split
  · rename_i effect resume h
    exact absurd h (idle effect resume)
  · rfl

/-- One segment of an orderly pool is quiet, or it is the commit of its
coroutine, which it finishes. -/
theorem Orderly.advance (lawful : ∀ {index label before after},
      step index label before after → rely.valid before →
        rely.valid after ∧ rely.grows before after)
    {start : σ} {log : List (Nat × ι)} {pool : Pool σ ε α}
    (orderly : Orderly rely step start log pool) (index : Nat) :
    (rely.quiet pool.state (pool.advance index).state ∧
        Orderly rely step start log (pool.advance index)) ∨
      ∃ label, step index label pool.state (pool.advance index).state ∧
        (∃ value, (pool.advance index).tasks[index]? = some (.done value)) ∧
        Orderly rely step start (log ++ [(index, label)]) (pool.advance index) := by
  by_cases hidle : ∀ effect resume, pool.tasks[index]? ≠ some (.await effect resume)
  · rw [advance_state_eq hidle]
    exact .inl ⟨rely.quietRefl _, orderly⟩
  push Not at hidle
  obtain ⟨effect, resume, htask⟩ := hidle
  have hnotLogged : index ∉ log.map Prod.fst := by
    intro hmem
    obtain ⟨value, hdone⟩ := orderly.finished index hmem
    rw [htask] at hdone
    cases hdone
  have hbound : index < pool.tasks.length := by
    by_contra hle
    rw [List.getElem?_eq_none (by omega)] at htask
    contradiction
  have hadvance : pool.advance index =
      { state := effect pool.state, tasks := pool.tasks.set index (resume pool.state) } := by
    unfold Pool.advance
    rw [htask]
  rw [hadvance]
  -- The other coroutines only see the state grow.
  have hothers (hgrows : rely.grows pool.state (effect pool.state)) (other : Nat)
      (hne : other ≠ index) (task : Coroutine σ ε α)
      (hother : (pool.tasks.set index (resume pool.state))[other]? = some task)
      (hpending : other ∉ log.map Prod.fst) :
      CommitsOnce rely (step other) (fun _ _ => True) task (effect pool.state) := by
    rw [List.getElem?_set_ne (Ne.symm hne)] at hother
    exact (orderly.pending other task hother hpending).mono hgrows fun _ _ => trivial
  have hfinished (other : Nat) (hmem : other ∈ log.map Prod.fst) :
      ∃ value, (pool.tasks.set index (resume pool.state))[other]? = some (.done value) := by
    have hne : other ≠ index := fun heq => hnotLogged (heq ▸ hmem)
    rw [List.getElem?_set_ne (Ne.symm hne)]
    exact orderly.finished other hmem
  rcases orderly.pending index _ htask hnotLogged pool.state (rely.growsRefl _) orderly.valid with
    ⟨hquiet, hrest⟩ | ⟨label, value, hstep, hdone⟩
  · refine .inl ⟨hquiet, rely.quietValid hquiet orderly.valid, .quiet orderly.trace hquiet,
      orderly.once, fun other task hother hpending => ?_, hfinished⟩
    by_cases hsame : other = index
    · subst hsame
      rw [List.getElem?_set_self hbound] at hother
      cases hother
      exact hrest
    · exact hothers (rely.quietGrows hquiet) other hsame task hother hpending
  · obtain ⟨hvalid, hgrows⟩ := lawful hstep orderly.valid
    have hset : (pool.tasks.set index (resume pool.state))[index]? = some (.done value) := by
      rw [List.getElem?_set_self hbound, hdone]
    refine .inr ⟨label, hstep, ⟨value, hset⟩, hvalid, .step orderly.trace hstep, ?_,
      fun other task hother hpending => ?_, fun other hmem => ?_⟩
    · rw [List.map_append, List.nodup_append]
      refine ⟨orderly.once, by simp, fun first hfirst second hsecond heq => ?_⟩
      simp only [List.map_cons, List.map_nil, List.mem_singleton] at hsecond
      exact hnotLogged (hsecond ▸ heq ▸ hfirst)
    · simp only [List.map_append, List.map_cons, List.map_nil, List.mem_append,
        List.mem_singleton, not_or] at hpending
      exact hothers hgrows other hpending.2 task hother hpending.1
    · simp only [List.map_append, List.map_cons, List.map_nil, List.mem_append,
        List.mem_singleton] at hmem
      rcases hmem with hmem | rfl
      · exact hfinished other hmem
      · exact ⟨value, hset⟩

/-- Every run of an orderly pool is orderly, for some longer log. -/
theorem Orderly.run (lawful : ∀ {index label before after},
      step index label before after → rely.valid before →
        rely.valid after ∧ rely.grows before after)
    {start : σ} {log : List (Nat × ι)} {pool : Pool σ ε α}
    (orderly : Orderly rely step start log pool) (schedule : List Nat) :
    ∃ rest, Orderly rely step start (log ++ rest) (pool.run schedule) := by
  induction schedule generalizing log pool with
  | nil => exact ⟨[], by rw [List.append_nil]; exact orderly⟩
  | cons index schedule ih =>
      rcases orderly.advance lawful index with ⟨-, hnext⟩ | ⟨label, -, -, hnext⟩
      · exact ih hnext
      · obtain ⟨rest, hrest⟩ := ih hnext
        exact ⟨(index, label) :: rest, by rwa [List.append_assoc] at hrest⟩

/-- Coroutines that each commit at most once start an orderly pool. -/
theorem Orderly.start {start : σ} {tasks : List (Coroutine σ ε α)} (valid : rely.valid start)
    (pending : ∀ index task, tasks[index]? = some task →
      CommitsOnce rely (step index) (fun _ _ => True) task start) :
    Orderly rely step start [] ({ state := start, tasks } : Pool σ ε α) :=
  ⟨valid, .start, List.nodup_nil, fun index task htask _ => pending index task htask,
    fun _ hmem => by simp at hmem⟩

end Pool
end Coroutine
end DispatchCore.Library
