import DispatchCore.Library.Coroutine

/-! Coroutines that promise something of each other, with ghost state: what the program
does not store and the argument needs is chosen anew after every segment. -/
namespace DispatchCore.Library
namespace Coroutine

/-- What a system of coroutines keeps, and what each may rely on while it waits. -/
structure Contract (σ γ : Type) where
  valid : σ → γ → Prop
  rely : Nat → σ → γ → σ → γ → Prop
  relyRefl : ∀ index state ghost, rely index state ghost state ghost
  relyTrans : ∀ {index first ghost₁ second ghost₂ third ghost₃},
    rely index first ghost₁ second ghost₂ → rely index second ghost₂ third ghost₃ →
      rely index first ghost₁ third ghost₃

variable {σ γ ε α β : Type}

/-- Every segment keeps the system valid and does no more than the others expect; where
the coroutine ends, `returned` or `raised` holds. -/
def Keeps (contract : Contract σ γ) (index : Nat) (returned : α → σ → γ → Prop)
    (raised : ε → σ → γ → Prop) : Coroutine σ ε α → σ → γ → Prop
  | done value, state, ghost => returned value state ghost
  | raise failure, state, ghost => raised failure state ghost
  | await effect resume, state, ghost => ∀ current now, contract.rely index state ghost current now →
      contract.valid current now → ∃ next, contract.valid (effect current) next ∧
        (∀ other, other ≠ index → contract.rely other current now (effect current) next) ∧
        Keeps contract index returned raised (resume current) (effect current) next

namespace Keeps

variable {contract : Contract σ γ} {index : Nat} {returned : α → σ → γ → Prop}
  {raised : ε → σ → γ → Prop} {state : σ} {ghost : γ}

/-- A waiting coroutine does not mind what it relies on. -/
theorem mono {task : Coroutine σ ε α} (keeps : Keeps contract index returned raised task state ghost)
    {later : σ} {now : γ} (seen : contract.rely index state ghost later now)
    (returnedStable : ∀ value, returned value state ghost → returned value later now)
    (raisedStable : ∀ failure, raised failure state ghost → raised failure later now) :
    Keeps contract index returned raised task later now := by
  cases task with
  | done value => exact returnedStable value keeps
  | raise failure => exact raisedStable failure keeps
  | await effect resume =>
      exact fun current next hrely hvalid => keeps current next (contract.relyTrans seen hrely) hvalid

theorem weaken {task : Coroutine σ ε α} (keeps : Keeps contract index returned raised task state ghost)
    {returned' : α → σ → γ → Prop} {raised' : ε → σ → γ → Prop}
    (returns : ∀ value state ghost, returned value state ghost → returned' value state ghost)
    (raises : ∀ failure state ghost, raised failure state ghost → raised' failure state ghost) :
    Keeps contract index returned' raised' task state ghost := by
  induction task generalizing state ghost with
  | done value => exact returns value state ghost keeps
  | raise failure => exact raises failure state ghost keeps
  | await effect resume ih =>
      intro current now hrely hvalid
      obtain ⟨next, hnext, hothers, hrest⟩ := keeps current now hrely hvalid
      exact ⟨next, hnext, hothers, ih current hrest⟩

theorem bind {middle : β → σ → γ → Prop} {task : Coroutine σ ε β} {next : β → Coroutine σ ε α}
    (keeps : Keeps contract index middle raised task state ghost)
    (rest : ∀ value current now, middle value current now →
      Keeps contract index returned raised (next value) current now) :
    Keeps contract index returned raised (task >>= next) state ghost := by
  induction task generalizing state ghost with
  | done value => exact rest value state ghost keeps
  | raise failure => exact keeps
  | await effect resume ih =>
      intro current now hrely hvalid
      obtain ⟨ghost', hnext, hothers, hrest⟩ := keeps current now hrely hvalid
      exact ⟨ghost', hnext, hothers, ih current hrest⟩

theorem tryCatch {middle : ε → σ → γ → Prop} {task : Coroutine σ ε α}
    {handler : ε → Coroutine σ ε α} (keeps : Keeps contract index returned middle task state ghost)
    (rest : ∀ failure current now, middle failure current now →
      Keeps contract index returned raised (handler failure) current now) :
    Keeps contract index returned raised (task.tryCatch handler) state ghost := by
  induction task generalizing state ghost with
  | done value => exact keeps
  | raise failure => exact rest failure state ghost keeps
  | await effect resume ih =>
      intro current now hrely hvalid
      obtain ⟨ghost', hnext, hothers, hrest⟩ := keeps current now hrely hvalid
      exact ⟨ghost', hnext, hothers, ih current hrest⟩

/-- One segment that may write, and what follows it. -/
theorem segment_bind {body : σ → Except ε (β × σ)} {next : β → Coroutine σ ε α}
    (success : ∀ current now, contract.rely index state ghost current now →
      contract.valid current now → ∀ value after, body current = .ok (value, after) →
        ∃ ghost', contract.valid after ghost' ∧
          (∀ other, other ≠ index → contract.rely other current now after ghost') ∧
          Keeps contract index returned raised (next value) after ghost')
    (failure : ∀ current now, contract.rely index state ghost current now →
      contract.valid current now → ∀ failure, body current = .error failure →
        raised failure current now) :
    Keeps contract index returned raised (segment body >>= next) state ghost := by
  intro current now hrely hvalid
  cases h : body current with
  | ok result =>
      simp only [h]
      exact success current now hrely hvalid result.1 result.2 h
  | error reason =>
      simp only [h]
      exact ⟨now, hvalid, fun other _ => contract.relyRefl other current now,
        failure current now hrely hvalid reason h⟩

/-- One segment, and nothing after it. -/
theorem segment {body : σ → Except ε (α × σ)}
    (success : ∀ current now, contract.rely index state ghost current now →
      contract.valid current now → ∀ value after, body current = .ok (value, after) →
        ∃ ghost', contract.valid after ghost' ∧
          (∀ other, other ≠ index → contract.rely other current now after ghost') ∧
          returned value after ghost')
    (failure : ∀ current now, contract.rely index state ghost current now →
      contract.valid current now → ∀ failure, body current = .error failure →
        raised failure current now) :
    Keeps contract index returned raised (segment body) state ghost := by
  have hbind : Keeps contract index returned raised
      (Coroutine.segment body >>= fun value => done value) state ghost :=
    segment_bind success failure
  rwa [show (Coroutine.segment body >>= fun value => done value) = Coroutine.segment body from
    bind_pure _] at hbind

/-- A look at the state, and what follows it. -/
theorem read_bind {look : σ → Except ε β} {next : β → Coroutine σ ε α}
    (success : ∀ current now, contract.rely index state ghost current now →
      contract.valid current now → ∀ value, look current = .ok value →
        Keeps contract index returned raised (next value) current now)
    (failure : ∀ current now, contract.rely index state ghost current now →
      contract.valid current now → ∀ failure, look current = .error failure →
        raised failure current now) :
    Keeps contract index returned raised (read look >>= next) state ghost := by
  refine segment_bind (fun current now hrely hvalid value after h => ?_)
    fun current now hrely hvalid reason h => ?_
  · cases hlook : look current with
    | ok found =>
        simp only [hlook, Except.map, Except.ok.injEq, Prod.mk.injEq] at h
        obtain ⟨rfl, rfl⟩ := h
        exact ⟨now, hvalid, fun other _ => contract.relyRefl other current now,
          success current now hrely hvalid found hlook⟩
    | error reason =>
        simp [hlook, Except.map] at h
  · cases hlook : look current with
    | ok found => simp [hlook, Except.map] at h
    | error found =>
        simp only [hlook, Except.map, Except.error.injEq] at h
        exact h ▸ failure current now hrely hvalid found hlook

theorem pause_bind {next : Unit → Coroutine σ ε α}
    (rest : ∀ current now, contract.rely index state ghost current now →
      contract.valid current now → Keeps contract index returned raised (next ()) current now) :
    Keeps contract index returned raised (pause >>= next) state ghost :=
  read_bind (fun current now hrely hvalid _ _ => rest current now hrely hvalid)
    fun _ _ _ _ _ h => by contradiction

theorem attempt_bind {result : Except ε β} {next : β → Coroutine σ ε α}
    (success : ∀ value, result = .ok value →
      Keeps contract index returned raised (next value) state ghost)
    (failure : ∀ failure, result = .error failure → raised failure state ghost) :
    Keeps contract index returned raised (attempt result >>= next) state ghost := by
  cases result with
  | ok value => exact success value rfl
  | error reason => exact failure reason rfl

end Keeps

/-! ### Every segment alone -/

/-- Each segment, from whatever state it starts, takes a step of `steps`. -/
def Always (steps : σ → σ → Prop) : Coroutine σ ε α → Prop
  | done _ => True
  | raise _ => True
  | await effect resume => ∀ state, steps state (effect state) ∧ Always steps (resume state)

namespace Always

variable {steps : σ → σ → Prop}

theorem bind {task : Coroutine σ ε β} {next : β → Coroutine σ ε α} (first : Always steps task)
    (rest : ∀ value, Always steps (next value)) : Always steps (task >>= next) := by
  induction task with
  | done value => exact rest value
  | raise failure => trivial
  | await effect resume ih => exact fun state => ⟨(first state).1, ih state (first state).2⟩

theorem tryCatch {task : Coroutine σ ε α} {handler : ε → Coroutine σ ε α}
    (first : Always steps task) (rest : ∀ failure, Always steps (handler failure)) :
    Always steps (task.tryCatch handler) := by
  induction task with
  | done value => trivial
  | raise failure => exact rest failure
  | await effect resume ih => exact fun state => ⟨(first state).1, ih state (first state).2⟩

theorem segment {body : σ → Except ε (α × σ)} (refl : ∀ state, steps state state)
    (writes : ∀ state value after, body state = .ok (value, after) → steps state after) :
    Always steps (segment body) := by
  intro state
  cases h : body state with
  | ok result =>
      simp only [h]
      exact ⟨writes state result.1 result.2 h, trivial⟩
  | error failure =>
      simp only [h]
      exact ⟨refl state, trivial⟩

theorem read {look : σ → Except ε α} (refl : ∀ state, steps state state) :
    Always steps (read look) := by
  refine segment refl fun state value after h => ?_
  cases hlook : look state with
  | ok found =>
      simp only [hlook, Except.map, Except.ok.injEq, Prod.mk.injEq] at h
      exact h.2 ▸ refl state
  | error failure => simp [hlook, Except.map] at h

theorem attempt {result : Except ε α} : Always steps (attempt result) := by
  cases result <;> trivial

end Always

/-- A coroutine that commits once keeps a contract, if quiet segments and commits do. -/
theorem CommitsOnce.keeps {ι : Type} {rely : Interference σ} {step : ι → σ → σ → Prop}
    {failed : ε → σ → Prop} {steps : σ → σ → Prop} {contract : Contract σ γ} {index : Nat}
    (grows : ∀ {state ghost current now}, contract.rely index state ghost current now →
      rely.grows state current)
    (valid : ∀ {state ghost}, contract.valid state ghost → rely.valid state)
    (keep : ∀ {current now after}, contract.valid current now → steps current after →
      (rely.quiet current after ∨ ∃ label, step label current after) →
        contract.valid after now ∧ ∀ other, contract.rely other current now after now)
    {task : Coroutine σ ε α} {state : σ} {ghost : γ}
    (commits : CommitsOnce rely step failed task state) (always : Always steps task) :
    Keeps contract index (fun _ _ _ => True) (fun _ _ _ => True) task state ghost := by
  induction task generalizing state ghost with
  | done value => trivial
  | raise failure => trivial
  | await effect resume ih =>
      intro current now hrely hvalid
      obtain ⟨hsteps, halways⟩ := always current
      rcases commits current (grows hrely) (valid hvalid) with
        ⟨hquiet, hrest⟩ | ⟨label, value, hstep, hdone⟩
      · obtain ⟨hnext, hothers⟩ := keep hvalid hsteps (.inl hquiet)
        exact ⟨now, hnext, fun other _ => hothers other, ih current hrest halways⟩
      · obtain ⟨hnext, hothers⟩ := keep hvalid hsteps (.inr ⟨label, hstep⟩)
        refine ⟨now, hnext, fun other _ => hothers other, ?_⟩
        rw [hdone]
        trivial

/-- Without its result, a coroutine commits as it does with it. -/
theorem CommitsOnce.of_drop {ι : Type} {rely : Interference σ} {step : ι → σ → σ → Prop}
    {failed : ε → σ → Prop} {value : β} {task : Coroutine σ ε α} {state : σ}
    (commits : CommitsOnce rely step failed (task >>= fun _ => done value) state) :
    CommitsOnce rely step failed task state := by
  induction task generalizing state with
  | done result => exact commits.elim
  | raise failure => exact commits
  | await effect resume ih =>
      intro current hgrows hvalid
      rcases commits current hgrows hvalid with ⟨hquiet, hrest⟩ | ⟨label, last, hstep, hdone⟩
      · exact .inl ⟨hquiet, ih current hrest⟩
      · right
        change (resume current >>= fun _ => done value) = done last at hdone
        cases hresume : resume current with
        | done result => exact ⟨label, result, hstep, rfl⟩
        | raise failure =>
            rw [hresume] at hdone
            contradiction
        | await effect' resume' =>
            rw [hresume] at hdone
            contradiction

/-! ### Pools that keep a contract -/

namespace Pool

/-- The pool is valid, and so is every coroutine's claim to what it returns. -/
structure Kept (contract : Contract σ γ) (returned : Nat → α → σ → γ → Prop)
    (raised : Nat → ε → σ → γ → Prop) (pool : Pool σ ε α) (ghost : γ) : Prop where
  valid : contract.valid pool.state ghost
  tasks : ∀ index task, pool.tasks[index]? = some task →
    Keeps contract index (returned index) (raised index) task pool.state ghost

variable {contract : Contract σ γ} {returned : Nat → α → σ → γ → Prop}
  {raised : Nat → ε → σ → γ → Prop}

theorem Kept.advance {pool : Pool σ ε α} {ghost : γ}
    (kept : Kept contract returned raised pool ghost)
    (returnedStable : ∀ index value state ghost later now,
      contract.rely index state ghost later now → returned index value state ghost →
        returned index value later now)
    (raisedStable : ∀ index failure state ghost later now,
      contract.rely index state ghost later now → raised index failure state ghost →
        raised index failure later now) (index : Nat) :
    ∃ next, Kept contract returned raised (pool.advance index) next := by
  unfold Pool.advance
  split
  · rename_i effect resume htask
    obtain ⟨next, hvalid, hothers, hrest⟩ := kept.tasks index _ htask pool.state ghost
      (contract.relyRefl index pool.state ghost) kept.valid
    refine ⟨next, hvalid, fun other task hother => ?_⟩
    by_cases hsame : other = index
    · subst hsame
      have hbound : other < pool.tasks.length := by
        by_contra hle
        rw [List.getElem?_eq_none (by omega)] at htask
        contradiction
      rw [List.getElem?_set_self hbound] at hother
      cases hother
      exact hrest
    · rw [List.getElem?_set_ne (Ne.symm hsame)] at hother
      have hseen := hothers other hsame
      exact (kept.tasks other task hother).mono hseen
        (fun value => returnedStable other value _ _ _ _ hseen)
        fun failure => raisedStable other failure _ _ _ _ hseen
  · exact ⟨ghost, kept⟩

theorem Kept.run {pool : Pool σ ε α} {ghost : γ}
    (kept : Kept contract returned raised pool ghost)
    (returnedStable : ∀ index value state ghost later now,
      contract.rely index state ghost later now → returned index value state ghost →
        returned index value later now)
    (raisedStable : ∀ index failure state ghost later now,
      contract.rely index state ghost later now → raised index failure state ghost →
        raised index failure later now) (schedule : List Nat) :
    ∃ next, Kept contract returned raised (pool.run schedule) next := by
  induction schedule generalizing pool ghost with
  | nil => exact ⟨ghost, kept⟩
  | cons index schedule ih =>
      obtain ⟨next, hnext⟩ := kept.advance returnedStable raisedStable index
      exact ih hnext

end Pool
end Coroutine
end DispatchCore.Library
