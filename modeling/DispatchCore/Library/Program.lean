/-! Programs of operations.  A program asks its surroundings for one operation at a time and
goes on with the answer; what it may ask, and what it may be told, can be read off it. -/
namespace DispatchCore.Library

/-- A program that has returned, has raised, or asks for an operation. -/
inductive Program (Op : Type) (Answer : Op → Type) (ε α : Type) where
  | done (value : α)
  | raise (failure : ε)
  | call (op : Op) (resume : Answer op → Program Op Answer ε α)

namespace Program

variable {Op : Type} {Answer : Op → Type} {ε α β σ : Type}

def bind : Program Op Answer ε α → (α → Program Op Answer ε β) → Program Op Answer ε β
  | done value, next => next value
  | raise failure, _ => raise failure
  | call op resume, next => call op fun answer => (resume answer).bind next

instance : Monad (Program Op Answer ε) where
  pure := done
  bind := bind

@[simp] theorem pure_eq (value : α) : (pure value : Program Op Answer ε α) = done value := rfl

@[simp] theorem done_bind (value : α) (next : α → Program Op Answer ε β) :
    (done value >>= next) = next value := rfl

@[simp] theorem raise_bind (failure : ε) (next : α → Program Op Answer ε β) :
    ((raise failure : Program Op Answer ε α) >>= next) = raise failure := rfl

@[simp] theorem call_bind (op : Op) (resume : Answer op → Program Op Answer ε α)
    (next : α → Program Op Answer ε β) :
    (call op resume >>= next) = call op fun answer => resume answer >>= next := rfl

/-- Run the handler where the body raises. -/
def tryCatch : Program Op Answer ε α → (ε → Program Op Answer ε α) → Program Op Answer ε α
  | done value, _ => done value
  | raise failure, handler => handler failure
  | call op resume, handler => call op fun answer => (resume answer).tryCatch handler

instance : MonadExceptOf ε (Program Op Answer ε) where
  throw := raise
  tryCatch := tryCatch

@[simp] theorem throw_eq (failure : ε) : (throw failure : Program Op Answer ε α) = raise failure :=
  rfl

def request (op : Op) : Program Op Answer ε (Answer op) := call op done

@[simp] theorem request_bind (op : Op) (next : Answer op → Program Op Answer ε β) :
    (request op >>= next) = call op next := rfl

def attempt : Except ε α → Program Op Answer ε α
  | .ok value => done value
  | .error failure => raise failure

@[simp] theorem attempt_ok (value : α) :
    attempt (.ok value) = (done value : Program Op Answer ε α) := rfl

@[simp] theorem attempt_error (failure : ε) :
    attempt (.error failure) = (raise failure : Program Op Answer ε α) := rfl

instance : MonadLift (Except ε) (Program Op Answer ε) := ⟨attempt⟩

def finished : Program Op Answer ε α → Bool
  | call _ _ => false
  | _ => true

/-- The rest of a program that has asked for one operation more. -/
def step (perform : (op : Op) → σ → Answer op × σ) (program : Program Op Answer ε α) (state : σ) :
    Program Op Answer ε α × σ :=
  match program with
  | call op resume => (resume (perform op state).1, (perform op state).2)
  | finished => (finished, state)

/-- Run to the end with nobody else running. -/
def alone (perform : (op : Op) → σ → Answer op × σ) :
    Program Op Answer ε α → σ → Except ε α × σ
  | done value, state => (.ok value, state)
  | raise failure, state => (.error failure, state)
  | call op resume, state => (resume (perform op state).1).alone perform (perform op state).2

@[simp] theorem alone_done (perform : (op : Op) → σ → Answer op × σ) (value : α) (state : σ) :
    (done value : Program Op Answer ε α).alone perform state = (.ok value, state) := rfl

@[simp] theorem alone_raise (perform : (op : Op) → σ → Answer op × σ) (failure : ε) (state : σ) :
    (raise failure : Program Op Answer ε α).alone perform state = (.error failure, state) := rfl

@[simp] theorem alone_call (perform : (op : Op) → σ → Answer op × σ) (op : Op)
    (resume : Answer op → Program Op Answer ε α) (state : σ) :
    (call op resume).alone perform state =
      (resume (perform op state).1).alone perform (perform op state).2 := rfl

/-- What has ended changes nothing more. -/
theorem alone_finished (perform : (op : Op) → σ → Answer op × σ) {program : Program Op Answer ε α}
    (ends : program.finished = true) (state : σ) : (program.alone perform state).2 = state := by
  cases program with
  | call op resume => contradiction
  | done value => rfl
  | raise failure => rfl

theorem alone_bind (perform : (op : Op) → σ → Answer op × σ) (program : Program Op Answer ε α)
    (next : α → Program Op Answer ε β) (state : σ) :
    (program >>= next).alone perform state =
      match program.alone perform state with
      | (.ok value, after) => (next value).alone perform after
      | (.error failure, after) => (.error failure, after) := by
  induction program generalizing state with
  | done value => rfl
  | raise failure => rfl
  | call op resume ih => exact ih (perform op state).1 (perform op state).2

/-- Every operation is one it may ask for, whatever it has been told among what it may be
told, and what it ends with is what it may end with. -/
def Obeys (may : Op → Prop) (told : (op : Op) → Answer op → Prop) (returned : α → Prop)
    (raised : ε → Prop) : Program Op Answer ε α → Prop
  | done value => returned value
  | raise failure => raised failure
  | call op resume => may op ∧
      ∀ answer, told op answer → (resume answer).Obeys may told returned raised

namespace Obeys

variable {may : Op → Prop} {told : (op : Op) → Answer op → Prop} {returned : α → Prop}
  {raised : ε → Prop}

theorem bind {middle : β → Prop} {program : Program Op Answer ε β}
    {next : β → Program Op Answer ε α} (first : program.Obeys may told middle raised)
    (rest : ∀ value, middle value → (next value).Obeys may told returned raised) :
    (program >>= next).Obeys may told returned raised := by
  induction program with
  | done value => exact rest value first
  | raise failure => exact first
  | call op resume ih => exact ⟨first.1, fun answer htold => ih answer (first.2 answer htold)⟩

theorem attempt {result : Except ε α} (value : ∀ found, result = .ok found → returned found)
    (failure : ∀ found, result = .error found → raised found) :
    (Program.attempt result : Program Op Answer ε α).Obeys may told returned raised := by
  cases result with
  | ok found => exact value found rfl
  | error found => exact failure found rfl

theorem mono {wider : Op → Prop} {program : Program Op Answer ε α} {weaker : α → Prop}
    {milder : ε → Prop} (obeys : program.Obeys may told returned raised)
    (ops : ∀ op, may op → wider op) (values : ∀ value, returned value → weaker value)
    (failures : ∀ failure, raised failure → milder failure) :
    program.Obeys wider told weaker milder := by
  induction program with
  | done value => exact values value obeys
  | raise failure => exact failures failure obeys
  | call op resume ih =>
      exact ⟨ops op obeys.1, fun answer htold => ih answer (obeys.2 answer htold)⟩

/-- What the operations keep that it may ask for holds where it ends. -/
theorem alone {holds : σ → Prop} {perform : (op : Op) → σ → Answer op × σ}
    {program : Program Op Answer ε α} (obeys : program.Obeys may told returned raised)
    (kept : ∀ op state, may op → holds state →
      told op (perform op state).1 ∧ holds (perform op state).2)
    {state : σ} (start : holds state) : holds (program.alone perform state).2 := by
  induction program generalizing state with
  | done value => exact start
  | raise failure => exact start
  | call op resume ih =>
      obtain ⟨htold, hholds⟩ := kept op state obeys.1 start
      exact ih _ (obeys.2 _ htold) hholds

end Obeys

end Program
end DispatchCore.Library
