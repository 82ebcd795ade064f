import Mathlib.Tactic.Basic

/-! Methods of a mutable object: a computation reads and writes the object and
may raise, and what it wrote before raising stays written.  A method is steady
when raising leaves the object as it was; the rules below derive this from the
order of checks and writes in the method's body. -/
namespace DispatchCore.Library

/-- A method on objects of type `σ` that may raise an `ε`. -/
abbrev Method (ε σ α : Type) := EStateM ε σ α

namespace Method

variable {ε σ α β : Type}

/-- Raise the failure unless the condition holds. -/
def require (condition : Prop) [Decidable condition] (failure : ε) : Method ε σ Unit :=
  if condition then pure () else throw failure

/-- Raise what a check found, if it found something. -/
def attempt (result : Except ε α) : Method ε σ α :=
  match result with
  | .ok value => pure value
  | .error failure => throw failure

/-- The object after a call, whether it returned or raised. -/
def final (method : Method ε σ α) (before : σ) : σ :=
  match method.run before with
  | .ok _ after => after
  | .error _ after => after

theorem bind_ok {method : Method ε σ α} {next : α → Method ε σ β} {before after : σ}
    {value : β} :
    (method >>= next).run before = .ok value after ↔
      ∃ first middle, method.run before = .ok first middle ∧
        (next first).run middle = .ok value after := by
  rw [EStateM.run_bind]
  cases h : method.run before with
  | ok first middle => simp [and_assoc]
  | error failure middle => simp

theorem bind_error {method : Method ε σ α} {next : α → Method ε σ β} {before after : σ}
    {failure : ε} :
    (method >>= next).run before = .error failure after ↔
      method.run before = .error failure after ∨
        ∃ first middle, method.run before = .ok first middle ∧
          (next first).run middle = .error failure after := by
  rw [EStateM.run_bind]
  cases h : method.run before with
  | ok first middle => simp [and_assoc]
  | error other middle => simp

@[simp] theorem pure_ok {value found : α} {before after : σ} :
    (pure value : Method ε σ α).run before = .ok found after ↔
      value = found ∧ before = after := by
  simp [EStateM.run_pure]

@[simp] theorem throw_ok {failure : ε} {found : α} {before after : σ} :
    (throw failure : Method ε σ α).run before = .ok found after ↔ False := by
  show EStateM.Result.error failure before = .ok found after ↔ False
  simp

@[simp] theorem get_ok {found before after : σ} :
    (get : Method ε σ σ).run before = .ok found after ↔ before = found ∧ before = after := by
  show EStateM.Result.ok before before = .ok found after ↔ _
  simp

@[simp] theorem modify_ok {change : σ → σ} {found : Unit} {before after : σ} :
    (modify change : Method ε σ Unit).run before = .ok found after ↔
      change before = after := by
  show EStateM.Result.ok PUnit.unit (change before) = .ok found after ↔ _
  simp

@[simp] theorem require_ok {condition : Prop} [Decidable condition] {failure : ε}
    {found : Unit} {before after : σ} :
    (require condition failure : Method ε σ Unit).run before = .ok found after ↔
      condition ∧ before = after := by
  unfold require
  by_cases h : condition <;> simp [h]

@[simp] theorem attempt_ok {result : Except ε α} {found : α} {before after : σ} :
    (attempt result : Method ε σ α).run before = .ok found after ↔
      result = .ok found ∧ before = after := by
  cases result <;> simp [attempt]

/-- A check that fails ends the call on the spot. -/
theorem run_attempt_bind (result : Except ε α) (next : α → Method ε σ β) (before : σ) :
    (attempt result >>= next).run before =
      match result with
      | .ok value => (next value).run before
      | .error failure => .error failure before := by
  cases result <;> rfl

/-- Reading and checking only: the object is never written. -/
def ReadOnly (method : Method ε σ α) : Prop :=
  ∀ before, (∃ value, method.run before = .ok value before) ∨
    ∃ failure, method.run before = .error failure before

/-- The method never raises. -/
def Total (method : Method ε σ α) : Prop :=
  ∀ before, ∃ value after, method.run before = .ok value after

/-- A raising call leaves the object as it was. -/
def Steady (method : Method ε σ α) : Prop :=
  ∀ before failure after, method.run before = .error failure after → after = before

theorem readOnly_pure (value : α) : ReadOnly (pure value : Method ε σ α) :=
  fun _ => .inl ⟨value, rfl⟩

theorem readOnly_throw (failure : ε) : ReadOnly (throw failure : Method ε σ α) :=
  fun _ => .inr ⟨failure, rfl⟩

theorem readOnly_get : ReadOnly (get : Method ε σ σ) :=
  fun before => .inl ⟨before, rfl⟩

theorem readOnly_require (condition : Prop) [Decidable condition] (failure : ε) :
    ReadOnly (require condition failure : Method ε σ Unit) := by
  unfold require
  split
  · exact readOnly_pure ()
  · exact readOnly_throw failure

theorem readOnly_attempt (result : Except ε α) : ReadOnly (attempt result : Method ε σ α) := by
  cases result with
  | ok value => exact readOnly_pure value
  | error failure => exact readOnly_throw failure

theorem ReadOnly.bind {method : Method ε σ α} {next : α → Method ε σ β}
    (first : ReadOnly method) (rest : ∀ value, ReadOnly (next value)) :
    ReadOnly (method >>= next) := by
  intro before
  rw [EStateM.run_bind]
  rcases first before with ⟨value, hrun⟩ | ⟨failure, hrun⟩
  · simpa only [hrun] using rest value before
  · exact .inr ⟨failure, by simp only [hrun]⟩

theorem ReadOnly.steady {method : Method ε σ α} (quiet : ReadOnly method) :
    Steady method := by
  intro before failure after hrun
  rcases quiet before with ⟨value, hok⟩ | ⟨other, herror⟩
  · rw [hok] at hrun
    contradiction
  · rw [herror] at hrun
    cases hrun
    rfl

theorem total_pure (value : α) : Total (pure value : Method ε σ α) :=
  fun before => ⟨value, before, rfl⟩

theorem total_modify (change : σ → σ) : Total (modify change : Method ε σ Unit) :=
  fun before => ⟨(), change before, rfl⟩

theorem total_get : Total (get : Method ε σ σ) := fun before => ⟨before, before, rfl⟩

theorem Total.bind {method : Method ε σ α} {next : α → Method ε σ β}
    (first : Total method) (rest : ∀ value, Total (next value)) :
    Total (method >>= next) := by
  intro before
  obtain ⟨value, middle, hrun⟩ := first before
  obtain ⟨last, after, hnext⟩ := rest value middle
  exact ⟨last, after, bind_ok.mpr ⟨value, middle, hrun, hnext⟩⟩

theorem Total.steady {method : Method ε σ α} (total : Total method) : Steady method := by
  intro before failure after hrun
  obtain ⟨value, middle, hok⟩ := total before
  rw [hok] at hrun
  contradiction

/-- Checks may come before anything steady. -/
theorem Steady.after_checks {method : Method ε σ α} {next : α → Method ε σ β}
    (checks : ReadOnly method) (rest : ∀ value, Steady (next value)) :
    Steady (method >>= next) := by
  intro before failure after hrun
  rcases bind_error.mp hrun with hfirst | ⟨value, middle, hfirst, hnext⟩
  · exact checks.steady before failure after hfirst
  · have hsame : middle = before := by
      rcases checks before with ⟨found, hok⟩ | ⟨other, herror⟩
      · rw [hok] at hfirst
        cases hfirst
        rfl
      · rw [herror] at hfirst
        contradiction
    rw [rest value middle failure after hnext, hsame]

/-- After the first write nothing may raise. -/
theorem Steady.then_total {method : Method ε σ α} {next : α → Method ε σ β}
    (first : Steady method) (rest : ∀ value, Total (next value)) :
    Steady (method >>= next) := by
  intro before failure after hrun
  rcases bind_error.mp hrun with hfirst | ⟨value, middle, _, hnext⟩
  · exact first before failure after hfirst
  · obtain ⟨last, final, hok⟩ := rest value middle
    rw [hok] at hnext
    contradiction

theorem Steady.final_of_error {method : Method ε σ α} (steady : Steady method) {before : σ}
    (raises : ∀ value after, method.run before ≠ .ok value after) :
    method.final before = before := by
  unfold final
  cases h : method.run before with
  | ok value after => exact absurd h (raises value after)
  | error failure after => exact steady before failure after h

theorem steady_ite {condition : Prop} [Decidable condition] {left right : Method ε σ α}
    (hleft : condition → Steady left) (hright : ¬condition → Steady right) :
    Steady (if condition then left else right) := by
  split
  · exact hleft ‹_›
  · exact hright ‹_›

end Method

theorem except_map_ok {ε α β : Type} {result : Except ε α} {change : α → β} {value : β} :
    result.map change = .ok value ↔ ∃ first, result = .ok first ∧ change first = value := by
  cases result <;> simp [Except.map]

theorem except_ok_bind {ε α β : Type} (value : α) (next : α → Except ε β) :
    (Except.ok value >>= next) = next value := rfl

theorem except_bind_ok {ε α β : Type} {result : Except ε α} {next : α → Except ε β}
    {value : β} :
    (result >>= next) = .ok value ↔ ∃ first, result = .ok first ∧ next first = .ok value := by
  cases result with
  | ok first =>
      constructor
      · exact fun h => ⟨first, rfl, h⟩
      · rintro ⟨_, ⟨⟩, h⟩
        exact h
  | error failure =>
      constructor
      · intro h
        contradiction
      · rintro ⟨_, h, _⟩
        contradiction

theorem except_bind_error {ε α β : Type} {result : Except ε α} {next : α → Except ε β}
    {failure : ε} :
    (result >>= next) = .error failure ↔
      result = .error failure ∨ ∃ first, result = .ok first ∧ next first = .error failure := by
  cases result with
  | ok first => simp [except_ok_bind]
  | error other =>
      change Except.error other = _ ↔ _
      simp

end DispatchCore.Library
