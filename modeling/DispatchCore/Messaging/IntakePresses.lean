import DispatchCore.Messaging.Intake

/-! What a button of the guided flow stores, and what it stores when it is pressed again on
that. -/
namespace DispatchCore.Messaging

open DispatchCore.Library DispatchCore.Domain DispatchCore.Packs DispatchCore.Infrastructure
  DispatchCore.Application

namespace IntakeCoordinator

/-- The session that is asked for a field, or to confirm. -/
def asking (fields : List FieldDefinition) (state : IntakeState) (index : Nat) : IntakeState :=
  match fields[index]? with
  | none => { state with fieldIndex := (index : Int), step := .confirm }
  | some _ => { state with fieldIndex := (index : Int) }

/-- What the end of the services stores. -/
def finished (pack : PackDefinition) (state : IntakeState) : Option IntakeState :=
  if state.selected = [] then none
  else
    match pack.orderedFields.findIdx? fun field => ¬state.fieldValues.contains field.key with
    | none => some { state with step := .confirm }
    | some index => some (asking pack.orderedFields { state with step := .fields } index)

/-- A field takes the value: it may be left out, or the value is one of its own. -/
def takes (unicode : Unicode) (field : FieldDefinition) (value : String) : Bool :=
  if value = "" ∨ value = "-" then !field.required
  else (normalizeFieldValue unicode field value).isSome

/-- The answers once a field has taken the value. -/
def taken (unicode : Unicode) (state : IntakeState) (field : FieldDefinition) (value : String) :
    Dict String String :=
  if value = "" ∨ value = "-" then state.fieldValues
  else
    match normalizeFieldValue unicode field value with
    | some normalized => state.fieldValues.set field.key normalized
    | none => state.fieldValues

/-- The place of the question that comes after the field. -/
def nextIndex (unicode : Unicode) (pack : PackDefinition) (state : IntakeState)
    (field : FieldDefinition) (value : String) : Nat :=
  skipAnswered pack.orderedFields (taken unicode state field value) (state.fieldIndex.toNat + 1)

/-- What an answer stores. -/
def filled (unicode : Unicode) (pack : PackDefinition) (state : IntakeState) (value : String) :
    Option IntakeState :=
  if state.fieldIndex < 0 then some { state with step := .confirm }
  else
    match pack.orderedFields[state.fieldIndex.toNat]? with
    | none => some { state with step := .confirm }
    | some field =>
        if takes unicode field value then
          some (asking pack.orderedFields
            { state with fieldValues := taken unicode state field value }
            (nextIndex unicode pack state field value))
        else none

/-- What a choice among the services stores. -/
def picked (pack : PackDefinition) (state : IntakeState) (key : String) : Option IntakeState :=
  if ¬(pack.serviceCatalog.categories.any fun category => category.key = key) then none
  else if ¬pack.serviceCatalog.multiSelect then finished pack { state with selected := [key] }
  else some { state with
    selected := if key ∈ state.selected then state.selected.erase key else state.selected ++ [key] }

/-- What a button stores, other than those that end the flow. -/
def pressed (unicode : Unicode) (pack : PackDefinition) (state : IntakeState)
    (action : IntakeAction) (payload : Dict String Json) : Option IntakeState :=
  match action with
  | .requestLocation =>
      if state.step ≠ .address then none else some { state with addressMode := some "native" }
  | .typeAddress =>
      if state.step ≠ .address then none else some { state with addressMode := some "text" }
  | .pickService =>
      if ¬(state.step = .services ∨ state.step = .fields ∨ state.step = .confirm) then none
      else picked pack state (payload.textAt "service")
  | .fieldChoice =>
      if state.step ≠ .fields then none
      else filled unicode pack state (ConfigEdits.limit (payload.textAt "value") 500)
  | .servicesDone => if state.step ≠ .services then none else finished pack state
  | .continueAfterMap => none
  | .confirm => none
  | .cancel => none

/-- The button stores nothing new when it is pressed again. -/
def Settles (unicode : Unicode) (pack : PackDefinition) (state : IntakeState)
    (action : IntakeAction) (payload : Dict String Json) : Prop :=
  ∀ next, pressed unicode pack state action payload = some next →
    ∀ later, pressed unicode pack next action payload = some later → later = next

/-- The field that is asked takes the value, and so does the next one. -/
def AnswersTwice (unicode : Unicode) (pack : PackDefinition) (state : IntakeState)
    (value : String) : Prop :=
  0 ≤ state.fieldIndex ∧ ∃ field next, pack.orderedFields[state.fieldIndex.toNat]? = some field ∧
    takes unicode field value = true ∧
    pack.orderedFields[nextIndex unicode pack state field value]? = some next ∧
    takes unicode next value = true

variable {unicode : Unicode} {pack : PackDefinition} {state next : IntakeState}
  {payload : Dict String Json}

theorem settles_requestLocation : Settles unicode pack state .requestLocation payload := by
  intro next hnext later hlater
  simp only [pressed] at hnext hlater
  split at hnext
  · cases hnext
  · cases hnext
    split at hlater
    · cases hlater
    · cases hlater
      rfl

theorem settles_typeAddress : Settles unicode pack state .typeAddress payload := by
  intro next hnext later hlater
  simp only [pressed] at hnext hlater
  split at hnext
  · cases hnext
  · cases hnext
    split at hlater
    · cases hlater
    · cases hlater
      rfl

theorem asking_step (fields : List FieldDefinition) (index : Nat) :
    (asking fields state index).step = state.step ∨ (asking fields state index).step = .confirm := by
  unfold asking
  split
  · exact .inr rfl
  · exact .inl rfl

/-- The end of the services leaves them. -/
theorem finished_step (h : finished pack state = some next) :
    next.step = .fields ∨ next.step = .confirm := by
  unfold finished at h
  split at h
  · cases h
  · split at h
    · cases h
      exact .inr rfl
    · cases h
      exact asking_step _ _

theorem settles_servicesDone : Settles unicode pack state .servicesDone payload := by
  intro next hnext later hlater
  simp only [pressed] at hnext hlater
  split at hnext
  · cases hnext
  · rcases finished_step hnext with hstep | hstep <;> simp [hstep] at hlater

/-- Finished again, the services ask for the same. -/
theorem finished_twice (key : String) (h : finished pack { state with selected := [key] } = some next) :
    finished pack { next with selected := [key] } = some next := by
  unfold finished at h ⊢
  simp only [List.cons_ne_self, if_false] at h ⊢
  cases hopen : pack.orderedFields.findIdx? fun field =>
      ¬state.fieldValues.contains field.key with
  | none =>
      rw [hopen] at h
      cases h
      dsimp only
      rw [hopen]
  | some index =>
      rw [hopen] at h
      cases h
      obtain ⟨hbound, -⟩ := List.findIdx?_eq_some_iff_getElem.mp hopen
      have hthere := List.getElem?_eq_getElem hbound
      unfold asking
      rw [hthere]
      dsimp only
      rw [hopen]
      dsimp only
      rw [hthere]

theorem picked_step {key : String} (single : ¬pack.serviceCatalog.multiSelect = true)
    (h : picked pack state key = some next) : next.step = .fields ∨ next.step = .confirm := by
  unfold picked at h
  rw [if_pos single] at h
  split at h
  · cases h
  · exact finished_step h

/-- A service that is marked or unmarked changes what is selected. -/
theorem toggled_ne (selected : List String) (key : String) :
    (if key ∈ selected then selected.erase key else selected ++ [key]) ≠ selected := by
  intro hsame
  have hlength := congrArg List.length hsame
  split at hlength
  · rename_i hmember
    have hpositive := List.length_pos_of_mem hmember
    rw [List.length_erase_of_mem hmember] at hlength
    omega
  · simp at hlength

theorem settles_pickService :
    Settles unicode pack state .pickService payload ↔
      ¬((state.step = .services ∨ state.step = .fields ∨ state.step = .confirm) ∧
        (pack.serviceCatalog.categories.any fun category =>
          category.key = payload.textAt "service") = true ∧
        pack.serviceCatalog.multiSelect = true) := by
  by_cases hstep : state.step = .services ∨ state.step = .fields ∨ state.step = .confirm
  · by_cases hoffered : (pack.serviceCatalog.categories.any fun category =>
        category.key = payload.textAt "service") = true
    · by_cases hmulti : pack.serviceCatalog.multiSelect = true
      · refine iff_of_false (fun hsettles => ?_) fun hnot => hnot ⟨hstep, hoffered, hmulti⟩
        have hpressed : ∀ before : IntakeState, before.step = state.step →
            pressed unicode pack before .pickService payload = some { before with
              selected := if payload.textAt "service" ∈ before.selected
                then before.selected.erase (payload.textAt "service")
                else before.selected ++ [payload.textAt "service"] } := by
          intro before hbefore
          simp only [pressed, picked, hbefore, hstep, hoffered, hmulti, not_true_eq_false, if_false]
        have hsame := hsettles _ (hpressed state rfl) _ (hpressed _ rfl)
        exact toggled_ne _ _ (congrArg IntakeState.selected hsame)
      · refine iff_of_true (fun next hnext later hlater => ?_) fun hall => hmulti hall.2.2
        simp only [pressed, hstep, not_true_eq_false, if_false] at hnext
        have hagain := Or.inr (picked_step hmulti hnext) (a := next.step = .services)
        simp only [pressed, hagain, not_true_eq_false, if_false] at hlater
        unfold picked at hnext hlater
        simp only [hoffered, hmulti, not_true_eq_false, if_false]
          at hnext hlater
        rw [finished_twice _ hnext] at hlater
        exact (Option.some.inj hlater).symm
    · refine iff_of_true (fun next hnext => ?_) fun hall => hoffered hall.2.1
      simp [pressed, picked, hoffered] at hnext
  · refine iff_of_true (fun next hnext => ?_) fun hall => hstep hall.1
    simp [pressed, hstep] at hnext

/-- The next question comes after the field. -/
theorem lt_nextIndex (field : FieldDefinition) (value : String) :
    state.fieldIndex.toNat < nextIndex unicode pack state field value := by
  unfold nextIndex skipAnswered
  omega

theorem asking_index (fields : List FieldDefinition) (index : Nat) :
    (asking fields state index).fieldIndex = index := by
  unfold asking
  split <;> rfl

/-- A field that is asked and takes the value. -/
theorem filled_asked {field : FieldDefinition} {value : String} {index : Nat}
    (asked : state.fieldIndex = index) (there : pack.orderedFields[index]? = some field) :
    filled unicode pack state value = if takes unicode field value then
        some (asking pack.orderedFields
          { state with fieldValues := taken unicode state field value }
          (nextIndex unicode pack state field value))
      else none := by
  unfold filled
  rw [if_neg (by omega), asked, Int.toNat_natCast, there]

theorem settles_fieldChoice :
    Settles unicode pack state .fieldChoice payload ↔
      ¬(state.step = .fields ∧
        AnswersTwice unicode pack state (ConfigEdits.limit (payload.textAt "value") 500)) := by
  generalize hvalue : ConfigEdits.limit (payload.textAt "value") 500 = value
  have hpressed : ∀ before : IntakeState,
      pressed unicode pack before .fieldChoice payload =
        if before.step ≠ .fields then none else filled unicode pack before value := by
    intro before
    simp only [pressed, hvalue]
  constructor
  · rintro hsettles ⟨hstep, hindex, field, other, hfield, htakes, hother, hagain⟩
    let first : IntakeState := { state with
      fieldValues := taken unicode state field value
      fieldIndex := (nextIndex unicode pack state field value : Int) }
    have hfirst : pressed unicode pack state .fieldChoice payload = some first := by
      rw [hpressed, if_neg (not_not.mpr hstep),
        filled_asked (Int.toNat_of_nonneg hindex).symm hfield, if_pos htakes]
      unfold asking
      rw [hother]
    have hsecond : pressed unicode pack first .fieldChoice payload =
        some (asking pack.orderedFields
          { first with fieldValues := taken unicode first other value }
          (nextIndex unicode pack first other value)) := by
      rw [hpressed, if_neg (not_not.mpr hstep), filled_asked rfl hother, if_pos hagain]
    have hsame := congrArg IntakeState.fieldIndex (hsettles first hfirst _ hsecond)
    rw [asking_index] at hsame
    have hlt := @lt_nextIndex unicode pack first other value
    have hplace : first.fieldIndex = (nextIndex unicode pack state field value : Int) := rfl
    omega
  · intro hnot next hnext later hlater
    rw [hpressed] at hnext hlater
    have hstep : state.step = .fields := by
      by_contra hother
      rw [if_pos hother] at hnext
      cases hnext
    have hagain : next.step = .fields := by
      by_contra hother
      rw [if_pos hother] at hlater
      cases hlater
    rw [if_neg (not_not.mpr hstep)] at hnext
    rw [if_neg (not_not.mpr hagain)] at hlater
    by_cases hindex : state.fieldIndex < 0
    · unfold filled at hnext
      rw [if_pos hindex] at hnext
      cases hnext
      cases hagain
    · cases hfield : pack.orderedFields[state.fieldIndex.toNat]? with
      | none =>
          unfold filled at hnext
          rw [if_neg hindex, hfield] at hnext
          cases hnext
          cases hagain
      | some field =>
          rw [filled_asked (Int.toNat_of_nonneg (not_lt.mp hindex)).symm hfield] at hnext
          split at hnext
          · rename_i htakes
            cases hnext
            cases hother : pack.orderedFields[nextIndex unicode pack state field value]? with
            | none =>
                unfold asking at hagain
                rw [hother] at hagain
                cases hagain
            | some other =>
                rw [filled_asked (asking_index _ _) hother] at hlater
                split at hlater
                · rename_i hlast
                  exact absurd ⟨hstep, not_lt.mp hindex, field, other, hfield, htakes, hother,
                    hlast⟩ hnot
                · cases hlater
          · cases hnext

/-! ### What no button touches -/

/-- The session as another event left it. -/
def since (event : Option String) (state : IntakeState) : IntakeState :=
  { state with lastEvent := event }

theorem since_asking (event : Option String) (fields : List FieldDefinition) (state : IntakeState)
    (index : Nat) : asking fields (since event state) index = since event (asking fields state index) := by
  unfold asking
  split <;> rfl

theorem finished_since (event : Option String) :
    finished pack (since event state) = (finished pack state).map (since event) := by
  unfold finished
  split
  · rename_i hnone
    rw [if_pos (show state.selected = [] from hnone)]
    rfl
  · rename_i hsome
    rw [if_neg (show ¬state.selected = [] from hsome)]
    show (match pack.orderedFields.findIdx? fun field =>
      ¬state.fieldValues.contains field.key with | none => _ | some index => _) = _
    cases pack.orderedFields.findIdx? fun field => ¬state.fieldValues.contains field.key with
    | none => rfl
    | some index => exact congrArg some (since_asking event _ { state with step := .fields } index)

theorem filled_since (event : Option String) (value : String) :
    filled unicode pack (since event state) value =
      (filled unicode pack state value).map (since event) := by
  unfold filled
  show (if state.fieldIndex < 0 then _ else match pack.orderedFields[state.fieldIndex.toNat]? with
    | none => _ | some field => _) = _
  split
  · rfl
  · cases pack.orderedFields[state.fieldIndex.toNat]? with
    | none => rfl
    | some field =>
        dsimp only
        split
        · exact congrArg some (since_asking event _
            { state with fieldValues := taken unicode state field value } _)
        · rfl

theorem picked_since (event : Option String) (key : String) :
    picked pack (since event state) key = (picked pack state key).map (since event) := by
  unfold picked
  split
  · rfl
  · split
    · exact @finished_since pack { state with selected := [key] } event
    · rfl

/-- What a button stores does not hang on the event that stored before it. -/
theorem pressed_since (event : Option String) (action : IntakeAction) :
    pressed unicode pack (since event state) action payload =
      (pressed unicode pack state action payload).map (since event) := by
  cases action with
  | requestLocation => by_cases hstep : state.step = .address <;> simp [pressed, since, hstep]
  | typeAddress => by_cases hstep : state.step = .address <;> simp [pressed, since, hstep]
  | pickService =>
      unfold pressed
      dsimp only
      rw [picked_since]
      show (if ¬(state.step = .services ∨ state.step = .fields ∨ state.step = .confirm) then _
        else _) = _
      split <;> rfl
  | fieldChoice =>
      unfold pressed
      dsimp only
      rw [filled_since]
      show (if state.step ≠ .fields then _ else _) = _
      split <;> rfl
  | servicesDone =>
      unfold pressed
      dsimp only
      rw [finished_since]
      show (if state.step ≠ .services then _ else _) = _
      split <;> rfl
  | continueAfterMap => rfl
  | confirm => rfl
  | cancel => rfl

theorem asking_kept (fields : List FieldDefinition) (index : Nat) :
    (asking fields state index).packVersion = state.packVersion ∧
      (asking fields state index).lastEvent = state.lastEvent := by
  unfold asking
  split <;> exact ⟨rfl, rfl⟩

theorem finished_kept (h : finished pack state = some next) :
    next.packVersion = state.packVersion ∧ next.lastEvent = state.lastEvent := by
  unfold finished at h
  split at h
  · cases h
  · split at h
    · cases h
      exact ⟨rfl, rfl⟩
    · cases h
      exact @asking_kept { state with step := .fields } _ _

theorem filled_kept {value : String} (h : filled unicode pack state value = some next) :
    next.packVersion = state.packVersion ∧ next.lastEvent = state.lastEvent := by
  unfold filled at h
  split at h
  · cases h
    exact ⟨rfl, rfl⟩
  · split at h
    · cases h
      exact ⟨rfl, rfl⟩
    · split at h
      · cases h
        exact @asking_kept { state with fieldValues := _ } _ _
      · cases h

/-- A button keeps the session at its revision. -/
theorem pressed_kept {action : IntakeAction}
    (h : pressed unicode pack state action payload = some next) :
    next.packVersion = state.packVersion ∧ next.lastEvent = state.lastEvent := by
  cases action with
  | requestLocation =>
      simp only [pressed] at h
      split at h
      · cases h
      · cases h
        exact ⟨rfl, rfl⟩
  | typeAddress =>
      simp only [pressed] at h
      split at h
      · cases h
      · cases h
        exact ⟨rfl, rfl⟩
  | pickService =>
      simp only [pressed] at h
      split at h
      · cases h
      · unfold picked at h
        split at h
        · cases h
        · split at h
          · exact @finished_kept pack { state with selected := [payload.textAt "service"] } next h
          · cases h
            exact ⟨rfl, rfl⟩
  | fieldChoice =>
      simp only [pressed] at h
      split at h
      · cases h
      · exact filled_kept h
  | servicesDone =>
      simp only [pressed] at h
      split at h
      · cases h
      · exact finished_kept h
  | continueAfterMap => cases h
  | confirm => cases h
  | cancel => cases h

end IntakeCoordinator
end DispatchCore.Messaging
