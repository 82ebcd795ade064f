import DispatchCore.Messaging.IntakeWorld

/-! The one-time address token: what a chat handler may store, and why a saved point stays. -/
namespace DispatchCore.Messaging

open DispatchCore.Library DispatchCore.Domain DispatchCore.Packs DispatchCore.Infrastructure
  DispatchCore.Application

/-- A session is pinned, and offers an address token only where it asks for the address. -/
structure IntakeState.Fit (state : IntakeState) : Prop where
  pinned : 0 < state.packVersion.getD 0
  closed : state.step ≠ .address → state.addressToken = none

/-- What a handler may store: the address of the session it has read, or, if it chooses,
a new one with no token or one just drawn. -/
def MayStore (event : ChatEvent) (read : Option IntakeState) (drawn : Option String)
    (state : IntakeState) : Prop :=
  state.Fit ∧
    if event.chooses read then state.addressToken = none ∨ state.addressToken = drawn
    else ∃ before, read = some before ∧ state.addressToken = before.addressToken ∧
      state.serviceLocation = before.serviceLocation

/-- Whatever the rest of a handler is told, it stores what it may store. -/
def Carries (event : ChatEvent) :
    Option IntakeState → Option String → IntakeProgram Reply → Prop
  | _, _, .done _ => True
  | _, _, .raise _ => True
  | _, _, .call .getSession resume => event.looks = true ∧
      ∀ found : Option IntakeState, (∀ state ∈ found, state.Fit) →
        Carries event found none (resume found)
  | read, drawn, .call (.putSession state) resume =>
      MayStore event read drawn state ∧ Carries event read none (resume ())
  | read, _, .call .clearSession resume =>
      event.ends read = true ∧ Carries event read none (resume ())
  | read, drawn, .call .activeRevision resume =>
      ∀ found : Option PackRevision, (∀ revision ∈ found, 0 < revision.version) →
        Carries event read drawn (resume found)
  | read, drawn, .call (.revision _) resume => ∀ found, Carries event read drawn (resume found)
  | read, drawn, .call (.createOrderOnce _ _) resume =>
      ∀ answer, Carries event read drawn (resume answer)
  | read, drawn, .call .uuid4 resume => ∀ text, Carries event read drawn (resume text)
  | read, _, .call .tokenUrlsafe resume =>
      event.looks = true ∧ ∀ token, Carries event read (some token) (resume token)

namespace IntakeCoordinator

variable {event : ChatEvent} {read : Option IntakeState} {drawn : Option String}
  {pack : PackDefinition} {state : IntakeState}

theorem carries_attempt (result : Except Failure Reply) :
    Carries event read drawn (.attempt result) := by
  cases result <;> exact True.intro

theorem carries_start (chooses : event.chooses read = true) : Carries event read drawn start := by
  intro found numbered
  cases found with
  | none => exact True.intro
  | some revision =>
      intro submissionId
      refine ⟨⟨⟨?_, fun _ => rfl⟩, ?_⟩, True.intro⟩
      · have hpositive := numbered revision rfl
        show (0 : Int) < (revision.version : Int)
        omega
      · rw [if_pos chooses]
        exact .inl rfl

/-- A handler that chooses may store any fit session without a token. -/
theorem mayStore_of_choice (chooses : event.chooses read = true) (fit : state.Fit)
    (closed : state.addressToken = none) : MayStore event read drawn state := by
  refine ⟨fit, ?_⟩
  rw [if_pos chooses]
  exact .inl closed

/-- A session with the address of the one that was read may be stored by any handler that
finds it without a token, or that does not choose. -/
theorem mayStore_of_same {before : IntakeState} (fit : before.Fit)
    (pinned : state.packVersion = before.packVersion)
    (token : state.addressToken = before.addressToken)
    (location : state.serviceLocation = before.serviceLocation)
    (settled : before.step ≠ .address) :
    MayStore event (some before) drawn state := by
  have hclosed := fit.closed settled
  refine ⟨⟨?_, fun _ => token.trans hclosed⟩, ?_⟩
  · rw [pinned]
    exact fit.pinned
  · split
    · exact .inl (token.trans hclosed)
    · exact ⟨before, rfl, token, location⟩

/-- The parts of a session that the services and the fields leave alone. -/
structure SameAddress (before state : IntakeState) : Prop where
  pinned : state.packVersion = before.packVersion
  token : state.addressToken = before.addressToken
  location : state.serviceLocation = before.serviceLocation

theorem carries_toConfirmation {before : IntakeState} (fit : before.Fit)
    (settled : before.step ≠ .address) (same : SameAddress before state) :
    Carries event (some before) drawn (toConfirmation pack state) :=
  ⟨mayStore_of_same fit same.pinned same.token same.location settled, True.intro⟩

theorem carries_finishServices {before : IntakeState} (fit : before.Fit)
    (settled : before.step ≠ .address) (same : SameAddress before state) :
    Carries event (some before) drawn (finishServices pack state) := by
  unfold finishServices
  split
  · exact True.intro
  · dsimp only
    split
    · exact carries_toConfirmation fit settled ⟨same.pinned, same.token, same.location⟩
    · refine ⟨mayStore_of_same fit same.pinned same.token same.location settled, ?_⟩
      split
      · exact carries_toConfirmation fit settled ⟨same.pinned, same.token, same.location⟩
      · exact carries_attempt _

theorem carries_pickService {before : IntakeState} (fit : before.Fit)
    (settled : before.step ≠ .address) (same : SameAddress before state) (key : String) :
    Carries event (some before) drawn (pickService pack state key) := by
  unfold pickService
  split
  · exact True.intro
  · split
    · exact carries_finishServices fit settled ⟨same.pinned, same.token, same.location⟩
    · exact ⟨mayStore_of_same fit same.pinned same.token same.location settled, True.intro⟩

theorem carries_nextField {before : IntakeState} (fit : before.Fit)
    (settled : before.step ≠ .address) (same : SameAddress before state) (index : Nat) :
    Carries event (some before) drawn (nextField pack state index) := by
  unfold nextField
  dsimp only
  split
  · exact carries_toConfirmation fit settled ⟨same.pinned, same.token, same.location⟩
  · exact ⟨mayStore_of_same fit same.pinned same.token same.location settled, carries_attempt _⟩

theorem carries_answerField {before : IntakeState} (unicode : Unicode) (fit : before.Fit)
    (settled : before.step ≠ .address) (same : SameAddress before state) (field : FieldDefinition)
    (value : String) :
    Carries event (some before) drawn (answerField unicode pack state field value) := by
  unfold answerField
  dsimp only
  split
  · split
    · exact True.intro
    · exact carries_nextField fit settled same _
  · split
    · split
      · exact True.intro
      · cases askField field <;> exact True.intro
    · refine carries_nextField fit settled ?_ _
      exact ⟨same.pinned, same.token, same.location⟩

theorem carries_fillField {before : IntakeState} (unicode : Unicode) (fit : before.Fit)
    (settled : before.step ≠ .address) (same : SameAddress before state) (text : String) :
    Carries event (some before) drawn (fillField unicode pack state text) := by
  unfold fillField
  split
  · exact carries_toConfirmation fit settled same
  · split
    · exact carries_toConfirmation fit settled same
    · rename_i field _
      generalize ConfigEdits.limit text 500 = value
      exact carries_answerField unicode fit settled same field value

/-- The session that was read is pinned, so its revision is looked up and nothing stored. -/
theorem carries_packForState {before : IntakeState} (fit : before.Fit)
    {next : Option PackRevision × IntakeState → IntakeProgram Reply}
    (rest : ∀ found, Carries event read drawn (next (found, before))) :
    Carries event read drawn (packForState before >>= next) := by
  unfold packForState
  rw [if_pos fit.pinned]
  exact rest

theorem carries_fillPhone {before : IntakeState} (publicBaseUrl : Option String)
    (fit : before.Fit) (looks : event.looks = true)
    (chooses : event.chooses (some before) = true) (text : String) :
    Carries event (some before) drawn (fillPhone publicBaseUrl before text) := by
  unfold fillPhone
  dsimp only
  generalize ConfigEdits.limit text 500 = value
  split
  · exact True.intro
  · refine ⟨looks, fun token => ⟨⟨⟨fit.pinned, fun h => absurd rfl h⟩, ?_⟩, True.intro⟩⟩
    rw [if_pos chooses]
    exact .inr rfl

theorem carries_fillAddress {before : IntakeState} (fit : before.Fit)
    (chooses : event.chooses (some before) = true) (text : String) :
    Carries event (some before) drawn (fillAddress pack before text) := by
  unfold fillAddress
  dsimp only
  generalize ConfigEdits.limit text 500 = value
  split
  · exact True.intro
  · exact ⟨mayStore_of_choice chooses ⟨fit.pinned, fun _ => rfl⟩ rfl, True.intro⟩

theorem carries_handleText (setup : Setup) (text : String) :
    Carries (.text text) none none (handleText setup text) := by
  refine ⟨rfl, fun found fits => ?_⟩
  cases found with
  | none => exact carries_start rfl
  | some before =>
      have fit := fits before rfl
      refine carries_packForState fit fun found => ?_
      cases found with
      | none => exact True.intro
      | some revision =>
          dsimp only
          cases hstep : before.step with
          | phone =>
              dsimp only
              refine carries_fillPhone _ fit rfl ?_ text
              simp [ChatEvent.chooses, hstep]
          | address =>
              dsimp only
              refine carries_fillAddress fit ?_ text
              simp [ChatEvent.chooses, hstep]
          | services => exact True.intro
          | fields =>
              dsimp only
              refine carries_fillField setup.unicode fit ?_ ⟨rfl, rfl, rfl⟩ text
              simp [hstep]
          | confirm => exact True.intro

theorem carries_handleLocation (latitude longitude : Reading) (method : String)
    (address : Option String) :
    Carries (.location latitude longitude method address) none none
      (handleLocation latitude longitude method address) := by
  unfold handleLocation
  split
  · exact True.intro
  · refine ⟨rfl, fun found fits => ?_⟩
    cases found with
    | none => exact carries_start rfl
    | some before =>
        have fit := fits before rfl
        refine carries_packForState fit fun found => ?_
        cases found with
        | none => exact True.intro
        | some revision =>
            dsimp only
            split
            · exact True.intro
            · rename_i hstep
              have haddress : before.step = .address := by simpa using hstep
              refine ⟨mayStore_of_choice ?_ ⟨fit.pinned, fun _ => rfl⟩ rfl, True.intro⟩
              simp [ChatEvent.chooses, haddress]

/-- Asking for the device or for a text keeps the token. -/
theorem mayStore_addressMode {before : IntakeState} (fit : before.Fit) (mode : String)
    (asked : before.step = .address) (quiet : event.chooses (some before) = false) :
    MayStore event (some before) drawn { before with addressMode := some mode } := by
  refine ⟨⟨fit.pinned, fun h => absurd asked h⟩, ?_⟩
  rw [if_neg (by simp [quiet])]
  exact ⟨before, rfl, rfl, rfl⟩

theorem carries_submit {before : IntakeState} (identity : MessengerIdentity)
    (ends : event.ends (some before) = true) (submissionId : String) :
    Carries event (some before) drawn (submit identity pack state submissionId) := by
  intro answer
  cases answer with
  | error failure => exact True.intro
  | ok publicNumber => exact ⟨ends, True.intro⟩

/-- With no service selected the application starts anew. -/
theorem carries_confirm {before : IntakeState} (identity : MessengerIdentity) (fit : before.Fit)
    (settled : before.step ≠ .address) (ends : event.ends (some before) = true)
    (chooses : before.selected = [] → event.chooses (some before) = true) :
    Carries event (some before) drawn (confirm identity pack before) := by
  unfold confirm
  split
  · rename_i hselected
    exact carries_start (chooses hselected)
  · split
    · exact carries_submit identity ends _
    · intro submissionId
      exact ⟨mayStore_of_same fit rfl rfl rfl settled, carries_submit identity ends _⟩

theorem carries_press (setup : Setup) (identity : MessengerIdentity) {before : IntakeState}
    (fit : before.Fit) (action : IntakeAction) (payload : Dict String Json) :
    Carries (.callback action payload) (some before) none
      (press setup identity pack before action payload) := by
  cases action with
  | cancel => exact ⟨rfl, True.intro⟩
  | requestLocation =>
      unfold press
      dsimp only
      split
      · exact True.intro
      · rename_i hstep
        have haddress : before.step = .address := by simpa using hstep
        exact ⟨mayStore_addressMode fit _ haddress rfl, True.intro⟩
  | typeAddress =>
      unfold press
      dsimp only
      split
      · exact True.intro
      · rename_i hstep
        have haddress : before.step = .address := by simpa using hstep
        exact ⟨mayStore_addressMode fit _ haddress rfl, True.intro⟩
  | continueAfterMap =>
      unfold press
      dsimp only
      split
      · exact True.intro
      · split <;> exact True.intro
  | pickService =>
      unfold press
      dsimp only
      split
      · exact True.intro
      · rename_i hstep
        refine carries_pickService fit (fun haddress => hstep ?_) ⟨rfl, rfl, rfl⟩ _
        simp [haddress]
  | fieldChoice =>
      unfold press
      dsimp only
      split
      · exact True.intro
      · rename_i hstep
        refine carries_fillField setup.unicode fit (fun haddress => hstep ?_) ⟨rfl, rfl, rfl⟩ _
        simp [haddress]
  | servicesDone =>
      unfold press
      dsimp only
      split
      · exact True.intro
      · rename_i hstep
        refine carries_finishServices fit (fun haddress => hstep ?_) ⟨rfl, rfl, rfl⟩
        simp [haddress]
  | confirm =>
      unfold press
      dsimp only
      split
      · exact True.intro
      · rename_i hstep
        have hconfirm : before.step = .confirm := by simpa using hstep
        refine carries_confirm identity fit (by simp [hconfirm]) ?_ fun hselected => ?_
        · simp [ChatEvent.ends, hconfirm]
        · simp [ChatEvent.chooses, hselected]

theorem carries_handleCallback (setup : Setup) (identity : MessengerIdentity)
    (action : IntakeAction) (payload : Dict String Json) :
    Carries (.callback action payload) none none
      (handleCallback setup identity action payload) := by
  unfold handleCallback
  split
  · rename_i hcancel
    subst hcancel
    exact ⟨rfl, True.intro⟩
  · rename_i hcancel
    refine ⟨by cases action <;> first | rfl | exact absurd rfl hcancel, fun found fits => ?_⟩
    cases found with
    | none =>
        refine carries_start ?_
        cases action <;> rfl
    | some before =>
        have fit := fits before rfl
        refine carries_packForState fit fun found => ?_
        cases found with
        | none => exact True.intro
        | some revision => exact carries_press setup identity fit action payload

/-- Every handler stores only what it may store. -/
theorem carries_program (setup : Setup) (identity : MessengerIdentity) (event : ChatEvent) :
    Carries event none none (event.program setup identity) := by
  cases event with
  | start => exact carries_start rfl
  | text text => exact carries_handleText setup text
  | location latitude longitude method address =>
      exact carries_handleLocation latitude longitude method address
  | callback action payload => exact carries_handleCallback setup identity action payload

end IntakeCoordinator
end DispatchCore.Messaging
