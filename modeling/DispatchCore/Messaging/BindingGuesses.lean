import Mathlib.Data.Finset.Card
import DispatchCore.Infrastructure.StaffBinding
import DispatchCore.Library.Crew
import DispatchCore.Library.Numeral

/-! The binding of a staff account by code: how the messages of accounts that nobody
knows yet open sessions, guess codes and spend attempts, one store call at a time. -/
namespace DispatchCore.Messaging

open DispatchCore.Library DispatchCore.Domain DispatchCore.Infrastructure

inductive EventKind
  | message
  | callback
  | contact
  | location
  | photo
  | start
deriving DecidableEq

/-- What the binding reads of an event and of the envelope it came in. -/
structure StaffEvent where
  organizationId : String
  provider : Provider
  consumerKey : String
  externalUserId : String
  kind : EventKind
  text : Option String

def StaffEvent.key (event : StaffEvent) (frontend : StaffFrontend) : BindingKey :=
  ⟨event.organizationId, event.provider, event.externalUserId, frontend⟩

def StaffEvent.code (event : StaffEvent) : String := Text.strip (event.text.getD "")

/-- `len(code) == 4 and code.isascii() and code.isdigit()` -/
def isBindCode (code : String) : Bool :=
  code.length = 4 && code.toList.all fun letter => letter.toNat < 128 && Text.isDigit letter

def roleLabel : Role → String
  | .admin => "администратор"
  | .operator => "оператор"
  | .master => "мастер"
  | .client => "клиент"

def frontendLabel : StaffFrontend → String
  | .operator => roleLabel .operator
  | .master => roleLabel .master
  | .staff => "сотрудник"

inductive BindingReply
  | limitReached
  | enterCode (frontend : StaffFrontend)
  | notStarted
  | expired
  | noneLeft
  | wrong (remaining : Nat)

def BindingReply.text : BindingReply → String
  | limitReached => "Лимит попыток привязки исчерпан. Повторите позже или " ++
      "запросите новый код у администратора."
  | enterCode frontend => "Введите 4-значный код, который выдал администратор. " ++
      s!"Код действует для роли «{frontendLabel frontend}»; на ввод есть 5 попыток."
  | notStarted => "Сеанс привязки не запущен или истёк. Нажмите /start и " ++
      "затем введите код администратора."
  | expired => "Сеанс привязки истёк. Нажмите /start, чтобы начать заново."
  | noneLeft => "Попытки закончились. Повторите позже или запросите новый код у администратора."
  | wrong remaining => "Код неверен, истёк или предназначен для другого ролевого бота. " ++
      s!"Осталось попыток: {remaining}."

/-- How an account that was just bound is answered. -/
inductive Welcome
  | roleMenu
  | roleLanding
  | greeting

inductive BindingOutcome
  | identified (identity : Resolved)
  | notForStaff
  | replied (reply : BindingReply)
  | bound (identity : Resolved) (welcome : Welcome)
  | raised (failure : IdentityFailure)

/-- How far a message has come, by the store call it comes to next. -/
inductive BindingStage
  | resolving
  | beginning (key : BindingKey)
  | checking (key : BindingKey)
  | comparing (key : BindingKey)
  | reserving (key : BindingKey) (compared : Bool)
  | clearing (key : BindingKey) (identity : Resolved)
  | failed (key : BindingKey) (failure : IdentityFailure)
  | ended (outcome : BindingOutcome)

structure BindingJob where
  event : StaffEvent
  stage : BindingStage

/-- From the `begin` that opened it until `expiresAt`, with the codes compared in the meantime. -/
structure Window where
  expiresAt : Instant
  guesses : Finset String

/-- The tables, the clock, and the windows opened so far, the newest first. -/
structure BindingRoom where
  identities : Identities
  bindings : BindingRows
  now : Instant
  windows : BindingKey → List Window

def BindingRoom.empty (now : Instant) : BindingRoom := ⟨.empty, .empty, now, fun _ => []⟩

def Window.compared (window : Window) (now : Instant) (code : String) : Window :=
  if now < window.expiresAt then { window with guesses := insert code window.guesses } else window

namespace BindingRoom

def opening (room : BindingRoom) (key : BindingKey) (expiresAt : Instant) : BindingRoom :=
  { room with windows := Function.update room.windows key (⟨expiresAt, ∅⟩ :: room.windows key) }

def guessing (room : BindingRoom) (key : BindingKey) (code : String) : BindingRoom :=
  { room with
    windows := Function.update room.windows key
      ((room.windows key).map fun window => window.compared room.now code) }

end BindingRoom

section step

/-- `available_roles` -/
def availableRoles (identity : Resolved) : List Role :=
  [.admin, .operator, .master].filter fun role =>
    role ∈ if identity.roles = [] then [identity.role] else identity.roles

-- whether there is a coordinator for the roles of the shared frontend
variable (staffRoles : Bool)

def StaffEvent.identity (event : StaffEvent) (identities : Identities) : Option Resolved :=
  if event.consumerKey = "staff" ∧ event.provider = .max ∧ staffRoles then
    (identities.resolve event.organizationId event.provider event.externalUserId "").filter
      fun base => availableRoles base ≠ []
  else identities.resolve event.organizationId event.provider event.externalUserId
    event.consumerKey

/-- What `_maybe_bind_staff` does first for an account that nobody knows. -/
def StaffEvent.unknown (event : StaffEvent) : BindingStage :=
  match staffFrontendRole event.consumerKey with
  | none => .ended .notForStaff
  | some frontend =>
      match event.kind with
      | .start => .beginning (event.key frontend)
      | .message => if event.text.getD "" = "" then .ended .notForStaff
          else .checking (event.key frontend)
      | _ => .ended .notForStaff

def welcome (frontend : StaffFrontend) (identity : Resolved) : Welcome :=
  if frontend = .staff ∧ staffRoles then .roleMenu
  else if identity.role = .operator ∨ identity.role = .master then .roleLanding
  else .greeting

def attemptReply : Option Nat → BindingReply
  | none => .expired
  | some attempts =>
      if maxBindingAttempts ≤ attempts then .noneLeft else .wrong (maxBindingAttempts - attempts)

/-- One store call, and what the processor does until the next one. -/
def BindingJob.step (job : BindingJob) (room : BindingRoom) : BindingJob × BindingRoom :=
  match job.stage with
  | .resolving =>
      match job.event.identity staffRoles room.identities with
      | some identity => ({ job with stage := .ended (.identified identity) }, room)
      | none => ({ job with stage := job.event.unknown }, room)
  | .beginning key =>
      match room.bindings.begin key 15 room.now with
      | .error failure => ({ job with stage := .ended (.raised (.failure failure)) }, room)
      | .ok (active, bindings) =>
          let reply := if active then BindingReply.enterCode key.frontend else .limitReached
          let opened := if room.bindings.Over key room.now then
            room.opening key (room.now.addSeconds (15 * 60)) else room
          ({ job with stage := .ended (.replied reply) }, { opened with bindings })
  | .checking key =>
      if room.bindings.isActive key room.now then
        if isBindCode job.event.code then ({ job with stage := .comparing key }, room)
        else ({ job with stage := .reserving key false }, room)
      else ({ job with stage := .ended (.replied .notStarted) }, room)
  | .comparing key =>
      let guessed := room.guessing key job.event.code
      match room.identities.bindActorByCode room.now key.organizationId job.event.code key.provider
          key.externalUserId key.frontend.value with
      | .error failure => ({ job with stage := .failed key failure }, guessed)
      | .ok (none, identities) =>
          ({ job with stage := .reserving key true }, { guessed with identities })
      | .ok (some identity, identities) =>
          ({ job with stage := .clearing key identity }, { guessed with identities })
  | .reserving key _ =>
      let taken := room.bindings.takeAttempt key room.now
      ({ job with stage := .ended (.replied (attemptReply taken.1)) },
        { room with bindings := taken.2 })
  | .clearing key identity =>
      ({ job with stage := .ended (.bound identity (welcome staffRoles key.frontend identity)) },
        { room with bindings := room.bindings.clear key })
  | .failed key failure => ({ job with stage := .failed key failure }, room)
  | .ended outcome => ({ job with stage := .ended outcome }, room)

end step

/-- What happens next: a step of a message, time that passes, any change of the tables of
people, or the deletion of what has run out. -/
inductive BindingTurn
  | message (index : Nat)
  | clock (microseconds : Nat)
  | people (identities : Identities)
  | cleanup

abbrev BindingCrew := Crew BindingRoom BindingJob

namespace BindingCrew

def turn (staffRoles : Bool) (crew : BindingCrew) : BindingTurn → BindingCrew
  | .message index => crew.advance (BindingJob.step staffRoles) index
  | .clock microseconds => { crew with state := { crew.state with
      now := ⟨crew.state.now.microseconds + microseconds⟩ } }
  | .people identities => { crew with state := { crew.state with identities } }
  | .cleanup => { crew with state := { crew.state with
      bindings := crew.state.bindings.cleanupExpired crew.state.now } }

/-- Messages at workers, none of them started. -/
def «open» (now : Instant) (events : List StaffEvent) : BindingCrew :=
  { state := .empty now, jobs := events.map fun event => ⟨event, .resolving⟩ }

/-- At most five codes in every window. -/
def WithinLimit (crew : BindingCrew) : Prop :=
  ∀ key, ∀ window ∈ crew.state.windows key, window.guesses.card ≤ maxBindingAttempts

end BindingCrew

/-- The code was compared, and no attempt has been reserved for it. -/
def BindingStage.owes (key : BindingKey) : BindingStage → Bool
  | reserving other compared => compared && other = key
  | clearing other _ => other = key
  | failed other _ => other = key
  | _ => false

/-- The comparisons of an account for which no attempt has been reserved yet. -/
def BindingCrew.owed (crew : BindingCrew) (key : BindingKey) : Nat :=
  crew.jobs.countP fun job => job.stage.owes key

/-- A new code is compared in a running window only where an attempt is left for it, those
included that other messages are about to reserve; and no window is opened before the last
one is over. -/
def BindingJob.Careful (job : BindingJob) (room : BindingRoom) (owed : BindingKey → Nat) : Prop :=
  match job.stage with
  | .beginning key => room.bindings.Over key room.now →
      ∀ window ∈ room.windows key, window.expiresAt ≤ room.now
  | .comparing key => ∀ window ∈ room.windows key,
      room.now < window.expiresAt → job.event.code ∉ window.guesses →
        ∃ row, room.bindings.get? key = some row ∧ row.attempts + owed key < maxBindingAttempts
  | _ => True

def BindingCrew.Careful (crew : BindingCrew) : BindingTurn → Prop
  | .message index => ∀ job ∈ crew.jobs[index]?, job.Careful crew.state crew.owed
  | _ => True

/-! ### Accounts of one window after the other -/

/-- The codes compared in the newest window have been charged to the session, or are about to
be; the windows before it are over. -/
structure Accounted (windows : List Window) (row : Option BindingRow) (now : Instant)
    (owed : Nat) : Prop where
  within : ∀ window ∈ windows, window.guesses.card ≤ maxBindingAttempts
  past : ∀ window ∈ windows.tail, window.expiresAt ≤ now
  current : ∀ window found, windows.head? = some window → row = some found →
    now < window.expiresAt →
      found.expiresAt = window.expiresAt ∧ window.guesses.card ≤ found.attempts + owed

namespace Accounted

variable {windows : List Window} {row : Option BindingRow} {now : Instant} {owed : Nat}

theorem begin (h : Accounted windows row now owed)
    (ended : ∀ window ∈ windows, window.expiresAt ≤ now) (fresh : BindingRow) :
    Accounted (⟨fresh.expiresAt, ∅⟩ :: windows) (some fresh) now owed where
  within window hmem := by
    cases hmem with
    | head => simp
    | tail _ hmem => exact h.within window hmem
  past window hmem := ended window hmem
  current window found hhead hfound _ := by
    cases hhead
    cases hfound
    exact ⟨rfl, by simp⟩

theorem forget (h : Accounted windows row now owed) (later : Nat) :
    Accounted windows none now later where
  within := h.within
  past := h.past
  current window found _ hfound := by contradiction

theorem owe (h : Accounted windows row now owed) {later : Nat} (more : owed ≤ later) :
    Accounted windows row now later where
  within := h.within
  past := h.past
  current window found hhead hfound hrunning := by
    obtain ⟨hsame, hcharged⟩ := h.current window found hhead hfound hrunning
    exact ⟨hsame, by omega⟩

theorem wait (h : Accounted windows row now owed) (microseconds : Nat) :
    Accounted windows row ⟨now.microseconds + microseconds⟩ owed where
  within := h.within
  past window hmem := by
    have hpast := h.past window hmem
    simp only [Instant.le_def] at hpast ⊢
    omega
  current window found hhead hfound hrunning := by
    refine h.current window found hhead hfound ?_
    simp only [Instant.lt_def] at hrunning ⊢
    omega

/-- An attempt that was owed is charged; where no attempt is left, the limit is charged
already. -/
theorem charge {found next : BindingRow} {later : Nat}
    (h : Accounted windows (some found) now owed) (same : next.expiresAt = found.expiresAt)
    (charged : next.attempts =
      if found.Active now then found.attempts + 1 else found.attempts)
    (paid : owed ≤ later + 1) : Accounted windows (some next) now later where
  within := h.within
  past := h.past
  current window other hhead hother hrunning := by
    cases hother
    obtain ⟨hsame, hcovered⟩ := h.current window found hhead rfl hrunning
    refine ⟨same.trans hsame, ?_⟩
    by_cases hactive : found.Active now
    · rw [if_pos hactive] at charged
      omega
    · rw [if_neg hactive] at charged
      have hfull : ¬found.attempts < maxBindingAttempts := fun hleft =>
        hactive ⟨hsame ▸ hrunning, hleft⟩
      have hwithin := h.within window (List.mem_of_mem_head? hhead)
      omega

theorem card_compared (window : Window) (code : String) :
    (window.compared now code).guesses.card ≤ window.guesses.card + 1 := by
  unfold Window.compared
  split
  · exact Finset.card_insert_le _ _
  · omega

theorem compared_of_mem {window : Window} {code : String} (h : code ∈ window.guesses) :
    window.compared now code = window := by
  unfold Window.compared
  rw [Finset.insert_eq_of_mem h]
  split <;> rfl

@[simp] theorem expiresAt_compared (window : Window) (code : String) :
    (window.compared now code).expiresAt = window.expiresAt := by
  unfold Window.compared
  split <;> rfl

theorem compared_of_over {window : Window} {code : String} (h : window.expiresAt ≤ now) :
    window.compared now code = window := by
  unfold Window.compared
  rw [if_neg (by simpa using h)]

/-- A window that is not over is the newest one. -/
theorem newest (h : Accounted windows row now owed) {window : Window} (mem : window ∈ windows)
    (running : now < window.expiresAt) : windows.head? = some window := by
  cases windows with
  | nil => contradiction
  | cons first rest =>
      cases mem with
      | head => rfl
      | tail _ hmem =>
          have hover := h.past window hmem
          simp only [Instant.le_def, Instant.lt_def] at hover running
          omega

theorem guess (h : Accounted windows row now owed) (code : String)
    (careful : ∀ window ∈ windows, now < window.expiresAt → code ∉ window.guesses →
      ∃ found, row = some found ∧ found.attempts + owed < maxBindingAttempts) :
    Accounted (windows.map fun window => window.compared now code) row now (owed + 1) where
  within window hmem := by
    obtain ⟨before, hbefore, rfl⟩ := List.mem_map.mp hmem
    have hwithin := h.within before hbefore
    by_cases hrunning : now < before.expiresAt
    · by_cases hguessed : code ∈ before.guesses
      · rw [compared_of_mem hguessed]
        exact hwithin
      · obtain ⟨found, hfound, hleft⟩ := careful before hbefore hrunning hguessed
        have hhead := h.newest hbefore hrunning
        obtain ⟨-, hcovered⟩ := h.current before found hhead hfound hrunning
        have hcard := @card_compared now before code
        omega
    · rw [compared_of_over (by simpa using hrunning)]
      exact hwithin
  past window hmem := by
    rw [← List.map_tail] at hmem
    obtain ⟨before, hbefore, rfl⟩ := List.mem_map.mp hmem
    rw [expiresAt_compared]
    exact h.past before hbefore
  current window found hhead hfound hrunning := by
    rw [List.head?_map] at hhead
    obtain ⟨before, hbefore, rfl⟩ := Option.map_eq_some_iff.mp hhead
    rw [expiresAt_compared] at hrunning ⊢
    obtain ⟨hsame, hcovered⟩ := h.current before found hbefore hfound hrunning
    have hcard := @card_compared now before code
    exact ⟨hsame, by omega⟩

end Accounted

/-! ### Runs -/

section runs

variable {staffRoles : Bool}

def BindingCrew.Settled (crew : BindingCrew) : Prop :=
  ∀ key, Accounted (crew.state.windows key) (crew.state.bindings.get? key) crew.state.now
    (crew.owed key)

theorem unknown_owes (event : StaffEvent) (key : BindingKey) :
    event.unknown.owes key = false := by
  unfold StaffEvent.unknown
  cases staffFrontendRole event.consumerKey with
  | none => rfl
  | some frontend =>
      cases event.kind with
      | message =>
          simp only
          split <;> rfl
      | _ => rfl

/-- Only a comparison makes a message owe an attempt, and a failed one never pays it. -/
theorem step_owes (job : BindingJob) (room : BindingRoom) (key : BindingKey) :
    (job.step staffRoles room).1.stage.owes key =
      match job.stage with
      | .comparing other => decide (other = key)
      | .failed other _ => decide (other = key)
      | _ => false := by
  obtain ⟨event, stage⟩ := job
  cases stage with
  | resolving =>
      simp only [BindingJob.step]
      cases event.identity staffRoles room.identities with
      | some identity => rfl
      | none => exact unknown_owes event key
  | beginning other => rfl
  | checking other =>
      simp only [BindingJob.step]
      split
      · split <;> rfl
      · rfl
  | comparing other =>
      simp only [BindingJob.step]
      split
      · rfl
      · exact Bool.true_and _
      · rfl
  | _ => rfl

theorem step_accounted {job : BindingJob} {room : BindingRoom} {key : BindingKey}
    {owed : BindingKey → Nat} {later : Nat}
    (h : Accounted (room.windows key) (room.bindings.get? key) room.now (owed key))
    (careful : job.Careful room owed)
    (moved : later + (if job.stage.owes key then 1 else 0) =
      owed key + if (job.step staffRoles room).1.stage.owes key then 1 else 0) :
    Accounted ((job.step staffRoles room).2.windows key)
      ((job.step staffRoles room).2.bindings.get? key) (job.step staffRoles room).2.now later := by
  obtain ⟨event, stage⟩ := job
  rw [step_owes] at moved
  cases stage with
  | resolving =>
      obtain rfl : later = owed key := moved
      simp only [BindingJob.step]
      cases event.identity staffRoles room.identities <;> exact h
  | beginning other =>
      obtain rfl : later = owed key := moved
      simp only [BindingJob.step, BindingRows.begin, BindingRoom.opening]
      rw [if_neg (by decide)]
      simp only
      by_cases hkey : key = other
      · subst hkey
        rw [Dict.get?_set_self]
        by_cases hover : room.bindings.Over key room.now
        · rw [if_pos hover, BindingRows.begun_of_over hover]
          simp only [Function.update_self]
          exact h.begin (careful hover) (BindingRows.opened 15 room.now)
        · rw [if_neg hover, ← BindingRows.begun_of_running hover]
          exact h
      · rw [Dict.get?_set_of_ne _ _ hkey]
        split
        · simp only [Function.update_of_ne hkey]
          exact h
        · exact h
  | checking other =>
      obtain rfl : later = owed key := moved
      simp only [BindingJob.step]
      split
      · split <;> exact h
      · exact h
  | comparing other =>
      have hguess : Accounted ((room.guessing other event.code).windows key)
          (room.bindings.get? key) room.now later := by
        simp only [BindingRoom.guessing]
        by_cases hkey : key = other
        · subst hkey
          obtain rfl : later = owed key + 1 := by simpa [BindingStage.owes] using moved
          rw [Function.update_self]
          exact h.guess event.code careful
        · obtain rfl : later = owed key := by
            simpa [BindingStage.owes, Ne.symm hkey] using moved
          rw [Function.update_of_ne hkey]
          exact h
      simp only [BindingJob.step]
      split <;> exact hguess
  | reserving other compared =>
      have hpaid : later + (if (compared && other = key) = true then 1 else 0) = owed key := moved
      simp only [BindingJob.step]
      by_cases hkey : key = other
      · subst hkey
        cases hnext : (room.bindings.takeAttempt key room.now).2.get? key with
        | none => exact h.forget later
        | some next =>
            obtain ⟨found, hfound, hsame, hcharged⟩ := BindingRows.get?_takeAttempt hnext
            rw [hfound] at h
            refine h.charge hsame hcharged ?_
            split at hpaid <;> omega
      · rw [BindingRows.get?_takeAttempt_of_ne _ hkey]
        refine h.owe ?_
        rw [if_neg (by simpa using fun _ => Ne.symm hkey)] at hpaid
        omega
  | clearing other identity =>
      have hpaid : later + (if decide (other = key) = true then 1 else 0) = owed key := moved
      simp only [BindingJob.step, BindingRows.clear]
      rw [Dict.get?_erase]
      by_cases hkey : key = other
      · rw [if_pos hkey]
        exact h.forget later
      · rw [if_neg hkey]
        refine h.owe ?_
        rw [if_neg (by simpa using Ne.symm hkey)] at hpaid
        omega
  | failed other failure =>
      have hlater : later = owed key := Nat.add_right_cancel moved
      rw [hlater]
      exact h
  | ended outcome =>
      obtain rfl : later = owed key := moved
      exact h

theorem settled_turn {crew : BindingCrew} (settled : crew.Settled) {next : BindingTurn}
    (careful : crew.Careful next) : (crew.turn staffRoles next).Settled := by
  intro key
  cases next with
  | message index =>
      simp only [BindingCrew.turn]
      cases hjob : crew.jobs[index]? with
      | none =>
          rw [Crew.advance_idle hjob]
          exact settled key
      | some job =>
          have hmoved := @Crew.count_advance _ _ (BindingJob.step staffRoles) _ _ _ hjob
            fun job => job.stage.owes key
          have hstate : (crew.advance (BindingJob.step staffRoles) index).state =
              (job.step staffRoles crew.state).2 := by
            rw [Crew.advance_job hjob]
          simp only [hstate]
          exact step_accounted (settled key) (careful job hjob) hmoved
  | clock microseconds => exact (settled key).wait microseconds
  | people identities => exact settled key
  | cleanup =>
      have hkept := settled key
      simp only [BindingCrew.turn, BindingRows.cleanupExpired]
      rw [Dict.get?_restrict]
      cases hrow : crew.state.bindings.get? key with
      | none => exact hkept.forget _
      | some row =>
          rw [Option.filter_some]
          split
          · rw [← hrow]
            exact hkept
          · exact hkept.forget _

theorem settled_open (now : Instant) (events : List StaffEvent) :
    (BindingCrew.open now events).Settled := by
  intro key
  refine ⟨fun window hmem => ?_, fun window hmem => ?_, fun window found hhead => ?_⟩
  · exact absurd hmem (List.not_mem_nil)
  · exact absurd hmem (List.not_mem_nil)
  · contradiction

/-- Any messages of any accounts at any number of workers, in any interleaving of their store
calls with the clock, with changes of the people and with deletions of old sessions: while
every code is compared with an attempt left for it, and no window is opened before the last
one is over, no window sees more than five codes. -/
theorem guesses_limited (staffRoles : Bool) (now : Instant) (events : List StaffEvent)
    (turns : List BindingTurn)
    (careful : Throughout (BindingCrew.turn staffRoles) BindingCrew.Careful
      (BindingCrew.open now events) turns) :
    ∀ before, before <+: turns →
      (before.foldl (BindingCrew.turn staffRoles) (BindingCrew.open now events)).WithinLimit := by
  intro before hprefix key window hmem
  have hsettled : (before.foldl (BindingCrew.turn staffRoles)
      (BindingCrew.open now events)).Settled :=
    @Throughout.invariant _ _ _ _ _ turns BindingCrew.Settled
      (fun _ _ settled careful => settled_turn settled careful) (settled_open now events)
      careful before hprefix
  exact (hsettled key).within window hmem

end runs

def sampleStart : StaffEvent := ⟨"acme", .telegram, "operator", "7", .start, some "/start"⟩

def sampleGuess (code : String) : StaffEvent :=
  ⟨"acme", .telegram, "operator", "7", .message, some code⟩

/-- A session is opened, a code is compared, and an attempt is spent. -/
theorem one_guess_limited :
    ((List.replicate 2 (BindingTurn.message 0) ++ List.replicate 4 (BindingTurn.message 1)).foldl
      (BindingCrew.turn false) (.open ⟨0⟩ [sampleStart, sampleGuess "1111"])).WithinLimit := by
  refine guesses_limited false ⟨0⟩ [sampleStart, sampleGuess "1111"]
    (List.replicate 2 (.message 0) ++ List.replicate 4 (.message 1)) ?_ _ (List.prefix_refl _)
  refine ⟨?_, ?_, ?_, ?_, ?_, ?_, trivial⟩
  · rintro job ⟨⟩
    trivial
  · rintro job ⟨⟩ - window hmem
    exact absurd hmem List.not_mem_nil
  · rintro job ⟨⟩
    trivial
  · rintro job ⟨⟩
    trivial
  · rintro job ⟨⟩ window - - -
    exact ⟨_, rfl, by decide⟩
  · rintro job ⟨⟩
    trivial

/-- Six codes are compared before the first attempt is reserved. -/
def sampleRush : List BindingTurn :=
  List.replicate 2 (.message 0) ++
    [1, 2, 3, 4, 5, 6].flatMap (fun index => List.replicate 2 (.message index)) ++
    [1, 2, 3, 4, 5, 6].map .message

theorem six_guesses :
    ¬∀ (staffRoles : Bool) (now : Instant) (events : List StaffEvent) (turns : List BindingTurn),
      (turns.foldl (BindingCrew.turn staffRoles) (.open now events)).WithinLimit := by
  intro claim
  have hlimit := claim false ⟨0⟩ (sampleStart ::
    ["1111", "2222", "3333", "4444", "5555", "6666"].map sampleGuess) sampleRush
    ⟨"acme", .telegram, "7", .operator⟩
  revert hlimit
  decide +kernel

end DispatchCore.Messaging
