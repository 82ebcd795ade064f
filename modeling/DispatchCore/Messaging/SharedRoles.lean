import DispatchCore.Messaging.SharedStaff

/-! Events of the shared bot, handled side by side, while the staff is administered: each is
answered in a role that its member picked and holds. -/
namespace DispatchCore.Messaging

open DispatchCore.Library DispatchCore.Domain DispatchCore.Infrastructure Program

/-- The tables that the resolution reads and writes. -/
structure SharedStaff where
  identities : Identities
  callbacks : CallbackRows
  selections : Dict StaffAccount StaffRole

/-- What an operation takes from outside: the clock, and the menu of a role. -/
structure RoleDraw where
  now : Instant
  landing : Except Failure Reply

/-- What happens besides: the staff changes, buttons are minted and pressed, and an account that is
deleted takes its selection along. -/
inductive StaffChange
  | administer (identities : Identities)
  | press (callbacks : CallbackRows)
  | forget (account : StaffAccount)

namespace SharedStaff

def perform (event : SharedEvent) (draw : RoleDraw) (op : RoleOp) (staff : SharedStaff) :
    op.Answer × SharedStaff :=
  match op with
  | .resolve consumerKey =>
      (staff.identities.resolve event.account.organizationId .max event.account.externalUserId
        consumerKey, staff)
  | .peekAction token =>
      (PostgresCallbackStore.peekAction token event.account.organizationId (some event.claimKey)
        draw.now staff.callbacks, staff)
  | .resolveCallback token actorRole =>
      let (found, callbacks) := PostgresCallbackStore.resolve token event.account.organizationId
        actorRole (some event.claimKey) "" draw.now staff.callbacks
      (found, { staff with callbacks })
  | .complete callback =>
      let (completed, callbacks) := PostgresCallbackStore.complete callback.token
        callback.organizationId event.claimKey draw.now staff.callbacks
      (completed, { staff with callbacks })
  | .selected => (staff.selections.get? event.account, staff)
  | .put role => ((), { staff with selections := staff.selections.set event.account role })
  | .clear => ((), { staff with selections := staff.selections.erase event.account })
  | .landing _ _ => (draw.landing, staff)

def change (staff : SharedStaff) : StaffChange → SharedStaff
  | .administer identities => { staff with identities }
  | .press callbacks => { staff with callbacks }
  | .forget account => { staff with selections := staff.selections.erase account }

/-- The account's member acts under the identity: an active actor who has its role. -/
structure Holds (staff : SharedStaff) (account : StaffAccount) (identity : Resolved)
    (role : StaffRole) : Prop where
  found : staff.identities.externalIdentities.get?
    (account.organizationId, .messenger .max, account.externalUserId) = some identity.actorId
  active : ∃ row,
    staff.identities.actors.get? (account.organizationId, identity.actorId) = some row ∧
      row.active = true
  acting : identity.role = role.role
  held : staff.identities.hasRole (account.organizationId, identity.actorId) role.role = true

end SharedStaff

abbrev SharedWorld := Conversations SharedEvent SharedStaff RoleOp RoleOp.Answer Failure
  (Option Resolved × Option Reply)

abbrev SharedTalk := Conversation SharedEvent RoleOp RoleOp.Answer Failure
  (Option Resolved × Option Reply)

abbrev SharedTurn := ConversationTurn SharedEvent RoleDraw StaffChange

def sharedRules : ConversationRules SharedEvent SharedStaff RoleDraw StaffChange RoleOp
    RoleOp.Answer Failure (Option Resolved × Option Reply) where
  start := resolveSharedStaff
  perform := SharedStaff.perform
  outside event staff := staff.change event

section exchanges

variable {event : SharedEvent} {base identity : Resolved} {role : StaffRole}
  {exchanges : List (Exchange RoleOp RoleOp.Answer)}

/-- The two answers that an event is given before it is handled in a role. -/
def RoleAnswers (exchanges : List (Exchange RoleOp RoleOp.Answer)) (role : StaffRole)
    (identity : Resolved) : Prop :=
  ∃ front read asked, exchanges = front ++
    [⟨read, .selected, some role⟩, ⟨asked, .resolve role.role.value, some identity⟩]

theorem RoleAnswers.cons {moment : Nat} {op : RoleOp} {answer : op.Answer}
    (h : RoleAnswers exchanges role identity) :
    RoleAnswers (⟨moment, op, answer⟩ :: exchanges) role identity := by
  obtain ⟨front, read, asked, rfl⟩ := h
  exact ⟨⟨moment, op, answer⟩ :: front, read, asked, rfl⟩

theorem roleSelected_answers
    (led : Led (roleSelected base) exchanges (.done (some identity, none))) :
    ∃ role, RoleAnswers exchanges role identity := by
  unfold roleSelected at led
  obtain _ | @⟨_, _, answer, others, _, read, led⟩ := led
  cases answer with
  | none => cases led.of_done.2
  | some role =>
      obtain _ | @⟨_, _, answer, others, _, asked, led⟩ := led
      cases answer with
      | none =>
          obtain _ | @⟨_, _, answer, others, _, cleared, led⟩ := led
          cases led.of_done.2
      | some found =>
          obtain ⟨rfl, hend⟩ := led.of_done
          cases hend
          exact ⟨role, [], read, asked, rfl⟩

theorem completing_unanswered {callback : CallbackAction} {ending : RoleProgram}
    (ends : ∀ exchanges, ¬Led ending exchanges (.done (some identity, none))) :
    ¬Led (completing callback ending) exchanges (.done (some identity, none)) := by
  intro led
  unfold completing at led
  obtain _ | @⟨_, _, completed, others, _, moment, led⟩ := led
  cases completed with
  | true => exact ends _ led
  | false => cases led.of_raise.2

/-- A press of a role button is never handled in a role itself. -/
theorem rolePressed_unanswered {token : String} :
    ¬Led (rolePressed base token) exchanges (.done (some identity, none)) := by
  have hdone (found : Resolved) (reply : Reply) (told : List (Exchange RoleOp RoleOp.Answer)) :
      ¬Led (.done (some found, some reply) : RoleProgram) told (.done (some identity, none)) :=
    fun led => by cases led.of_done.2
  have hraise (failure : Failure) (told : List (Exchange RoleOp RoleOp.Answer)) :
      ¬Led (.raise failure : RoleProgram) told (.done (some identity, none)) :=
    fun led => by cases led.of_raise.2
  intro led
  unfold rolePressed at led
  obtain _ | @⟨_, _, answer, others, _, claimed, led⟩ := led
  cases answer with
  | none => exact hdone _ _ _ led
  | some callback =>
      dsimp only at led
      unfold rolePicked at led
      split at led
      · obtain _ | @⟨_, _, answer, others, _, cleared, led⟩ := led
        exact completing_unanswered (hdone _ _) led
      · obtain _ | @⟨_, _, answer, others, _, written, led⟩ := led
        obtain _ | @⟨_, _, answer, others, _, asked, led⟩ := led
        cases answer with
        | none =>
            obtain _ | @⟨_, _, answer, others, _, cleared, led⟩ := led
            exact completing_unanswered (hdone _ _) led
        | some found =>
            obtain _ | @⟨_, _, answer, others, _, landed, led⟩ := led
            cases answer with
            | ok reply => exact completing_unanswered (hdone _ _) led
            | error failure =>
                dsimp only at led
                split at led
                · exact completing_unanswered (hraise _) led
                · exact hraise _ _ led

/-- What an event has been told that is handled in a role. -/
theorem dispatched_answers
    (led : Led (resolveSharedStaff event) exchanges (.done (some identity, none))) :
    event.kind ≠ .start ∧ ∃ role, RoleAnswers exchanges role identity := by
  unfold resolveSharedStaff at led
  obtain _ | @⟨_, _, answer, others, _, first, led⟩ := led
  cases answer with
  | none => cases led.of_done.2
  | some base =>
      dsimp only at led
      split at led
      · cases led.of_done.2
      split at led
      · obtain _ | @⟨_, _, answer, others, _, cleared, led⟩ := led
        cases led.of_done.2
      · rename_i hkind
        refine ⟨hkind, ?_⟩
        split at led
        · obtain ⟨role, hanswers⟩ := roleSelected_answers led
          exact ⟨role, hanswers.cons⟩
        · obtain _ | @⟨_, _, action, others, _, peeked, led⟩ := led
          dsimp only at led
          split at led
          · exact absurd led rolePressed_unanswered
          · obtain ⟨role, hanswers⟩ := roleSelected_answers led
            exact ⟨role, hanswers.cons.cons⟩

/-- What an event has been told that is about to write a selection. -/
structure PutAnswers (event : SharedEvent) (exchanges : List (Exchange RoleOp RoleOp.Answer))
    (role : StaffRole) (base : Resolved) (token : String) (callback : CallbackAction)
    (first claimed : Nat) : Prop where
  kind : event.kind = .callback
  carried : event.callbackToken = some token
  known : ⟨first, .resolve "", some base⟩ ∈ exchanges
  resolved : ⟨claimed, .resolveCallback token base.role, some callback⟩ ∈ exchanges
  picked : StaffRole.picked base callback.payload = some role

theorem pressed_eq_some {token : String} (h : event.pressed = some token) :
    event.kind = .callback ∧ event.callbackToken = some token := by
  unfold SharedEvent.pressed at h
  split at h
  · rename_i hkind
    exact ⟨hkind, (Option.filter_eq_some_iff.mp h).1⟩
  · contradiction

theorem roleSelected_puts_nothing {resume : Unit → RoleProgram} :
    ¬Led (roleSelected base) exchanges (.call (.put role) resume) := by
  intro led
  unfold roleSelected at led
  obtain _ | @⟨_, _, answer, others, _, read, led⟩ := led
  cases answer with
  | none => cases led.of_done.2
  | some picked =>
      obtain _ | @⟨_, _, answer, others, _, asked, led⟩ := led
      cases answer with
      | none =>
          obtain _ | @⟨_, _, answer, others, _, cleared, led⟩ := led
          cases led.of_done.2
      | some found => cases led.of_done.2

theorem completing_puts_nothing {callback : CallbackAction} {ending : RoleProgram}
    {resume : Unit → RoleProgram} (ends : ending.finished = true) :
    ¬Led (completing callback ending) exchanges (.call (.put role) resume) := by
  intro led
  unfold completing at led
  obtain _ | @⟨_, _, completed, others, _, moment, led⟩ := led
  cases completed with
  | false => cases led.of_raise.2
  | true =>
      cases ending with
      | call op resume => contradiction
      | done value => cases led.of_done.2
      | raise failure => cases led.of_raise.2

theorem rolePicked_put {callback : CallbackAction} {resume : Unit → RoleProgram}
    (led : Led (rolePicked base callback) exchanges (.call (.put role) resume)) :
    StaffRole.picked base callback.payload = some role := by
  unfold rolePicked at led
  split at led
  · obtain _ | @⟨_, _, answer, others, _, cleared, led⟩ := led
    exact absurd led (completing_puts_nothing rfl)
  · rename_i picked hpicked
    cases led with
    | start => exact hpicked
    | @told _ _ answer others _ written led =>
        obtain _ | @⟨_, _, answer, others, _, asked, led⟩ := led
        cases answer with
        | none =>
            obtain _ | @⟨_, _, answer, others, _, cleared, led⟩ := led
            exact absurd led (completing_puts_nothing rfl)
        | some found =>
            obtain _ | @⟨_, _, answer, others, _, landed, led⟩ := led
            cases answer with
            | ok reply => exact absurd led (completing_puts_nothing rfl)
            | error failure =>
                dsimp only at led
                split at led
                · exact absurd led (completing_puts_nothing rfl)
                · cases led.of_raise.2

theorem put_answers {resume : Unit → RoleProgram}
    (led : Led (resolveSharedStaff event) exchanges (.call (.put role) resume)) :
    ∃ base token callback first claimed,
      PutAnswers event exchanges role base token callback first claimed := by
  unfold resolveSharedStaff at led
  obtain _ | @⟨_, _, answer, others, _, first, led⟩ := led
  cases answer with
  | none => cases led.of_done.2
  | some base =>
      dsimp only at led
      split at led
      · cases led.of_done.2
      split at led
      · obtain _ | @⟨_, _, answer, others, _, cleared, led⟩ := led
        cases led.of_done.2
      split at led
      · exact absurd led roleSelected_puts_nothing
      · rename_i token htoken
        obtain ⟨hkind, hpressed⟩ := pressed_eq_some htoken
        obtain _ | @⟨_, _, action, others, _, peeked, led⟩ := led
        dsimp only at led
        split at led
        · obtain _ | @⟨_, _, answer, others, _, claimed, led⟩ := led
          cases answer with
          | none => cases led.of_done.2
          | some callback =>
              exact ⟨base, token, callback, first, claimed, hkind, hpressed, by simp, by simp,
                rolePicked_put led⟩
        · exact absurd led roleSelected_puts_nothing

end exchanges

section tables

variable {staff : SharedStaff} {event : SharedEvent} {draw : RoleDraw} {account : StaffAccount}
  {role : StaffRole}

theorem SharedEvent.claimKey_ne (event : SharedEvent) : event.claimKey ≠ "" := by
  intro h
  have hlead : Provider.max.value ++ ":" = "" := (String.append_eq_empty_iff.mp h).1
  exact absurd hlead (by decide)

/-- Who is resolved for a role holds it. -/
theorem SharedStaff.holds_of_resolve {identity : Resolved}
    (h : staff.identities.resolve account.organizationId .max account.externalUserId
      role.role.value = some identity) : staff.Holds account identity role := by
  unfold Identities.resolve at h
  obtain ⟨actorId, hfound, h⟩ := Option.bind_eq_some_iff.mp h
  obtain ⟨row, hrow, h⟩ := Option.bind_eq_some_iff.mp h
  split at h
  · rename_i hactive
    obtain ⟨effective, heffective, h⟩ := Option.bind_eq_some_iff.mp h
    cases h
    have heffects := heffective
    have hrequested : requestedRole role.role.value = some role.role := by cases role <;> rfl
    unfold effectiveRole at heffects
    rw [hrequested] at heffects
    dsimp only at heffects
    split at heffects
    · cases heffects
      exact ⟨hfound, ⟨row, hrow, hactive⟩, rfl,
        Identities.mem_roleSet.mp (mem_of_effectiveRole heffective)⟩
    · contradiction
  · contradiction

/-- An operation leaves the selection of an account alone, or it is a write for that account. -/
theorem SharedStaff.perform_selections (staff : SharedStaff) (event : SharedEvent)
    (draw : RoleDraw) (account : StaffAccount) (op : RoleOp) :
    (¬(event.account = account ∧ op.Writes) ∧
      (staff.perform event draw op).2.selections.get? account = staff.selections.get? account) ∨
    event.account = account ∧
      ((∃ role, op = .put role ∧
        (staff.perform event draw op).2.selections.get? account = some role) ∨
      (staff.perform event draw op).2.selections.get? account = none) := by
  by_cases hsame : event.account = account
  · cases op with
    | put role =>
        refine .inr ⟨hsame, .inl ⟨role, rfl, ?_⟩⟩
        rw [← hsame]
        exact Dict.get?_set_self ..
    | clear =>
        refine .inr ⟨hsame, .inr ?_⟩
        rw [← hsame]
        exact Dict.get?_erase_self ..
    | _ => exact .inl ⟨fun h => h.2, rfl⟩
  · refine .inl ⟨fun h => hsame h.1, ?_⟩
    cases op with
    | put role => exact Dict.get?_set_of_ne _ _ fun h => hsame h.symm
    | clear =>
        refine (Dict.get?_erase ..).trans (if_neg fun h => hsame h.symm)
    | _ => rfl

theorem SharedStaff.change_selections (event : StaffChange)
    (h : (staff.change event).selections.get? account = some role) :
    staff.selections.get? account = some role := by
  cases event with
  | administer identities => exact h
  | press callbacks => exact h
  | forget other =>
      rw [SharedStaff.change, Dict.get?_erase] at h
      split at h
      · contradiction
      · exact h

end tables

/-- Nobody writes the selection of the account between the two moments. -/
def SelectionStands (talks : List SharedTalk) (account : StaffAccount) (since till : Nat) : Prop :=
  ∀ other ∈ talks, other.about.account = account → ∀ exchange ∈ other.exchanges,
    since < exchange.moment → exchange.moment < till → ¬exchange.op.Writes

theorem SelectionStands.succ {talks : List SharedTalk} {account : StaffAccount} {since till : Nat}
    (standing : SelectionStands talks account since till)
    (now : ∀ other ∈ talks, other.about.account = account → ∀ exchange ∈ other.exchanges,
      exchange.moment = till → ¬exchange.op.Writes) :
    SelectionStands talks account since (till + 1) := by
  intro other hother hsame exchange hexchange hsince htill
  cases Nat.lt_succ_iff_lt_or_eq.mp htill with
  | inl hbefore => exact standing other hother hsame exchange hexchange hsince hbefore
  | inr hnow => exact now other hother hsame exchange hexchange hnow

/-- The event was a press of a button that names the role, by a member who had it: who pressed was
known at one moment, what the button stands for at another, before the selection was written. -/
structure RolePicked (states : Nat → SharedStaff) (press : SharedTalk) (role : StaffRole)
    (base : Resolved) (row : CallbackRow) (seen claimed written : Nat) : Prop where
  kind : press.about.kind = .callback
  known : (states seen).identities.resolve press.about.account.organizationId .max
    press.about.account.externalUserId "" = some base
  has : role ∈ StaffRole.available base
  stored : ∃ token, press.about.callbackToken = some token ∧
    (states claimed).callbacks.get? token = some row
  own : row.organizationId = press.about.account.organizationId
  names : StaffRole.picked base row.payload = some role
  during : press.since ≤ seen ∧ seen < written ∧ press.since ≤ claimed ∧ claimed < written

/-- The event is handled in a role that the account picked last, and that its member holds while the
event is handled. -/
structure ActsIn (states : Nat → SharedStaff) (talks : List SharedTalk) (talk press : SharedTalk)
    (identity : Resolved) (role : StaffRole) (written read asked : Nat) : Prop where
  same : press.about.account = talk.about.account
  picked : ∃ base row seen claimed, RolePicked states press role base row seen claimed written
  standing : written < read ∧ SelectionStands talks talk.about.account written read
  selected : (states read).selections.get? talk.about.account = some role
  holds : (states asked).Holds talk.about.account identity role
  during : talk.since ≤ read ∧ read < asked

section world

variable {states : Nat → SharedStaff} {world : SharedWorld} {role : StaffRole}

theorem picked_of_put (conversing : Conversing sharedRules states world) {press : SharedTalk}
    (hpress : press ∈ world.talks) {exchange : Exchange RoleOp RoleOp.Answer}
    (hexchange : exchange ∈ press.exchanges) (puts : exchange.op = .put role) :
    ∃ base row seen claimed,
      RolePicked states press role base row seen claimed exchange.moment := by
  obtain ⟨front, resume, hfront, hmem, hearlier⟩ := conversing.asked hpress hexchange
  obtain ⟨written, op, answer⟩ := exchange
  cases puts
  obtain ⟨base, token, callback, first, claimed, hanswers⟩ := put_answers hfront
  have hbefore : ∀ earlier ∈ front, press.since ≤ earlier.moment ∧ earlier.moment < written :=
    fun earlier h => ⟨(conversing.timely press hpress earlier (hmem h)).1, hearlier earlier h⟩
  obtain ⟨_, hknown⟩ := conversing.heard press hpress _ (hmem hanswers.known)
  obtain ⟨draw, hresolved⟩ := conversing.heard press hpress _ (hmem hanswers.resolved)
  have hresolve : (PostgresCallbackStore.resolve token press.about.account.organizationId base.role
      (some press.about.claimKey) "" draw.now (states claimed).callbacks).1 = some callback :=
    congrArg Prod.fst hresolved
  obtain ⟨row, hrow, hresolvable, rfl, -⟩ := (PostgresCallbackStore.resolve_eq_some token _ _ _ _
    press.about.claimKey_ne "").mp (Prod.ext hresolve rfl)
  obtain ⟨hseen, hwritten⟩ := hbefore _ hanswers.known
  obtain ⟨hlate, hclaimed⟩ := hbefore _ hanswers.resolved
  exact ⟨base, row, first, claimed, hanswers.kind, congrArg Prod.fst hknown,
    StaffRole.mem_of_picked hanswers.picked, ⟨token, hanswers.carried, hrow⟩, hresolvable.1,
    hanswers.picked, hseen, hwritten, hlate, hclaimed⟩

/-- A selection that is found was put by a press of the account, and stands since. -/
theorem last_pick (conversing : Conversing sharedRules states world) {account : StaffAccount}
    (fresh : (states 0).selections.get? account = none) {moment : Nat}
    (reached : moment ≤ world.clock)
    (selected : (states moment).selections.get? account = some role) :
    ∃ press ∈ world.talks, press.about.account = account ∧ ∃ exchange ∈ press.exchanges,
      exchange.op = .put role ∧ exchange.moment < moment ∧
        SelectionStands world.talks account exchange.moment moment := by
  induction moment with
  | zero =>
      rw [fresh] at selected
      contradiction
  | succ moment ih =>
      have hbefore := Nat.le_of_succ_le reached
      -- what stands until now goes on standing, as nobody writes at this moment
      have hstands (h : (states moment).selections.get? account = some role)
          (now : ∀ other ∈ world.talks, other.about.account = account →
            ∀ exchange ∈ other.exchanges, exchange.moment = moment → ¬exchange.op.Writes) :
          ∃ press ∈ world.talks, press.about.account = account ∧ ∃ exchange ∈ press.exchanges,
            exchange.op = .put role ∧ exchange.moment < moment + 1 ∧
              SelectionStands world.talks account exchange.moment (moment + 1) := by
        obtain ⟨press, hpress, hsame, exchange, hexchange, hputs, hearlier, hstanding⟩ :=
          ih hbefore h
        exact ⟨press, hpress, hsame, exchange, hexchange, hputs, Nat.lt_succ_of_lt hearlier,
          hstanding.succ now⟩
      by_cases htold : ∃ talk ∈ world.talks, ∃ exchange ∈ talk.exchanges, exchange.moment = moment
      · obtain ⟨talk, htalk, exchange, hexchange, rfl⟩ := htold
        obtain ⟨draw, hperformed⟩ := conversing.heard talk htalk exchange hexchange
        have hafter : (SharedStaff.perform talk.about draw exchange.op
            (states exchange.moment)).2 = states (exchange.moment + 1) :=
          congrArg Prod.snd hperformed
        have heffect := (states exchange.moment).perform_selections talk.about draw account
          exchange.op
        rw [hafter] at heffect
        rcases heffect with ⟨hleaves, hkept⟩ | ⟨hsame, ⟨put, hputs, hset⟩ | hcleared⟩
        · refine hstands (hkept ▸ selected) ?_
          intro other hother hown another hanother hnow hwrites
          obtain ⟨habout, rfl⟩ := conversing.single talk htalk other hother exchange hexchange
            another hanother hnow.symm
          exact hleaves ⟨habout ▸ hown, hwrites⟩
        · cases hset.symm.trans selected
          refine ⟨talk, htalk, hsame, exchange, hexchange, hputs, Nat.lt_succ_self _, ?_⟩
          intro other hother hown another hanother hsince htill
          omega
        · rw [hcleared] at selected
          contradiction
      · have hnobody : ∀ other ∈ world.talks, other.about.account = account →
            ∀ exchange ∈ other.exchanges, exchange.moment = moment → ¬exchange.op.Writes :=
          fun other hother _ exchange hexchange hnow =>
            absurd ⟨other, hother, exchange, hexchange, hnow⟩ htold
        rcases conversing.changed moment reached with hsame | ⟨event, hchanged⟩ | hexchange
        · exact hstands (hsame ▸ selected) hnobody
        · rw [hchanged] at selected
          exact hstands (SharedStaff.change_selections event selected) hnobody
        · exact absurd hexchange htold

theorem acts_in (conversing : Conversing sharedRules states world)
    (fresh : (states 0).selections = .empty) {talk : SharedTalk} (htalk : talk ∈ world.talks)
    {identity : Resolved} (handled : talk.program = .done (some identity, none)) :
    talk.about.kind ≠ .start ∧ ∃ press ∈ world.talks, ∃ role written read asked,
      ActsIn states world.talks talk press identity role written read asked := by
  have hled := conversing.led talk htalk
  rw [handled] at hled
  obtain ⟨hkind, role, front, read, asked, hanswers⟩ := dispatched_answers hled
  refine ⟨hkind, ?_⟩
  have hread : (⟨read, .selected, some role⟩ : Exchange RoleOp RoleOp.Answer) ∈ talk.exchanges := by
    rw [hanswers]
    simp
  have hasked : (⟨asked, .resolve role.role.value, some identity⟩ :
      Exchange RoleOp RoleOp.Answer) ∈ talk.exchanges := by
    rw [hanswers]
    simp
  have horder : read < asked := by
    have hordered := conversing.ordered talk htalk
    rw [hanswers, List.map_append, List.pairwise_append] at hordered
    exact List.rel_of_pairwise_cons hordered.2.1 (List.mem_cons_self ..)
  obtain ⟨hsince, hclock⟩ := conversing.timely talk htalk _ hread
  obtain ⟨_, hselected⟩ := conversing.heard talk htalk _ hread
  obtain ⟨_, hresolved⟩ := conversing.heard talk htalk _ hasked
  have hfound : (states read).selections.get? talk.about.account = some role :=
    congrArg Prod.fst hselected
  have hnone : (states 0).selections.get? talk.about.account = none := by
    rw [fresh]
    rfl
  obtain ⟨press, hpress, hsame, exchange, hexchange, hputs, hearlier, hstanding⟩ :=
    last_pick conversing hnone (Nat.le_of_lt hclock) hfound
  exact ⟨press, hpress, role, exchange.moment, read, asked, hsame,
    picked_of_put conversing hpress hexchange hputs, ⟨hearlier, hstanding⟩, hfound,
    SharedStaff.holds_of_resolve (congrArg Prod.fst hresolved), hsince, horder⟩

end world

end DispatchCore.Messaging
