import DispatchCore.Library.Program

/-! Programs that run side by side over one state: what each was told, when, and by what state.
A program asks for one operation at a time; between two of them anybody else may act. -/
namespace DispatchCore.Library

/-- An operation that was asked for, with its answer and the moment of the answer. -/
structure Exchange (Op : Type) (Answer : Op → Type) where
  moment : Nat
  op : Op
  answer : Answer op

namespace Program

variable {Op : Type} {Answer : Op → Type} {ε α : Type} {first rest : Program Op Answer ε α}

/-- The program that ends with what this one raises as well. -/
def attempted {ε' : Type} : Program Op Answer ε α → Program Op Answer ε' (Except ε α)
  | done value => done (.ok value)
  | raise failure => done (.error failure)
  | call op resume => call op fun answer => (resume answer).attempted

/-- The answers lead the program to what is left of it. -/
inductive Led : Program Op Answer ε α → List (Exchange Op Answer) → Program Op Answer ε α → Prop
  | start (program : Program Op Answer ε α) : Led program [] program
  | told {op : Op} {resume : Answer op → Program Op Answer ε α} {answer : Answer op}
      {others : List (Exchange Op Answer)} {rest : Program Op Answer ε α} (moment : Nat)
      (led : Led (resume answer) others rest) :
      Led (.call op resume) (⟨moment, op, answer⟩ :: others) rest

namespace Led

theorem snoc {exchanges : List (Exchange Op Answer)} {op : Op}
    {resume : Answer op → Program Op Answer ε α} (led : Led first exchanges (.call op resume))
    (moment : Nat) (answer : Answer op) :
    Led first (exchanges ++ [⟨moment, op, answer⟩]) (resume answer) := by
  generalize hlast : Program.call op resume = last at led
  induction led with
  | start program =>
      subst hlast
      exact .told moment (.start _)
  | told earlier _ ih => exact .told earlier (ih hlast)

/-- Where the program was after the first of the answers. -/
theorem split {front back : List (Exchange Op Answer)} (led : Led first (front ++ back) rest) :
    ∃ middle, Led first front middle ∧ Led middle back rest := by
  induction front generalizing first with
  | nil => exact ⟨first, .start first, led⟩
  | cons head others ih =>
      cases led with
      | told moment led =>
          obtain ⟨middle, hfront, hback⟩ := ih led
          exact ⟨middle, .told moment hfront, hback⟩

theorem of_done {value : α} {exchanges : List (Exchange Op Answer)}
    (led : Led (.done value) exchanges rest) : exchanges = [] ∧ rest = .done value := by
  cases led
  exact ⟨rfl, rfl⟩

theorem of_raise {failure : ε} {exchanges : List (Exchange Op Answer)}
    (led : Led (.raise failure) exchanges rest) : exchanges = [] ∧ rest = .raise failure := by
  cases led
  exact ⟨rfl, rfl⟩

/-- What a program in two parts has come to: it asks in the first, has failed there, or is in the
second. -/
theorem bind {β : Type} {program : Program Op Answer ε β} {next : β → Program Op Answer ε α}
    {exchanges : List (Exchange Op Answer)} (led : Led (program >>= next) exchanges rest) :
    (∃ op resume, Led program exchanges (.call op resume) ∧
      rest = .call op fun answer => resume answer >>= next) ∨
    (∃ failure, Led program exchanges (.raise failure) ∧ rest = .raise failure) ∨
    ∃ front back value, exchanges = front ++ back ∧ Led program front (.done value) ∧
      Led (next value) back rest := by
  induction program generalizing exchanges with
  | done value => exact .inr (.inr ⟨[], exchanges, value, rfl, .start _, led⟩)
  | raise failure =>
      obtain ⟨rfl, rfl⟩ := of_raise led
      exact .inr (.inl ⟨failure, .start _, rfl⟩)
  | call op resume ih =>
      rw [call_bind] at led
      cases led with
      | start => exact .inl ⟨op, resume, .start _, rfl⟩
      | told moment led =>
          rcases ih _ led with ⟨later, others, hled, hrest⟩ | ⟨failure, hled, hrest⟩ |
            ⟨front, back, value, rfl, hled, hrest⟩
          · exact .inl ⟨later, others, .told moment hled, hrest⟩
          · exact .inr (.inl ⟨failure, .told moment hled, hrest⟩)
          · exact .inr (.inr ⟨_ :: front, back, value, rfl, .told moment hled, hrest⟩)

/-- The second part is over only after the first. -/
theorem bind_done {β : Type} {program : Program Op Answer ε β} {next : β → Program Op Answer ε α}
    {value : α} {exchanges : List (Exchange Op Answer)}
    (led : Led (program >>= next) exchanges (.done value)) :
    ∃ front back found, exchanges = front ++ back ∧ Led program front (.done found) ∧
      Led (next found) back (.done value) := by
  rcases led.bind with ⟨op, resume, -, h⟩ | ⟨failure, -, h⟩ | h
  · contradiction
  · contradiction
  · exact h

theorem attempted {ε' : Type} {program : Program Op Answer ε α}
    {exchanges : List (Exchange Op Answer)} {rest : Program Op Answer ε' (Except ε α)}
    (led : Led program.attempted exchanges rest) :
    ∃ middle, Led program exchanges middle ∧ rest = middle.attempted := by
  induction program generalizing exchanges with
  | done value =>
      obtain ⟨rfl, rfl⟩ := of_done led
      exact ⟨_, .start _, rfl⟩
  | raise failure =>
      obtain ⟨rfl, rfl⟩ := of_done led
      exact ⟨_, .start _, rfl⟩
  | call op resume ih =>
      unfold Program.attempted at led
      cases led with
      | start => exact ⟨_, .start _, rfl⟩
      | told moment led =>
          obtain ⟨middle, hmiddle, hrest⟩ := ih _ led
          exact ⟨middle, .told moment hmiddle, hrest⟩

/-- What is left of a program asks only for what the program may ask for. -/
theorem obeys {may : Op → Prop} {exchanges : List (Exchange Op Answer)}
    (obeys : first.Obeys may (fun _ _ => True) (fun _ => True) fun _ => True)
    (led : Led first exchanges rest) :
    rest.Obeys may (fun _ _ => True) (fun _ => True) fun _ => True := by
  induction led with
  | start program => exact obeys
  | told moment _ ih => exact ih (obeys.2 _ True.intro)

end Led
end Program

/-- A program under way for an event. -/
structure Conversation (κ Op : Type) (Answer : Op → Type) (ε α : Type) where
  about : κ
  since : Nat
  exchanges : List (Exchange Op Answer)
  program : Program Op Answer ε α
  crashed : Bool

/-- The conversation after one exchange more. -/
def Conversation.told {κ Op : Type} {Answer : Op → Type} {ε α : Type}
    (talk : Conversation κ Op Answer ε α) (exchange : Exchange Op Answer)
    (program : Program Op Answer ε α) : Conversation κ Op Answer ε α :=
  { talk with
    exchanges := talk.exchanges ++ [exchange]
    program }

structure Conversations (κ σ Op : Type) (Answer : Op → Type) (ε α : Type) where
  state : σ
  clock : Nat
  talks : List (Conversation κ Op Answer ε α)

/-- `outside` is whatever else happens to the state. -/
inductive ConversationTurn (κ δ ω : Type)
  | begins (about : κ)
  | advance (index : Nat) (draw : δ)
  | crash (index : Nat)
  | outside (event : ω)

/-- The programs, what an operation answers and does, and what else may happen. -/
structure ConversationRules (κ σ δ ω Op : Type) (Answer : Op → Type) (ε α : Type) where
  start : κ → Program Op Answer ε α
  perform : κ → δ → (op : Op) → σ → Answer op × σ
  outside : ω → σ → σ

section turns

variable {κ σ δ ω Op : Type} {Answer : Op → Type} {ε α : Type}
  (rules : ConversationRules κ σ δ ω Op Answer ε α)

namespace Conversations

def ticked (world : Conversations κ σ Op Answer ε α) : Conversations κ σ Op Answer ε α :=
  { world with clock := world.clock + 1 }

def turn (world : Conversations κ σ Op Answer ε α) :
    ConversationTurn κ δ ω → Conversations κ σ Op Answer ε α
  | .begins about =>
      { world.ticked with
        talks := world.talks ++ [⟨about, world.clock, [], rules.start about, false⟩] }
  | .advance index draw =>
      match world.talks[index]? with
      | none => world.ticked
      | some talk =>
          if talk.crashed then world.ticked
          else
            match talk.program with
            | .call op resume =>
                let (answer, after) := rules.perform talk.about draw op world.state
                { state := after
                  clock := world.clock + 1
                  talks := world.talks.set index
                    (talk.told ⟨world.clock, op, answer⟩ (resume answer)) }
            | _ => world.ticked
  | .crash index =>
      match world.talks[index]? with
      | none => world.ticked
      | some talk =>
          { world.ticked with talks := world.talks.set index { talk with crashed := true } }
  | .outside event => { world.ticked with state := rules.outside event world.state }

def run (first : σ) (turns : List (ConversationTurn κ δ ω)) : Conversations κ σ Op Answer ε α :=
  turns.foldl (turn rules) ⟨first, 0, []⟩

/-- The state after so many turns. -/
def stateAt (first : σ) (turns : List (ConversationTurn κ δ ω)) (moment : Nat) : σ :=
  (run rules first (turns.take moment)).state

end Conversations

/-- Every talk has come where it is by the answers it was given, each by the state of its moment;
the state changes by these answers and from outside. -/
structure Conversing (states : Nat → σ) (world : Conversations κ σ Op Answer ε α) : Prop where
  led : ∀ talk ∈ world.talks, (rules.start talk.about).Led talk.exchanges talk.program
  ordered : ∀ talk ∈ world.talks, (talk.exchanges.map Exchange.moment).Pairwise (· < ·)
  timely : ∀ talk ∈ world.talks, ∀ exchange ∈ talk.exchanges,
    talk.since ≤ exchange.moment ∧ exchange.moment < world.clock
  opened : ∀ talk ∈ world.talks, talk.since < world.clock
  heard : ∀ talk ∈ world.talks, ∀ exchange ∈ talk.exchanges, ∃ draw,
    rules.perform talk.about draw exchange.op (states exchange.moment) =
      (exchange.answer, states (exchange.moment + 1))
  single : ∀ talk ∈ world.talks, ∀ other ∈ world.talks, ∀ exchange ∈ talk.exchanges,
    ∀ another ∈ other.exchanges, exchange.moment = another.moment →
      talk.about = other.about ∧ exchange = another
  changed : ∀ moment < world.clock, states (moment + 1) = states moment ∨
    (∃ event, states (moment + 1) = rules.outside event (states moment)) ∨
      ∃ talk ∈ world.talks, ∃ exchange ∈ talk.exchanges, exchange.moment = moment
  now : states world.clock = world.state

namespace Conversing

variable {rules} {states : Nat → σ} {world : Conversations κ σ Op Answer ε α}

theorem first (state : σ) (h : states 0 = state) :
    Conversing rules states ⟨state, 0, []⟩ where
  led _ htalk := by contradiction
  ordered _ htalk := by contradiction
  timely _ htalk := by contradiction
  opened _ htalk := by contradiction
  heard _ htalk := by contradiction
  single _ htalk := by contradiction
  changed _ hmoment := by contradiction
  now := h

/-- A turn that only takes time, or changes the state from outside. -/
theorem elsewhere (conversing : Conversing rules states world) {after : σ}
    (next : states (world.clock + 1) = after)
    (outside : after = world.state ∨ ∃ event, after = rules.outside event world.state) :
    Conversing rules states { world.ticked with state := after } where
  led := conversing.led
  ordered := conversing.ordered
  timely talk htalk exchange hexchange := by
    have htime := conversing.timely talk htalk exchange hexchange
    exact ⟨htime.1, Nat.lt_succ_of_lt htime.2⟩
  opened talk htalk := Nat.lt_succ_of_lt (conversing.opened talk htalk)
  heard := conversing.heard
  single := conversing.single
  changed moment hmoment := by
    cases Nat.lt_succ_iff_lt_or_eq.mp hmoment with
    | inl hbefore => exact conversing.changed moment hbefore
    | inr hnow =>
        subst hnow
        rw [next, conversing.now]
        exact outside.elim .inl fun h => .inr (.inl h)
  now := next

/-- Nobody is told anything, whatever becomes of the talks otherwise. -/
theorem untold (conversing : Conversing rules states world)
    {talks : List (Conversation κ Op Answer ε α)}
    (next : states (world.clock + 1) = world.state)
    (origin : ∀ talk ∈ talks,
      (∃ before ∈ world.talks, talk.about = before.about ∧ talk.since = before.since ∧
        talk.exchanges = before.exchanges ∧ talk.program = before.program) ∨
      talk.since = world.clock ∧ talk.exchanges = [] ∧ talk.program = rules.start talk.about)
    (kept : ∀ before ∈ world.talks, ∃ talk ∈ talks, talk.exchanges = before.exchanges) :
    Conversing rules states { world.ticked with talks } := by
  have hbase := conversing.elsewhere next (.inl rfl)
  have htold : ∀ talk ∈ talks, ∀ exchange ∈ talk.exchanges, ∃ before ∈ world.talks,
      talk.about = before.about ∧ talk.since = before.since ∧ exchange ∈ before.exchanges := by
    intro talk htalk exchange hexchange
    rcases origin talk htalk with ⟨before, hbefore, habout, hsince, hsame, -⟩ | ⟨-, hnone, -⟩
    · exact ⟨before, hbefore, habout, hsince, hsame ▸ hexchange⟩
    · rw [hnone] at hexchange
      contradiction
  constructor
  case led =>
    intro talk htalk
    rcases origin talk htalk with ⟨before, hbefore, habout, -, hsame, hprogram⟩ | ⟨-, hnone, hstart⟩
    · rw [habout, hsame, hprogram]
      exact hbase.led before hbefore
    · rw [hnone, hstart]
      exact .start _
  case ordered =>
    intro talk htalk
    rcases origin talk htalk with ⟨before, hbefore, -, -, hsame, -⟩ | ⟨-, hnone, -⟩
    · rw [hsame]
      exact hbase.ordered before hbefore
    · rw [hnone]
      exact .nil
  case timely =>
    intro talk htalk exchange hexchange
    obtain ⟨before, hbefore, -, hsince, hmem⟩ := htold talk htalk exchange hexchange
    rw [hsince]
    exact hbase.timely before hbefore exchange hmem
  case opened =>
    intro talk htalk
    rcases origin talk htalk with ⟨before, hbefore, -, hsince, -⟩ | ⟨hsince, -⟩
    · rw [hsince]
      exact hbase.opened before hbefore
    · rw [hsince]
      exact Nat.lt_succ_self _
  case heard =>
    intro talk htalk exchange hexchange
    obtain ⟨before, hbefore, habout, -, hmem⟩ := htold talk htalk exchange hexchange
    rw [habout]
    exact hbase.heard before hbefore exchange hmem
  case single =>
    intro talk htalk other hother exchange hexchange another hanother hsame
    obtain ⟨before, hbefore, habout, -, hmem⟩ := htold talk htalk exchange hexchange
    obtain ⟨earlier, hearlier, habouts, -, hmems⟩ := htold other hother another hanother
    rw [habout, habouts]
    exact hbase.single before hbefore earlier hearlier exchange hmem another hmems hsame
  case changed =>
    intro moment hmoment
    rcases hbase.changed moment hmoment with hsame | houtside | ⟨before, hbefore, hexchange⟩
    · exact .inl hsame
    · exact .inr (.inl houtside)
    · obtain ⟨talk, htalk, hsame⟩ := kept before hbefore
      exact .inr (.inr ⟨talk, htalk, by rwa [hsame]⟩)
  case now => exact next

variable {index : Nat} {talk : Conversation κ Op Answer ε α}

theorem mem_set_or (found : world.talks[index]? = some talk)
    (after : Conversation κ Op Answer ε α) {before : Conversation κ Op Answer ε α}
    (hbefore : before ∈ world.talks) :
    before ∈ world.talks.set index after ∨ before = talk ∧ after ∈ world.talks.set index after := by
  obtain ⟨place, hplace⟩ := List.getElem?_of_mem hbefore
  by_cases hindex : place = index
  · subst hindex
    have hbound := (List.getElem?_eq_some_iff.mp found).1
    cases found.symm.trans hplace
    exact .inr ⟨rfl, List.mem_of_getElem? (List.getElem?_set_self hbound)⟩
  · exact .inl (List.mem_of_getElem? ((List.getElem?_set_ne (Ne.symm hindex)).trans hplace))

/-- A talk is given its next answer. -/
theorem answered (conversing : Conversing rules states world)
    (found : world.talks[index]? = some talk) {op : Op}
    {resume : Answer op → Program Op Answer ε α} (asks : talk.program = .call op resume) {draw : δ}
    {answer : Answer op} {after : σ}
    (performed : rules.perform talk.about draw op world.state = (answer, after))
    (next : states (world.clock + 1) = after) :
    Conversing rules states
      { state := after
        clock := world.clock + 1
        talks := world.talks.set index (talk.told ⟨world.clock, op, answer⟩ (resume answer)) } := by
  have hmem := List.mem_of_getElem? found
  have hcases : ∀ other ∈ world.talks.set index
      (talk.told ⟨world.clock, op, answer⟩ (resume answer)),
      other ∈ world.talks ∨ other = talk.told ⟨world.clock, op, answer⟩ (resume answer) :=
    fun other hother => List.mem_or_eq_of_mem_set hother
  have htold : ∀ other ∈ world.talks.set index
      (talk.told ⟨world.clock, op, answer⟩ (resume answer)), ∀ exchange ∈ other.exchanges,
        (∃ before ∈ world.talks, other.about = before.about ∧ other.since = before.since ∧
          exchange ∈ before.exchanges) ∨
        other.about = talk.about ∧ other.since = talk.since ∧
          exchange = ⟨world.clock, op, answer⟩ := by
    intro other hother exchange hexchange
    rcases hcases other hother with hold | rfl
    · exact .inl ⟨other, hold, rfl, rfl, hexchange⟩
    · rcases List.mem_append.mp hexchange with hbefore | hnow
      · exact .inl ⟨talk, hmem, rfl, rfl, hbefore⟩
      · exact .inr ⟨rfl, rfl, List.mem_singleton.mp hnow⟩
  constructor
  case led =>
    intro other hother
    rcases hcases other hother with hold | rfl
    · exact conversing.led other hold
    · exact (asks ▸ conversing.led talk hmem).snoc world.clock answer
  case ordered =>
    intro other hother
    rcases hcases other hother with hold | rfl
    · exact conversing.ordered other hold
    · rw [Conversation.told, List.map_append, List.pairwise_append]
      refine ⟨conversing.ordered talk hmem, List.pairwise_singleton _ _, ?_⟩
      intro moment hmoment now hnow
      obtain ⟨exchange, hexchange, rfl⟩ := List.mem_map.mp hmoment
      cases List.mem_singleton.mp hnow
      exact (conversing.timely talk hmem exchange hexchange).2
  case timely =>
    intro other hother exchange hexchange
    rcases htold other hother exchange hexchange with ⟨before, hbefore, -, hsince, hold⟩ |
      ⟨-, hsince, rfl⟩
    · have htime := conversing.timely before hbefore exchange hold
      rw [hsince]
      exact ⟨htime.1, Nat.lt_succ_of_lt htime.2⟩
    · rw [hsince]
      exact ⟨Nat.le_of_lt (conversing.opened talk hmem), Nat.lt_succ_self _⟩
  case opened =>
    intro other hother
    rcases hcases other hother with hold | rfl
    · exact Nat.lt_succ_of_lt (conversing.opened other hold)
    · exact Nat.lt_succ_of_lt (conversing.opened talk hmem)
  case heard =>
    intro other hother exchange hexchange
    rcases htold other hother exchange hexchange with ⟨before, hbefore, habout, -, hold⟩ |
      ⟨habout, -, rfl⟩
    · rw [habout]
      exact conversing.heard before hbefore exchange hold
    · refine ⟨draw, ?_⟩
      rw [habout, next, conversing.now]
      exact performed
  case single =>
    intro one hone other hother exchange hexchange another hanother hsame
    rcases htold one hone exchange hexchange with ⟨before, hbefore, habout, -, hold⟩ |
      ⟨habout, -, rfl⟩
    · rcases htold other hother another hanother with ⟨earlier, hearlier, habouts, -, holds⟩ |
        ⟨-, -, rfl⟩
      · rw [habout, habouts]
        exact conversing.single before hbefore earlier hearlier exchange hold another holds hsame
      · have htime := (conversing.timely before hbefore exchange hold).2
        rw [hsame] at htime
        exact absurd htime (Nat.lt_irrefl _)
    · rcases htold other hother another hanother with ⟨earlier, hearlier, -, -, holds⟩ |
        ⟨habouts, -, rfl⟩
      · have htime := (conversing.timely earlier hearlier another holds).2
        rw [← hsame] at htime
        exact absurd htime (Nat.lt_irrefl _)
      · exact ⟨habout.trans habouts.symm, rfl⟩
  case changed =>
    intro moment hmoment
    cases Nat.lt_succ_iff_lt_or_eq.mp hmoment with
    | inl hbefore =>
        rcases conversing.changed moment hbefore with hsame | houtside | ⟨other, hother, hexchange⟩
        · exact .inl hsame
        · exact .inr (.inl houtside)
        · refine .inr (.inr ?_)
          rcases mem_set_or found (talk.told ⟨world.clock, op, answer⟩ (resume answer)) hother with
            hold | ⟨rfl, hnew⟩
          · exact ⟨other, hold, hexchange⟩
          · obtain ⟨exchange, hmem, hmoment⟩ := hexchange
            exact ⟨_, hnew, exchange, List.mem_append_left _ hmem, hmoment⟩
    | inr hnow =>
        have hset := List.mem_of_getElem? (List.getElem?_set_self
          (a := talk.told ⟨world.clock, op, answer⟩ (resume answer))
          (List.getElem?_eq_some_iff.mp found).1)
        exact .inr (.inr ⟨_, hset, ⟨world.clock, op, answer⟩,
          List.mem_append_right _ (List.mem_singleton_self _), hnow.symm⟩)
  case now => exact next

theorem turn (conversing : Conversing rules states world) (event : ConversationTurn κ δ ω)
    (next : states (world.clock + 1) = (world.turn rules event).state) :
    Conversing rules states (world.turn rules event) := by
  have hidle (h : world.turn rules event = world.ticked) :
      Conversing rules states (world.turn rules event) := by
    rw [h] at next ⊢
    exact conversing.elsewhere next (.inl rfl)
  cases event with
  | begins about =>
      refine conversing.untold next (fun talk htalk => ?_) fun before hbefore =>
        ⟨before, List.mem_append_left _ hbefore, rfl⟩
      rcases List.mem_append.mp htalk with hold | hnew
      · exact .inl ⟨talk, hold, rfl, rfl, rfl, rfl⟩
      · cases List.mem_singleton.mp hnew
        exact .inr ⟨rfl, rfl, rfl⟩
  | outside event => exact conversing.elsewhere next (.inr ⟨event, rfl⟩)
  | crash index =>
      cases hfound : world.talks[index]? with
      | none => exact hidle (by simp only [Conversations.turn, hfound])
      | some talk =>
          simp only [Conversations.turn, hfound] at next ⊢
          refine conversing.untold next (fun other hother => .inl ?_) fun before hbefore => ?_
          · rcases List.mem_or_eq_of_mem_set hother with hold | rfl
            · exact ⟨other, hold, rfl, rfl, rfl, rfl⟩
            · exact ⟨talk, List.mem_of_getElem? hfound, rfl, rfl, rfl, rfl⟩
          · rcases mem_set_or hfound { talk with crashed := true } hbefore with hold | ⟨rfl, hnew⟩
            · exact ⟨before, hold, rfl⟩
            · exact ⟨_, hnew, rfl⟩
  | advance index draw =>
      cases hfound : world.talks[index]? with
      | none => exact hidle (by simp only [Conversations.turn, hfound])
      | some talk =>
          by_cases hcrashed : talk.crashed = true
          · exact hidle (by simp only [Conversations.turn, hfound, hcrashed, if_true])
          · cases hprogram : talk.program with
            | done value => exact hidle (by simp [Conversations.turn, hfound, hcrashed, hprogram])
            | raise failure =>
                exact hidle (by simp [Conversations.turn, hfound, hcrashed, hprogram])
            | call op resume =>
                have hturn : world.turn rules (.advance index draw) =
                    let (answer, after) := rules.perform talk.about draw op world.state
                    { state := after
                      clock := world.clock + 1
                      talks := world.talks.set index
                        (talk.told ⟨world.clock, op, answer⟩ (resume answer)) } := by
                  simp [Conversations.turn, hfound, hcrashed, hprogram]
                rw [hturn] at next ⊢
                exact conversing.answered hfound hprogram rfl next

end Conversing

theorem conversations_clock (first : σ) (turns : List (ConversationTurn κ δ ω)) :
    (Conversations.run rules first turns).clock = turns.length := by
  have hturn (world : Conversations κ σ Op Answer ε α) (event : ConversationTurn κ δ ω) :
      (world.turn rules event).clock = world.clock + 1 := by
    cases event with
    | begins about => rfl
    | outside event => rfl
    | crash index =>
        unfold Conversations.turn
        dsimp only
        split <;> rfl
    | advance index draw =>
        unfold Conversations.turn
        dsimp only
        split
        · rfl
        · split
          · rfl
          · split <;> rfl
  have hrun (world : Conversations κ σ Op Answer ε α) :
      (turns.foldl (Conversations.turn rules) world).clock = world.clock + turns.length := by
    induction turns generalizing world with
    | nil => rfl
    | cons event others ih =>
        rw [List.foldl_cons, ih, hturn, List.length_cons]
        omega
  rw [Conversations.run, hrun, Nat.zero_add]

section moments

variable {rules} {states : Nat → σ} {world : Conversations κ σ Op Answer ε α}

/-- The state changes from outside, or by what a talk was told at that moment. -/
theorem Conversing.next (conversing : Conversing rules states world) {moment : Nat}
    (before : moment < world.clock) :
    states (moment + 1) = states moment ∨
    (∃ event, states (moment + 1) = rules.outside event (states moment)) ∨
    ∃ talk ∈ world.talks, ∃ exchange ∈ talk.exchanges, exchange.moment = moment ∧
      ∃ draw, states (moment + 1) =
        (rules.perform talk.about draw exchange.op (states moment)).2 := by
  rcases conversing.changed moment before with hsame | houtside | ⟨talk, htalk, exchange, hmem, rfl⟩
  · exact .inl hsame
  · exact .inr (.inl houtside)
  · obtain ⟨draw, hperformed⟩ := conversing.heard talk htalk exchange hmem
    exact .inr (.inr ⟨talk, htalk, exchange, hmem, rfl, draw, (congrArg Prod.snd hperformed).symm⟩)

/-- What a talk was told before it asked for an operation, and that it came to ask. -/
theorem Conversing.asked (conversing : Conversing rules states world)
    {talk : Conversation κ Op Answer ε α} (htalk : talk ∈ world.talks)
    {exchange : Exchange Op Answer} (hexchange : exchange ∈ talk.exchanges) :
    ∃ front resume, (rules.start talk.about).Led front (.call exchange.op resume) ∧
      front ⊆ talk.exchanges ∧ ∀ earlier ∈ front, earlier.moment < exchange.moment := by
  obtain ⟨front, back, hsplit⟩ := List.append_of_mem hexchange
  have hled := conversing.led talk htalk
  have hordered := conversing.ordered talk htalk
  rw [hsplit] at hled hordered
  obtain ⟨middle, hfront, hback⟩ := hled.split
  rw [List.map_append, List.pairwise_append] at hordered
  cases hback with
  | told moment _ =>
      refine ⟨front, _, hfront, ?_, fun earlier hearlier => ?_⟩
      · rw [hsplit]
        exact List.subset_append_left ..
      · exact hordered.2.2 _ (List.mem_map_of_mem hearlier) _ (List.mem_cons_self ..)

/-- What every operation and every change from outside keeps holds at every moment. -/
theorem Conversing.invariant (conversing : Conversing rules states world) {holds : σ → Prop}
    (performed : ∀ about draw op state, holds state → holds (rules.perform about draw op state).2)
    (outside : ∀ event state, holds state → holds (rules.outside event state))
    (first : holds (states 0)) {moment : Nat} (reached : moment ≤ world.clock) :
    holds (states moment) := by
  induction moment with
  | zero => exact first
  | succ moment ih =>
      have hbefore := ih (Nat.le_of_succ_le reached)
      rcases conversing.next reached with hsame | ⟨event, hchanged⟩ |
        ⟨talk, -, exchange, -, -, draw, hperformed⟩
      · rw [hsame]
        exact hbefore
      · rw [hchanged]
        exact outside event _ hbefore
      · rw [hperformed]
        exact performed talk.about draw exchange.op _ hbefore

/-- The states follow one another as every operation and every change from outside does. -/
theorem Conversing.follows (conversing : Conversing rules states world) {follows : σ → σ → Prop}
    (refl : ∀ state, follows state state)
    (trans : ∀ first second third, follows first second → follows second third →
      follows first third)
    (performed : ∀ about draw op state, follows state (rules.perform about draw op state).2)
    (outside : ∀ event state, follows state (rules.outside event state)) {earlier later : Nat}
    (ordered : earlier ≤ later) (reached : later ≤ world.clock) :
    follows (states earlier) (states later) := by
  induction ordered with
  | refl => exact refl _
  | step _ ih =>
      refine trans _ _ _ (ih (Nat.le_of_succ_le reached)) ?_
      rcases conversing.next reached with hsame | ⟨event, hchanged⟩ |
        ⟨talk, -, exchange, -, -, draw, hperformed⟩
      · rw [hsame]
        exact refl _
      · rw [hchanged]
        exact outside event _
      · rw [hperformed]
        exact performed talk.about draw exchange.op _

end moments

/-- Whatever the turns, the talks converse with the states the run went through. -/
theorem conversing_run (first : σ) (turns : List (ConversationTurn κ δ ω)) :
    Conversing rules (Conversations.stateAt rules first turns)
      (Conversations.run rules first turns) := by
  have hsteps : ∀ count ≤ turns.length,
      Conversing rules (Conversations.stateAt rules first turns)
        (Conversations.run rules first (turns.take count)) := by
    intro count hcount
    induction count with
    | zero => exact .first first rfl
    | succ count ih =>
        have hbefore := ih (Nat.le_of_succ_le hcount)
        have hclock : (Conversations.run rules first (turns.take count)).clock = count := by
          rw [conversations_clock, List.length_take]
          omega
        have hnext : Conversations.run rules first (turns.take (count + 1)) =
            (Conversations.run rules first (turns.take count)).turn rules turns[count] := by
          unfold Conversations.run
          rw [List.take_succ_eq_append_getElem hcount, List.foldl_append]
          rfl
        rw [hnext]
        refine hbefore.turn _ ?_
        rw [hclock]
        exact congrArg Conversations.state hnext
  have hall := hsteps turns.length (Nat.le_refl _)
  rwa [List.take_length] at hall

end turns
end DispatchCore.Library
