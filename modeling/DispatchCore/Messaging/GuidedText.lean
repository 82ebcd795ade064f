import DispatchCore.Infrastructure.PackPinning
import DispatchCore.Messaging.IntakeWorld

/-! Texts of a guided flow under redelivery.  A session remembers the last event that stored
it, and a message is skipped where it is that event. -/
namespace DispatchCore.Messaging

open DispatchCore.Library DispatchCore.Domain DispatchCore.Packs DispatchCore.Infrastructure
  DispatchCore.Application

/-- What a coordinator asks of its session; `lastEvent` is the read of `handled_event`. -/
inductive GuidedOp (σ Op : Type)
  | lastEvent
  | get
  | put (state : σ)
  | clear
  | other (op : Op)

abbrev GuidedOp.Answer {σ Op : Type} (answer : Op → Type) : GuidedOp σ Op → Type
  | lastEvent => Option String
  | get => Option σ
  | put _ => Unit
  | clear => Unit
  | other op => answer op

abbrev GuidedProgram (σ Op : Type) (answer : Op → Type) :=
  Program (GuidedOp σ Op) (GuidedOp.Answer answer) Failure Reply

/-- One event of an inbox item: the item's key, the place in it, and the sender. -/
structure GuidedSource where
  organizationId : String
  provider : Provider
  consumerKey : String
  externalEventId : String
  index : Nat
  externalUserId : String
deriving DecidableEq

/-- `f"{event.external_event_id}:{index}"` -/
def GuidedSource.sessionEventId (source : GuidedSource) : String :=
  s!"{source.externalEventId}:{source.index}"

/-- The session of an actor: each coordinator has a table of its own. -/
structure GuidedKey where
  role : Role
  organizationId : String
  actorId : String
  provider : Option Provider
deriving DecidableEq

/-- The client's session is one for both messengers. -/
def MessengerIdentity.guidedKey (identity : MessengerIdentity) : GuidedKey :=
  { role := identity.role
    organizationId := identity.organizationId
    actorId := identity.actorId
    provider := if identity.role = .client then none else some identity.provider }

/-- What the actor sent: a message of the chat, or an event of another kind. -/
inductive GuidedEvent (ε : Type)
  | message (text : String)
  | other (event : ε)

/-- The coordinators as the processor calls them. -/
structure GuidedFlows (σ Op ε : Type) (answer : Op → Type) where
  handleText : MessengerIdentity → String → GuidedProgram σ Op answer
  handleOther : MessengerIdentity → ε → GuidedProgram σ Op answer

def alreadyHandled : Reply :=
  .words ("Предыдущее сообщение уже обработано. Продолжите с " ++
    "текущего шага; если подсказка потерялась, нажмите /start.")

section flows

variable {σ Op ε : Type} {answer : Op → Type}

/-- `_process` from the resolved identity on: a client, an admin or an operator. -/
def GuidedFlows.process (flows : GuidedFlows σ Op ε answer) (identity : MessengerIdentity)
    (source : GuidedSource) : GuidedEvent ε → GuidedProgram σ Op answer
  | .message text => .call .lastEvent fun last =>
      if last = some source.sessionEventId then .done alreadyHandled
      else if text = "" then .done (.words "Событие принято.")
      else flows.handleText identity text
  | .other event => flows.handleOther identity event

/-- A session as it is stored: `_dispatch_last_event_id` is beside the state. -/
structure GuidedSession (σ : Type) where
  state : σ
  lastEvent : Option String

/-- A delivery of an event.  `checked` tells that it has compared the last event of the
session; a crashed delivery goes on no more. -/
structure GuidedDelivery (σ Op ε : Type) (answer : Op → Type) where
  identity : MessengerIdentity
  source : GuidedSource
  event : GuidedEvent ε
  checked : Bool
  crashed : Bool
  program : GuidedProgram σ Op answer

def GuidedDelivery.isMessage (delivery : GuidedDelivery σ Op ε answer) : Bool :=
  match delivery.event with
  | .message _ => true
  | .other _ => false

/-- The handler has been entered and is not through. -/
def GuidedDelivery.inProgress (delivery : GuidedDelivery σ Op ε answer) : Bool :=
  delivery.checked && !delivery.crashed && !delivery.program.finished

/-- `writers` tells whose put was the last write of a session, if that was a put;
`consumed` which delivery wrote a session on account of a text. -/
structure GuidedWorld (σ Op ε : Type) (answer : Op → Type) where
  sessions : Dict GuidedKey (GuidedSession σ)
  deliveries : List (GuidedDelivery σ Op ε answer)
  writers : Dict GuidedKey GuidedSource
  consumed : List (GuidedSource × Nat)

inductive GuidedTurn (σ Op ε : Type) (answer : Op → Type)
  | deliver (identity : MessengerIdentity) (source : GuidedSource) (event : GuidedEvent ε)
  | advance (index : Nat) (draw : (op : Op) → answer op)
  | crash (index : Nat)
  | cleanup (key : GuidedKey)

namespace GuidedWorld

def empty : GuidedWorld σ Op ε answer := ⟨.empty, [], .empty, []⟩

/-- A text is consumed where its delivery writes the session. -/
def consume (world : GuidedWorld σ Op ε answer) (index : Nat)
    (delivery : GuidedDelivery σ Op ε answer) : List (GuidedSource × Nat) :=
  if delivery.isMessage then world.consumed ++ [(delivery.source, index)] else world.consumed

def perform (world : GuidedWorld σ Op ε answer) (index : Nat)
    (delivery : GuidedDelivery σ Op ε answer) (draw : (op : Op) → answer op) :
    (op : GuidedOp σ Op) → GuidedOp.Answer answer op × GuidedWorld σ Op ε answer
  | .lastEvent =>
      ((world.sessions.get? delivery.identity.guidedKey).bind GuidedSession.lastEvent, world)
  | .get => ((world.sessions.get? delivery.identity.guidedKey).map GuidedSession.state, world)
  | .put state =>
      ((), { world with
        sessions := world.sessions.set delivery.identity.guidedKey
          ⟨state, some delivery.source.sessionEventId⟩
        writers := world.writers.set delivery.identity.guidedKey delivery.source
        consumed := world.consume index delivery })
  | .clear =>
      ((), { world with
        sessions := world.sessions.erase delivery.identity.guidedKey
        writers := world.writers.erase delivery.identity.guidedKey
        consumed := world.consume index delivery })
  | .other op => (draw op, world)

def turn (flows : GuidedFlows σ Op ε answer) (world : GuidedWorld σ Op ε answer) :
    GuidedTurn σ Op ε answer → GuidedWorld σ Op ε answer
  | .deliver identity source event =>
      { world with
        deliveries := world.deliveries ++
          [⟨identity, source, event, false, false, flows.process identity source event⟩] }
  | .advance index draw =>
      match world.deliveries[index]? with
      | none => world
      | some delivery =>
          if delivery.crashed then world
          else
            match delivery.program with
            | .call op resume =>
                let (answer, after) := world.perform index delivery draw op
                { after with
                  deliveries := after.deliveries.set index
                    { delivery with checked := true, program := resume answer } }
            | _ => world
  | .crash index =>
      match world.deliveries[index]? with
      | none => world
      | some delivery =>
          { world with deliveries := world.deliveries.set index { delivery with crashed := true } }
  | .cleanup key =>
      { world with sessions := world.sessions.erase key, writers := world.writers.erase key }

def run (flows : GuidedFlows σ Op ε answer) (world : GuidedWorld σ Op ε answer)
    (turns : List (GuidedTurn σ Op ε answer)) : GuidedWorld σ Op ε answer :=
  turns.foldl (turn flows) world

def after (flows : GuidedFlows σ Op ε answer) (turns : List (GuidedTurn σ Op ε answer)) :
    GuidedWorld σ Op ε answer :=
  empty.run flows turns

/-- No text is consumed by two deliveries. -/
def TextsConsumedOnce (world : GuidedWorld σ Op ε answer) : Prop :=
  ∀ source first second, (source, first) ∈ world.consumed → (source, second) ∈ world.consumed →
    first = second

/-- A message that is delivered again comes to its check alone, and, if its text was
consumed, finds the session as its own put has left it. -/
def Settled (world : GuidedWorld σ Op ε answer) : GuidedTurn σ Op ε answer → Prop
  | .advance index _ =>
      match world.deliveries[index]? with
      | none => True
      | some delivery =>
          delivery.isMessage = true → delivery.checked = false →
            (∀ other ∈ world.deliveries, other.source = delivery.source →
              other.inProgress = false) ∧
            (delivery.source ∈ world.consumed.map Prod.fst →
              world.writers.get? delivery.identity.guidedKey = some delivery.source)
  | _ => True

instance (world : GuidedWorld σ Op ε answer) (next : GuidedTurn σ Op ε answer) :
    Decidable (world.Settled next) := by
  unfold Settled
  split
  · split <;> infer_instance
  · infer_instance

/-- A turn meets the condition at every place of a run. -/
def SettledRun (flows : GuidedFlows σ Op ε answer) :
    GuidedWorld σ Op ε answer → List (GuidedTurn σ Op ε answer) → Prop
  | _, [] => True
  | world, next :: rest => world.Settled next ∧ SettledRun flows (world.turn flows next) rest

instance decidableSettledRun (flows : GuidedFlows σ Op ε answer) :
    ∀ (world : GuidedWorld σ Op ε answer) (turns : List (GuidedTurn σ Op ε answer)),
      Decidable (SettledRun flows world turns)
  | _, [] => instDecidableTrue
  | world, next :: rest =>
      @instDecidableAnd _ _ inferInstance
        (decidableSettledRun flows (world.turn flows next) rest)

/-! ### What holds between the turns -/

/-- A session shows the event whose put it holds, and a delivery in progress is the only one
that has consumed its text. -/
structure Guarded (flows : GuidedFlows σ Op ε answer) (world : GuidedWorld σ Op ε answer) :
    Prop where
  remembered : ∀ key source, world.writers.get? key = some source →
    ∃ session, world.sessions.get? key = some session ∧
      session.lastEvent = some source.sessionEventId
  once : world.TextsConsumedOnce
  fresh : ∀ (index : Nat) (delivery : GuidedDelivery σ Op ε answer),
    world.deliveries[index]? = some delivery → delivery.checked = false →
      delivery.program = flows.process delivery.identity delivery.source delivery.event
  sole : ∀ (left right : Nat) (first second : GuidedDelivery σ Op ε answer),
    world.deliveries[left]? = some first → world.deliveries[right]? = some second →
      first.isMessage = true → second.isMessage = true → first.inProgress = true →
      second.inProgress = true → first.source = second.source → left = right
  own : ∀ (index : Nat) (delivery : GuidedDelivery σ Op ε answer),
    world.deliveries[index]? = some delivery → delivery.isMessage = true →
      delivery.inProgress = true → ∀ other, (delivery.source, other) ∈ world.consumed →
        other = index

variable {flows : GuidedFlows σ Op ε answer} {world : GuidedWorld σ Op ε answer} {index : Nat}
  {delivery next : GuidedDelivery σ Op ε answer}

theorem guarded_empty : Guarded flows empty where
  remembered _ _ h := by cases h
  once _ _ _ h := by cases h
  fresh _ _ h := by cases h
  sole _ _ _ _ h := by cases h
  own _ _ h := by cases h

/-- What stands after one delivery has moved. -/
theorem of_set {other : Nat} {found : GuidedDelivery σ Op ε answer}
    (h : (world.deliveries.set index next)[other]? = some found) :
    (other = index ∧ found = next) ∨ (other ≠ index ∧ world.deliveries[other]? = some found) := by
  rw [List.getElem?_set] at h
  split at h
  · rename_i hindex
    split at h
    · cases h
      exact .inl ⟨hindex.symm, rfl⟩
    · cases h
  · rename_i hindex
    exact .inr ⟨fun hsame => hindex hsame.symm, h⟩

/-- A delivery moves on its way: it was in progress, or it is not now, or nobody else is and
its text was not consumed before. -/
theorem Guarded.moved (guarded : world.Guarded flows)
    (inFlight : world.deliveries[index]? = some delivery) (source : next.source = delivery.source)
    (kind : next.isMessage = delivery.isMessage) (checked : next.checked = true)
    (entered : next.inProgress = true → next.isMessage = true → delivery.inProgress = true ∨
      ((∀ other ∈ world.deliveries, other.source = delivery.source → other.inProgress = false) ∧
        delivery.source ∉ world.consumed.map Prod.fst)) :
    ({ world with deliveries := world.deliveries.set index next } :
      GuidedWorld σ Op ε answer).Guarded flows where
  remembered := guarded.remembered
  once := guarded.once
  fresh other found hfound hunchecked := by
    rcases of_set hfound with ⟨rfl, rfl⟩ | ⟨_, hold⟩
    · rw [checked] at hunchecked
      cases hunchecked
    · exact guarded.fresh other found hold hunchecked
  sole left right first second hleft hright hfirst hsecond hfirstOn hsecondOn hsame := by
    have hclash : ∀ {other : Nat} {found : GuidedDelivery σ Op ε answer},
        world.deliveries[other]? = some found → found.isMessage = true →
        found.inProgress = true → found.source = next.source → next.isMessage = true →
        next.inProgress = true → other = index := by
      intro other found hfound hmessage hon hsource hnext hnextOn
      rcases entered hnextOn hnext with hwas | ⟨hquiet, _⟩
      · exact guarded.sole other index found delivery hfound inFlight hmessage (kind ▸ hnext) hon
          hwas (hsource.trans source)
      · have hoff := hquiet found (List.mem_of_getElem? hfound) (hsource.trans source)
        rw [hoff] at hon
        cases hon
    rcases of_set hleft with ⟨rfl, rfl⟩ | ⟨_, holdLeft⟩ <;>
      rcases of_set hright with ⟨rfl, rfl⟩ | ⟨_, holdRight⟩
    · rfl
    · exact (hclash holdRight hsecond hsecondOn hsame.symm hfirst hfirstOn).symm
    · exact hclash holdLeft hfirst hfirstOn hsame hsecond hsecondOn
    · exact guarded.sole left right first second holdLeft holdRight hfirst hsecond hfirstOn hsecondOn
        hsame
  own other found hfound hmessage hon consumer hconsumer := by
    rcases of_set hfound with ⟨rfl, rfl⟩ | ⟨_, hold⟩
    · rw [source] at hconsumer
      rcases entered hon hmessage with hwas | ⟨_, hnone⟩
      · exact guarded.own other delivery inFlight (kind ▸ hmessage) hwas consumer hconsumer
      · exact absurd (List.mem_map_of_mem hconsumer) hnone
    · exact guarded.own other found hold hmessage hon consumer hconsumer

/-- A write of a session by a delivery in progress. -/
theorem Guarded.written (guarded : world.Guarded flows)
    (inFlight : world.deliveries[index]? = some delivery)
    (on : delivery.isMessage = true → delivery.inProgress = true)
    {sessions : Dict GuidedKey (GuidedSession σ)} {writers : Dict GuidedKey GuidedSource}
    (remembered : ∀ key source, writers.get? key = some source →
      ∃ session, sessions.get? key = some session ∧
        session.lastEvent = some source.sessionEventId) :
    ({ world with
      sessions := sessions
      writers := writers
      consumed := world.consume index delivery } : GuidedWorld σ Op ε answer).Guarded flows := by
  have hconsumed : ∀ {source : GuidedSource} {consumer : Nat},
      (source, consumer) ∈ world.consume index delivery →
      (source, consumer) ∈ world.consumed ∨
        (delivery.isMessage = true ∧ source = delivery.source ∧ consumer = index) := by
    intro source consumer h
    unfold consume at h
    split at h
    · rename_i hmessage
      rcases List.mem_append.mp h with hold | hnew
      · exact .inl hold
      · cases List.mem_singleton.mp hnew
        exact .inr ⟨hmessage, rfl, rfl⟩
    · exact .inl h
  refine ⟨remembered, ?_, guarded.fresh, guarded.sole, ?_⟩
  · intro source first second hfirst hsecond
    rcases hconsumed hfirst with holdFirst | ⟨hmessage, rfl, rfl⟩ <;>
      rcases hconsumed hsecond with holdSecond | ⟨hmessage', hsource, rfl⟩
    · exact guarded.once source first second holdFirst holdSecond
    · rw [hsource] at holdFirst
      exact guarded.own _ delivery inFlight hmessage' (on hmessage') first holdFirst
    · exact (guarded.own _ delivery inFlight hmessage (on hmessage) second holdSecond).symm
    · rfl
  · intro other found hfound hmessage hon consumer hconsumer
    rcases hconsumed hconsumer with hold | ⟨hdelivery, hsource, rfl⟩
    · exact guarded.own other found hfound hmessage hon consumer hold
    · exact guarded.sole consumer other delivery found inFlight hfound hdelivery hmessage
        (on hdelivery) hon hsource.symm

/-- The sessions and their writers after a put. -/
theorem Guarded.remembered_put (guarded : world.Guarded flows) (key : GuidedKey)
    (source : GuidedSource) (state : σ) (other : GuidedKey) (writer : GuidedSource)
    (found : (world.writers.set key source).get? other = some writer) :
    ∃ session, (world.sessions.set key ⟨state, some source.sessionEventId⟩).get? other =
      some session ∧ session.lastEvent = some writer.sessionEventId := by
  rw [Dict.get?_set] at found ⊢
  split at found
  · rename_i hkey
    cases found
    rw [if_pos hkey]
    exact ⟨_, rfl, rfl⟩
  · rename_i hkey
    rw [if_neg hkey]
    exact guarded.remembered other writer found

theorem Guarded.remembered_clear (guarded : world.Guarded flows) (key other : GuidedKey)
    (writer : GuidedSource) (found : (world.writers.erase key).get? other = some writer) :
    ∃ session, (world.sessions.erase key).get? other = some session ∧
      session.lastEvent = some writer.sessionEventId := by
  rw [Dict.get?_erase] at found ⊢
  split at found
  · cases found
  · rename_i hkey
    rw [if_neg hkey]
    exact guarded.remembered other writer found

/-- The check of a message that is settled: the handler is entered only if the text was not
consumed. -/
theorem Guarded.check (guarded : world.Guarded flows)
    (inFlight : world.deliveries[index]? = some delivery) {text : String}
    (quiet : ∀ other ∈ world.deliveries, other.source = delivery.source →
      other.inProgress = false)
    (kept : delivery.source ∈ world.consumed.map Prod.fst →
      world.writers.get? delivery.identity.guidedKey = some delivery.source)
    {program : GuidedProgram σ Op answer}
    (resumed : program = if (world.sessions.get? delivery.identity.guidedKey).bind
        GuidedSession.lastEvent = some delivery.source.sessionEventId then .done alreadyHandled
      else if text = "" then .done (.words "Событие принято.")
      else flows.handleText delivery.identity text) :
    ({ world with
      deliveries := world.deliveries.set index
        { delivery with checked := true, program := program } } :
      GuidedWorld σ Op ε answer).Guarded flows := by
  refine guarded.moved inFlight rfl rfl rfl fun hon _ => .inr ⟨quiet, fun hconsumed => ?_⟩
  obtain ⟨session, hsession, hlast⟩ := guarded.remembered _ _ (kept hconsumed)
  rw [hsession, Option.bind_some, if_pos hlast] at resumed
  rw [resumed] at hon
  revert hon
  simp [GuidedDelivery.inProgress, Program.finished]

/-- A delivery that is past its check, or has none, carries out one operation. -/
theorem Guarded.perform (guarded : world.Guarded flows) (draw : (op : Op) → answer op)
    (inFlight : world.deliveries[index]? = some delivery) {op : GuidedOp σ Op}
    {resume : GuidedOp.Answer answer op → GuidedProgram σ Op answer}
    (on : delivery.isMessage = true → delivery.inProgress = true) :
    let result := world.perform index delivery draw op
    ({ result.2 with
      deliveries := result.2.deliveries.set index
        { delivery with checked := true, program := resume result.1 } } :
      GuidedWorld σ Op ε answer).Guarded flows := by
  cases op with
  | lastEvent => exact guarded.moved inFlight rfl rfl rfl fun _ hmessage => .inl (on hmessage)
  | get => exact guarded.moved inFlight rfl rfl rfl fun _ hmessage => .inl (on hmessage)
  | other op => exact guarded.moved inFlight rfl rfl rfl fun _ hmessage => .inl (on hmessage)
  | put state =>
      have hwritten := guarded.written inFlight on
        (guarded.remembered_put delivery.identity.guidedKey delivery.source state)
      exact hwritten.moved inFlight rfl rfl rfl fun _ hmessage => .inl (on hmessage)
  | clear =>
      have hwritten := guarded.written inFlight on
        (guarded.remembered_clear delivery.identity.guidedKey)
      exact hwritten.moved inFlight rfl rfl rfl fun _ hmessage => .inl (on hmessage)

theorem Guarded.advance (guarded : world.Guarded flows) (draw : (op : Op) → answer op)
    (settled : world.Settled (.advance index draw)) :
    (world.turn flows (.advance index draw)).Guarded flows := by
  unfold GuidedWorld.turn
  unfold Settled at settled
  dsimp only at settled ⊢
  cases hindex : world.deliveries[index]? with
  | none => exact guarded
  | some delivery =>
      rw [hindex] at settled
      dsimp only at settled ⊢
      split
      · exact guarded
      · rename_i hcrashed
        cases hprogram : delivery.program with
        | done reply => exact guarded
        | raise failure => exact guarded
        | call op resume =>
            dsimp only
            by_cases hfresh : delivery.isMessage = true ∧ delivery.checked = false
            · -- a message that has not been checked is about to be
              obtain ⟨hmessage, hunchecked⟩ := hfresh
              obtain ⟨hquiet, hkept⟩ := settled hmessage hunchecked
              have hprocess := guarded.fresh index delivery hindex hunchecked
              rw [hprogram] at hprocess
              obtain ⟨identity, source, event, checked, crashed, program⟩ := delivery
              cases event with
              | other event => cases hmessage
              | message text =>
                  cases hprocess
                  exact guarded.check hindex hquiet hkept rfl
            · refine guarded.perform draw hindex fun hmessage => ?_
              have hchecked : delivery.checked = true := by
                simpa [hmessage] using hfresh
              simp [GuidedDelivery.inProgress, hchecked, hcrashed, hprogram, Program.finished]

theorem Guarded.turn (guarded : world.Guarded flows) {turn : GuidedTurn σ Op ε answer}
    (settled : world.Settled turn) : (world.turn flows turn).Guarded flows := by
  cases turn with
  | advance index draw => exact guarded.advance draw settled
  | deliver identity source event =>
      have hfound : ∀ {index : Nat} {found : GuidedDelivery σ Op ε answer},
          (world.turn flows (.deliver identity source event)).deliveries[index]? = some found →
          world.deliveries[index]? = some found ∨
            found = ⟨identity, source, event, false, false,
              flows.process identity source event⟩ := by
        intro index found h
        unfold GuidedWorld.turn at h
        rw [List.getElem?_append] at h
        split at h
        · exact .inl h
        · exact .inr (List.mem_singleton.mp (List.mem_of_getElem? h))
      refine ⟨guarded.remembered, guarded.once, fun index found h hunchecked => ?_,
        fun left right first second hleft hright hfirst hsecond hfirstOn hsecondOn hsame => ?_,
        fun index found h hmessage hon => ?_⟩
      · rcases hfound h with hold | rfl
        · exact guarded.fresh index found hold hunchecked
        · rfl
      · rcases hfound hleft with hleft | rfl
        · rcases hfound hright with hright | rfl
          · exact guarded.sole left right first second hleft hright hfirst hsecond hfirstOn
              hsecondOn hsame
          · cases hsecondOn
        · cases hfirstOn
      · rcases hfound h with hold | rfl
        · exact guarded.own index found hold hmessage hon
        · cases hon
  | crash index =>
      unfold GuidedWorld.turn
      dsimp only
      cases hindex : world.deliveries[index]? with
      | none => exact guarded
      | some delivery =>
          have hoff : ({ delivery with crashed := true } :
              GuidedDelivery σ Op ε answer).inProgress = false := by
            simp [GuidedDelivery.inProgress]
          refine ⟨guarded.remembered, guarded.once, fun other found h hunchecked => ?_,
            fun left right first second hleft hright hfirst hsecond hfirstOn hsecondOn hsame => ?_,
            fun other found h hmessage hon => ?_⟩
          · rcases of_set h with ⟨_, rfl⟩ | ⟨_, hold⟩
            · exact guarded.fresh index delivery hindex hunchecked
            · exact guarded.fresh other found hold hunchecked
          · rcases of_set hleft with ⟨_, rfl⟩ | ⟨_, hleft⟩
            · rw [hoff] at hfirstOn
              cases hfirstOn
            · rcases of_set hright with ⟨_, rfl⟩ | ⟨_, hright⟩
              · rw [hoff] at hsecondOn
                cases hsecondOn
              · exact guarded.sole left right first second hleft hright hfirst hsecond hfirstOn
                  hsecondOn hsame
          · rcases of_set h with ⟨_, rfl⟩ | ⟨_, hold⟩
            · rw [hoff] at hon
              cases hon
            · exact guarded.own other found hold hmessage hon
  | cleanup key =>
      exact
        { remembered := guarded.remembered_clear key
          once := guarded.once
          fresh := guarded.fresh
          sole := guarded.sole
          own := guarded.own }

theorem Guarded.run (guarded : world.Guarded flows) {turns : List (GuidedTurn σ Op ε answer)}
    (settled : world.SettledRun flows turns) :
    ∀ before, before <+: turns → (world.run flows before).Guarded flows := by
  induction turns generalizing world with
  | nil =>
      intro before hprefix
      rw [List.prefix_nil.mp hprefix]
      exact guarded
  | cons next rest ih =>
      intro before hprefix
      cases before with
      | nil => exact guarded
      | cons first others =>
          obtain ⟨rfl, hrest⟩ := List.cons_prefix_cons.mp hprefix
          exact ih (guarded.turn settled.1) settled.2 others hrest

end GuidedWorld

theorem guided_text_once (flows : GuidedFlows σ Op ε answer)
    (turns : List (GuidedTurn σ Op ε answer))
    (settled : GuidedWorld.empty.SettledRun flows turns) :
    ∀ before, before <+: turns → (GuidedWorld.after flows before).TextsConsumedOnce := by
  intro before hprefix
  exact (GuidedWorld.guarded_empty.run settled before hprefix).once

end flows
/-! ### The client's flow -/

namespace IntakeCoordinator

/-- The coordinator of the clients, with its session told apart from what else it asks. -/
def guided : IntakeProgram Reply → GuidedProgram IntakeState IntakeOp IntakeOp.Answer
  | .done reply => .done reply
  | .raise failure => .raise failure
  | .call .getSession resume => .call .get fun found => guided (resume found)
  | .call (.putSession state) resume => .call (.put state) fun _ => guided (resume ())
  | .call .clearSession resume => .call .clear fun _ => guided (resume ())
  | .call .activeRevision resume => .call (.other .activeRevision) fun found => guided (resume found)
  | .call (.revision version) resume =>
      .call (.other (.revision version)) fun found => guided (resume found)
  | .call (.createOrderOnce orderId creation) resume =>
      .call (.other (.createOrderOnce orderId creation)) fun answer => guided (resume answer)
  | .call .uuid4 resume => .call (.other .uuid4) fun text => guided (resume text)
  | .call .tokenUrlsafe resume => .call (.other .tokenUrlsafe) fun token => guided (resume token)

def guidedFlows (setup : Setup) : GuidedFlows IntakeState IntakeOp ChatEvent IntakeOp.Answer where
  handleText _ text := guided (handleText setup text)
  handleOther identity event := guided (event.program setup identity)

end IntakeCoordinator

def guidedClient : MessengerIdentity :=
  ⟨⟨"org", "actor", .client⟩, "Анна", .telegram, "7", [.client]⟩

def guidedSource (externalEventId : String) : GuidedSource :=
  ⟨"org", .telegram, "client", externalEventId, 0, "7"⟩

/-- The first version of a pack is active. -/
def guidedDraw : (op : IntakeOp) → op.Answer
  | .getSession => none
  | .putSession _ => ()
  | .clearSession => ()
  | .activeRevision => some ⟨1, .active, smallDefinition⟩
  | .revision _ => some ⟨1, .active, smallDefinition⟩
  | .createOrderOnce _ _ => .ok "W-1"
  | .uuid4 => "submission"
  | .tokenUrlsafe => "token"

abbrev ClientTurn := GuidedTurn IntakeState IntakeOp ChatEvent IntakeOp.Answer

def guidedSetup : IntakeCoordinator.Setup := ⟨⟨id, id⟩, none⟩

/-- The client starts, sends a phone, and the worker crashes after the put. -/
def phoneConsumed : List ClientTurn :=
  .deliver guidedClient (guidedSource "1") (.other .start) ::
    List.replicate 3 (.advance 0 guidedDraw) ++
  .deliver guidedClient (guidedSource "2") (.message "+79990000000") ::
    List.replicate 5 (.advance 1 guidedDraw) ++ [.crash 1]

theorem guided_text_once_redelivered :
    (GuidedWorld.after (IntakeCoordinator.guidedFlows guidedSetup) (phoneConsumed ++
      [.deliver guidedClient (guidedSource "2") (.message "+79990000000"),
        .advance 2 guidedDraw])).TextsConsumedOnce :=
  guided_text_once (IntakeCoordinator.guidedFlows guidedSetup) _ (by decide +kernel) _
    (List.prefix_refl _)

/-- Before the phone is delivered again the client presses a button: the phone is taken for
the address. -/
theorem guided_text_consumed_twice :
    ¬(GuidedWorld.after (IntakeCoordinator.guidedFlows guidedSetup)
      (phoneConsumed ++
        .deliver guidedClient (guidedSource "3") (.other (.callback .typeAddress .empty)) ::
          List.replicate 3 (.advance 2 guidedDraw) ++
        .deliver guidedClient (guidedSource "2") (.message "+79990000000") ::
          List.replicate 4 (.advance 3 guidedDraw))).TextsConsumedOnce := by
  intro honce
  have htwice := honce (guidedSource "2") 1 3 (by decide +kernel) (by decide +kernel)
  revert htwice
  decide

end DispatchCore.Messaging
