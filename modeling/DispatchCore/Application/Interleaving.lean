import DispatchCore.Application.Serialization

/-! Any number of commands over one store, interleaved at their awaits: what
every reachable store looks like, and the one-after-the-other run it equals. -/
namespace DispatchCore.Application

open DispatchCore.Library DispatchCore.Domain DispatchCore.Infrastructure

/-- All commands over one store, none of them started. -/
def launch (commands : List Command) : Coroutine.Pool AsyncMemoryStore Failure Unit :=
  { state := .empty, tasks := commands.map (Command.task .live) }

/-- Run commands one after the other, each alone and with its answers. -/
def replay : List (Command × Answers) → AsyncMemoryStore → Except Failure AsyncMemoryStore
  | [], store => .ok store
  | (command, answers) :: rest, store =>
      match (command.task (.recorded answers)).alone store with
      | (.ok _, after) => replay rest after
      | (.error failure, _) => .error failure

/-- The commands that a commit log names, in commit order. -/
def logged (commands : List Command) (log : List (Nat × Answers)) :
    List (Command × Answers) :=
  log.filterMap fun entry => commands[entry.1]?.map fun command => (command, entry.2)

/-- A step of the pool is the commit of the command at that place. -/
def poolStep (commands : List Command) (index : Nat) (answers : Answers)
    (before after : AsyncMemoryStore) : Prop :=
  ∃ command, commands[index]? = some command ∧ commitStep command answers before after

theorem poolStep_lawful {commands : List Command} {index : Nat} {answers : Answers}
    {before after : AsyncMemoryStore} (step : poolStep commands index answers before after)
    (valid : interference.valid before) :
    interference.valid after ∧ interference.grows before after := by
  obtain ⟨command, -, hstep⟩ := step
  exact commitStep_lawful hstep valid

theorem launch_orderly (commands : List Command) :
    Coroutine.Pool.Orderly interference (poolStep commands) .empty [] (launch commands) := by
  refine .start valid_empty fun index task htask => ?_
  rw [List.getElem?_map] at htask
  obtain ⟨command, hcommand, rfl⟩ := Option.map_eq_some_iff.mp htask
  exact (commits_task command .empty).weaken fun _ _ _ hstep => ⟨command, hcommand, hstep⟩

/-- Logged commands only look at the records, so a run of them alone does not
notice the number counters. -/
theorem replay_append {first second : List (Command × Answers)} {store middle : AsyncMemoryStore}
    (h : replay first store = .ok middle) :
    replay (first ++ second) store = replay second middle := by
  induction first generalizing store with
  | nil =>
      cases h
      rfl
  | cons entry rest ih =>
      obtain ⟨command, answers⟩ := entry
      simp only [replay, List.cons_append] at h ⊢
      split at h
      · exact ih h
      · contradiction

theorem replay_of_trace {commands : List Command} {log : List (Nat × Answers)}
    {state : AsyncMemoryStore}
    (trace : Coroutine.Pool.Trace interference.quiet (poolStep commands) .empty log state) :
    ∃ final, replay (logged commands log) .empty = .ok final ∧
      final.toRecords = state.toRecords := by
  induction trace with
  | start => exact ⟨_, rfl, rfl⟩
  | quiet trace silent ih =>
      obtain ⟨final, hreplay, hrecords⟩ := ih
      exact ⟨final, hreplay, hrecords.trans silent.symm⟩
  | @step log before after index answers trace taken ih =>
      obtain ⟨final, hreplay, hrecords⟩ := ih
      obtain ⟨command, hcommand, hstep⟩ := taken
      obtain ⟨records, happly, rfl⟩ := commitStep_iff.mp hstep
      have halone : (command.task (.recorded answers)).alone final =
          (.ok (), { final with toRecords := records }) := by
        rw [alone_task, hrecords, happly]
        rfl
      refine ⟨{ final with toRecords := records }, ?_, rfl⟩
      have hlogged : logged commands (log ++ [(index, answers)]) =
          logged commands log ++ [(command, answers)] := by
        simp [logged, hcommand]
      rw [hlogged, replay_append hreplay, replay, halone]
      rfl

theorem versions_of_ledger {α : Type} {aggregate : Aggregate α} {stored : Dict Key α}
    {outbox : List DomainEvent} (ledger : aggregate.Ledger stored outbox) {key : Key} {value : α}
    (h : stored.get? key = some value) :
    (eventsOf aggregate.kind key outbox).map DomainEvent.aggregateVersion =
      List.range' 1 (aggregate.version value) := by
  rw [(ledger.numbered key).versions, ledger.counted, h]
  rfl

/-- The commands themselves one after the other, with live lookups. -/
def runSerially (commands : List Command) (store : AsyncMemoryStore) : AsyncMemoryStore :=
  commands.foldl (fun current command => ((command.task .live).alone current).2) store

def sampleCreate (orderId : String) : Command :=
  .createOrder ⟨⟨0⟩, "e"⟩ "" (some orderId) ⟨"acme", "repair", "web", .empty, none, none⟩

/-- An order from its creation until its executor is on the way. -/
def sampleVisit (orderId executorId sessionId letter : String) : List Command :=
  [sampleCreate orderId,
    .change ⟨⟨0⟩, "e"⟩ "acme" orderId (.assign executorId none) trivial,
    .change ⟨⟨0⟩, "e"⟩ "acme" orderId (.accept executorId) trivial,
    .startTravel ⟨⟨0⟩, "e"⟩
      ⟨⟨⟨0⟩, "e"⟩, ⟨0⟩, letter ++ "-000000000000000000000000000000000000000000",
        letter ++ "-111111111111111111111111111111111111111111"⟩
      "acme" orderId "" executorId (some sessionId)]

def sampleReport (executorId sessionId : String) : Command :=
  .recordLocation ⟨⟨0⟩, "e"⟩
    ⟨"acme", executorId, sessionId, .finite 0, .finite 0, .web, none, none, some "update-7"⟩

def sampleReports : List Command :=
  sampleVisit "a" "ann" "s" "x" ++ sampleVisit "b" "bob" "t" "y" ++
    [sampleReport "ann" "s", sampleReport "bob" "t"]

end DispatchCore.Application
