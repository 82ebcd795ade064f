import DispatchCore.Application.VisitTransactions

/-! The service on the database does to its records what it does to the store in memory: one
committed command after the other, whatever the order of the statements. -/
namespace DispatchCore.Application

open DispatchCore.Library DispatchCore.Domain DispatchCore.Infrastructure Isolation

section begins

variable {commands : List Command} {distinct : (commands.flatMap Command.eventIds).Nodup}
  {index : Nat} {command : Command}

/-- What a command's transaction answers is dropped. -/
theorem begins_drop {α : Type} {body : Transaction α}
    (keeps : ∀ tables, StoreKeeps commands distinct index
      (fun _ writes locks tables => MayCommit commands distinct index writes locks tables)
      body [] [] tables) :
    (storeIsolation commands distinct).Begins StoreStatement.execute StoreTables.apply index
      (body >>= fun _ => (pure () : Transaction Unit)) :=
  fun tables _ _ => (keeps tables).bind fun _ _ _ _ h => h

theorem begins_body (mine : commands[index]? = some command) :
    (storeIsolation commands distinct).Begins StoreStatement.execute StoreTables.apply index
      command.body := by
  cases command with
  | createOrder ambient freshId orderId creation =>
      exact begins_drop fun _ => keeps_creation mine (List.mem_singleton_self _)
        (fun _ _ h => by contradiction) fun _ _ _ h => h
  | createOrderOnce ambient orderId creation =>
      refine begins_drop fun _ => keeps_creation mine (List.mem_singleton_self _)
        (fun _ _ h => by contradiction) fun answers records after h => ?_
      show Atomic.createOrderOnce ambient orderId creation answers.publicNumber records = _
      unfold Atomic.createOrderOnce
      rw [h]
  | change ambient organizationId orderId call plain =>
      exact begins_drop fun _ => keeps_changeOrder mine
  | startTravel ambient sessionAmbient organizationId orderId freshId executorId sessionId =>
      exact begins_drop fun _ => keeps_startTravel mine
  | recordLocation ambient report => exact begins_drop fun _ => keeps_recordLocation mine
  | completeOrder ambient sessionAmbient organizationId orderId executorId report =>
      exact begins_drop fun _ => keeps_closeOrder mine (.complete executorId report)
        (closesAs_complete sessionAmbient) (by decide) rfl (fun _ _ h => by contradiction)
        fun _ _ => rfl
  | cancelOrder ambient sessionAmbient organizationId orderId reason actorId =>
      exact begins_drop fun _ => keeps_closeOrder mine (.cancel reason actorId)
        (closesAs_cancel sessionAmbient reason) (by decide) rfl (fun _ _ h => by contradiction)
        fun _ _ => rfl

theorem begins_otherwise (mine : commands[index]? = some command) {failure : TransactionError}
    {next : Transaction Unit} (h : command.otherwise failure = some next) :
    (storeIsolation commands distinct).Begins StoreStatement.execute StoreTables.apply index
      next := by
  unfold Command.otherwise at h
  split at h
  · split at h
    · cases h
      exact begins_drop fun _ => keeps_confirmation mine
    · contradiction
  · contradiction

end begins

theorem storeValid_empty : StoreValid .empty where
  live := live_empty
  numbered _ := rfl

theorem kept_launch (commands : List Command)
    (distinct : (commands.flatMap Command.eventIds).Nodup) :
    (storeIsolation commands distinct).Kept StoreStatement.execute StoreTables.apply
      (launchTransactions commands) := by
  refine kept_open storeValid_empty fun index stage hstage => ?_
  rw [List.getElem?_map] at hstage
  obtain ⟨command, hcommand, rfl⟩ := Option.map_eq_some_iff.mp hstage
  have hknown : (storeIsolation commands distinct).known index .empty :=
    fun _ _ _ hmem => absurd hmem List.not_mem_nil
  exact ⟨hknown, begins_body hcommand _ storeValid_empty hknown,
    fun failure next hnext => begins_otherwise hcommand hnext⟩

theorem serialized_launch (commands : List Command)
    (distinct : (commands.flatMap Command.eventIds).Nodup) :
    (storeIsolation commands distinct).Serialized .empty (launchTransactions commands) := by
  refine serialized_open fun stage hstage value hreturned => ?_
  obtain ⟨command, -, rfl⟩ := List.mem_map.mp hstage
  contradiction

/-- The command at the position does to the records what it does to them in memory. -/
def RefinesAt (commands : List Command) (index : Nat) (before after : Records) : Prop :=
  ∃ command, commands[index]? = some command ∧ Refines command before after

/-- Two orders that are created at once: the second waits for the number of the first. -/
def sampleCreations : List Command :=
  [.createOrder ⟨⟨0⟩, "e1"⟩ "" (some "a") ⟨"acme", "repair", "web", .empty, none, none⟩,
    .createOrder ⟨⟨0⟩, "e2"⟩ "" (some "b") ⟨"acme", "repair", "web", .empty, none, none⟩]

def sampleTurns : List Database.Turn := [0, 1, 0, 1, 0, 0, 0, 1, 1, 1, 1, 1].map .step

end DispatchCore.Application
