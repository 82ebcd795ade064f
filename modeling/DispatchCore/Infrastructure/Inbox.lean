import DispatchCore.Infrastructure.Queues
import DispatchCore.Library.Json

/-! How events come into the inbox: a batch and the cursor that follows it are stored by
one transaction. -/
namespace DispatchCore.Infrastructure

open DispatchCore.Library DispatchCore.Domain

abbrev InboxRows := QueueRows InboxKey InboxData

structure Ingress where
  inboxEvents : InboxRows
  inboxCursors : Dict (Provider × String) String

def Ingress.empty : Ingress := ⟨.empty, .empty⟩

namespace PostgresInboxStore

/-- `INSERT … ON CONFLICT DO NOTHING`, and whether a row came in -/
def insert (key : InboxKey) (payload : Dict String Json) (now : Instant) (rows : InboxRows) :
    Bool × InboxRows :=
  match rows.get? key with
  | some _ => (false, rows)
  | none => (true, rows.set key (.create ⟨.obj payload.entries, now⟩ now))

def insertAll (provider : Provider) (organizationId consumerKey : String) (now : Instant)
    (rows : InboxRows) : List (String × Dict String Json) → Nat × InboxRows
  | [] => (0, rows)
  | (externalEventId, payload) :: rest =>
      let (isNew, inserted) :=
        insert ⟨organizationId, provider, consumerKey, externalEventId⟩ payload now rows
      let (count, final) := insertAll provider organizationId consumerKey now inserted rest
      (isNew.toNat + count, final)

def acceptPollBatch (provider : Provider) (organizationId consumerKey : String)
    (cursorKey : Option String) (events : List (String × Dict String Json))
    (nextCursor : String) (now : Instant) (ingress : Ingress) : Nat × Ingress :=
  let (inserted, rows) :=
    insertAll provider organizationId consumerKey now ingress.inboxEvents events
  let storedKey := if cursorKey.getD "" = "" then consumerKey else cursorKey.getD ""
  (inserted,
    { inboxEvents := rows
      inboxCursors := ingress.inboxCursors.set (provider, storedKey) nextCursor })

def accept (provider : Provider) (externalEventId organizationId : String)
    (payload : Dict String Json) (consumerKey : String) (now : Instant) (ingress : Ingress) :
    Bool × Ingress :=
  let (isNew, rows) :=
    insert ⟨organizationId, provider, consumerKey, externalEventId⟩ payload now
      ingress.inboxEvents
  (isNew, { ingress with inboxEvents := rows })

def getCursor (provider : Provider) (consumerKey : String) (ingress : Ingress) : Option String :=
  ingress.inboxCursors.get? (provider, consumerKey)

section insert

variable {key : InboxKey} {payload : Dict String Json} {now : Instant} {rows : InboxRows}

/-- A row that is there stays as it is. -/
theorem get?_insert (other : InboxKey) :
    (insert key payload now rows).2.get? other =
      if other = key then some ((rows.get? key).getD (.create ⟨.obj payload.entries, now⟩ now))
      else rows.get? other := by
  unfold insert
  cases hrow : rows.get? key with
  | none => exact Dict.get?_set ..
  | some row =>
      show rows.get? other = _
      by_cases hsame : other = key
      · rw [hsame, hrow, if_pos rfl]
        rfl
      · rw [if_neg hsame]

variable {provider : Provider} {organizationId consumerKey : String}
  {events : List (String × Dict String Json)}

/-- Rows stay, and every event has one. -/
theorem insertAll_rows :
    (∀ other row, rows.get? other = some row →
      (insertAll provider organizationId consumerKey now rows events).2.get? other = some row) ∧
    ∀ event ∈ events,
      ((insertAll provider organizationId consumerKey now rows events).2.get?
        ⟨organizationId, provider, consumerKey, event.1⟩).isSome := by
  induction events generalizing rows with
  | nil => exact ⟨fun _ _ h => h, fun _ h => by contradiction⟩
  | cons event rest ih =>
      obtain ⟨externalEventId, payload⟩ := event
      let first := insert ⟨organizationId, provider, consumerKey, externalEventId⟩ payload now rows
      obtain ⟨hkept, hall⟩ := @ih first.2
      have hfirst : ∀ other row, rows.get? other = some row → first.2.get? other = some row := by
        intro other row hrow
        rw [get?_insert]
        split
        · rename_i hsame
          rw [← hsame, hrow]
          rfl
        · exact hrow
      refine ⟨fun other row hrow => hkept other row (hfirst other row hrow), fun event hevent => ?_⟩
      rcases List.mem_cons.mp hevent with rfl | hrest
      · have hrow : (first.2.get? ⟨organizationId, provider, consumerKey, externalEventId⟩).isSome := by
          rw [get?_insert, if_pos rfl]
          rfl
        obtain ⟨row, hrow⟩ := Option.isSome_iff_exists.mp hrow
        exact Option.isSome_iff_exists.mpr ⟨row, hkept _ row hrow⟩
      · exact hall event hrest

/-- A row that was not there holds one of the events. -/
theorem insertAll_new {other : InboxKey} {row : QueueRow InboxData}
    (found : (insertAll provider organizationId consumerKey now rows events).2.get? other =
      some row) :
    rows.get? other = some row ∨ ∃ event ∈ events,
      other = ⟨organizationId, provider, consumerKey, event.1⟩ ∧
        row.data.payload = .obj event.2.entries := by
  induction events generalizing rows with
  | nil => exact .inl found
  | cons event rest ih =>
      obtain ⟨externalEventId, payload⟩ := event
      have hfound : (insertAll provider organizationId consumerKey now
          (insert ⟨organizationId, provider, consumerKey, externalEventId⟩ payload now rows).2
          rest).2.get? other = some row := found
      rcases ih hfound with hfirst | ⟨event, hevent, hsame⟩
      · rw [get?_insert] at hfirst
        split at hfirst
        · rename_i hsame
          cases hrow : rows.get? ⟨organizationId, provider, consumerKey, externalEventId⟩ with
          | none =>
              rw [hrow] at hfirst
              cases hfirst
              exact .inr ⟨_, List.mem_cons_self, hsame, rfl⟩
          | some before =>
              rw [hrow] at hfirst
              rw [hsame, hrow]
              exact .inl hfirst
        · exact .inl hfirst
      · exact .inr ⟨event, List.mem_cons_of_mem _ hevent, hsame⟩

end insert

end PostgresInboxStore
end DispatchCore.Infrastructure
