import DispatchCore.Messaging.Inbound

/-! Processors of the inbox, side by side: an item that is marked as processed has been answered. -/
namespace DispatchCore.Messaging

open DispatchCore.Library DispatchCore.Domain DispatchCore.Infrastructure Program

/-! ### What a processor was told before it marks an item -/

/-- No item is marked as processed by it. -/
abbrev InboundProgram.MarksNothing {ε α : Type} (program : InboundProgram ε α) : Prop :=
  program.Obeys (fun op => ∀ item, op ≠ .markProcessed item) (fun _ _ => True) (fun _ => True)
    fun _ => True

section exchanges

variable {item : InboxItem} {exchanges : List (Exchange InboundOp InboundOp.Answer)}

/-- The event was handled, and its reply, if there is one, handed to the queue. -/
def EventAnswered (item : InboxItem) (index : Nat) (event : ParsedEvent)
    (exchanges : List (Exchange InboundOp InboundOp.Answer)) : Prop :=
  ∃ answer, (∃ moment, ⟨moment, .answer item index event, .ok answer⟩ ∈ exchanges) ∧
    (answer.Replies → ∃ moment inserted,
      ⟨moment, .enqueue item index event answer, inserted⟩ ∈ exchanges)

theorem EventAnswered.mono {index : Nat} {event : ParsedEvent}
    {more : List (Exchange InboundOp InboundOp.Answer)}
    (answered : EventAnswered item index event exchanges) (kept : exchanges ⊆ more) :
    EventAnswered item index event more := by
  obtain ⟨answer, ⟨moment, hanswer⟩, hqueued⟩ := answered
  refine ⟨answer, ⟨moment, kept hanswer⟩, fun hreplies => ?_⟩
  obtain ⟨later, inserted, hmem⟩ := hqueued hreplies
  exact ⟨later, inserted, kept hmem⟩

/-- Every event of the item. -/
def ItemAnswered (parse : Provider → Json → Except String (List ParsedEvent)) (item : InboxItem)
    (exchanges : List (Exchange InboundOp InboundOp.Answer)) : Prop :=
  ∃ events, parse item.key.provider item.data.payload = .ok events ∧
    ∀ index event, events[index]? = some event → EventAnswered item index event exchanges

theorem processEvent_answered {index : Nat} {event : ParsedEvent}
    (led : Led (processEvent item index event) exchanges (.done ())) :
    EventAnswered item index event exchanges := by
  unfold processEvent at led
  obtain _ | @⟨_, _, answer, others, _, moment, led⟩ := led
  cases answer with
  | error error => cases led.of_raise.2
  | ok answer =>
      refine ⟨answer, ⟨moment, List.mem_cons_self ..⟩, fun hreplies => ?_⟩
      dsimp only at led
      rw [if_pos hreplies] at led
      obtain _ | @⟨_, _, inserted, others, _, later, led⟩ := led
      exact ⟨later, inserted, by simp⟩

theorem processEvents_answered {start : Nat} {events : List ParsedEvent}
    (led : Led (processEvents item start events) exchanges (.done ())) :
    ∀ index event, events[index]? = some event →
      EventAnswered item (start + index) event exchanges := by
  induction events generalizing start exchanges with
  | nil => exact fun index event h => by contradiction
  | cons first others ih =>
      obtain ⟨front, back, _, rfl, hfirst, hothers⟩ := led.bind_done
      intro index event hevent
      cases index with
      | zero =>
          cases hevent
          exact (processEvent_answered hfirst).mono fun _ h => List.mem_append_left _ h
      | succ index =>
          have hanswered := ih hothers index event hevent
          rw [Nat.add_right_comm, Nat.add_assoc] at hanswered
          exact hanswered.mono fun _ h => List.mem_append_right _ h

theorem answerPress_marks_nothing (event : ParsedEvent) (answer : InboundAnswer) :
    (answerPress event answer).MarksNothing := by
  unfold answerPress
  split
  · exact True.intro
  · split
    · exact True.intro
    · refine ⟨fun _ h => by contradiction, fun answered _ => ?_⟩
      cases answered <;> exact True.intro

theorem processEvent_marks_nothing (item : InboxItem) (index : Nat) (event : ParsedEvent) :
    (processEvent item index event).MarksNothing := by
  refine ⟨fun _ h => by contradiction, fun answer _ => ?_⟩
  cases answer with
  | error error => exact True.intro
  | ok answer =>
      dsimp only
      split
      · exact ⟨fun _ h => by contradiction, fun _ _ => answerPress_marks_nothing event answer⟩
      · exact answerPress_marks_nothing event answer

theorem processEvents_marks_nothing (item : InboxItem) (start : Nat) (events : List ParsedEvent) :
    (processEvents item start events).MarksNothing := by
  induction events generalizing start with
  | nil => exact True.intro
  | cons event others ih =>
      exact Obeys.bind (processEvent_marks_nothing item start event) fun _ _ => ih (start + 1)

variable {parse : Provider → Json → Except String (List ParsedEvent)}

theorem processItem_answered (led : Led (processItem parse item) exchanges (.done ())) :
    ItemAnswered parse item exchanges := by
  unfold processItem at led
  split at led
  · cases led.of_raise.2
  · rename_i events hevents
    refine ⟨events, hevents, fun index event hevent => ?_⟩
    simpa using processEvents_answered led index event hevent

theorem processItem_marks_nothing (item : InboxItem) :
    (processItem parse item).MarksNothing := by
  unfold processItem
  split
  · exact True.intro
  · exact processEvents_marks_nothing item 0 _

/-- An item is marked when all of it has been answered. -/
theorem handleItem_marks {first : InboxItem} {resume : Unit → InboundProgram Failure Nat}
    (led : Led (handleItem parse first) exchanges (.call (.markProcessed item) resume)) :
    item = first ∧ ItemAnswered parse first exchanges := by
  unfold handleItem at led
  rcases led.bind with ⟨op, rest, hled, h⟩ | ⟨failure, hled, h⟩ |
    ⟨front, back, result, rfl, hled, hback⟩
  · cases h
    obtain ⟨middle, hmiddle, hsame⟩ := hled.attempted
    cases middle with
    | call op resume =>
        cases hsame
        exact absurd rfl ((hmiddle.obeys (processItem_marks_nothing first)).1 item)
    | done value => contradiction
    | raise failure => contradiction
  · contradiction
  · obtain ⟨middle, hmiddle, hsame⟩ := hled.attempted
    cases result with
    | ok value =>
        cases hback with
        | start =>
            cases middle with
            | done value =>
                rw [List.append_nil]
                exact ⟨rfl, processItem_answered hmiddle⟩
            | raise failure => cases hsame
            | call op resume => contradiction
        | told moment led => cases led.of_done.2
    | error error =>
        obtain _ | @⟨_, _, answer, others, _, moment, led⟩ := hback
        cases answer with
        | ok value => cases led.of_done.2
        | error failure => cases led.of_raise.2

theorem handleItems_marks {items : List InboxItem} {resume : Unit → InboundProgram Failure Nat}
    (led : Led (handleItems parse items) exchanges (.call (.markProcessed item) resume)) :
    item ∈ items ∧ ItemAnswered parse item exchanges := by
  induction items generalizing exchanges resume with
  | nil => cases led.of_done.2
  | cons first others ih =>
      unfold handleItems at led
      rcases led.bind with ⟨op, rest, hled, h⟩ | ⟨failure, hled, h⟩ |
        ⟨front, back, processed, rfl, -, hback⟩
      · cases h
        obtain ⟨rfl, hanswered⟩ := handleItem_marks hled
        exact ⟨List.mem_cons_self .., hanswered⟩
      · contradiction
      · rcases hback.bind with ⟨op, rest, hled, h⟩ | ⟨failure, hled, h⟩ |
          ⟨middle, last, count, rfl, -, hlast⟩
        · cases h
          obtain ⟨hmem, events, hevents, hanswered⟩ := ih hled
          refine ⟨List.mem_cons_of_mem _ hmem, events, hevents, fun index event hevent => ?_⟩
          exact (hanswered index event hevent).mono fun _ h => List.mem_append_right _ h
        · contradiction
        · cases hlast.of_done.2

/-- A processor marks an item of its claim, when all of the item has been answered. -/
theorem runOnce_marks {resume : Unit → InboundProgram Failure Nat}
    (led : Led (InboundProcessor.runOnce parse) exchanges (.call (.markProcessed item) resume)) :
    (∃ moment items, ⟨moment, .claim, .ok items⟩ ∈ exchanges ∧ item ∈ items) ∧
      ItemAnswered parse item exchanges := by
  unfold InboundProcessor.runOnce at led
  obtain _ | @⟨_, _, claimed, others, _, moment, led⟩ := led
  cases claimed with
  | error failure => cases led.of_raise.2
  | ok items =>
      obtain ⟨hmem, events, hevents, hanswered⟩ := handleItems_marks led
      refine ⟨⟨moment, items, List.mem_cons_self .., hmem⟩, events, hevents, ?_⟩
      intro index event hevent
      exact (hanswered index event hevent).mono fun _ h => List.mem_cons_of_mem _ h

end exchanges

/-! ### What the tables keep -/

/-- Rows stay, with their data. -/
structure InboundTables.Kept (before after : InboundTables) : Prop where
  inbox : ∀ key row, before.inbox.get? key = some row →
    ∃ later, after.inbox.get? key = some later ∧ later.data = row.data
  outbound : ∀ id row, before.outbound.get? id = some row →
    ∃ later, after.outbound.get? id = some later ∧ later.data = row.data

/-- A message for each deduplication key, numbered below the next. -/
structure InboundTables.Sound (tables : InboundTables) : Prop where
  issued : ∀ id row, tables.outbound.get? id = some row → id < tables.serial
  single : ∀ id other row another, tables.outbound.get? id = some row →
    tables.outbound.get? other = some another →
      row.data.deduplicationKey = another.data.deduplicationKey → id = other

section tables

variable {tables : InboundTables}

theorem InboundTables.Kept.refl (tables : InboundTables) : tables.Kept tables :=
  ⟨fun _ row h => ⟨row, h, rfl⟩, fun _ row h => ⟨row, h, rfl⟩⟩

theorem InboundTables.Kept.trans {first second third : InboundTables} (left : first.Kept second)
    (right : second.Kept third) : first.Kept third := by
  constructor
  · intro key row hrow
    obtain ⟨later, hlater, hdata⟩ := left.inbox key row hrow
    obtain ⟨last, hlast, hsame⟩ := right.inbox key later hlater
    exact ⟨last, hlast, hsame.trans hdata⟩
  · intro id row hrow
    obtain ⟨later, hlater, hdata⟩ := left.outbound id row hrow
    obtain ⟨last, hlast, hsame⟩ := right.outbound id later hlater
    exact ⟨last, hlast, hsame.trans hdata⟩

/-- The row of a message that was queued before, or the one it is given now. -/
theorem InboundTables.queued_cases (tables : InboundTables) (message : OutboundMessage) :
    ((∃ id row, tables.outbound.get? id = some row ∧
        row.data.deduplicationKey = message.deduplicationKey) ∧
      (tables.queued message).2.outbound = tables.outbound) ∨
    ((∀ id row, tables.outbound.get? id = some row →
        row.data.deduplicationKey ≠ message.deduplicationKey) ∧
      (tables.queued message).2.outbound =
        (insertRow tables.serial message message.createdAt tables.outbound).2) := by
  unfold InboundTables.queued Infrastructure.enqueue
  by_cases htaken : (tables.outbound.values.any fun row =>
      row.data.deduplicationKey = message.deduplicationKey) = true
  · refine .inl ⟨?_, by simp [htaken]⟩
    obtain ⟨row, hrow, hsame⟩ := List.any_eq_true.mp htaken
    obtain ⟨⟨id, found⟩, hentry, rfl⟩ := List.mem_map.mp hrow
    exact ⟨id, found, (Dict.get?_eq_some _ _ _).mpr hentry, of_decide_eq_true hsame⟩
  · refine .inr ⟨fun id row hrow hsame => htaken ?_, by simp [htaken]⟩
    refine List.any_eq_true.mpr ⟨row, List.mem_map.mpr ⟨(id, row), ?_, rfl⟩, by simp [hsame]⟩
    exact (Dict.get?_eq_some _ _ _).mp hrow

theorem InboundTables.queued_kept (tables : InboundTables) (message : OutboundMessage) :
    tables.Kept (tables.queued message).2 := by
  refine ⟨fun _ row h => ⟨row, h, rfl⟩, fun id row hrow => ⟨row, ?_, rfl⟩⟩
  rcases tables.queued_cases message with ⟨-, h⟩ | ⟨-, h⟩
  · rw [h]
    exact hrow
  · rw [h, get?_insertRow, hrow]
    split <;> rfl

theorem InboundTables.Sound.queued (sound : tables.Sound) (message : OutboundMessage) :
    (tables.queued message).2.Sound ∧ ∃ id row,
      (tables.queued message).2.outbound.get? id = some row ∧
        row.data.deduplicationKey = message.deduplicationKey := by
  have hserial : (tables.queued message).2.serial = tables.serial + 1 := rfl
  rcases tables.queued_cases message with ⟨⟨id, row, hrow, hsame⟩, h⟩ | ⟨hnew, h⟩
  · refine ⟨⟨fun other another hother => ?_, ?_⟩, id, row, by rw [h]; exact hrow, hsame⟩
    · rw [h] at hother
      rw [hserial]
      exact Nat.lt_succ_of_lt (sound.issued other another hother)
    · rw [h]
      exact sound.single
  · have hnone : tables.outbound.get? tables.serial = none := by
      cases hfound : tables.outbound.get? tables.serial with
      | none => rfl
      | some row => exact absurd (sound.issued _ row hfound) (Nat.lt_irrefl _)
    have hget : ∀ id, (tables.queued message).2.outbound.get? id =
        if id = tables.serial then some (.create message message.createdAt)
        else tables.outbound.get? id := by
      intro id
      rw [h, get?_insertRow]
      by_cases hid : id = tables.serial
      · rw [if_pos hid, if_pos hid, hid, hnone]
        rfl
      · rw [if_neg hid, if_neg hid]
    refine ⟨⟨fun id row hrow => ?_, fun id other row another hrow hother hsame => ?_⟩,
      tables.serial, .create message message.createdAt, ?_, rfl⟩
    · rw [hget] at hrow
      rw [hserial]
      split at hrow
      · omega
      · exact Nat.lt_succ_of_lt (sound.issued id row hrow)
    · rw [hget] at hrow hother
      split at hrow <;> split at hother
      · omega
      · cases hrow
        exact absurd hsame.symm (hnew other another hother)
      · cases hother
        exact absurd hsame (hnew id row hrow)
      · exact sound.single id other row another hrow hother hsame
    · rw [hget, if_pos rfl]

theorem updateProcessing_kept {key : InboxKey} {change : QueueRow InboxData → QueueRow InboxData}
    (same : ∀ row, (change row).data = row.data) (rows : InboxRows) :
    ∀ other row, rows.get? other = some row →
      ∃ later, (updateProcessing key change rows).get? other = some later ∧
        later.data = row.data := by
  intro other row hrow
  rw [get?_updateProcessing, hrow]
  refine ⟨_, rfl, ?_⟩
  dsimp only
  split
  · exact same row
  · rfl

theorem claimRows_cases {selects : InboxKey → InboxData → Bool}
    {precedes : InboxKey × InboxData → InboxKey × InboxData → Bool} {limit : Nat}
    {staleAfterSeconds : Int} {locked : InboxKey → Bool} {now : Instant} {rows after : InboxRows}
    {items : List InboxItem}
    (h : claimRows selects precedes limit staleAfterSeconds locked now rows = .ok (items, after)) :
    (∀ item ∈ items, ∃ row, rows.get? item.key = some row ∧ item.data = row.data) ∧
      ∀ key, after.get? key = rows.get? key ∨
        after.get? key = (rows.get? key).map fun row => row.claim now := by
  unfold claimRows at h
  split at h
  · cases h
    constructor
    · intro item hitem
      obtain ⟨entry, hentry, rfl⟩ := List.mem_map.mp hitem
      exact ⟨entry.2, (mem_candidates hentry).1, rfl⟩
    · intro key
      rw [Dict.get?_mapValues]
      by_cases hchosen : key ∈ (candidates selects precedes limit staleAfterSeconds locked now
        rows).map Prod.fst
      · exact .inr (by simp only [if_pos hchosen])
      · exact .inl (by simp only [if_neg hchosen, Option.map_id'])
  · contradiction

/-- What one step does to the inbox: rows stay, and one is settled by its mark alone. -/
structure InboxStep (before after : InboxRows) (marked : InboxKey → Prop) : Prop where
  kept : ∀ key row, before.get? key = some row →
    ∃ later, after.get? key = some later ∧ later.data = row.data
  settled : ∀ key later, after.get? key = some later → later.status = .settled →
    (∃ row, before.get? key = some row ∧ row.status = .settled) ∨ marked key

theorem InboxStep.same (rows : InboxRows) (marked : InboxKey → Prop) :
    InboxStep rows rows marked :=
  ⟨fun _ row h => ⟨row, h, rfl⟩, fun _ later h hsettled => .inl ⟨later, h, hsettled⟩⟩

theorem inboxStep_updateProcessing {key : InboxKey}
    {change : QueueRow InboxData → QueueRow InboxData} {marked : InboxKey → Prop}
    (same : ∀ row, (change row).data = row.data)
    (settles : (∀ row, (change row).status ≠ .settled) ∨ marked key) (rows : InboxRows) :
    InboxStep rows (updateProcessing key change rows) marked := by
  refine ⟨updateProcessing_kept same rows, fun other later hlater hsettled => ?_⟩
  rw [get?_updateProcessing] at hlater
  obtain ⟨row, hrow, rfl⟩ := Option.map_eq_some_iff.mp hlater
  split at hsettled
  · rename_i hother
    rcases settles with hnever | hmarked
    · exact absurd hsettled (hnever row)
    · exact .inr (hother.1 ▸ hmarked)
  · exact .inl ⟨row, hrow, hsettled⟩

theorem InboundTables.perform_inbox (processor : InboundProcessor) (draw : InboundDraw)
    (op : InboundOp) (tables : InboundTables) :
    InboxStep tables.inbox (tables.perform processor draw op).2.inbox
      fun key => ∃ item, op = .markProcessed item ∧ item.key = key := by
  cases op with
  | claim =>
      unfold InboundTables.perform
      dsimp only
      split
      · rename_i items inbox hclaimed
        obtain ⟨-, hrows⟩ := claimRows_cases hclaimed
        constructor
        · intro key row hrow
          rcases hrows key with h | h
          · exact ⟨row, h.trans hrow, rfl⟩
          · exact ⟨row.claim draw.now, by rw [h, hrow]; rfl, rfl⟩
        · intro key later hlater hsettled
          rcases hrows key with h | h
          · exact .inl ⟨later, h.symm.trans hlater, hsettled⟩
          · obtain ⟨row, -, rfl⟩ := Option.map_eq_some_iff.mp (h.symm.trans hlater)
            cases hsettled
      · exact .same _ _
  | answer item index event => exact .same _ _
  | enqueue item index event answer => exact .same _ _
  | answerCallback callbackId text => exact .same _ _
  | markProcessed item =>
      have hsame : ∀ row : QueueRow InboxData, (row.settle draw.now none).data = row.data :=
        fun _ => rfl
      exact inboxStep_updateProcessing hsame (.inr ⟨item, rfl, rfl⟩) tables.inbox
  | markFailed item error =>
      unfold InboundTables.perform
      dsimp only
      split
      · rename_i inbox hfailed
        unfold markFailed at hfailed
        cases hdelay : failureDelay item.attempts none draw.fraction with
        | error failure =>
            rw [hdelay] at hfailed
            contradiction
        | ok delay =>
        rw [hdelay] at hfailed
        cases hfailed
        have hsame : ∀ row : QueueRow InboxData, (row.fail draw.now
            (decide (maxAttempts ≤ item.attempts)) delay error).data = row.data := fun _ => rfl
        have hnever : ∀ row : QueueRow InboxData, (row.fail draw.now
            (decide (maxAttempts ≤ item.attempts)) delay error).status ≠ .settled := by
          intro row
          unfold QueueRow.fail
          dsimp only
          split <;> nofun
        exact inboxStep_updateProcessing hsame (.inl hnever) tables.inbox
      · exact .same _ _

/-- A claim hands out items as they are stored. -/
theorem InboundTables.claimed_data {processor : InboundProcessor} {draw : InboundDraw}
    {items : List InboxItem} {item : InboxItem}
    (claimed : (tables.perform processor draw .claim).1 = .ok items) (hitem : item ∈ items) :
    ∃ row, tables.inbox.get? item.key = some row ∧ item.data = row.data := by
  unfold InboundTables.perform at claimed
  dsimp only at claimed
  split at claimed
  · rename_i found inbox hclaimed
    cases claimed
    exact (claimRows_cases hclaimed).1 item hitem
  · contradiction

theorem InboundTables.change_inbox (event : InboundChange) (tables : InboundTables) :
    InboxStep tables.inbox (tables.change event).inbox fun _ => False := by
  cases event with
  | accept key payload now =>
      have hget : ∀ other,
          (PostgresInboxStore.insert key payload now tables.inbox).2.get? other =
            if other = key then
              some ((tables.inbox.get? key).getD (.create ⟨.obj payload.entries, now⟩ now))
            else tables.inbox.get? other := fun other => PostgresInboxStore.get?_insert other
      constructor
      · intro other row hrow
        refine ⟨row, (hget other).trans ?_, rfl⟩
        split
        · rename_i hsame
          rw [← hsame, hrow]
          rfl
        · exact hrow
      · intro other later hlater hsettled
        have hfound := (hget other).symm.trans hlater
        split at hfound
        · rename_i hsame
          cases hrow : tables.inbox.get? key with
          | some row =>
              rw [hrow] at hfound
              cases hfound
              exact .inl ⟨row, hsame ▸ hrow, hsettled⟩
          | none =>
              rw [hrow] at hfound
              cases hfound
              cases hsettled
        · exact .inl ⟨later, hfound, hsettled⟩
  | enqueue message => exact .same _ _
  | sent id change same =>
      unfold InboundTables.change
      dsimp only
      split <;> exact .same _ _

theorem InboundTables.perform_outbound (processor : InboundProcessor) (draw : InboundDraw)
    (op : InboundOp) (tables : InboundTables) :
    (∃ message, (tables.perform processor draw op).2 = (tables.queued message).2) ∨
      (tables.perform processor draw op).2.outbound = tables.outbound ∧
        (tables.perform processor draw op).2.serial = tables.serial := by
  cases op with
  | enqueue item index event answer => exact .inl ⟨_, rfl⟩
  | claim =>
      unfold InboundTables.perform
      dsimp only
      split <;> exact .inr ⟨rfl, rfl⟩
  | markFailed item error =>
      unfold InboundTables.perform
      dsimp only
      split <;> exact .inr ⟨rfl, rfl⟩
  | _ => exact .inr ⟨rfl, rfl⟩

theorem InboundTables.Kept.perform (processor : InboundProcessor) (draw : InboundDraw)
    (op : InboundOp) (tables : InboundTables) :
    tables.Kept (tables.perform processor draw op).2 := by
  refine ⟨(tables.perform_inbox processor draw op).kept, ?_⟩
  rcases tables.perform_outbound processor draw op with ⟨message, h⟩ | ⟨h, -⟩
  · rw [h]
    exact (tables.queued_kept message).outbound
  · rw [h]
    exact fun id row hrow => ⟨row, hrow, rfl⟩

theorem InboundTables.Sound.perform (processor : InboundProcessor) (draw : InboundDraw)
    (op : InboundOp) (tables : InboundTables) (sound : tables.Sound) :
    (tables.perform processor draw op).2.Sound := by
  rcases tables.perform_outbound processor draw op with ⟨message, h⟩ | ⟨houtbound, hserial⟩
  · rw [h]
    exact (sound.queued message).1
  · constructor
    · rw [houtbound, hserial]
      exact sound.issued
    · rw [houtbound]
      exact sound.single

/-- A sender writes what became of a message, and leaves the message. -/
theorem get?_sent {id : Nat} {row : QueueRow OutboundMessage}
    {change : QueueRow OutboundMessage → QueueRow OutboundMessage}
    (same : ∀ row, (change row).data = row.data) (found : tables.outbound.get? id = some row)
    (other : Nat) :
    ((tables.outbound.set id (change row)).get? other).map QueueRow.data =
      (tables.outbound.get? other).map QueueRow.data := by
  rw [Dict.get?_set]
  split
  · rename_i hsame
    rw [hsame, found]
    exact congrArg some (same row)
  · rfl

theorem InboundTables.change_outbound (event : InboundChange) (tables : InboundTables) :
    (∃ message, tables.change event = (tables.queued message).2) ∨
      (∀ other, ((tables.change event).outbound.get? other).map QueueRow.data =
        (tables.outbound.get? other).map QueueRow.data) ∧
          (tables.change event).serial = tables.serial := by
  cases event with
  | accept key payload now => exact .inr ⟨fun _ => rfl, rfl⟩
  | enqueue message => exact .inl ⟨message, rfl⟩
  | sent id change same =>
      unfold InboundTables.change
      dsimp only
      split
      · exact .inr ⟨fun _ => rfl, rfl⟩
      · rename_i row hfound
        exact .inr ⟨get?_sent same hfound, rfl⟩

theorem InboundTables.Kept.change (event : InboundChange) (tables : InboundTables) :
    tables.Kept (tables.change event) := by
  refine ⟨(tables.change_inbox event).kept, ?_⟩
  rcases tables.change_outbound event with ⟨message, h⟩ | ⟨h, -⟩
  · rw [h]
    exact (tables.queued_kept message).outbound
  · intro id row hrow
    have hdata := h id
    rw [hrow] at hdata
    obtain ⟨later, hlater, hsame⟩ := Option.map_eq_some_iff.mp hdata
    exact ⟨later, hlater, hsame⟩

theorem InboundTables.Sound.change (event : InboundChange) (tables : InboundTables)
    (sound : tables.Sound) : (tables.change event).Sound := by
  rcases tables.change_outbound event with ⟨message, h⟩ | ⟨hdata, hserial⟩
  · rw [h]
    exact (sound.queued message).1
  · have hbefore : ∀ id row, (tables.change event).outbound.get? id = some row →
        ∃ earlier, tables.outbound.get? id = some earlier ∧ earlier.data = row.data := by
      intro id row hrow
      have hsame := (hdata id).symm
      rw [hrow] at hsame
      exact Option.map_eq_some_iff.mp hsame
    constructor
    · intro id row hrow
      obtain ⟨earlier, hearlier, -⟩ := hbefore id row hrow
      rw [hserial]
      exact sound.issued id earlier hearlier
    · intro id other row another hrow hother hsame
      obtain ⟨earlier, hearlier, hfirst⟩ := hbefore id row hrow
      obtain ⟨before, hother, hsecond⟩ := hbefore other another hother
      exact sound.single id other earlier before hearlier hother (by rw [hfirst, hsecond, hsame])

end tables

/-! ### Runs -/

section runs

variable {parse : Provider → Json → Except String (List ParsedEvent)} {states : Nat → InboundTables}
  {world : Conversations InboundProcessor InboundTables InboundOp InboundOp.Answer Failure Nat}

/-- An item that is settled was marked by a processor. -/
theorem marked_of_settled (conversing : Conversing (inboundRules parse) states world)
    (fresh : states 0 = .empty) {moment : Nat} (reached : moment ≤ world.clock) {key : InboxKey}
    {row : QueueRow InboxData} (found : (states moment).inbox.get? key = some row)
    (settled : row.status = .settled) :
    ∃ talk ∈ world.talks, ∃ exchange ∈ talk.exchanges, ∃ item,
      exchange.op = .markProcessed item ∧ item.key = key := by
  induction moment generalizing row with
  | zero =>
      rw [fresh] at found
      contradiction
  | succ moment ih =>
      have hbefore := Nat.le_of_succ_le reached
      rcases conversing.next reached with hsame | ⟨event, hchanged⟩ |
        ⟨talk, htalk, exchange, hexchange, -, draw, hperformed⟩
      · rw [hsame] at found
        exact ih hbefore found settled
      · rw [hchanged] at found
        have hstep := (states moment).change_inbox event
        rcases hstep.settled key row found settled with ⟨earlier, hearlier, hsettled⟩ | h
        · exact ih hbefore hearlier hsettled
        · contradiction
      · rw [hperformed] at found
        have hstep := (states moment).perform_inbox talk.about draw exchange.op
        rcases hstep.settled key row found settled with ⟨earlier, hearlier, hsettled⟩ | hmarked
        · exact ih hbefore hearlier hsettled
        · exact ⟨talk, htalk, exchange, hexchange, hmarked⟩

theorem kept_of_le (conversing : Conversing (inboundRules parse) states world)
    {earlier later : Nat} (ordered : earlier ≤ later) (reached : later ≤ world.clock) :
    (states earlier).Kept (states later) :=
  conversing.follows .refl (fun _ _ _ => .trans) InboundTables.Kept.perform
    InboundTables.Kept.change ordered reached

theorem sound_at (conversing : Conversing (inboundRules parse) states world)
    (fresh : states 0 = .empty) {moment : Nat} (reached : moment ≤ world.clock) :
    (states moment).Sound := by
  refine conversing.invariant InboundTables.Sound.perform InboundTables.Sound.change ?_ reached
  rw [fresh]
  exact ⟨fun _ _ h => by contradiction, fun _ _ _ _ h => by contradiction⟩

/-- A reply that was handed to the queue is in it from then on. -/
theorem queued_reply (conversing : Conversing (inboundRules parse) states world)
    (fresh : states 0 = .empty) {talk : InboundTalk} (htalk : talk ∈ world.talks)
    {moment index : Nat} {item : InboxItem} {event : ParsedEvent} {answer : InboundAnswer}
    {inserted : Bool}
    (handed : ⟨moment, .enqueue item index event answer, inserted⟩ ∈ talk.exchanges) :
    ∃ id row, world.state.outbound.get? id = some row ∧
      row.data.deduplicationKey = replyKey talk.about item.key index event := by
  have hclock := (conversing.timely talk htalk _ handed).2
  obtain ⟨draw, hperformed⟩ := conversing.heard talk htalk _ handed
  have hafter : ((states moment).queued
      (replyMessage talk.about item index event answer draw.now)).2 = states (moment + 1) :=
    congrArg Prod.snd hperformed
  have hsound := sound_at conversing fresh (Nat.le_of_lt hclock)
  obtain ⟨id, row, hrow, hkey⟩ :=
    (hsound.queued (replyMessage talk.about item index event answer draw.now)).2
  rw [hafter] at hrow
  obtain ⟨later, hlater, hsame⟩ :=
    (kept_of_le conversing hclock (Nat.le_refl _)).outbound id row hrow
  rw [conversing.now] at hlater
  exact ⟨id, later, hlater, by rw [hsame]; exact hkey⟩

/-- What the table of messages tells of an item: each of its events was handled by the processor,
and each reply is queued. -/
def AllAnswered (parse : Provider → Json → Except String (List ParsedEvent)) (talk : InboundTalk)
    (tables : InboundTables) (item : InboxItem) : Prop :=
  ∃ events, parse item.key.provider item.data.payload = .ok events ∧
    ∀ index event, events[index]? = some event → ∃ answer,
      (∃ moment, ⟨moment, .answer item index event, .ok answer⟩ ∈ talk.exchanges) ∧
      (answer.Replies → ∃ id row, tables.outbound.get? id = some row ∧
        row.data.deduplicationKey = replyKey talk.about item.key index event)

/-- The mark of an item, by the processor that claimed it. -/
theorem answered_of_mark (conversing : Conversing (inboundRules parse) states world)
    (fresh : states 0 = .empty) {talk : InboundTalk} (htalk : talk ∈ world.talks)
    {exchange : Exchange InboundOp InboundOp.Answer} (hexchange : exchange ∈ talk.exchanges)
    {item : InboxItem} (marks : exchange.op = .markProcessed item)
    {row : QueueRow InboxData} (found : world.state.inbox.get? item.key = some row) :
    item.data = row.data ∧ AllAnswered parse talk world.state item := by
  obtain ⟨front, resume, hfront, hmem, -⟩ := conversing.asked htalk hexchange
  obtain ⟨marked, op, answer⟩ := exchange
  cases marks
  obtain ⟨⟨moment, items, hclaim, hitem⟩, events, hevents, hanswered⟩ := runOnce_marks hfront
  constructor
  · have hclock := (conversing.timely talk htalk _ (hmem hclaim)).2
    obtain ⟨draw, hperformed⟩ := conversing.heard talk htalk _ (hmem hclaim)
    obtain ⟨claimed, hclaimed, hdata⟩ := InboundTables.claimed_data
      (congrArg Prod.fst hperformed) hitem
    obtain ⟨later, hlater, hsame⟩ :=
      (kept_of_le conversing (Nat.le_of_lt hclock) (Nat.le_refl _)).inbox item.key claimed hclaimed
    rw [conversing.now, found] at hlater
    cases hlater
    exact hdata.trans hsame.symm
  · refine ⟨events, hevents, fun index event hevent => ?_⟩
    obtain ⟨answer, ⟨told, htold⟩, hqueued⟩ := hanswered index event hevent
    refine ⟨answer, ⟨told, hmem htold⟩, fun hreplies => ?_⟩
    obtain ⟨handed, inserted, hhanded⟩ := hqueued hreplies
    exact queued_reply conversing fresh htalk (hmem hhanded)

end runs

end DispatchCore.Messaging
