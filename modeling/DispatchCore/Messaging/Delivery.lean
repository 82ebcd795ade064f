import DispatchCore.Messaging.Sender
import Mathlib.Data.List.Perm.Basic

/-! What the senders, the projectors and the maintenance make of the outbound messages together:
no message is lost before a provider has taken it, and no claim of a message sends it twice. -/
namespace DispatchCore.Messaging

open DispatchCore.Library DispatchCore.Domain DispatchCore.Infrastructure

/-- A claim of a message, by the number of its attempt. -/
def ticket (message : OutboundEnvelope) : Nat × Nat := (message.key, message.attempts)

namespace SenderStage

/-- The messages that the sender has claimed and not yet given to the transport. -/
def unsent : SenderStage → List OutboundEnvelope
  | sending message rest _ => message :: rest
  | failing _ _ rest _ | settling _ _ rest _ => rest
  | idle | claiming _ _ => []

/-- The messages that the sender has still to send or to mark. -/
def inHand : SenderStage → List OutboundEnvelope
  | sending message rest _ | failing message _ rest _ | settling message _ rest _ => message :: rest
  | idle | claiming _ _ => []

theorem unsent_sublist (stage : SenderStage) : stage.unsent.Sublist stage.inHand := by
  cases stage <;> simp [unsent, inHand]

theorem unsent_next (messages : List OutboundEnvelope) (delivered : Nat) :
    (next messages delivered).unsent = messages := by
  cases messages <;> rfl

theorem inHand_next (messages : List OutboundEnvelope) (delivered : Nat) :
    (next messages delivered).inHand = messages := by
  cases messages <;> rfl

end SenderStage

/-- The sender serves the message: its provider, its organization and its bot. -/
structure Serves (sender : OutboundSender) (message : OutboundMessage) : Prop where
  provider : message.provider ∈ sender.transports
  organization : message.organizationId = sender.organizationId
  consumer : message.consumerKey ∈ outboundConsumerKeys message.provider sender.consumerKey

/-- A message that a sender has claimed. -/
structure Claimed (rows : QueueRows Nat OutboundMessage) (enqueued : List (Nat × OutboundMessage))
    (sender : OutboundSender) (message : OutboundEnvelope) : Prop where
  enqueued : (message.key, message.data) ∈ enqueued
  positive : 1 ≤ message.attempts
  counted : ∀ row, rows.get? message.key = some row → message.attempts ≤ row.attempts
  serves : Serves sender message.data

/-- The provider has taken the message of the row, and answered with this identifier. -/
def TakenAs (accepted : List Acceptance) (key : Nat) (externalMessageId : Option String) : Prop :=
  ∃ acceptance ∈ accepted, acceptance.message.key = key ∧
    acceptance.externalMessageId = externalMessageId

/-- What the table holds, and what it no longer holds. -/
structure Ledger (world : OutboundWorld) : Prop where
  issued : ∀ entry ∈ world.enqueued, entry.1 < world.serial
  distinct : (world.enqueued.map Prod.fst).Nodup
  origin : ∀ key row, world.rows.get? key = some row → (key, row.data) ∈ world.enqueued
  settled : ∀ key row, world.rows.get? key = some row → row.status = .settled →
    TakenAs world.accepted key row.externalMessageId
  dead : ∀ key row, world.rows.get? key = some row → row.status = .dead →
    maxAttempts ≤ row.attempts
  present : ∀ entry ∈ world.enqueued, (∃ row, world.rows.get? entry.1 = some row) ∨
    ∃ removal ∈ world.removed, removal.key = entry.1
  removed : ∀ removal ∈ world.removed, (∃ externalMessageId,
    TakenAs world.accepted removal.key externalMessageId) ∧
      removal.settledAt < removal.removedAt.addSeconds (-86400)
  again : ∀ first ∈ world.enqueued, ∀ second ∈ world.enqueued, first.1 < second.1 →
    first.2.deduplicationKey = second.2.deduplicationKey →
      ∃ removal ∈ world.removed, removal.key = first.1

section ledger

variable {world : OutboundWorld}

theorem TakenAs.more {accepted after : List Acceptance} {key : Nat}
    {externalMessageId : Option String} (taken : TakenAs accepted key externalMessageId)
    (h : accepted ⊆ after) : TakenAs after key externalMessageId := by
  obtain ⟨acceptance, hmem, hfits⟩ := taken
  exact ⟨acceptance, h hmem, hfits⟩

/-- The senders go on, and the providers may have taken more. -/
theorem Ledger.more (ledger : Ledger world) (senders : List (OutboundSender × SenderStage))
    {accepted : List Acceptance} (h : world.accepted ⊆ accepted) :
    Ledger { world with senders, accepted } where
  issued := ledger.issued
  distinct := ledger.distinct
  origin := ledger.origin
  settled key row hrow hstatus := (ledger.settled key row hrow hstatus).more h
  dead := ledger.dead
  present := ledger.present
  removed removal hremoval :=
    ⟨(ledger.removed removal hremoval).1.imp fun _ taken => taken.more h,
      (ledger.removed removal hremoval).2⟩
  again := ledger.again

/-- The key of a row tells its message. -/
theorem Ledger.data (ledger : Ledger world) {key : Nat} {row : QueueRow OutboundMessage}
    {message : OutboundMessage} (h : world.rows.get? key = some row)
    (there : (key, message) ∈ world.enqueued) : row.data = message := by
  have horigin := ledger.origin key row h
  exact congrArg Prod.snd (List.inj_on_of_nodup_map ledger.distinct horigin there rfl)

theorem enqueue_inserted {message : OutboundMessage} {rows after : QueueRows Nat OutboundMessage}
    {serial : Nat} (h : enqueue message rows serial = (true, after)) :
    (∀ key row, rows.get? key = some row →
      row.data.deduplicationKey ≠ message.deduplicationKey) ∧
      after = rows.set serial (.create message message.createdAt) := by
  unfold enqueue at h
  split at h
  · cases h
  · rename_i hnew
    refine ⟨fun key row hrow hsame => hnew ?_, ?_⟩
    · refine List.any_eq_true.mpr ⟨row, List.mem_map.mpr ⟨(key, row), ?_, rfl⟩, by simp [hsame]⟩
      exact (Dict.get?_eq_some _ _ _).mp hrow
    · unfold insertRow at h
      split at h
      · cases h
      · cases h
        rfl

theorem Ledger.enqueueMessage (ledger : Ledger world) (message : OutboundMessage) :
    Ledger (world.enqueueMessage message) := by
  unfold OutboundWorld.enqueueMessage
  split
  · exact ledger
  · rename_i rows henqueue
    obtain ⟨hnew, rfl⟩ := enqueue_inserted henqueue
    have hother {key : Nat} {row : QueueRow OutboundMessage}
        (h : (world.rows.set world.serial (.create message message.createdAt)).get? key =
          some row) : key = world.serial ∧ row = .create message message.createdAt ∨
            world.rows.get? key = some row := by
      rw [Dict.get?_set] at h
      by_cases hsame : key = world.serial
      · rw [if_pos hsame] at h
        exact .inl ⟨hsame, (Option.some.inj h).symm⟩
      · rw [if_neg hsame] at h
        exact .inr h
    constructor
    · intro entry hentry
      rcases List.mem_append.mp hentry with hold | hlast
      · exact Nat.lt_succ_of_lt (ledger.issued entry hold)
      · rw [List.mem_singleton.mp hlast]
        exact Nat.lt_succ_self _
    · rw [List.map_append, List.nodup_append]
      refine ⟨ledger.distinct, by simp, fun key hkey other hlast hsame => ?_⟩
      obtain ⟨entry, hentry, rfl⟩ := List.mem_map.mp hkey
      have hissued := ledger.issued entry hentry
      simp only [List.map_cons, List.map_nil, List.mem_singleton] at hlast
      omega
    · intro key row h
      rcases hother h with ⟨rfl, rfl⟩ | hrow
      · exact List.mem_append_right _ (List.mem_singleton_self _)
      · exact List.mem_append_left _ (ledger.origin key row hrow)
    · intro key row h hstatus
      rcases hother h with ⟨rfl, rfl⟩ | hrow
      · contradiction
      · exact ledger.settled key row hrow hstatus
    · intro key row h hstatus
      rcases hother h with ⟨rfl, rfl⟩ | hrow
      · contradiction
      · exact ledger.dead key row hrow hstatus
    · intro entry hentry
      show (∃ row, (world.rows.set _ _).get? entry.1 = some row) ∨ _
      rw [Dict.get?_set]
      by_cases hsame : entry.1 = world.serial
      · rw [if_pos hsame]
        exact .inl ⟨_, rfl⟩
      · rw [if_neg hsame]
        rcases List.mem_append.mp hentry with hold | hlast
        · exact ledger.present entry hold
        · exact absurd (congrArg Prod.fst (List.mem_singleton.mp hlast)) hsame
    · exact ledger.removed
    · intro first hfirst second hsecond hless hsame
      rcases List.mem_append.mp hfirst with hold | hlast
      · rcases List.mem_append.mp hsecond with hearlier | hnewest
        · exact ledger.again first hold second hearlier hless hsame
        · cases List.mem_singleton.mp hnewest
          refine (ledger.present first hold).resolve_left ?_
          rintro ⟨row, hrow⟩
          refine hnew first.1 row hrow ?_
          rw [ledger.data hrow hold]
          exact hsame
      · cases List.mem_singleton.mp hlast
        rcases List.mem_append.mp hsecond with hearlier | hnewest
        · have hissued := ledger.issued second hearlier
          exact absurd hissued (Nat.not_lt.mpr (Nat.le_of_lt hless))
        · cases List.mem_singleton.mp hnewest
          exact absurd hless (Nat.lt_irrefl _)

/-- Rows that are rewritten in their place. -/
theorem Ledger.rewrite (ledger : Ledger world) {rows : QueueRows Nat OutboundMessage}
    (kept : ∀ key row, world.rows.get? key = some row → ∃ after, rows.get? key = some after)
    (fits : ∀ key after, rows.get? key = some after → ∃ row, world.rows.get? key = some row ∧
      after.data = row.data ∧ row.attempts ≤ after.attempts ∧
        (after.status = .settled → (row.status = .settled ∧
          after.externalMessageId = row.externalMessageId) ∨
            TakenAs world.accepted key after.externalMessageId) ∧
        (after.status = .dead → row.status = .dead ∨ maxAttempts ≤ after.attempts)) :
    Ledger { world with rows } where
  issued := ledger.issued
  distinct := ledger.distinct
  origin key after h := by
    obtain ⟨row, hrow, hdata, -⟩ := fits key after h
    rw [hdata]
    exact ledger.origin key row hrow
  settled key after h hstatus := by
    obtain ⟨row, hrow, -, -, hsettled, -⟩ := fits key after h
    rcases hsettled hstatus with ⟨hbefore, hsame⟩ | htaken
    · rw [hsame]
      exact ledger.settled key row hrow hbefore
    · exact htaken
  dead key after h hstatus := by
    obtain ⟨row, hrow, -, hattempts, -, hdead⟩ := fits key after h
    rcases hdead hstatus with hbefore | hused
    · exact Nat.le_trans (ledger.dead key row hrow hbefore) hattempts
    · exact hused
  present entry hentry :=
    (ledger.present entry hentry).imp (fun ⟨row, hrow⟩ => kept entry.1 row hrow) id
  removed := ledger.removed
  again := ledger.again

theorem mem_removals {rows cleaned : QueueRows Nat OutboundMessage} {now : Instant}
    {removal : Removal} : removal ∈ OutboundWorld.removals rows cleaned now ↔
      ∃ row, rows.get? removal.key = some row ∧ cleaned.get? removal.key = none ∧
        row.settledAt = some removal.settledAt ∧ removal.removedAt = now := by
  unfold OutboundWorld.removals
  rw [List.mem_filterMap]
  constructor
  · rintro ⟨entry, hentry, h⟩
    split at h
    · rename_i hnone hat
      cases h
      exact ⟨entry.2, (Dict.get?_eq_some _ _ _).mpr hentry, hnone, hat, rfl⟩
    · contradiction
  · rintro ⟨row, hrow, hnone, hat, rfl⟩
    refine ⟨(removal.key, row), (Dict.get?_eq_some _ _ _).mp hrow, ?_⟩
    simp [hnone, hat]

theorem Ledger.cleanup (ledger : Ledger world) (organizationId : String)
    (retentionDays batchSize : Int) (scan : List Nat) (now : Instant) :
    Ledger (world.cleanup organizationId retentionDays batchSize scan now) := by
  unfold OutboundWorld.cleanup
  split
  · exact ledger
  · rename_i rows hcleanup
    have hcleaned := get?_cleanupTerminal hcleanup
    have hkept {key : Nat} {row : QueueRow OutboundMessage} (h : rows.get? key = some row) :
        world.rows.get? key = some row := by
      rcases hcleaned key with hsame | ⟨hnone, -⟩
      · rw [← hsame]
        exact h
      · rw [hnone] at h
        contradiction
    constructor
    · exact ledger.issued
    · exact ledger.distinct
    · exact fun key row h => ledger.origin key row (hkept h)
    · exact fun key row h => ledger.settled key row (hkept h)
    · exact fun key row h => ledger.dead key row (hkept h)
    · intro entry hentry
      rcases hcleaned entry.1 with hsame | ⟨hnone, row, settledAt, hrow, -, hat, -⟩
      · rcases ledger.present entry hentry with ⟨row, hrow⟩ | ⟨removal, hremoval, hkey⟩
        · exact .inl ⟨row, hsame.trans hrow⟩
        · exact .inr ⟨removal, List.mem_append_left _ hremoval, hkey⟩
      · refine .inr ⟨⟨entry.1, settledAt, now⟩, List.mem_append_right _ ?_, rfl⟩
        exact mem_removals.mpr ⟨row, hrow, hnone, hat, rfl⟩
    · intro removal hremoval
      rcases List.mem_append.mp hremoval with hold | hnew
      · exact ledger.removed removal hold
      · obtain ⟨row, hrow, hnone, hat, hnow⟩ := mem_removals.mp hnew
        rcases hcleaned removal.key with
          hsame | ⟨-, found, settledAt, hfound, hsettled, hwhen, hold⟩
        · rw [hsame, hrow] at hnone
          contradiction
        · cases hfound.symm.trans hrow
          cases hwhen.symm.trans hat
          refine ⟨⟨_, ledger.settled _ _ hrow hsettled⟩, ?_⟩
          rw [hnow]
          exact hold
    · intro first hfirst second hsecond hless hsame
      obtain ⟨removal, hremoval, hkey⟩ := ledger.again first hfirst second hsecond hless hsame
      exact ⟨removal, List.mem_append_left _ hremoval, hkey⟩

end ledger

/-! ### The senders -/

theorem flatMap_set_perm {α β : Type} {f : α → List β} {items : List α} {index : Nat} {item : α}
    (h : items[index]? = some item) :
    ∃ others : List β, (items.flatMap f).Perm (f item ++ others) ∧
      ∀ next, ((items.set index next).flatMap f).Perm (f next ++ others) := by
  obtain ⟨hbound, hitem⟩ := List.getElem?_eq_some_iff.mp h
  refine ⟨(items.eraseIdx index).flatMap f, ?_, fun next => ?_⟩
  · have hperm := (List.getElem_cons_eraseIdx_perm hbound).symm.flatMap_right f
    rw [hitem] at hperm
    exact hperm
  · exact (List.set_perm_cons_eraseIdx hbound next).flatMap_right f

def OutboundWorld.unsent (world : OutboundWorld) : List (Nat × Nat) :=
  world.senders.flatMap fun entry => entry.2.unsent.map ticket

def OutboundWorld.taken (world : OutboundWorld) : List (Nat × Nat) :=
  world.accepted.map fun acceptance => ticket acceptance.message

/-- What the senders are about: whatever they hold they have claimed, and what has been sent is not
to be sent again by the same claim. -/
structure Hands (senders : List OutboundSender) (world : OutboundWorld) : Prop where
  staffed : world.senders.map Prod.fst = senders
  claiming : ∀ (index : Nat) sender provider limit,
    world.senders[index]? = some (sender, .claiming provider limit) → provider ∈ sender.transports
  inHand : ∀ (index : Nat) sender stage, world.senders[index]? = some (sender, stage) →
    ∀ message ∈ stage.inHand, Claimed world.rows world.enqueued sender message
  settling : ∀ (index : Nat) sender message externalMessageId rest delivered,
    world.senders[index]? = some (sender, .settling message externalMessageId rest delivered) →
      TakenAs world.accepted message.key externalMessageId
  accepted : ∀ acceptance ∈ world.accepted, ∃ sender,
    senders[acceptance.sender]? = some sender ∧
      Claimed world.rows world.enqueued sender acceptance.message
  once : (world.unsent ++ world.taken).Nodup

section hands

variable {senders : List OutboundSender} {world : OutboundWorld} {index : Nat}
  {sender : OutboundSender} {stage : SenderStage}

theorem Claimed.mono {rows after : QueueRows Nat OutboundMessage}
    {enqueued more : List (Nat × OutboundMessage)} {message : OutboundEnvelope}
    (claimed : Claimed rows enqueued sender message) (kept : enqueued ⊆ more)
    (counted : ∀ row, after.get? message.key = some row →
      ∃ before, rows.get? message.key = some before ∧ before.attempts ≤ row.attempts) :
    Claimed after more sender message where
  enqueued := kept claimed.enqueued
  positive := claimed.positive
  counted row hrow := by
    obtain ⟨before, hbefore, hattempts⟩ := counted row hrow
    exact Nat.le_trans (claimed.counted before hbefore) hattempts
  serves := claimed.serves

/-- The table changes, and the senders do nothing. -/
theorem Hands.table (hands : Hands senders world) {after : OutboundWorld}
    (same : after.senders = world.senders) (accepted : after.accepted = world.accepted)
    (claimed : ∀ sender message, Claimed world.rows world.enqueued sender message →
      Claimed after.rows after.enqueued sender message) :
    Hands senders after where
  staffed := same ▸ hands.staffed
  claiming := same ▸ hands.claiming
  inHand index sender stage h message hmessage :=
    claimed sender message (hands.inHand index sender stage (same ▸ h) message hmessage)
  settling index sender message externalMessageId rest delivered h := by
    rw [accepted]
    exact hands.settling index sender message externalMessageId rest delivered (same ▸ h)
  accepted acceptance hacceptance := by
    obtain ⟨sender, hsender, hclaimed⟩ := hands.accepted acceptance (accepted ▸ hacceptance)
    exact ⟨sender, hsender, claimed sender _ hclaimed⟩
  once := by
    unfold OutboundWorld.unsent OutboundWorld.taken
    rw [same, accepted]
    exact hands.once

/-- A sender goes on with messages it has claimed, and gives one to its provider or none. -/
theorem Hands.put (hands : Hands senders world) (h : world.senders[index]? = some (sender, stage))
    {next : SenderStage} {more : List Acceptance}
    (claiming : ∀ provider limit, next = .claiming provider limit → provider ∈ sender.transports)
    (inHand : ∀ message ∈ next.inHand, Claimed world.rows world.enqueued sender message)
    (settling : ∀ message externalMessageId rest delivered,
      next = .settling message externalMessageId rest delivered →
        ∃ acceptance ∈ world.accepted ++ more, acceptance.message.key = message.key ∧
          acceptance.externalMessageId = externalMessageId)
    (accepted : ∀ acceptance ∈ more, acceptance.sender = index ∧
      Claimed world.rows world.enqueued sender acceptance.message)
    (once : ∀ others, others ⊆ world.unsent →
      ((stage.unsent.map ticket ++ others) ++ world.taken).Nodup →
      ((next.unsent.map ticket ++ others) ++ (world.taken ++ more.map fun acceptance =>
        ticket acceptance.message)).Nodup) :
    Hands senders ({ world with accepted := world.accepted ++ more }.put index sender next) := by
  have hfound {other : Nat} {entry : OutboundSender × SenderStage}
      (there : (world.senders.set index (sender, next))[other]? = some entry) :
      entry = (sender, next) ∧ other = index ∨ world.senders[other]? = some entry := by
    rw [List.getElem?_set] at there
    by_cases hsame : index = other
    · rw [if_pos hsame] at there
      split at there
      · exact .inl ⟨(Option.some.inj there).symm, hsame.symm⟩
      · contradiction
    · rw [if_neg hsame] at there
      exact .inr there
  have hmine : senders[index]? = some sender := by
    rw [← hands.staffed, List.getElem?_map, h]
    rfl
  constructor
  · show (world.senders.set index (sender, next)).map Prod.fst = senders
    rw [List.map_set, hands.staffed]
    obtain ⟨hbound, hsender⟩ := List.getElem?_eq_some_iff.mp hmine
    rw [← hsender]
    exact List.set_getElem_self hbound
  · intro other found provider limit there
    rcases hfound there with ⟨hentry, -⟩ | hold
    · cases hentry
      exact claiming provider limit rfl
    · exact hands.claiming other found provider limit hold
  · intro other found stage there message hmessage
    rcases hfound there with ⟨hentry, -⟩ | hold
    · cases hentry
      exact inHand message hmessage
    · exact hands.inHand other found stage hold message hmessage
  · intro other found message externalMessageId rest delivered there
    rcases hfound there with ⟨hentry, -⟩ | hold
    · cases hentry
      exact settling message externalMessageId rest delivered rfl
    · exact (hands.settling other found message externalMessageId rest delivered hold).more
        (List.subset_append_left _ _)
  · intro acceptance hacceptance
    rcases List.mem_append.mp hacceptance with hold | hnew
    · exact hands.accepted acceptance hold
    · obtain ⟨rfl, hclaimed⟩ := accepted acceptance hnew
      exact ⟨sender, hmine, hclaimed⟩
  · obtain ⟨others, hbefore, hafter⟩ := flatMap_set_perm
      (f := fun entry : OutboundSender × SenderStage => entry.2.unsent.map ticket) h
    have hothers : others ⊆ world.unsent := fun pair hpair =>
      hbefore.mem_iff.mpr (List.mem_append_right _ hpair)
    have honce := once others hothers
      ((hbefore.append_right world.taken).nodup_iff.mp hands.once)
    refine ((hafter (sender, next)).append_right _).nodup_iff.mpr ?_
    show ((_ ++ others) ++ (world.accepted ++ more).map _).Nodup
    rw [List.map_append]
    exact honce

/-- A sender goes on and gives nothing to its provider. -/
theorem Hands.quiet (hands : Hands senders world)
    (h : world.senders[index]? = some (sender, stage)) {next : SenderStage}
    (claiming : ∀ provider limit, next = .claiming provider limit → provider ∈ sender.transports)
    (inHand : ∀ message ∈ next.inHand, Claimed world.rows world.enqueued sender message)
    (settling : ∀ message externalMessageId rest delivered,
      next ≠ .settling message externalMessageId rest delivered)
    (unsent : next.unsent.Sublist stage.unsent) :
    Hands senders (world.put index sender next) := by
  have hput : Hands senders
      ({ world with accepted := world.accepted ++ [] }.put index sender next) := by
    refine hands.put h claiming inHand
      (fun message externalMessageId rest delivered hnext => absurd hnext (settling _ _ _ _))
      (fun acceptance hacceptance => absurd hacceptance List.not_mem_nil) fun others _ hnodup => ?_
    rw [List.map_nil, List.append_nil]
    exact hnodup.sublist (((unsent.map ticket).append_right others).append_right world.taken)
  rw [List.append_nil] at hput
  exact hput

/-- A sender goes on with messages it has just claimed. -/
theorem Hands.claim (hands : Hands senders world)
    (h : world.senders[index]? = some (sender, stage)) (idle : stage.unsent = [])
    {messages : List OutboundEnvelope}
    (claimed : ∀ message ∈ messages, Claimed world.rows world.enqueued sender message)
    (fresh : ∀ message ∈ messages, ticket message ∉ world.unsent ++ world.taken)
    (distinct : (messages.map ticket).Nodup) :
    Hands senders (world.put index sender (.next messages 0)) := by
  have hput : Hands senders
      ({ world with accepted := world.accepted ++ [] }.put index sender (.next messages 0)) := by
    refine hands.put h ?_ ?_ ?_ (fun acceptance hmem => absurd hmem List.not_mem_nil) ?_
    · intro provider limit hnext
      cases messages <;> contradiction
    · rw [SenderStage.inHand_next]
      exact claimed
    · intro message externalMessageId rest delivered hnext
      cases messages <;> contradiction
    · intro others hothers hnodup
      rw [SenderStage.unsent_next, List.map_nil, List.append_nil, List.append_assoc]
      rw [idle, List.map_nil, List.nil_append] at hnodup
      refine List.nodup_append.mpr ⟨distinct, hnodup, fun pair hpair other hother hsame => ?_⟩
      obtain ⟨message, hmessage, rfl⟩ := List.mem_map.mp hpair
      refine fresh message hmessage ?_
      rw [hsame]
      rcases List.mem_append.mp hother with hunsent | htaken
      · exact List.mem_append_left _ (hothers hunsent)
      · exact List.mem_append_right _ htaken
  rw [List.append_nil] at hput
  exact hput

/-- No claim has had a number above the attempts of its row. -/
theorem Hands.spent (hands : Hands senders world) {key number : Nat}
    (h : (key, number) ∈ world.unsent ++ world.taken) {row : QueueRow OutboundMessage}
    (there : world.rows.get? key = some row) : number ≤ row.attempts := by
  rcases List.mem_append.mp h with hunsent | htaken
  · obtain ⟨entry, hentry, hticket⟩ := List.mem_flatMap.mp hunsent
    obtain ⟨message, hmessage, hsame⟩ := List.mem_map.mp hticket
    cases hsame
    obtain ⟨index, hindex⟩ := List.mem_iff_getElem?.mp hentry
    have hheld := entry.2.unsent_sublist.subset hmessage
    exact (hands.inHand index entry.1 entry.2 hindex message hheld).counted row there
  · obtain ⟨acceptance, hacceptance, hsame⟩ := List.mem_map.mp htaken
    cases hsame
    obtain ⟨sender, -, hclaimed⟩ := hands.accepted acceptance hacceptance
    exact hclaimed.counted row there

end hands

/-! ### The turns -/

theorem claimRows_ok {κ δ : Type} [DecidableEq κ] {selects : κ → δ → Bool}
    {precedes : κ × δ → κ × δ → Bool} {limit : Nat} {staleAfterSeconds : Int}
    {locked : κ → Bool} {now : Instant} {rows after : QueueRows κ δ}
    {messages : List (Envelope κ δ)}
    (h : claimRows selects precedes limit staleAfterSeconds locked now rows =
      .ok (messages, after)) :
    ∃ chosen : List (κ × QueueRow δ), (chosen.map Prod.fst).Nodup ∧
      (∀ entry ∈ chosen, rows.get? entry.1 = some entry.2 ∧
        selects entry.1 entry.2.data = true) ∧
      messages = chosen.map (fun entry => ⟨entry.1, entry.2.data, entry.2.attempts + 1⟩) ∧
      ∀ key, after.get? key = (rows.get? key).map fun row =>
        if key ∈ chosen.map Prod.fst then row.claim now else row := by
  unfold claimRows at h
  split at h
  · cases h
    refine ⟨_, nodup_candidates _ _ _ _ _ _, fun entry hentry => ⟨(mem_candidates hentry).1, ?_⟩,
      rfl, fun key => Dict.get?_mapValues _ _ _⟩
    have hsorted := List.mem_of_mem_take hentry
    rw [List.mem_insertionSort, List.mem_filter] at hsorted
    simp only [Bool.and_eq_true] at hsorted
    exact hsorted.2.1.1
  · contradiction

/-- The table and the senders together. -/
structure Delivering (senders : List OutboundSender) (world : OutboundWorld) : Prop where
  ledger : Ledger world
  hands : Hands senders world

section turns

variable {senders : List OutboundSender} {world : OutboundWorld} {index : Nat}
  {sender : OutboundSender} {stage : SenderStage}

theorem Delivering.enqueueMessage (delivering : Delivering senders world)
    (message : OutboundMessage) : Delivering senders (world.enqueueMessage message) := by
  refine ⟨delivering.ledger.enqueueMessage message, ?_⟩
  unfold OutboundWorld.enqueueMessage
  split
  · exact delivering.hands
  · rename_i rows henqueue
    obtain ⟨-, rfl⟩ := enqueue_inserted henqueue
    refine delivering.hands.table rfl rfl fun sender message claimed => ?_
    refine claimed.mono (List.subset_append_left _ _) fun row hrow => ?_
    have hissued := delivering.ledger.issued _ claimed.enqueued
    rw [Dict.get?_set_of_ne _ _ (Nat.ne_of_lt hissued)] at hrow
    exact ⟨row, hrow, Nat.le_refl _⟩

theorem Delivering.cleanup (delivering : Delivering senders world) (organizationId : String)
    (retentionDays batchSize : Int) (scan : List Nat) (now : Instant) :
    Delivering senders (world.cleanup organizationId retentionDays batchSize scan now) := by
  refine ⟨delivering.ledger.cleanup organizationId retentionDays batchSize scan now, ?_⟩
  unfold OutboundWorld.cleanup
  split
  · exact delivering.hands
  · rename_i rows hcleanup
    refine delivering.hands.table rfl rfl fun sender message claimed => ?_
    refine claimed.mono (List.Subset.refl _) fun row hrow => ?_
    rcases get?_cleanupTerminal hcleanup message.key with hsame | ⟨hnone, -⟩
    · exact ⟨row, hsame ▸ hrow, Nat.le_refl _⟩
    · rw [show rows.get? message.key = some row from hrow] at hnone
      contradiction

theorem Delivering.runOnce (delivering : Delivering senders world)
    (h : world.senders[index]? = some (sender, stage)) (provider : Provider) (limit : Nat) :
    Delivering senders (world.runOnce index sender provider limit stage) := by
  cases stage with
  | idle =>
      unfold OutboundWorld.runOnce
      by_cases hserved : provider ∈ sender.transports
      · rw [if_pos hserved]
        refine ⟨delivering.ledger.more _ (List.Subset.refl _), delivering.hands.quiet h ?_ ?_ nofun
          (List.Sublist.refl _)⟩
        · intro other limit hnext
          cases hnext
          exact hserved
        · exact fun message hmessage => absurd hmessage List.not_mem_nil
      · rw [if_neg hserved]
        exact delivering
  | claiming | sending | failing | settling => exact delivering

/-- A sender that gives up what it has. -/
theorem Delivering.idle (delivering : Delivering senders world)
    (h : world.senders[index]? = some (sender, stage)) :
    Delivering senders (world.put index sender .idle) :=
  ⟨delivering.ledger.more _ (List.Subset.refl _), delivering.hands.quiet h nofun
    (fun message hmessage => absurd hmessage List.not_mem_nil) nofun (List.nil_sublist _)⟩

theorem serves_of_selects {provider : Provider} {key : Nat} {message : OutboundMessage}
    (served : provider ∈ sender.transports)
    (h : postgresOutboundStore.selects ⟨provider, some sender.organizationId,
      outboundConsumerKeys provider sender.consumerKey⟩ key message = true) :
    Serves sender message := by
  simp only [postgresOutboundStore, Bool.and_eq_true, decide_eq_true_eq, Option.all_some,
    List.contains_iff_mem] at h
  obtain ⟨⟨rfl, hconsumer⟩, horganization⟩ := h
  exact ⟨served, horganization, hconsumer⟩

theorem Delivering.claim (delivering : Delivering senders world)
    (h : world.senders[index]? = some (sender, stage)) (locked : Nat → Bool) (now : Instant) :
    Delivering senders (world.claim index sender locked now stage) := by
  cases stage with
  | idle | sending | failing | settling => exact delivering
  | claiming provider limit =>
      have hserved := delivering.hands.claiming index sender provider limit h
      unfold OutboundWorld.claim
      dsimp only
      split
      · exact delivering.idle h
      · rename_i messages rows hclaim
        obtain ⟨chosen, hdistinct, hchosen, rfl, hrows⟩ := claimRows_ok hclaim
        have hledger : Ledger { world with rows } := by
          refine delivering.ledger.rewrite (fun key row hrow => ?_) fun key after hafter => ?_
          · rw [hrows, hrow]
            exact ⟨_, rfl⟩
          · rw [hrows] at hafter
            obtain ⟨row, hrow, rfl⟩ := Option.map_eq_some_iff.mp hafter
            refine ⟨row, hrow, ?_⟩
            by_cases htaken : key ∈ chosen.map Prod.fst
            · rw [if_pos htaken]
              exact ⟨rfl, Nat.le_succ _, nofun, nofun⟩
            · rw [if_neg htaken]
              exact ⟨rfl, Nat.le_refl _, fun hstatus => .inl ⟨hstatus, rfl⟩, .inl⟩
        have hhands : Hands senders { world with rows } := by
          refine delivering.hands.table rfl rfl fun sender message claimed => ?_
          refine claimed.mono (List.Subset.refl _) fun after hafter => ?_
          change rows.get? message.key = some after at hafter
          rw [hrows] at hafter
          obtain ⟨row, hrow, rfl⟩ := Option.map_eq_some_iff.mp hafter
          refine ⟨row, hrow, ?_⟩
          split
          · exact Nat.le_succ _
          · exact Nat.le_refl _
        refine ⟨hledger.more _ (List.Subset.refl _), hhands.claim h rfl ?_ ?_ ?_⟩
        · intro message hmessage
          obtain ⟨entry, hentry, rfl⟩ := List.mem_map.mp hmessage
          obtain ⟨hrow, hselects⟩ := hchosen entry hentry
          refine ⟨delivering.ledger.origin _ _ hrow, Nat.succ_pos _, fun after hafter => ?_,
            serves_of_selects hserved hselects⟩
          have hchosen : entry.1 ∈ chosen.map Prod.fst := List.mem_map_of_mem hentry
          change rows.get? entry.1 = some after at hafter
          rw [hrows, hrow, Option.map_some, if_pos hchosen] at hafter
          cases hafter
          exact Nat.le_refl _
        · intro message hmessage hspent
          obtain ⟨entry, hentry, rfl⟩ := List.mem_map.mp hmessage
          have hless := delivering.hands.spent hspent (hchosen entry hentry).1
          exact absurd hless (Nat.not_succ_le_self _)
        · rw [List.map_map]
          refine List.Nodup.of_map Prod.fst ?_
          rw [List.map_map]
          exact hdistinct

/-- A send that was answered, or whose answer is lost. -/
theorem Delivering.give (delivering : Delivering senders world) {message : OutboundEnvelope}
    {rest : List OutboundEnvelope} {delivered : Nat}
    (h : world.senders[index]? = some (sender, .sending message rest delivered))
    (taken : Option (Option String)) {next : SenderStage}
    (claiming : ∀ provider limit, next ≠ .claiming provider limit)
    (inHand : next.inHand ⊆ message :: rest) (unsent : next.unsent.Sublist rest)
    (settling : ∀ settled externalMessageId rest delivered,
      next = .settling settled externalMessageId rest delivered →
        settled = message ∧ taken = some externalMessageId) :
    Delivering senders ((world.take index message taken).put index sender next) := by
  have hclaimed := delivering.hands.inHand index sender _ h
  cases taken with
  | none =>
      refine ⟨delivering.ledger.more _ (List.Subset.refl _), delivering.hands.quiet h
        (fun provider limit hnext => absurd hnext (claiming provider limit))
        (fun other hother => hclaimed other (inHand hother)) ?_ (unsent.cons message)⟩
      intro settled externalMessageId rest delivered hnext
      obtain ⟨-, hnone⟩ := settling _ _ _ _ hnext
      contradiction
  | some externalMessageId =>
      refine ⟨delivering.ledger.more _ (List.subset_append_left _ _), delivering.hands.put h
        (fun provider limit hnext => absurd hnext (claiming provider limit))
        (fun other hother => hclaimed other (inHand hother)) ?_ ?_ ?_⟩
      · intro settled other rest delivered hnext
        obtain ⟨rfl, hsame⟩ := settling _ _ _ _ hnext
        cases hsame
        exact ⟨_, List.mem_append_right _ (List.mem_singleton_self _), rfl, rfl⟩
      · intro acceptance hacceptance
        cases List.mem_singleton.mp hacceptance
        exact ⟨rfl, hclaimed message (List.mem_cons_self ..)⟩
      · intro others _ hnodup
        have hmoved : ((rest.map ticket ++ others) ++ (world.taken ++ [ticket message])).Perm
            (((message :: rest).map ticket ++ others) ++ world.taken) := by
          rw [← List.append_assoc]
          exact List.perm_append_singleton _ _
        exact (hmoved.nodup_iff.mpr hnodup).sublist
          (((unsent.map ticket).append_right others).append_right _)

theorem Delivering.send (delivering : Delivering senders world)
    (h : world.senders[index]? = some (sender, stage)) (outcome : SendOutcome) :
    Delivering senders (world.send index sender outcome stage) := by
  cases stage with
  | idle | claiming | failing | settling => exact delivering
  | sending message rest delivered =>
      cases outcome with
      | answered externalMessageId =>
          refine delivering.give h (some externalMessageId) nofun (List.Subset.refl _)
            (List.Sublist.refl _) fun settled other rest delivered hnext => ?_
          cases hnext
          exact ⟨rfl, rfl⟩
      | raised failure taken =>
          exact delivering.give h taken nofun (List.Subset.refl _) (List.Sublist.refl _) nofun

theorem Delivering.crash (delivering : Delivering senders world)
    (h : world.senders[index]? = some (sender, stage)) (taken : Option (Option String)) :
    Delivering senders (world.crash index sender taken stage) := by
  cases stage with
  | idle | claiming | failing | settling => exact delivering.idle h
  | sending message rest delivered =>
      exact delivering.give h taken nofun (List.nil_subset _) (List.nil_sublist _) nofun

/-- A mark rewrites the row of its message, where it is out. -/
theorem Delivering.mark (delivering : Delivering senders world)
    (h : world.senders[index]? = some (sender, stage)) {message : OutboundEnvelope}
    {rest : List OutboundEnvelope} (inHand : stage.inHand = message :: rest)
    (unsent : stage.unsent = rest) (delivered : Nat)
    {change : QueueRow OutboundMessage → QueueRow OutboundMessage}
    (data : ∀ row, (change row).data = row.data)
    (attempts : ∀ row, (change row).attempts = row.attempts)
    (settled : ∀ row, (change row).status = .settled →
      TakenAs world.accepted message.key (change row).externalMessageId)
    (dead : ∀ row, (change row).status = .dead → maxAttempts ≤ message.attempts) :
    Delivering senders { world.put index sender (.next rest delivered) with
      rows := updateProcessing message.key change world.rows } := by
  have hclaimed := delivering.hands.inHand index sender stage h message
    (inHand ▸ List.mem_cons_self ..)
  have hrows := fun key => get?_updateProcessing message.key key change world.rows
  have hledger : Ledger { world with
      rows := updateProcessing message.key change world.rows } := by
    refine delivering.ledger.rewrite (fun key row hrow => ?_) fun key after hafter => ?_
    · rw [hrows, hrow]
      exact ⟨_, rfl⟩
    · rw [hrows] at hafter
      obtain ⟨row, hrow, rfl⟩ := Option.map_eq_some_iff.mp hafter
      refine ⟨row, hrow, ?_⟩
      by_cases hmine : key = message.key ∧ row.status = .processing
      · obtain ⟨rfl, hstatus⟩ := hmine
        rw [if_pos ⟨rfl, hstatus⟩]
        refine ⟨data row, Nat.le_of_eq (attempts row).symm, fun h => .inr (settled row h),
          fun h => .inr ?_⟩
        rw [attempts]
        exact Nat.le_trans (dead row h) (hclaimed.counted row hrow)
      · rw [if_neg hmine]
        exact ⟨rfl, Nat.le_refl _, fun hstatus => .inl ⟨hstatus, rfl⟩, .inl⟩
  have hhands : Hands senders { world with
      rows := updateProcessing message.key change world.rows } := by
    refine delivering.hands.table rfl rfl fun sender other claimed => ?_
    refine claimed.mono (List.Subset.refl _) fun after hafter => ?_
    change (updateProcessing message.key change world.rows).get? other.key = some after at hafter
    rw [hrows] at hafter
    obtain ⟨row, hrow, rfl⟩ := Option.map_eq_some_iff.mp hafter
    refine ⟨row, hrow, ?_⟩
    split
    · rw [attempts]
    · exact Nat.le_refl _
  refine ⟨hledger.more _ (List.Subset.refl _), hhands.quiet h ?_ ?_ ?_ ?_⟩
  · intro provider limit hnext
    cases rest <;> contradiction
  · intro other hother
    rw [SenderStage.inHand_next] at hother
    exact hhands.inHand index sender stage h other (inHand ▸ List.mem_cons_of_mem _ hother)
  · intro settled externalMessageId others delivered hnext
    cases rest <;> contradiction
  · rw [SenderStage.unsent_next, unsent]

theorem Delivering.record (delivering : Delivering senders world)
    (h : world.senders[index]? = some (sender, stage)) (fraction : Rat) (now : Instant) :
    Delivering senders (world.record index sender fraction now stage) := by
  cases stage with
  | idle | claiming | sending => exact delivering
  | failing message failure rest delivered =>
      have hclaimed := delivering.hands.inHand index sender _ h message (List.mem_cons_self ..)
      unfold OutboundWorld.record markFailed
      dsimp only
      cases hdelay : failureDelay message.attempts (retryAfterSeconds failure) fraction with
      | error raised => exact delivering.idle h
      | ok delay =>
          refine delivering.mark h rfl rfl delivered (fun _ => rfl) (fun _ => rfl)
            (fun row hsettled => ?_) fun row hdead => ?_
          · by_cases hlast : maxAttempts ≤ message.attempts <;>
              simp [QueueRow.fail, hlast] at hsettled
          · by_contra hearly
            simp [QueueRow.fail, hearly] at hdead
  | settling message externalMessageId rest delivered =>
      exact delivering.mark h rfl rfl (delivered + 1) (fun _ => rfl) (fun _ => rfl)
        (fun row _ => delivering.hands.settling index sender _ _ _ _ h) fun row hdead =>
          absurd hdead (by simp [QueueRow.settle])

theorem Delivering.bySender (delivering : Delivering senders world)
    {act : OutboundSender → SenderStage → OutboundWorld}
    (kept : ∀ sender stage, world.senders[index]? = some (sender, stage) →
      Delivering senders (act sender stage)) :
    Delivering senders (world.bySender index act) := by
  unfold OutboundWorld.bySender
  split
  · exact delivering
  · exact kept _ _ ‹_›

theorem Delivering.turn (delivering : Delivering senders world) (next : OutboundTurn) :
    Delivering senders (world.turn next) := by
  cases next with
  | enqueue message => exact delivering.enqueueMessage message
  | runOnce index provider limit =>
      exact delivering.bySender fun _ _ h => delivering.runOnce h provider limit
  | claim index locked now => exact delivering.bySender fun _ _ h => delivering.claim h locked now
  | send index outcome => exact delivering.bySender fun _ _ h => delivering.send h outcome
  | record index fraction now =>
      exact delivering.bySender fun _ _ h => delivering.record h fraction now
  | crash index taken => exact delivering.bySender fun _ _ h => delivering.crash h taken
  | cleanup organizationId retentionDays batchSize scan now =>
      exact delivering.cleanup organizationId retentionDays batchSize scan now

theorem delivering_launch (senders : List OutboundSender) :
    Delivering senders (OutboundWorld.launch senders) := by
  have hidle (index : Nat) (sender : OutboundSender) (stage : SenderStage)
      (h : (OutboundWorld.launch senders).senders[index]? = some (sender, stage)) :
      stage = .idle := by
    obtain ⟨found, -, hsame⟩ := List.mem_map.mp (List.mem_of_getElem? h)
    cases hsame
    rfl
  have hnothing {α : Type} {holds : α → Prop} (item : α) (h : item ∈ ([] : List α)) :
      holds item := absurd h List.not_mem_nil
  have habsent {holds : Nat → QueueRow OutboundMessage → Prop} (key : Nat)
      (row : QueueRow OutboundMessage)
      (h : (OutboundWorld.launch senders).rows.get? key = some row) : holds key row := by
    contradiction
  refine ⟨⟨hnothing, List.nodup_nil, habsent, habsent, habsent, hnothing, hnothing, hnothing⟩, ?_⟩
  constructor
  · show (senders.map _).map Prod.fst = senders
    rw [List.map_map]
    exact List.map_id senders
  · intro index sender provider limit h
    exact absurd (hidle _ _ _ h) nofun
  · intro index sender stage h message hmessage
    rw [hidle _ _ _ h] at hmessage
    contradiction
  · intro index sender message externalMessageId rest delivered h
    exact absurd (hidle _ _ _ h) nofun
  · exact hnothing
  · have hnone : (OutboundWorld.launch senders).unsent = [] := by
      refine List.flatMap_eq_nil_iff.mpr fun entry hentry => ?_
      obtain ⟨sender, -, rfl⟩ := List.mem_map.mp hentry
      rfl
    rw [hnone]
    exact List.nodup_nil

theorem delivering_run (senders : List OutboundSender) (turns : List OutboundTurn) :
    Delivering senders (OutboundWorld.run senders turns) :=
  List.foldlRecOn turns OutboundWorld.turn (motive := Delivering senders)
    (delivering_launch senders) fun _ delivering next _ => delivering.turn next

/-- The numbers of the claims by which a message was sent are distinct, and none is above the
attempts of its row. -/
theorem Hands.sent_le (hands : Hands senders world) {key : Nat} {row : QueueRow OutboundMessage}
    (h : world.rows.get? key = some row) :
    (world.accepted.filter fun acceptance => acceptance.message.key = key).length ≤
      row.attempts := by
  let sent := world.accepted.filter fun acceptance => acceptance.message.key = key
  have hkeyed : ∀ acceptance ∈ sent, acceptance.message.key = key := fun acceptance hmem =>
    of_decide_eq_true (List.mem_filter.mp hmem).2
  have hdistinct : (sent.map fun acceptance => acceptance.message.attempts).Nodup := by
    have htickets : (sent.map fun acceptance => ticket acceptance.message).Nodup :=
      (List.nodup_append.mp hands.once).2.1.sublist (List.filter_sublist.map _)
    refine List.Nodup.map_on (fun left hleft right hright hsame => ?_) htickets.of_map
    refine List.inj_on_of_nodup_map htickets hleft hright ?_
    exact Prod.ext ((hkeyed left hleft).trans (hkeyed right hright).symm) hsame
  have hbounded : (sent.map fun acceptance => acceptance.message.attempts) ⊆
      List.range' 1 row.attempts := by
    intro number hnumber
    obtain ⟨acceptance, hacceptance, rfl⟩ := List.mem_map.mp hnumber
    obtain ⟨sender, -, hclaimed⟩ := hands.accepted acceptance (List.mem_filter.mp hacceptance).1
    have hpositive := hclaimed.positive
    have hcounted := hclaimed.counted row (hkeyed acceptance hacceptance ▸ h)
    exact List.mem_range'_1.mpr (by omega)
  have hlength := (List.subperm_of_subset hdistinct hbounded).length_le
  rw [List.length_map, List.length_range'] at hlength
  exact hlength

/-- No message is lost: it is in the table as it was enqueued, or was deleted, a day at least after
its delivery was recorded.  What the table calls delivered a provider has taken, what it calls dead
has had all its attempts.  A provider takes a message at most once for each of its attempts, from a
sender that serves it; and a message that is enqueued under the key of an earlier one finds that
one deleted. -/
structure SafelySent (senders : List OutboundSender) (world : OutboundWorld) : Prop where
  kept : ∀ key message, (key, message) ∈ world.enqueued →
    (∃ row, world.rows.get? key = some row ∧ row.data = message) ∨
      ∃ removal ∈ world.removed, removal.key = key
  removed : ∀ removal ∈ world.removed,
    (∃ externalMessageId, TakenAs world.accepted removal.key externalMessageId) ∧
      removal.settledAt < removal.removedAt.addSeconds (-86400)
  delivered : ∀ key row, world.rows.get? key = some row → row.status = .settled →
    TakenAs world.accepted key row.externalMessageId
  dead : ∀ key row, world.rows.get? key = some row → row.status = .dead →
    maxAttempts ≤ row.attempts
  sent : ∀ key row, world.rows.get? key = some row →
    (world.accepted.filter fun acceptance => acceptance.message.key = key).length ≤ row.attempts
  once : (world.accepted.map fun acceptance => ticket acceptance.message).Nodup
  served : ∀ acceptance ∈ world.accepted,
    (acceptance.message.key, acceptance.message.data) ∈ world.enqueued ∧
      ∃ sender, senders[acceptance.sender]? = some sender ∧
        Serves sender acceptance.message.data
  again : ∀ first ∈ world.enqueued, ∀ second ∈ world.enqueued, first.1 < second.1 →
    first.2.deduplicationKey = second.2.deduplicationKey →
      ∃ removal ∈ world.removed, removal.key = first.1

/-- Senders, projectors and maintenance in any order, with sends that fail or are answered and
lost, and senders that crash. -/
theorem outbound_safely_sent (senders : List OutboundSender) (turns : List OutboundTurn) :
    SafelySent senders (OutboundWorld.run senders turns) := by
  obtain ⟨ledger, hands⟩ := delivering_run senders turns
  exact
    { kept := fun key message h =>
        (ledger.present (key, message) h).imp
          (fun ⟨row, hrow⟩ => ⟨row, hrow, ledger.data hrow h⟩) id
      removed := ledger.removed
      delivered := ledger.settled
      dead := ledger.dead
      sent := fun key row h => hands.sent_le h
      once := (List.nodup_append.mp hands.once).2.1
      served := fun acceptance hacceptance => by
        obtain ⟨sender, hsender, hclaimed⟩ := hands.accepted acceptance hacceptance
        exact ⟨hclaimed.enqueued, sender, hsender, hclaimed.serves⟩
      again := ledger.again }

end turns
end DispatchCore.Messaging
