import DispatchCore.Infrastructure.Inbox
import DispatchCore.Library.Numeral
import DispatchCore.Library.Reliance

/-! Long polling.  Any number of pollers of one bot ask for updates from the stored
cursor on and store what they get before they move the cursor; the bot forgets what is
below the offset it was asked with. -/
namespace DispatchCore.Transports

open DispatchCore.Library DispatchCore.Domain DispatchCore.Infrastructure

/-! ### The bot -/

/-- An update carries its number. -/
structure Update where
  id : Int
  payload : Dict String Json
  identified : payload.get? "update_id" = some (.int id)

theorem Update.ext_payload {left right : Update}
    (same : left.payload.entries = right.payload.entries) : left.id = right.id := by
  have hleft := left.identified
  rw [Dict.ext_entries same, right.identified, Option.some.injEq, Json.int.injEq] at hleft
  exact hleft.symm

/-- What the provider has issued, and what it has not discarded. -/
structure Bot where
  issued : List Update
  pending : List Update

/-- How the provider answers one request: with how many of the updates that are due,
and which of those below the offset it discards. -/
structure Reply where
  count : Nat
  discards : Update → Bool

namespace Bot

/-- Updates are numbered upwards; another number is none of a new update's. -/
def receive (update : Update) (bot : Bot) : Bot :=
  if ∀ earlier ∈ bot.issued, earlier.id < update.id then
    { issued := bot.issued ++ [update], pending := bot.pending ++ [update] }
  else bot

/-- The updates from the offset on; those below it may be discarded. -/
def getUpdates (offset : Option Int) (reply : Reply) (bot : Bot) : List Update × Bot :=
  match offset with
  | none => (bot.pending.take reply.count, bot)
  | some offset =>
      let kept := bot.pending.filter fun update => !(update.id < offset && reply.discards update)
      ((kept.filter fun update => offset ≤ update.id).take reply.count, { bot with pending := kept })

end Bot

/-! ### The receiver -/

structure Ingestion extends Ingress where
  bot : Bot

def Ingestion.empty : Ingestion := ⟨.empty, ⟨[], []⟩⟩

/-- `TelegramTransport.external_event_id`; `digest` is `stable_payload_id`. -/
def externalEventId (digest : Dict String Json → String) (payload : Dict String Json) : String :=
  match payload.get? "update_id" with
  | some (.int updateId) => s!"telegram:{updateId}"
  | some (.bool true) => "telegram:True"
  | some (.bool false) => "telegram:False"
  | _ => digest payload

/-- What `TelegramTransport.get_updates` makes of the answer. -/
def received (offset : Option Int) (data : List Json) : List (Dict String Json) × Option Int :=
  let updates := data.filterMap Json.dict?
  let updateIds := updates.filterMap fun item => (item.get? "update_id").bind Json.int?
  let nextOffset :=
    match updateIds.max? with
    | some updateId => some (updateId + 1)
    | none => offset
  (updates, nextOffset)

def cursorKey (organizationId : String) (provider : Provider) (consumerKey : String) : String :=
  s!"{organizationId}:{provider.value}:{consumerKey}"

def readOffset : Option String → Except Failure (Option Int)
  | none => .ok none
  | some storedCursor =>
      match Text.int? storedCursor with
      | some offset => .ok (some offset)
      | none => .error (.valueError "invalid literal for int()")

namespace DurablePollingReceiver

variable (digest : Dict String Json → String) (organizationId consumerKey : String)

def getCursor : Coroutine Ingestion Failure (Option String) :=
  .read fun ingestion => .ok (PostgresInboxStore.getCursor .telegram
    (cursorKey organizationId .telegram consumerKey) ingestion.toIngress)

def getUpdates (offset : Option Int) (reply : Reply) : Coroutine Ingestion Failure (List Json) :=
  .segment fun ingestion =>
    let (updates, bot) := ingestion.bot.getUpdates offset reply
    .ok (updates.map fun update => .obj update.payload.entries, { ingestion with bot })

def acceptPollBatch (updates : List (Dict String Json)) (nextOffset : Int) (now : Instant) :
    Coroutine Ingestion Failure Nat :=
  .segment fun ingestion =>
    let events := updates.map fun update => (externalEventId digest update, update)
    let (inserted, ingress) := PostgresInboxStore.acceptPollBatch .telegram organizationId
      consumerKey (some (cursorKey organizationId .telegram consumerKey)) events
      (toString nextOffset) now ingestion.toIngress
    .ok (inserted, { ingestion with toIngress := ingress })

def telegramOnce (reply : Reply) (now : Instant) : Coroutine Ingestion Failure Nat := do
  let storedCursor ← getCursor organizationId consumerKey
  let offset ← (readOffset storedCursor : Except Failure (Option Int))
  let data ← getUpdates offset reply
  let (updates, nextOffset) := received offset data
  match nextOffset with
  | none => return 0
  | some nextOffset => acceptPollBatch digest organizationId consumerKey updates nextOffset now

end DurablePollingReceiver

/-! ### What polling keeps -/

section keeps

variable (digest : Dict String Json → String) (organizationId consumerKey : String)

def inboxKey (update : Update) : InboxKey :=
  ⟨organizationId, .telegram, consumerKey, externalEventId digest update.payload⟩

/-- The name of an update's row tells its number. -/
theorem externalEventId_injective {digest : Dict String Json → String}
    {organizationId consumerKey : String} {left right : Update}
    (same : inboxKey digest organizationId consumerKey right =
      inboxKey digest organizationId consumerKey left) : left.id = right.id := by
  have hname : ∀ update : Update, externalEventId digest update.payload =
      "telegram:" ++ toString update.id := by
    intro update
    unfold externalEventId
    rw [update.identified]
    rfl
  have htext := congrArg InboxKey.externalEventId same
  simp only [inboxKey, hname] at htext
  have hid : toString right.id = toString left.id := by
    have hlist := congrArg String.toList htext
    simp only [String.toList_append, List.append_cancel_left_eq] at hlist
    exact String.toList_inj.mp hlist
  have hread := congrArg Text.int? hid
  rw [Text.int?_toString, Text.int?_toString] at hread
  exact (Option.some.inj hread).symm

/-- The update has a row. -/
def Stored (update : Update) (ingestion : Ingestion) : Prop :=
  (ingestion.inboxEvents.get? (inboxKey digest organizationId consumerKey update)).isSome

/-- Every update below the offset has a row, and none comes any more. -/
structure Covered (offset : Int) (ingestion : Ingestion) : Prop where
  stored : ∀ update ∈ ingestion.bot.issued, update.id < offset →
    Stored digest organizationId consumerKey update ingestion
  reached : ∃ last ∈ ingestion.bot.issued, offset ≤ last.id + 1

/-- The cursor the pollers share. -/
def cursor? (ingestion : Ingestion) : Option String :=
  PostgresInboxStore.getCursor .telegram (cursorKey organizationId .telegram consumerKey)
    ingestion.toIngress

structure Sound (ingestion : Ingestion) : Prop where
  increasing : ingestion.bot.issued.Pairwise fun earlier later => earlier.id < later.id
  pending : ingestion.bot.pending.Sublist ingestion.bot.issued
  discarded : ∀ update ∈ ingestion.bot.issued, update ∉ ingestion.bot.pending →
    Stored digest organizationId consumerKey update ingestion
  cursor : ∀ text, cursor? organizationId consumerKey ingestion = some text →
    ∃ offset, Text.int? text = some offset ∧
      Covered digest organizationId consumerKey offset ingestion
  rows : ∀ key row, ingestion.inboxEvents.get? key = some row →
    ∃ update ∈ ingestion.bot.issued, key = inboxKey digest organizationId consumerKey update ∧
      row.data.payload = .obj update.payload.entries

/-- Rows stay, and updates come in with higher numbers. -/
structure Later (ingestion later : Ingestion) : Prop where
  rows : ∀ key, (ingestion.inboxEvents.get? key).isSome → (later.inboxEvents.get? key).isSome
  issued : ∃ new, later.bot.issued = ingestion.bot.issued ++ new ∧
    ∀ earlier ∈ ingestion.bot.issued, ∀ update ∈ new, earlier.id < update.id

theorem Later.refl (ingestion : Ingestion) : Later ingestion ingestion :=
  ⟨fun _ h => h, [], by simp, fun _ _ _ h => by contradiction⟩

theorem Later.trans {first second third : Ingestion} (left : Later first second)
    (right : Later second third) : Later first third := by
  obtain ⟨leftNew, hleft, hleftNumbers⟩ := left.issued
  obtain ⟨rightNew, hright, hrightNumbers⟩ := right.issued
  refine ⟨fun key h => right.rows key (left.rows key h), leftNew ++ rightNew, ?_,
    fun earlier hearlier update hupdate => ?_⟩
  · rw [hright, hleft, List.append_assoc]
  · rcases List.mem_append.mp hupdate with h | h
    · exact hleftNumbers earlier hearlier update h
    · refine hrightNumbers earlier ?_ update h
      rw [hleft]
      exact List.mem_append_left _ hearlier

def ingestionContract : Coroutine.Contract Ingestion Unit where
  valid := fun ingestion _ => Sound digest organizationId consumerKey ingestion
  rely := fun _ ingestion _ later _ => Later ingestion later
  relyRefl := fun _ ingestion _ => .refl ingestion
  relyTrans := fun left right => left.trans right

variable {digest organizationId consumerKey}

theorem Covered.later {offset : Int} {ingestion later : Ingestion}
    (covered : Covered digest organizationId consumerKey offset ingestion)
    (seen : Later ingestion later) : Covered digest organizationId consumerKey offset later := by
  obtain ⟨new, hissued, hnumbers⟩ := seen.issued
  obtain ⟨last, hlast, hreached⟩ := covered.reached
  refine ⟨fun update hupdate hbelow => ?_, last, ?_, hreached⟩
  · rw [hissued] at hupdate
    rcases List.mem_append.mp hupdate with h | h
    · exact seen.rows _ (covered.stored update h hbelow)
    · have hnumber := hnumbers last hlast update h
      omega
  · rw [hissued]
    exact List.mem_append_left _ hlast

theorem sound_empty : Sound digest organizationId consumerKey .empty := by
  refine ⟨List.Pairwise.nil, List.Sublist.refl _, fun update h => ?_, fun text h => ?_,
    fun key row h => ?_⟩
  · contradiction
  · contradiction
  · contradiction

section bot

variable {ingestion : Ingestion} (sound : Sound digest organizationId consumerKey ingestion)

include sound

/-- A number is issued once. -/
theorem Sound.same_id {left right : Update} (hleft : left ∈ ingestion.bot.issued)
    (hright : right ∈ ingestion.bot.issued) (same : left.id = right.id) : left = right := by
  have hdistinct : (ingestion.bot.issued.map Update.id).Nodup :=
    List.pairwise_map.mpr (sound.increasing.imp ne_of_lt)
  exact List.inj_on_of_nodup_map hdistinct hleft hright same

theorem Sound.receive (update : Update) :
    Sound digest organizationId consumerKey
        { ingestion with bot := ingestion.bot.receive update } ∧
      Later ingestion { ingestion with bot := ingestion.bot.receive update } := by
  unfold Bot.receive
  split
  · rename_i hnew
    have hlater : Later ingestion { ingestion with
        bot := ⟨ingestion.bot.issued ++ [update], ingestion.bot.pending ++ [update]⟩ } := by
      refine ⟨fun _ h => h, [update], rfl, fun earlier hearlier other hother => ?_⟩
      rw [List.mem_singleton.mp hother]
      exact hnew earlier hearlier
    refine ⟨⟨?_, ?_, fun other hother hgone => ?_, fun text htext => ?_, fun key row hrow => ?_⟩,
      hlater⟩
    · apply List.pairwise_append.mpr
      refine ⟨sound.increasing, List.pairwise_singleton _ _, fun earlier hearlier other hother => ?_⟩
      rw [List.mem_singleton.mp hother]
      exact hnew earlier hearlier
    · exact sound.pending.append (List.Sublist.refl _)
    · rw [List.mem_append, not_or] at hgone
      rcases List.mem_append.mp hother with h | h
      · exact sound.discarded other h hgone.1
      · exact absurd h hgone.2
    · obtain ⟨offset, hread, hcovered⟩ := sound.cursor text htext
      exact ⟨offset, hread, hcovered.later hlater⟩
    · obtain ⟨other, hother, hsame⟩ := sound.rows key row hrow
      exact ⟨other, List.mem_append_left _ hother, hsame⟩
  · exact ⟨sound, .refl _⟩

/-- Discarding below a covered offset loses nothing. -/
theorem Sound.discard {offset : Int}
    (covered : Covered digest organizationId consumerKey offset ingestion) (discards : Update → Bool) :
    Sound digest organizationId consumerKey { ingestion with
      bot := ⟨ingestion.bot.issued, ingestion.bot.pending.filter fun update =>
        !(update.id < offset && discards update)⟩ } := by
  refine ⟨sound.increasing, List.filter_sublist.trans sound.pending, fun update hupdate hgone => ?_,
    fun text htext => ?_, sound.rows⟩
  · by_cases hpending : update ∈ ingestion.bot.pending
    · have hbelow : update.id < offset := by
        by_contra hnot
        exact hgone (List.mem_filter.mpr ⟨hpending, by simp [hnot]⟩)
      exact covered.stored update hupdate hbelow
    · exact sound.discarded update hupdate hpending
  · obtain ⟨next, hread, hcovered⟩ := sound.cursor text htext
    exact ⟨next, hread, hcovered.stored, hcovered.reached⟩

end bot

/-- In an increasing list, what is no greater than a member of a prefix is in the prefix. -/
theorem mem_take_of_le {updates : List Update} {count : Nat}
    (increasing : updates.Pairwise fun earlier later => earlier.id < later.id) {update last : Update}
    (hupdate : update ∈ updates) (hlast : last ∈ updates.take count)
    (below : update.id ≤ last.id) : update ∈ updates.take count := by
  rw [← List.take_append_drop count updates] at hupdate increasing
  rcases List.mem_append.mp hupdate with h | h
  · exact h
  · have hafter := (List.pairwise_append.mp increasing).2.2 last hlast update h
    omega

/-- A poller holds every update below the next offset that has no row yet. -/
structure Fetched (digest : Dict String Json → String) (organizationId consumerKey : String)
    (updates : List Update) (next : Int) (ingestion : Ingestion) : Prop where
  issued : ∀ update ∈ updates, update ∈ ingestion.bot.issued
  stored : ∀ update ∈ ingestion.bot.issued, update.id < next →
    Stored digest organizationId consumerKey update ingestion ∨ update ∈ updates
  reached : ∃ last ∈ ingestion.bot.issued, next ≤ last.id + 1

theorem Fetched.later {updates : List Update} {next : Int} {ingestion later : Ingestion}
    (fetched : Fetched digest organizationId consumerKey updates next ingestion)
    (seen : Later ingestion later) :
    Fetched digest organizationId consumerKey updates next later := by
  obtain ⟨new, hissued, hnumbers⟩ := seen.issued
  obtain ⟨last, hlast, hreached⟩ := fetched.reached
  have hkept : ∀ update ∈ ingestion.bot.issued, update ∈ later.bot.issued := by
    intro update h
    rw [hissued]
    exact List.mem_append_left _ h
  refine ⟨fun update h => hkept update (fetched.issued update h), fun update hupdate hbelow => ?_,
    last, hkept last hlast, hreached⟩
  rw [hissued] at hupdate
  rcases List.mem_append.mp hupdate with h | h
  · exact (fetched.stored update h hbelow).imp (seen.rows _) id
  · have hnumber := hnumbers last hlast update h
    omega

theorem received_updates (offset : Option Int) (updates : List Update) :
    received offset (updates.map fun update => .obj update.payload.entries) =
      (updates.map Update.payload,
        match (updates.map Update.id).max? with
        | some updateId => some (updateId + 1)
        | none => offset) := by
  have hpayloads : (updates.map fun update => Json.obj update.payload.entries).filterMap
      Json.dict? = updates.map Update.payload := by
    rw [List.filterMap_map, ← List.filterMap_eq_map]
    apply List.filterMap_congr
    intro update _
    simp [Json.dict?]
  have hids : (updates.map Update.payload).filterMap
      (fun item => (item.get? "update_id").bind Json.int?) = updates.map Update.id := by
    rw [List.filterMap_map, ← List.filterMap_eq_map]
    apply List.filterMap_congr
    intro update _
    simp [update.identified, Json.int?]
  unfold received
  simp only [hpayloads, hids]

/-- The lowest of the updates that are due, and the offset behind them. -/
theorem Sound.fetched {ingestion : Ingestion}
    (sound : Sound digest organizationId consumerKey ingestion) {due : List Update}
    (within : due.Sublist ingestion.bot.issued) {offset : Option Int}
    (covered : ∀ start, offset = some start →
      Covered digest organizationId consumerKey start ingestion)
    (missing : ∀ update ∈ ingestion.bot.issued, update ∉ due →
      Stored digest organizationId consumerKey update ingestion) {count : Nat} {next : Int}
    (behind : (received offset ((due.take count).map
      fun update => .obj update.payload.entries)).2 = some next) :
    Fetched digest organizationId consumerKey (due.take count) next ingestion := by
  rw [received_updates] at behind
  cases hmax : ((due.take count).map Update.id).max? with
  | none =>
      simp only [hmax] at behind
      have hempty : due.take count = [] := by simpa [List.max?_eq_none_iff] using hmax
      obtain ⟨hstored, hreached⟩ := covered next behind
      rw [hempty]
      exact ⟨fun _ h => by contradiction, fun update h hbelow => .inl (hstored update h hbelow),
        hreached⟩
  | some highest =>
      simp only [hmax, Option.some.injEq] at behind
      obtain ⟨last, hlast, hhighest⟩ := List.mem_map.mp (List.max?_mem hmax)
      have hissued : ∀ update ∈ due.take count, update ∈ ingestion.bot.issued :=
        fun update h => within.subset (List.mem_of_mem_take h)
      refine ⟨hissued, fun update hupdate hbelow => ?_, last, hissued last hlast, by omega⟩
      by_cases hdue : update ∈ due
      · exact .inr (mem_take_of_le (sound.increasing.sublist within) hdue hlast (by omega))
      · exact .inl (missing update hupdate hdue)

/-- What a request brings, when every update below its offset has a row. -/
theorem Sound.getUpdates {ingestion : Ingestion}
    (sound : Sound digest organizationId consumerKey ingestion) {offset : Option Int}
    (covered : ∀ start, offset = some start →
      Covered digest organizationId consumerKey start ingestion) (reply : Reply)
    {updates : List Update} {bot : Bot}
    (answered : ingestion.bot.getUpdates offset reply = (updates, bot)) :
    Sound digest organizationId consumerKey { ingestion with bot } ∧
      Later ingestion { ingestion with bot } ∧
      ∀ next, (received offset (updates.map fun update => .obj update.payload.entries)).2 =
          some next →
        Fetched digest organizationId consumerKey updates next { ingestion with bot } := by
  cases offset with
  | none =>
      cases answered
      refine ⟨sound, .refl ingestion, fun next behind => ?_⟩
      exact sound.fetched sound.pending covered sound.discarded behind
  | some start =>
      cases answered
      have hcovered := covered start rfl
      have hsound := sound.discard hcovered reply.discards
      refine ⟨hsound, ⟨fun _ h => h, [], by simp, fun _ _ _ h => by contradiction⟩,
        fun next behind => ?_⟩
      refine hsound.fetched (List.filter_sublist.trans hsound.pending)
        (fun other hother => ?_) (fun update hupdate hdue => ?_) behind
      · cases hother
        exact ⟨hcovered.stored, hcovered.reached⟩
      · by_cases hkept : update ∈ ingestion.bot.pending.filter
          fun update => !(update.id < start && reply.discards update)
        · have hbelow : update.id < start := by
            by_contra hnot
            exact hdue (List.mem_filter.mpr ⟨hkept, by simpa using hnot⟩)
          exact hcovered.stored update hupdate hbelow
        · exact hsound.discarded update hupdate hkept

/-- A batch is stored together with the offset behind it. -/
theorem Sound.accept {ingestion : Ingestion}
    (sound : Sound digest organizationId consumerKey ingestion) {updates : List Update} {next : Int}
    (fetched : Fetched digest organizationId consumerKey updates next ingestion) (now : Instant)
    {inserted : Nat} {ingress : Ingress}
    (accepted : PostgresInboxStore.acceptPollBatch .telegram organizationId consumerKey
      (some (cursorKey organizationId .telegram consumerKey))
      ((updates.map Update.payload).map fun update => (externalEventId digest update, update))
      (toString next) now ingestion.toIngress = (inserted, ingress)) :
    Sound digest organizationId consumerKey { ingestion with toIngress := ingress } ∧
      Later ingestion { ingestion with toIngress := ingress } := by
  have hkey : (if (some (cursorKey organizationId .telegram consumerKey)).getD "" = ""
      then consumerKey
      else (some (cursorKey organizationId .telegram consumerKey)).getD "") =
        cursorKey organizationId .telegram consumerKey := by
    rw [if_neg]
    · rfl
    · simp [cursorKey, toString]
  generalize hevents : (updates.map Update.payload).map
    (fun update => (externalEventId digest update, update)) = events at accepted
  have hevent : ∀ event, event ∈ events ↔
      ∃ update ∈ updates, (externalEventId digest update.payload, update.payload) = event := by
    intro event
    rw [← hevents, List.map_map, List.mem_map]
    rfl
  unfold PostgresInboxStore.acceptPollBatch at accepted
  simp only [hkey] at accepted
  cases accepted
  generalize hinserted : PostgresInboxStore.insertAll .telegram organizationId consumerKey now
    ingestion.inboxEvents events = result
  have hrows : (∀ other row, ingestion.inboxEvents.get? other = some row →
      result.2.get? other = some row) ∧ ∀ event ∈ events,
        (result.2.get? ⟨organizationId, .telegram, consumerKey, event.1⟩).isSome := by
    rw [← hinserted]
    exact PostgresInboxStore.insertAll_rows
  have hlater : Later ingestion { ingestion with toIngress :=
      ⟨result.2, ingestion.inboxCursors.set
        (.telegram, cursorKey organizationId .telegram consumerKey) (toString next)⟩ } := by
    refine ⟨fun key h => ?_, [], by simp, fun _ _ _ h => by contradiction⟩
    obtain ⟨row, hrow⟩ := Option.isSome_iff_exists.mp h
    exact Option.isSome_iff_exists.mpr ⟨row, hrows.1 key row hrow⟩
  refine ⟨⟨sound.increasing, sound.pending, fun update hupdate hgone => ?_, fun text htext => ?_,
    fun key row hrow => ?_⟩, hlater⟩
  · exact hlater.rows _ (sound.discarded update hupdate hgone)
  · have hcursor : toString next = text :=
      Option.some.inj ((Dict.get?_set_self _ _ _).symm.trans htext)
    refine ⟨next, hcursor ▸ Text.int?_toString next, fun update hupdate hbelow => ?_,
      fetched.reached⟩
    rcases fetched.stored update hupdate hbelow with h | h
    · exact hlater.rows _ h
    · exact hrows.2 _ ((hevent _).mpr ⟨update, h, rfl⟩)
  · have hnew : ingestion.inboxEvents.get? key = some row ∨ ∃ event ∈ events,
        key = ⟨organizationId, .telegram, consumerKey, event.1⟩ ∧
          row.data.payload = .obj event.2.entries := by
      apply PostgresInboxStore.insertAll_new
      rw [hinserted]
      exact hrow
    rcases hnew with h | ⟨event, hmem, hsame, hpayload⟩
    · exact sound.rows key row h
    · obtain ⟨update, hupdate, rfl⟩ := (hevent event).mp hmem
      exact ⟨update, fetched.issued update hupdate, hsame, hpayload⟩

theorem covered_of_cursor {ingestion : Ingestion}
    (sound : Sound digest organizationId consumerKey ingestion) {offset : Int}
    (read : readOffset (cursor? organizationId consumerKey ingestion) = .ok (some offset)) :
    Covered digest organizationId consumerKey offset ingestion := by
  cases hcursor : cursor? organizationId consumerKey ingestion with
  | none =>
      rw [hcursor] at read
      cases read
  | some text =>
      obtain ⟨stored, hstored, hcovered⟩ := sound.cursor text hcursor
      rw [hcursor, readOffset, hstored] at read
      cases read
      exact hcovered

end keeps

/-! ### Every run of pollers -/

/-- One round of a poller, or an update that comes in at the provider. -/
inductive Participant
  | poll (reply : Reply) (now : Instant)
  | receive (update : Update)

section runs

open Coroutine

variable (digest : Dict String Json → String) (organizationId consumerKey : String)

def Participant.task : Participant → Coroutine Ingestion Failure Nat
  | .poll reply now =>
      DurablePollingReceiver.telegramOnce digest organizationId consumerKey reply now
  | .receive update =>
      .segment fun ingestion => .ok (0, { ingestion with bot := ingestion.bot.receive update })

def polling (participants : List Participant) : Coroutine.Pool Ingestion Failure Nat :=
  { state := .empty
    tasks := participants.map (Participant.task digest organizationId consumerKey) }

theorem keeps_acceptPollBatch {digest : Dict String Json → String}
    {organizationId consumerKey : String} (index : Nat) {updates : List Update} {next : Int}
    {ingestion : Ingestion}
    (fetched : Fetched digest organizationId consumerKey updates next ingestion) (now : Instant) :
    Keeps (ingestionContract digest organizationId consumerKey) index (fun _ _ _ => True)
      (fun _ _ _ => True)
      (DurablePollingReceiver.acceptPollBatch digest organizationId consumerKey
        (updates.map Update.payload) next now) ingestion () := by
  refine .segment (fun current _ hseen hsound value after h => ?_) fun _ _ _ _ _ _ => trivial
  simp only [Except.ok.injEq, Prod.mk.injEq] at h
  obtain ⟨-, rfl⟩ := h
  obtain ⟨hnext, hafter⟩ := Sound.accept hsound (fetched.later hseen) now rfl
  exact ⟨(), hnext, fun _ _ => hafter, trivial⟩

theorem keeps_participant (index : Nat) (participant : Participant) (ingestion : Ingestion) :
    Keeps (ingestionContract digest organizationId consumerKey) index (fun _ _ _ => True)
      (fun _ _ _ => True) (participant.task digest organizationId consumerKey) ingestion () := by
  cases participant with
  | receive update =>
      intro current _ _ hsound
      obtain ⟨hnext, hlater⟩ := Sound.receive hsound update
      exact ⟨(), hnext, fun _ _ => hlater, trivial⟩
  | poll reply now =>
      refine .read_bind (fun first _ _ hfirst storedCursor hcursor => ?_)
        fun _ _ _ _ _ _ => trivial
      refine .attempt_bind (fun offset hoffset => ?_) fun _ _ => trivial
      have hcovered : ∀ start, offset = some start →
          Covered digest organizationId consumerKey start first := by
        rintro start rfl
        cases hcursor
        exact covered_of_cursor hfirst hoffset
      refine .segment_bind (fun second _ hseen hsecond data after h => ?_)
        fun _ _ _ _ _ _ => trivial
      cases hanswer : second.bot.getUpdates offset reply with
      | mk updates bot =>
          simp only [hanswer, Except.ok.injEq, Prod.mk.injEq] at h
          obtain ⟨rfl, rfl⟩ := h
          obtain ⟨hsound, hlater, hfetched⟩ := Sound.getUpdates hsecond
            (fun start hstart => (hcovered start hstart).later hseen) reply hanswer
          refine ⟨(), hsound, fun _ _ => hlater, ?_⟩
          have hpayloads := congrArg Prod.fst (received_updates offset updates)
          cases hreceived : received offset
              (updates.map fun update => .obj update.payload.entries) with
          | mk payloads nextOffset =>
              rw [hreceived] at hpayloads hfetched
              cases nextOffset with
              | none => trivial
              | some next =>
                  have hpayloads : payloads = updates.map Update.payload := hpayloads
                  subst hpayloads
                  have hheld := hfetched next rfl
                  exact keeps_acceptPollBatch index hheld now

theorem polling_kept (participants : List Participant) (schedule : List Nat) :
    ∃ ghost, Pool.Kept (ingestionContract digest organizationId consumerKey)
      (fun _ _ _ _ => True) (fun _ _ _ _ => True)
      ((polling digest organizationId consumerKey participants).run schedule) ghost := by
  have hstart : Pool.Kept (ingestionContract digest organizationId consumerKey)
      (fun _ _ _ _ => True) (fun _ _ _ _ => True)
      (polling digest organizationId consumerKey participants) () := by
    refine ⟨sound_empty, fun index task htask => ?_⟩
    rw [polling, List.getElem?_map] at htask
    obtain ⟨participant, -, rfl⟩ := Option.map_eq_some_iff.mp htask
    exact keeps_participant digest organizationId consumerKey index participant _
  exact hstart.run (fun _ _ _ _ _ _ _ h => h) (fun _ _ _ _ _ _ _ h => h) schedule

/-- The update is in the inbox of the consumer, and in one row. -/
def StoredOnce (ingestion : Ingestion) (update : Update) : Prop :=
  ∃! key : InboxKey, key.organizationId = organizationId ∧ key.provider = .telegram ∧
    key.consumerKey = consumerKey ∧
      ∃ row, ingestion.inboxEvents.get? key = some row ∧
        row.data.payload = .obj update.payload.entries

end runs

end DispatchCore.Transports
