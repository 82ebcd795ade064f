import Mathlib.Algebra.Order.Ring.Rat
import Mathlib.Tactic.Linarith
import DispatchCore.Library.Dict
import DispatchCore.Library.Windows

/-! The rate limits of the MAX sender: so many requests a second, and two for each chat.  Who
gets no slot sleeps for the delay that was computed and asks again. -/
namespace DispatchCore.Transports

open DispatchCore.Library

namespace MaxTransport

def maxChatRequestsPerSecond : Nat := 2

def chatTableCap : Nat := 1000

structure Sender where
  rate : Nat
  requestTimes : List ℚ
  chatRequestTimes : Dict String (List ℚ)
  accepted : 1 ≤ rate ∧ rate ≤ 30

def slotDelay (values : Option (List ℚ)) (limit : Nat) (now : ℚ) : ℚ :=
  match values with
  | some (oldest :: rest) =>
      if (oldest :: rest).length < limit then 0 else max 0 (1 - (now - oldest))
  | _ => 0 -- no limit is below one

/-- What `defaultdict` gives for a chat. -/
def Sender.chatTimes (sender : Sender) (chat : String) : List ℚ :=
  (sender.chatRequestTimes.get? chat).getD []

/-- The queues with what has left the last second taken off. -/
def Sender.pruned (sender : Sender) (now : ℚ) (rateLimitKey : Option String) : Sender :=
  { sender with
    requestTimes := prune (now - 1) sender.requestTimes
    chatRequestTimes := match rateLimitKey with
      | some chat =>
          sender.chatRequestTimes.set chat (prune (now - 1) (sender.chatTimes chat))
      | none => sender.chatRequestTimes }

def Sender.delay (sender : Sender) (now : ℚ) (rateLimitKey : Option String) : ℚ :=
  max (slotDelay (some sender.requestTimes) sender.rate now)
    (slotDelay (rateLimitKey.map sender.chatTimes) maxChatRequestsPerSecond now)

def compacted (cutoff : ℚ) (table : Dict String (List ℚ)) : Dict String (List ℚ) :=
  if chatTableCap < table.entries.length then
    table.restrict fun _ values => values.getLast?.any fun last => cutoff < last
  else table

def Sender.grant (sender : Sender) (now : ℚ) (rateLimitKey : Option String) : Sender :=
  { sender with
    requestTimes := sender.requestTimes ++ [now]
    chatRequestTimes := compacted (now - 1) (match rateLimitKey with
      | some chat => sender.chatRequestTimes.set chat (sender.chatTimes chat ++ [now])
      | none => sender.chatRequestTimes) }

/-- One turn of the loop in `_wait_api_slot`: the delay, which is none where a slot is granted. -/
def Sender.turn (sender : Sender) (now : ℚ) (rateLimitKey : Option String) : ℚ × Sender :=
  let sender := sender.pruned now rateLimitKey
  let delay := sender.delay now rateLimitKey
  (delay, if delay ≤ 0 then sender.grant now rateLimitKey else sender)

/-! ### Callers -/

structure Sleeper where
  rateLimitKey : Option String
  wakesAt : ℚ

/-- The sender with those who wait for a slot, and the slots it has granted. -/
structure Queue where
  sender : Sender
  sleepers : List Sleeper
  granted : List (ℚ × Option String)

inductive SlotEvent
  | call (rateLimitKey : Option String)
  | wake (index : Nat)
  | cancel (index : Nat)

namespace Queue

def enter (queue : Queue) (now : ℚ) (rateLimitKey : Option String) : Queue :=
  let (delay, sender) := queue.sender.turn now rateLimitKey
  if delay ≤ 0 then
    { queue with sender, granted := queue.granted ++ [(now, rateLimitKey)] }
  else
    { queue with sender, sleepers := queue.sleepers ++ [⟨rateLimitKey, now + delay⟩] }

def step (queue : Queue) (now : ℚ) : SlotEvent → Queue
  | .call rateLimitKey => queue.enter now rateLimitKey
  | .wake index => -- the loop may wake a caller a little early
      match queue.sleepers[index]? with
      | some sleeper =>
          { queue with sleepers := queue.sleepers.eraseIdx index }.enter now sleeper.rateLimitKey
      | none => queue
  | .cancel index => { queue with sleepers := queue.sleepers.eraseIdx index }

def start (rate : Nat) (accepted : 1 ≤ rate ∧ rate ≤ 30) : Queue :=
  ⟨⟨rate, [], .empty, accepted⟩, [], []⟩

def run (queue : Queue) (events : List (ℚ × SlotEvent)) : Queue :=
  events.foldl (fun queue event => queue.step event.1 event.2) queue

/-- When slots were granted. -/
def times (queue : Queue) : List ℚ := queue.granted.map Prod.fst

/-- When slots were granted for one chat. -/
def timesOf (queue : Queue) (chat : String) : List ℚ :=
  (queue.granted.filter fun slot => slot.2 = some chat).map Prod.fst

end Queue

/-! ### Delays -/

theorem slotDelay_nonneg (values : Option (List ℚ)) (limit : Nat) (now : ℚ) :
    0 ≤ slotDelay values limit now := by
  unfold slotDelay
  split
  · split
    · exact le_rfl
    · exact le_max_left _ _
  · exact le_rfl

theorem slotDelay_pos_iff {values : List ℚ} {limit : Nat} {now : ℚ} (positive : 1 ≤ limit)
    (recent : ∀ instant ∈ values, now - 1 < instant) :
    0 < slotDelay (some values) limit now ↔ limit ≤ values.length := by
  cases values with
  | nil =>
      simp only [slotDelay, lt_self_iff_false, List.length_nil, false_iff]
      omega
  | cons oldest rest =>
      have holdest := recent oldest (by simp)
      simp only [slotDelay]
      by_cases h : (oldest :: rest).length < limit
      · rw [if_pos h]
        simp only [lt_self_iff_false, false_iff]
        omega
      · rw [if_neg h]
        have hpositive : 0 < 1 - (now - oldest) := by linarith
        exact ⟨fun _ => not_lt.mp h, fun _ => lt_max_of_lt_right hpositive⟩

/-- After the delay the oldest entry is a second old. -/
theorem oldest_le_of_slotDelay {oldest : ℚ} {rest : List ℚ} {limit : Nat} {now : ℚ}
    (full : limit ≤ (oldest :: rest).length) :
    oldest ≤ now + slotDelay (some (oldest :: rest)) limit now - 1 := by
  simp only [slotDelay, if_neg (not_lt.mpr full)]
  have hle := le_max_right (0 : ℚ) (1 - (now - oldest))
  linarith

/-! ### What the queues know of the slots granted -/

theorem chatTimes_pruned (sender : Sender) (now : ℚ) (rateLimitKey : Option String)
    (chat : String) :
    (sender.pruned now rateLimitKey).chatTimes chat =
      if rateLimitKey = some chat then prune (now - 1) (sender.chatTimes chat)
      else sender.chatTimes chat := by
  cases rateLimitKey with
  | none => rfl
  | some key =>
      by_cases h : chat = key
      · subst h
        simp [Sender.chatTimes, Sender.pruned]
      · have hne : some key ≠ some chat := fun heq => h (Option.some.inj heq).symm
        simp [Sender.chatTimes, Sender.pruned, Dict.get?_set_of_ne _ _ h, hne]

/-- A queue that is dropped from the table had nothing that still counts. -/
theorem remembers_compacted {cutoff : ℚ} {history : List ℚ} {table : Dict String (List ℚ)}
    {chat : String} (h : Remembers cutoff history ((table.get? chat).getD []))
    (ordered : history.Pairwise (· ≤ ·)) :
    Remembers cutoff history (((compacted cutoff table).get? chat).getD []) := by
  unfold compacted
  split
  · rw [Dict.get?_restrict]
    cases hvalues : table.get? chat with
    | none =>
        rw [hvalues] at h
        exact h
    | some values =>
        rw [hvalues] at h
        by_cases hkept : values.getLast?.any fun last => cutoff < last
        · simpa [Option.filter, hkept] using h
        · have hgone := h.forget ordered fun last hlast => by
            simpa [show values.getLast? = some last from hlast] using hkept
          simpa [Option.filter, hkept] using hgone
  · exact h

namespace Queue

variable {queue : Queue} {latest now : ℚ} {rateLimitKey : Option String} {chat : String}

/-- The queues hold every slot that still counts, and the limits were never exceeded. -/
structure Sound (queue : Queue) (latest : ℚ) : Prop where
  reached : ∀ instant ∈ queue.times, instant ≤ latest
  ordered : queue.times.Pairwise (· ≤ ·)
  requests : Remembers (latest - 1) queue.times queue.sender.requestTimes
  chats : ∀ chat, Remembers (latest - 1) (queue.timesOf chat) (queue.sender.chatTimes chat)
  limited : Limited 1 queue.sender.rate queue.times
  chatLimited : ∀ chat, Limited 1 maxChatRequestsPerSecond (queue.timesOf chat)

theorem timesOf_sublist (queue : Queue) (chat : String) :
    (queue.timesOf chat).Sublist queue.times :=
  List.filter_sublist.map Prod.fst

theorem Sound.orderedOf (h : Sound queue latest) (chat : String) :
    (queue.timesOf chat).Pairwise (· ≤ ·) :=
  h.ordered.sublist (queue.timesOf_sublist chat)

theorem Sound.reachedOf (h : Sound queue latest) {instant : ℚ}
    (hmem : instant ∈ queue.timesOf chat) : instant ≤ latest :=
  h.reached instant ((queue.timesOf_sublist chat).subset hmem)

theorem sound_start {rate : Nat} (accepted : 1 ≤ rate ∧ rate ≤ 30) (latest : ℚ) :
    Sound (start rate accepted) latest where
  reached _ h := by contradiction
  ordered := .nil
  requests := .nil
  chats _ := .nil
  limited := .nil
  chatLimited _ := .nil

/-- Time passes, and queues are pruned. -/
theorem Sound.pruned (h : Sound queue latest) (hnow : latest ≤ now)
    (rateLimitKey : Option String) :
    Sound { queue with sender := queue.sender.pruned now rateLimitKey } now where
  reached instant hmem := (h.reached instant hmem).trans hnow
  ordered := h.ordered
  requests := h.requests.pruned (sub_le_sub_right hnow 1) h.ordered
  chats chat := by
    rw [chatTimes_pruned]
    split
    · exact (h.chats chat).pruned (sub_le_sub_right hnow 1) (h.orderedOf chat)
    · exact (h.chats chat).mono (sub_le_sub_right hnow 1)
  limited := h.limited
  chatLimited := h.chatLimited

theorem Sound.requestTimes_pruned (h : Sound queue latest) (hnow : latest ≤ now) :
    (queue.sender.pruned now rateLimitKey).requestTimes = inWindow 1 now queue.times := by
  rw [inWindow_now fun instant hmem => (h.reached instant hmem).trans hnow]
  exact h.requests.prune_eq (sub_le_sub_right hnow 1) h.ordered

theorem Sound.chatTimes_pruned (h : Sound queue latest) (hnow : latest ≤ now) :
    (queue.sender.pruned now (some chat)).chatTimes chat =
      inWindow 1 now (queue.timesOf chat) := by
  rw [MaxTransport.chatTimes_pruned, if_pos rfl,
    inWindow_now fun instant hmem => (h.reachedOf hmem).trans hnow]
  exact (h.chats chat).prune_eq (sub_le_sub_right hnow 1) (h.orderedOf chat)

/-- The windows a request has to fit into: each with its limit and the slots it has. -/
def windows (queue : Queue) (now : ℚ) : Option String → List (Nat × List ℚ)
  | none => [(queue.sender.rate, inWindow 1 now queue.times)]
  | some chat => [(queue.sender.rate, inWindow 1 now queue.times),
      (maxChatRequestsPerSecond, inWindow 1 now (queue.timesOf chat))]

def delay (queue : Queue) (now : ℚ) (rateLimitKey : Option String) : ℚ :=
  (queue.sender.turn now rateLimitKey).1

theorem Sound.delay_eq (h : Sound queue latest) (hnow : latest ≤ now) :
    queue.delay now rateLimitKey =
      max (slotDelay (some (inWindow 1 now queue.times)) queue.sender.rate now)
        (slotDelay (rateLimitKey.map fun chat => inWindow 1 now (queue.timesOf chat))
          maxChatRequestsPerSecond now) := by
  unfold delay Sender.turn Sender.delay
  simp only
  rw [h.requestTimes_pruned hnow]
  cases rateLimitKey with
  | none => rfl
  | some chat =>
      rw [Option.map_some, Option.map_some, h.chatTimes_pruned hnow]
      rfl

theorem recent_of_inWindow {history : List ℚ} :
    ∀ instant ∈ inWindow 1 now history, now - 1 < instant := by
  intro instant hmem
  have hwindow := (List.mem_filter.mp hmem).2
  simp only [decide_eq_true_eq] at hwindow
  exact hwindow.1

theorem limit_pos {window : Nat × List ℚ} (hmem : window ∈ queue.windows now rateLimitKey) :
    1 ≤ window.1 := by
  cases rateLimitKey with
  | none =>
      rw [List.mem_singleton.mp hmem]
      exact queue.sender.accepted.1
  | some chat =>
      rcases List.mem_pair.mp hmem with rfl | rfl
      · exact queue.sender.accepted.1
      · exact Nat.le_succ 1

/-- A request has to wait exactly when one of its windows is full. -/
theorem Sound.delay_pos_iff (h : Sound queue latest) (hnow : latest ≤ now) :
    0 < queue.delay now rateLimitKey ↔
      ∃ window ∈ queue.windows now rateLimitKey, window.1 ≤ window.2.length := by
  have hrate : 0 < slotDelay (some (inWindow 1 now queue.times)) queue.sender.rate now ↔
      queue.sender.rate ≤ (inWindow 1 now queue.times).length :=
    slotDelay_pos_iff queue.sender.accepted.1 recent_of_inWindow
  rw [h.delay_eq hnow, lt_max_iff]
  cases rateLimitKey with
  | none => simpa [windows, slotDelay] using hrate
  | some chat =>
      have hchat : 0 < slotDelay (some (inWindow 1 now (queue.timesOf chat)))
          maxChatRequestsPerSecond now ↔
            maxChatRequestsPerSecond ≤ (inWindow 1 now (queue.timesOf chat)).length :=
        slotDelay_pos_iff (by decide) recent_of_inWindow
      rw [Option.map_some, hrate, hchat]
      simp [windows]

/-- Every window counts into the delay. -/
theorem Sound.slotDelay_le (h : Sound queue latest) (hnow : latest ≤ now)
    {window : Nat × List ℚ} (hmem : window ∈ queue.windows now rateLimitKey) :
    slotDelay (some window.2) window.1 now ≤ queue.delay now rateLimitKey := by
  rw [h.delay_eq hnow]
  cases rateLimitKey with
  | none =>
      rw [List.mem_singleton.mp hmem]
      exact le_max_left _ _
  | some chat =>
      rcases List.mem_pair.mp hmem with rfl | rfl
      · exact le_max_left _ _
      · exact le_max_right _ _

/-- When the delay is over, the oldest slot of a full window has left it. -/
theorem Sound.oldest_left (h : Sound queue latest) (hnow : latest ≤ now)
    {window : Nat × List ℚ} (hmem : window ∈ queue.windows now rateLimitKey)
    (full : window.1 ≤ window.2.length) {oldest : ℚ} (first : window.2.head? = some oldest)
    {point : ℚ} (passed : now + queue.delay now rateLimitKey ≤ point) : oldest ≤ point - 1 := by
  obtain ⟨limit, slots⟩ := window
  obtain ⟨rest, rfl⟩ := List.head?_eq_some_iff.mp first
  have hdelay := h.slotDelay_le hnow hmem
  have hold : oldest ≤ now + slotDelay (some (oldest :: rest)) limit now - 1 :=
    oldest_le_of_slotDelay full
  linarith

/-! ### One event, and a run -/

theorem timesOf_granted (queue : Queue) (sender : Sender) (chat : String) :
    timesOf { queue with sender, granted := queue.granted ++ [(now, rateLimitKey)] } chat =
      if rateLimitKey = some chat then queue.timesOf chat ++ [now] else queue.timesOf chat := by
  unfold timesOf
  simp only [List.filter_append, List.map_append]
  by_cases h : rateLimitKey = some chat
  · simp [h]
  · simp [h]

theorem chatTimes_grant (sender : Sender) (now : ℚ) (rateLimitKey : Option String)
    (chat : String) {history : List ℚ} (ordered : history.Pairwise (· ≤ ·))
    (h : Remembers (now - 1) history (if rateLimitKey = some chat
      then sender.chatTimes chat ++ [now] else sender.chatTimes chat)) :
    Remembers (now - 1) history ((sender.grant now rateLimitKey).chatTimes chat) := by
  apply remembers_compacted _ ordered
  cases rateLimitKey with
  | none => simpa [Sender.chatTimes] using h
  | some key =>
      by_cases hkey : chat = key
      · subst hkey
        simpa [Sender.chatTimes] using h
      · have hne : some key ≠ some chat := fun heq => hkey (Option.some.inj heq).symm
        rw [if_neg hne] at h
        simpa [Sender.chatTimes, Dict.get?_set_of_ne _ _ hkey] using h

/-- A slot that every window has room for. -/
theorem Sound.granted (h : Sound queue now) (rateLimitKey : Option String)
    (room : ∀ window ∈ queue.windows now rateLimitKey, window.2.length < window.1) :
    Sound { queue with
      sender := queue.sender.grant now rateLimitKey
      granted := queue.granted ++ [(now, rateLimitKey)] } now := by
  have hnow : now - 1 < now := sub_one_lt now
  have htimes : times { queue with
      sender := queue.sender.grant now rateLimitKey
      granted := queue.granted ++ [(now, rateLimitKey)] } = queue.times ++ [now] := by
    simp [times]
  have hfits : (inWindow 1 now queue.times).length < queue.sender.rate := by
    cases rateLimitKey with
    | none => exact room _ (List.mem_singleton.mpr rfl)
    | some chat => exact room _ (List.mem_pair.mpr (.inl rfl))
  have hfitsChat : ∀ chat, rateLimitKey = some chat →
      (inWindow 1 now (queue.timesOf chat)).length < maxChatRequestsPerSecond := by
    rintro chat rfl
    exact room _ (List.mem_pair.mpr (.inr rfl))
  constructor
  · intro instant hmem
    rw [htimes] at hmem
    rcases List.mem_append.mp hmem with hbefore | hlast
    · exact h.reached instant hbefore
    · exact (List.mem_singleton.mp hlast).le
  · rw [htimes]
    exact ordered_concat h.ordered h.reached
  · rw [htimes]
    exact h.requests.concat hnow
  · intro chat
    rw [timesOf_granted]
    by_cases hchat : rateLimitKey = some chat
    · rw [if_pos hchat]
      apply chatTimes_grant
      · exact ordered_concat (h.orderedOf chat) fun instant hmem => h.reachedOf hmem
      · rw [if_pos hchat]
        exact (h.chats chat).concat hnow
    · rw [if_neg hchat]
      apply chatTimes_grant _ _ _ _ (h.orderedOf chat)
      rw [if_neg hchat]
      exact h.chats chat
  · rw [htimes]
    apply h.limited.concat
    rw [inWindow_now h.reached] at hfits
    exact hfits
  · intro chat
    rw [timesOf_granted]
    by_cases hchat : rateLimitKey = some chat
    · rw [if_pos hchat]
      apply (h.chatLimited chat).concat
      have hroom := hfitsChat chat hchat
      rw [inWindow_now fun instant hmem => h.reachedOf hmem] at hroom
      exact hroom
    · rw [if_neg hchat]
      exact h.chatLimited chat

theorem Sound.enter (h : Sound queue latest) (hnow : latest ≤ now)
    (rateLimitKey : Option String) : Sound (queue.enter now rateLimitKey) now := by
  have hpruned := h.pruned hnow rateLimitKey
  by_cases hdelay : queue.delay now rateLimitKey ≤ 0
  · have henter : queue.enter now rateLimitKey =
        { queue with
          sender := (queue.sender.pruned now rateLimitKey).grant now rateLimitKey
          granted := queue.granted ++ [(now, rateLimitKey)] } := by
      unfold Queue.enter Sender.turn
      unfold delay Sender.turn at hdelay
      simp only at hdelay ⊢
      rw [if_pos hdelay, if_pos hdelay]
    rw [henter]
    apply hpruned.granted rateLimitKey
    intro window hmem
    by_contra hfull
    exact absurd ((h.delay_pos_iff hnow).mpr ⟨window, hmem, not_lt.mp hfull⟩)
      (not_lt.mpr hdelay)
  · have henter : queue.enter now rateLimitKey =
        { queue with
          sender := queue.sender.pruned now rateLimitKey
          sleepers := queue.sleepers ++
            [⟨rateLimitKey, now + queue.delay now rateLimitKey⟩] } := by
      unfold Queue.enter delay Sender.turn
      unfold delay Sender.turn at hdelay
      simp only at hdelay ⊢
      rw [if_neg hdelay, if_neg hdelay]
    rw [henter]
    exact ⟨hpruned.reached, hpruned.ordered, hpruned.requests, hpruned.chats, hpruned.limited,
      hpruned.chatLimited⟩

theorem Sound.mono (h : Sound queue latest) (hnow : latest ≤ now) : Sound queue now where
  reached instant hmem := (h.reached instant hmem).trans hnow
  ordered := h.ordered
  requests := h.requests.mono (sub_le_sub_right hnow 1)
  chats chat := (h.chats chat).mono (sub_le_sub_right hnow 1)
  limited := h.limited
  chatLimited := h.chatLimited

theorem Sound.step (h : Sound queue latest) (hnow : latest ≤ now) (event : SlotEvent) :
    Sound (queue.step now event) now := by
  have hkept : ∀ sleepers, Sound { queue with sleepers } latest := fun _ =>
    ⟨h.reached, h.ordered, h.requests, h.chats, h.limited, h.chatLimited⟩
  cases event with
  | call rateLimitKey => exact h.enter hnow rateLimitKey
  | wake index =>
      cases hsleeper : queue.sleepers[index]? with
      | none =>
          have hstep : queue.step now (.wake index) = queue := by simp [Queue.step, hsleeper]
          rw [hstep]
          exact h.mono hnow
      | some sleeper =>
          have hstep : queue.step now (.wake index) =
              { queue with sleepers := queue.sleepers.eraseIdx index }.enter now
                sleeper.rateLimitKey := by
            simp [Queue.step, hsleeper]
          rw [hstep]
          exact (hkept _).enter hnow sleeper.rateLimitKey
  | cancel index => exact (hkept _).mono hnow

/-- The queues stay sound along every run whose clock does not go back. -/
theorem Sound.run (h : Sound queue latest) {events : List (ℚ × SlotEvent)}
    (clock : (latest :: events.map Prod.fst).Pairwise (· ≤ ·)) (hlatest : latest ≤ now)
    (hnow : ∀ event ∈ events, event.1 ≤ now) : Sound (queue.run events) now := by
  induction events generalizing queue latest with
  | nil => exact h.mono hlatest
  | cons event rest ih =>
      rw [List.map_cons, List.pairwise_cons] at clock
      exact ih (h.step (clock.1 event.1 (by simp)) event.2) clock.2 (hnow event (by simp))
        fun other hmem => hnow other (List.mem_cons_of_mem _ hmem)

theorem sound_run {rate : Nat} (accepted : 1 ≤ rate ∧ rate ≤ 30) {events : List (ℚ × SlotEvent)}
    (clock : (events.map Prod.fst).Pairwise (· ≤ ·)) (hnow : ∀ event ∈ events, event.1 ≤ now) :
    Sound ((start rate accepted).run events) now := by
  cases events with
  | nil => exact sound_start accepted now
  | cons event rest =>
      have hfirst : (event.1 :: (event :: rest).map Prod.fst).Pairwise (· ≤ ·) := by
        rw [List.map_cons, List.pairwise_cons] at clock ⊢
        refine ⟨fun other hmem => ?_, List.pairwise_cons.mpr clock⟩
        rcases List.mem_cons.mp hmem with rfl | hrest
        · exact le_rfl
        · exact clock.1 other hrest
      exact (sound_start accepted event.1).run hfirst (hnow event (by simp)) hnow

theorem rate_enter : (queue.enter now rateLimitKey).sender.rate = queue.sender.rate := by
  unfold Queue.enter Sender.turn
  simp only
  split
  · rfl
  · rfl

theorem rate_step (event : SlotEvent) : (queue.step now event).sender.rate = queue.sender.rate := by
  cases event with
  | call rateLimitKey => exact rate_enter
  | wake index =>
      unfold Queue.step
      simp only
      split
      · exact rate_enter
      · rfl
  | cancel index => rfl

@[simp] theorem rate_run (events : List (ℚ × SlotEvent)) :
    (queue.run events).sender.rate = queue.sender.rate := by
  induction events generalizing queue with
  | nil => rfl
  | cons event rest ih => exact ih.trans (rate_step event.2)

theorem exists_bound (events : List (ℚ × SlotEvent)) : ∃ now, ∀ event ∈ events, event.1 ≤ now := by
  induction events with
  | nil => exact ⟨0, fun _ h => by contradiction⟩
  | cons event rest ih =>
      obtain ⟨now, hnow⟩ := ih
      refine ⟨max event.1 now, fun other hmem => ?_⟩
      rcases List.mem_cons.mp hmem with rfl | hrest
      · exact le_max_left _ _
      · exact (hnow other hrest).trans (le_max_right _ _)

end Queue

/-- Whoever asks for slots and whenever the clock is read, no second holds more slots than the
limits allow; a slot is refused exactly when a window is full, and after the delay the oldest
slot of each full window has left it. -/
theorem rates_kept {rate : Nat} (accepted : 1 ≤ rate ∧ rate ≤ 30)
    {events : List (ℚ × SlotEvent)} (clock : (events.map Prod.fst).Pairwise (· ≤ ·)) :
    let reached := (Queue.start rate accepted).run events
    Limited 1 rate reached.times ∧
      (∀ chat, Limited 1 maxChatRequestsPerSecond (reached.timesOf chat)) ∧
      ∀ now, (∀ event ∈ events, event.1 ≤ now) → ∀ rateLimitKey,
        (0 < reached.delay now rateLimitKey ↔
          ∃ window ∈ reached.windows now rateLimitKey, window.1 ≤ window.2.length) ∧
        ∀ window ∈ reached.windows now rateLimitKey, window.1 ≤ window.2.length →
          ∀ oldest, window.2.head? = some oldest → ∀ point,
            now + reached.delay now rateLimitKey ≤ point → oldest ≤ point - 1 := by
  obtain ⟨last, hlast⟩ := Queue.exists_bound events
  have hsound := Queue.sound_run accepted clock hlast
  have hlimited := hsound.limited
  rw [Queue.rate_run] at hlimited
  refine ⟨hlimited, hsound.chatLimited, fun now hnow rateLimitKey => ?_⟩
  have hreached := Queue.sound_run accepted clock hnow
  exact ⟨hreached.delay_pos_iff le_rfl, fun window hmem full oldest first point passed =>
    hreached.oldest_left le_rfl hmem full first passed⟩

/-- Two messages to one chat at once, and one to another a little later. -/
def burst : List (ℚ × SlotEvent) :=
  [(0, .call (some "7")), (0, .call (some "7")), (1 / 4, .call (some "8"))]

theorem burst_kept :
    Limited 1 25 ((Queue.start 25 (by decide)).run burst).times ∧
      Limited 1 maxChatRequestsPerSecond
        (((Queue.start 25 (by decide)).run burst).timesOf "7") ∧
      0 < ((Queue.start 25 (by decide)).run burst).delay (1 / 2) (some "7") := by
  have hclock : (burst.map Prod.fst).Pairwise (· ≤ ·) := by decide +kernel
  have hnow : ∀ event ∈ burst, event.1 ≤ 1 / 2 := by decide +kernel
  obtain ⟨hlimited, hchats, hrefused⟩ := @rates_kept 25 (by decide) burst hclock
  refine ⟨hlimited, hchats "7", ((hrefused (1 / 2) hnow (some "7")).1).mpr ?_⟩
  refine ⟨(maxChatRequestsPerSecond, _), List.mem_pair.mpr (.inr rfl), ?_⟩
  decide +kernel

end MaxTransport
end DispatchCore.Transports
