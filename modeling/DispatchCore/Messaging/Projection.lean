import Mathlib.Data.List.Flatten
import Mathlib.Data.List.Perm.Basic
import DispatchCore.Messaging.Projector

/-! Every event is projected at most once for each addressee, in any interleaving
of the projectors.  The transactions carry the argument: the keys of all messages,
committed or not, stay distinct, and each tells whom it is for. -/
namespace DispatchCore.Messaging

open DispatchCore.Library DispatchCore.Domain DispatchCore.Infrastructure Projection

variable {publicBaseUrl : Option String}

namespace Projection

/-- All messages that are written, whether they are visible or not. -/
def written (projection : Projection) : List OutboundMessage :=
  projection.messages ++ projection.flights.flatMap Flight.messages

/-- The event stands in the outbox table. -/
def Recorded (projection : Projection) (event : DomainEvent) : Prop :=
  ∃ row, projection.site.rows.get? event.eventId = some row ∧ row.data = event

/-- The flight has dealt with a recipient it looked up, or is about to. -/
def Handled (projection : Projection) (flight : Flight) (entry : String × Recipient) : Prop :=
  (∃ plan buttons rest, flight.inserting = some (plan, buttons, rest) ∧
    plan.purpose = entry.1 ∧ entry.2 ∈ rest) ∨
  deduplicationKey flight.envelope.key entry.1 entry.2.provider entry.2.externalUserId ∈
    keys (projection.messages ++ flight.messages)

/-- What a flight keeps from its start to its end. -/
structure Airworthy (projection : Projection) (flight : Flight) : Prop where
  recorded : projection.Recorded flight.envelope.data
  keyed : flight.envelope.key = flight.envelope.data.eventId
  planned : ∀ plan ∈ flight.plans, plan.purpose ∈ purposes flight.envelope.data
  inserting : ∀ plan buttons rest, flight.inserting = some (plan, buttons, rest) →
    plan.purpose ∈ purposes flight.envelope.data
  resolved : ∀ entry ∈ flight.resolved, entry.1 ∈ purposes flight.envelope.data
  handled : ∀ entry ∈ flight.resolved, projection.Handled flight entry

/-- An addressee of the event has its message. -/
def Reached (projection : Projection) (event : DomainEvent) (entry : String × Recipient) : Prop :=
  entry.1 ∈ purposes event ∧
  deduplicationKey event.eventId entry.1 entry.2.provider entry.2.externalUserId ∈
    keys projection.messages

structure Sound (projection : Projection) : Prop where
  keyed : ∀ id row, projection.site.rows.get? id = some row →
    row.data.eventId = id ∧ ':' ∉ id.toList
  held : ∀ item ∈ projection.site.held, projection.Recorded item.2.data ∧
    item.2.key = item.2.data.eventId
  airworthy : ∀ flight ∈ projection.flights, projection.Airworthy flight
  distinct : (keys projection.written).Nodup
  addressed : ∀ message ∈ projection.written, ∃ event, projection.Recorded event ∧
    ∃ purpose ∈ purposes event, message.deduplicationKey =
      deduplicationKey event.eventId purpose message.provider message.recipientId
  delivered : ∀ id row, projection.site.rows.get? id = some row → row.status = .settled →
    ∃ attempt ∈ projection.attempts, attempt.eventId = id ∧
      ∀ entry ∈ attempt.resolved, projection.Reached row.data entry
  messages : projection.messages = projection.attempts.flatMap Attempt.messages
  tokens : projection.tokens = projection.attempts.flatMap Attempt.tokens

theorem sound_empty : Sound .empty := by
  constructor
  · intro id row h; cases h
  · intro item h; cases h
  · intro flight h; cases h
  · exact List.nodup_nil
  · intro message h; cases h
  · intro id row h; cases h
  · rfl
  · rfl

section flights

variable {projection after : Projection} {flight changed : Flight} {index : Nat}

theorem Airworthy.grow (airworthy : projection.Airworthy flight)
    (recorded : ∀ event, projection.Recorded event → after.Recorded event)
    (messages : ∀ message ∈ projection.messages, message ∈ after.messages) :
    after.Airworthy flight := by
  refine ⟨recorded _ airworthy.recorded, airworthy.keyed, airworthy.planned, airworthy.inserting,
    airworthy.resolved, fun entry hentry => ?_⟩
  cases airworthy.handled entry hentry with
  | inl hleft => exact .inl hleft
  | inr hkey =>
      right
      obtain ⟨message, hmem, hkey⟩ := List.mem_map.mp hkey
      refine List.mem_map.mpr ⟨message, ?_, hkey⟩
      cases List.mem_append.mp hmem with
      | inl hold => exact List.mem_append_left _ (messages _ hold)
      | inr hown => exact List.mem_append_right _ hown

theorem perm_others (found : projection.flights[index]? = some flight) :
    projection.flights.Perm (flight :: projection.others index) := by
  obtain ⟨hlength, hget⟩ := List.getElem?_eq_some_iff.mp found
  have hperm := List.getElem_cons_eraseIdx_perm hlength
  rw [hget] at hperm
  exact hperm.symm

theorem perm_set (changed : Flight) (found : projection.flights[index]? = some flight) :
    (projection.flights.set index changed).Perm (changed :: projection.others index) :=
  List.set_perm_cons_eraseIdx (List.getElem?_eq_some_iff.mp found).1 changed

theorem mem_others (h : flight ∈ projection.others index) : flight ∈ projection.flights :=
  List.mem_of_mem_eraseIdx h

/-- All messages, those of one flight apart. -/
theorem written_perm (found : projection.flights[index]? = some flight) :
    projection.written.Perm
      (projection.messages ++ flight.messages ++
        (projection.others index).flatMap Flight.messages) := by
  have hperm := (perm_others found).flatMap_right Flight.messages
  rw [List.flatMap_cons] at hperm
  rw [written, List.append_assoc]
  exact hperm.append_left _

/-- A flight goes on: one entry of the list changes, and nothing becomes visible. -/
def updated (projection : Projection) (index : Nat) (changed : Flight) : Projection :=
  { projection with flights := projection.flights.set index changed }

theorem updated_perm (found : projection.flights[index]? = some flight) :
    (projection.updated index changed).written.Perm
      (projection.messages ++ changed.messages ++
        (projection.others index).flatMap Flight.messages) := by
  have hperm := (perm_set changed found).flatMap_right Flight.messages
  rw [List.flatMap_cons] at hperm
  rw [written, List.append_assoc]
  exact hperm.append_left _

/-- A message is inserted only where no message has its key. -/
theorem distinct_inserted {now : Instant} (distinct : (keys projection.written).Nodup)
    (found : projection.flights[index]? = some flight)
    (inserted : projection.inserted index flight now = some changed) :
    (keys (projection.messages ++ changed.messages ++
      (projection.others index).flatMap Flight.messages)).Nodup := by
  have hdistinct := ((written_perm found).map _).nodup_iff.mp distinct
  unfold Projection.inserted at inserted
  split at inserted
  · rename_i plan buttons recipient rest hinserting
    dsimp only at inserted
    split at inserted
    · cases inserted
    · rename_i hfree
      split at inserted
      · cases inserted
        exact hdistinct
      · rename_i habsent
        cases inserted
        have hperm : (projection.messages ++
            (flight.messages ++
              [recipientMessage flight.envelope.data plan buttons now recipient]) ++
            (projection.others index).flatMap Flight.messages).Perm
              (recipientMessage flight.envelope.data plan buttons now recipient ::
                (projection.messages ++ flight.messages ++
                  (projection.others index).flatMap Flight.messages)) := by
          rw [← List.append_assoc, List.append_assoc _ [_], List.singleton_append]
          exact List.perm_middle
        rw [keys, (hperm.map _).nodup_iff, List.map_cons, List.nodup_cons]
        refine ⟨?_, hdistinct⟩
        rw [List.map_append, List.mem_append]
        exact fun h => h.elim habsent hfree
  · cases inserted
    exact hdistinct
  · cases inserted

theorem Sound.updated (sound : Sound projection)
    (found : projection.flights[index]? = some flight)
    (airworthy : projection.Airworthy changed)
    (distinct : (keys (projection.messages ++ changed.messages ++
      (projection.others index).flatMap Flight.messages)).Nodup)
    (addressed : ∀ message ∈ changed.messages, message ∈ flight.messages ∨
      ∃ event, projection.Recorded event ∧ ∃ purpose ∈ purposes event,
        message.deduplicationKey =
          deduplicationKey event.eventId purpose message.provider message.recipientId) :
    Sound (projection.updated index changed) := by
  refine ⟨sound.keyed, sound.held, fun other hother => ?_, ?_, fun message hmessage => ?_,
    sound.delivered, sound.messages, sound.tokens⟩
  · have hsame : projection.Airworthy other := by
      cases List.mem_or_eq_of_mem_set hother with
      | inl hmem => exact sound.airworthy other hmem
      | inr heq => exact heq ▸ airworthy
    exact hsame.grow (fun _ h => h) fun _ h => h
  · exact ((updated_perm found).map _).nodup_iff.mpr distinct
  · have hmem := (updated_perm found).mem_iff.mp hmessage
    have hwritten := (written_perm found).mem_iff (a := message)
    simp only [List.mem_append] at hmem hwritten
    obtain ((hold | hown) | hother) := hmem
    · exact sound.addressed message (hwritten.mpr (.inl (.inl hold)))
    · cases addressed message hown with
      | inl hflight => exact sound.addressed message (hwritten.mpr (.inl (.inr hflight)))
      | inr hnew => exact hnew
    · exact sound.addressed message (hwritten.mpr (.inr hother))

/-- The outbox and its workers move on, and some flights may be given up. -/
theorem Sound.relaxed (sound : Sound projection) (after : Projection)
    (recorded : ∀ event, projection.Recorded event → after.Recorded event)
    (keyed : ∀ id row, after.site.rows.get? id = some row →
      row.data.eventId = id ∧ ':' ∉ id.toList)
    (held : ∀ item ∈ after.site.held, after.Recorded item.2.data ∧ item.2.key = item.2.data.eventId)
    (settled : ∀ id row, after.site.rows.get? id = some row → row.status = .settled →
      projection.site.rows.get? id = some row)
    (flights : after.flights.Sublist projection.flights)
    (messages : after.messages = projection.messages) (tokens : after.tokens = projection.tokens)
    (attempts : after.attempts = projection.attempts) : Sound after := by
  have hwritten : after.written.Sublist projection.written := by
    unfold written
    rw [messages]
    exact (List.Sublist.flatMap flights _).append_left _
  refine ⟨keyed, held, fun flight hflight => ?_, sound.distinct.sublist (hwritten.map _),
    fun message hmessage => ?_, fun id row hrow hstatus => ?_, ?_, ?_⟩
  · exact (sound.airworthy flight (flights.mem hflight)).grow recorded
      fun _ hmem => messages ▸ hmem
  · obtain ⟨event, hevent, hpurpose⟩ := sound.addressed message (hwritten.mem hmessage)
    exact ⟨event, recorded event hevent, hpurpose⟩
  · obtain ⟨attempt, hattempt, hid, hreached⟩ :=
      sound.delivered id row (settled id row hrow hstatus) hstatus
    refine ⟨attempt, attempts ▸ hattempt, hid, fun entry hentry => ?_⟩
    obtain ⟨hpurpose, hkey⟩ := hreached entry hentry
    exact ⟨hpurpose, messages ▸ hkey⟩
  · rw [messages, attempts, sound.messages]
  · rw [tokens, attempts, sound.tokens]

/-- Statements on the outbox that settle nothing. -/
theorem Sound.siteStep (sound : Sound projection)
    (statement : Statement String DomainEvent OutboxQuery) {kept : List Flight}
    (flights : kept.Sublist projection.flights)
    (unsettling : ∀ index externalMessageId now,
      statement ≠ .mark index (.settled externalMessageId) now)
    (fresh : ∀ id event, statement.inserted id = some event →
      event.eventId = id ∧ ':' ∉ id.toList) :
    Sound { projection.siteStep statement with flights := kept } := by
  have hdata := postgresOutboxStore.step_data projection.site statement
  have hrecorded : ∀ event, projection.Recorded event →
      (projection.siteStep statement).Recorded event := by
    rintro event ⟨row, hrow, rfl⟩
    have hafter := hdata row.data.eventId
    rw [hrow] at hafter
    obtain ⟨later, hlater, hsame⟩ := Option.map_eq_some_iff.mp hafter
    exact ⟨later, hlater, hsame⟩
  refine sound.relaxed _ ?_ ?_ ?_ ?_ flights rfl rfl rfl
  · exact hrecorded
  · intro id row hrow
    have hafter := hdata id
    change (postgresOutboxStore.step projection.site statement).rows.get? id = _ at hrow
    rw [hrow] at hafter
    cases hold : projection.site.rows.get? id with
    | none =>
        rw [hold] at hafter
        exact fresh id row.data hafter.symm
    | some old =>
        rw [hold] at hafter
        have hsame : row.data = old.data := Option.some.inj hafter
        rw [hsame]
        exact sound.keyed id old hold
  · intro item hitem
    cases postgresOutboxStore.step_held statement hitem with
    | inl hheld =>
        obtain ⟨hevent, hkey⟩ := sound.held item hheld
        exact ⟨hrecorded _ hevent, hkey⟩
    | inr htaken =>
        obtain ⟨row, hrow, hsame⟩ := htaken
        have hkey : item.2.data.eventId = item.2.key := hsame ▸ (sound.keyed _ row hrow).1
        exact ⟨hrecorded _ ⟨row, hkey.symm ▸ hrow, hsame⟩, hkey.symm⟩
  · intro id row hrow hstatus
    exact postgresOutboxStore.settled_of_step unsettling hrow hstatus

theorem Sound.start (sound : Sound projection) {worker : Nat}
    {envelope : Envelope String DomainEvent} {readings : Readings} {planned : List RecipientPlan}
    (item : projection.site.held[index]? = some (worker, envelope))
    (plan : plans publicBaseUrl envelope.data readings = .ok planned) :
    Sound
      { projection with
        site := { projection.site with held := projection.site.held.eraseIdx index }
        flights := projection.flights ++ [⟨worker, envelope, planned, none, [], [], []⟩] } := by
  obtain ⟨hrecorded, hkey⟩ := sound.held _ (List.mem_of_getElem? item)
  refine ⟨sound.keyed, fun held hheld => sound.held held (List.mem_of_mem_eraseIdx hheld),
    fun flight hflight => ?_, ?_, ?_, sound.delivered, sound.messages, sound.tokens⟩
  · cases List.mem_append.mp hflight with
    | inl hold => exact (sound.airworthy flight hold).grow (fun _ h => h) fun _ h => h
    | inr hnew =>
        rw [List.mem_singleton] at hnew
        subst hnew
        refine ⟨hrecorded, hkey, fun _ hplan => plans_purpose plan hplan, ?_, ?_, ?_⟩
        · intro _ _ _ h; cases h
        · intro _ h; cases h
        · intro _ h; cases h
  · simpa [written] using sound.distinct
  · intro message hmessage
    apply sound.addressed message
    simpa [written] using hmessage

theorem Sound.prepare (sound : Sound projection) {fresh : List String} {identities : Identities}
    {now : Instant} (found : projection.flights[index]? = some flight)
    (prepared : projection.prepared flight fresh identities now = some changed) :
    Sound (projection.updated index changed) := by
  have hairworthy := sound.airworthy flight (List.mem_of_getElem? found)
  unfold Projection.prepared at prepared
  split at prepared
  · rename_i plan rest hinserting hplans
    dsimp only at prepared
    split at prepared
    · cases prepared
      have hpurpose : plan.purpose ∈ purposes flight.envelope.data :=
        hairworthy.planned plan (hplans ▸ List.mem_cons_self)
      apply sound.updated found
      · constructor
        · exact hairworthy.recorded
        · exact hairworthy.keyed
        · exact fun later hlater =>
            hairworthy.planned later (hplans ▸ List.mem_cons_of_mem _ hlater)
        · intro current buttons left hcurrent
          cases hcurrent
          exact hpurpose
        · intro entry hentry
          cases List.mem_append.mp hentry with
          | inl hold => exact hairworthy.resolved entry hold
          | inr hnew =>
              obtain ⟨recipient, -, rfl⟩ := List.mem_map.mp hnew
              exact hpurpose
        · intro entry hentry
          cases List.mem_append.mp hentry with
          | inl hold =>
              cases hairworthy.handled entry hold with
              | inl hpending =>
                  obtain ⟨current, buttons, left, hcurrent, -⟩ := hpending
                  rw [hinserting] at hcurrent
                  cases hcurrent
              | inr hkey => exact .inr hkey
          | inr hnew =>
              obtain ⟨recipient, hmem, rfl⟩ := List.mem_map.mp hnew
              exact .inl ⟨plan, _, _, rfl, rfl, hmem⟩
      · exact ((written_perm found).map _).nodup_iff.mp sound.distinct
      · exact fun message hmessage => .inl hmessage
    · cases prepared
  · cases prepared

theorem Sound.insert (sound : Sound projection) {now : Instant}
    (found : projection.flights[index]? = some flight)
    (inserted : projection.inserted index flight now = some changed) :
    Sound (projection.updated index changed) := by
  have hairworthy := sound.airworthy flight (List.mem_of_getElem? found)
  have hafter := distinct_inserted sound.distinct found inserted
  unfold Projection.inserted at inserted
  split at inserted
  · rename_i plan buttons recipient rest hinserting
    have hpurpose := hairworthy.inserting plan buttons _ hinserting
    have hmoved : ∀ messages : List OutboundMessage,
        (∀ message ∈ flight.messages, message ∈ messages) →
        deduplicationKey flight.envelope.key plan.purpose recipient.provider
          recipient.externalUserId ∈ keys (projection.messages ++ messages) →
        projection.Airworthy
          { flight with inserting := some (plan, buttons, rest), messages } := by
      intro messages hkept hdone
      refine ⟨hairworthy.recorded, hairworthy.keyed, hairworthy.planned, ?_, hairworthy.resolved,
        fun entry hentry => ?_⟩
      · intro current left others hcurrent
        cases hcurrent
        exact hpurpose
      · cases hairworthy.handled entry hentry with
        | inl hpending =>
            obtain ⟨current, left, others, hcurrent, hsame, hmem⟩ := hpending
            rw [hinserting] at hcurrent
            cases hcurrent
            cases List.mem_cons.mp hmem with
            | inl heq =>
                right
                rw [← hsame, heq]
                exact hdone
            | inr hlater => exact .inl ⟨plan, buttons, rest, rfl, hsame, hlater⟩
        | inr hkey =>
            right
            obtain ⟨message, hmem, hkey⟩ := List.mem_map.mp hkey
            refine List.mem_map.mpr ⟨message, ?_, hkey⟩
            cases List.mem_append.mp hmem with
            | inl hold => exact List.mem_append_left _ hold
            | inr hown => exact List.mem_append_right _ (hkept _ hown)
    have hkey : (recipientMessage flight.envelope.data plan buttons now
        recipient).deduplicationKey = deduplicationKey flight.envelope.key plan.purpose
          recipient.provider recipient.externalUserId := by
      rw [hairworthy.keyed]
      rfl
    dsimp only at inserted
    split at inserted
    · cases inserted
    · split at inserted
      · rename_i hpresent
        cases inserted
        exact sound.updated found (hmoved _ (fun _ h => h) (hkey ▸ hpresent)) hafter
          fun message hmessage => .inl hmessage
      · cases inserted
        apply sound.updated found
        · apply hmoved _ fun _ h => List.mem_append_left _ h
          rw [← hkey]
          exact List.mem_map.mpr ⟨_, by simp, rfl⟩
        · exact hafter
        · intro message hmessage
          cases List.mem_append.mp hmessage with
          | inl hold => exact .inl hold
          | inr hnew =>
              rw [List.mem_singleton] at hnew
              subst hnew
              exact .inr ⟨_, hairworthy.recorded, _, hpurpose, rfl⟩
  · rename_i plan buttons hinserting
    cases inserted
    have hdone : projection.Airworthy { flight with inserting := none } := by
      refine ⟨hairworthy.recorded, hairworthy.keyed, hairworthy.planned, ?_, hairworthy.resolved,
        fun entry hentry => ?_⟩
      · intro _ _ _ h; cases h
      · cases hairworthy.handled entry hentry with
        | inl hpending =>
            obtain ⟨current, left, others, hcurrent, -, hmem⟩ := hpending
            rw [hinserting] at hcurrent
            cases hcurrent
            cases hmem
        | inr hkey => exact .inr hkey
    exact sound.updated found hdone hafter fun message hmessage => .inl hmessage
  · cases inserted

theorem Sound.commit (sound : Sound projection) (now : Instant)
    (found : projection.flights[index]? = some flight)
    (done : flight.plans.isEmpty ∧ flight.inserting.isNone) :
    Sound (projection.committed index flight now) := by
  have hairworthy := sound.airworthy flight (List.mem_of_getElem? found)
  have hget : ∀ id, (projection.committed index flight now).site.rows.get? id =
      (projection.site.rows.get? id).map fun row =>
        if id = flight.envelope.key ∧ row.status = .processing then row.settle now none else row :=
    fun id => get?_updateProcessing flight.envelope.key id _ projection.site.rows
  have hrecorded : ∀ event, projection.Recorded event →
      (projection.committed index flight now).Recorded event := by
    rintro event ⟨row, hrow, rfl⟩
    refine ⟨_, by rw [hget, hrow]; rfl, ?_⟩
    dsimp only
    split <;> rfl
  have hmessages : ∀ message ∈ projection.messages,
      message ∈ (projection.committed index flight now).messages :=
    fun message hmem => List.mem_append_left _ hmem
  have hgrown : ∀ {event entry}, projection.Reached event entry →
      (projection.committed index flight now).Reached event entry := by
    rintro event entry ⟨hpurpose, hkey⟩
    obtain ⟨message, hmem, hkey⟩ := List.mem_map.mp hkey
    exact ⟨hpurpose, List.mem_map.mpr ⟨message, hmessages message hmem, hkey⟩⟩
  have hwritten : (projection.committed index flight now).written =
      projection.messages ++ flight.messages ++
        (projection.others index).flatMap Flight.messages := rfl
  refine ⟨fun id row hrow => ?_, fun item hitem => ?_, fun other hother => ?_, ?_,
    fun message hmessage => ?_, fun id row hrow hstatus => ?_, ?_, ?_⟩
  · rw [hget] at hrow
    obtain ⟨old, hold, hsame⟩ := Option.map_eq_some_iff.mp hrow
    obtain ⟨hid, hcolon⟩ := sound.keyed id old hold
    refine ⟨?_, hcolon⟩
    rw [← hsame]
    split <;> exact hid
  · obtain ⟨hevent, hkey⟩ := sound.held item hitem
    exact ⟨hrecorded _ hevent, hkey⟩
  · exact (sound.airworthy other (mem_others hother)).grow hrecorded hmessages
  · rw [hwritten]
    exact ((written_perm found).map _).nodup_iff.mp sound.distinct
  · rw [hwritten] at hmessage
    obtain ⟨event, hevent, hpurpose⟩ :=
      sound.addressed message ((written_perm found).mem_iff.mpr hmessage)
    exact ⟨event, hrecorded event hevent, hpurpose⟩
  · rw [hget] at hrow
    obtain ⟨old, hold, hsame⟩ := Option.map_eq_some_iff.mp hrow
    by_cases hsettled : id = flight.envelope.key ∧ old.status = .processing
    · rw [if_pos hsettled] at hsame
      obtain ⟨current, hcurrent, hdata⟩ := hairworthy.recorded
      have hevent : row.data = flight.envelope.data := by
        rw [← hairworthy.keyed, ← hsettled.1, hold] at hcurrent
        rw [← hsame, ← hdata, ← Option.some.inj hcurrent]
        rfl
      refine ⟨⟨flight.envelope, flight.messages, flight.tokens, flight.resolved⟩,
        List.mem_append_right _ List.mem_cons_self, hsettled.1.symm, fun entry hentry => ?_⟩
      refine ⟨hevent ▸ hairworthy.resolved entry hentry, ?_⟩
      cases hairworthy.handled entry hentry with
      | inl hpending =>
          obtain ⟨plan, buttons, rest, hinserting, -⟩ := hpending
          rw [hinserting] at done
          cases done.2
      | inr hkey =>
          rw [hevent, ← hairworthy.keyed]
          exact hkey
    · rw [if_neg hsettled] at hsame
      subst hsame
      obtain ⟨attempt, hattempt, hid, hreached⟩ := sound.delivered id old hold hstatus
      exact ⟨attempt, List.mem_append_left _ hattempt, hid,
        fun entry hentry => hgrown (hreached entry hentry)⟩
  · show projection.messages ++ flight.messages = (projection.attempts ++ _).flatMap _
    rw [List.flatMap_append, ← sound.messages]
    simp
  · show projection.tokens ++ flight.tokens = (projection.attempts ++ _).flatMap _
    rw [List.flatMap_append, ← sound.tokens]
    simp

theorem Sound.abort (sound : Sound projection)
    (found : projection.flights[index]? = some flight) :
    Sound
      { projection with
        site := { projection.site with
          held := projection.site.held ++ [(flight.worker, flight.envelope)] }
        flights := projection.others index } := by
  have hairworthy := sound.airworthy flight (List.mem_of_getElem? found)
  refine sound.relaxed _ (fun _ h => h) sound.keyed ?_ (fun _ _ h _ => h)
    (List.eraseIdx_sublist _ _) rfl rfl rfl
  intro item hitem
  cases List.mem_append.mp hitem with
  | inl hold => exact sound.held item hold
  | inr hnew =>
      rw [List.mem_singleton] at hnew
      subst hnew
      exact ⟨hairworthy.recorded, hairworthy.keyed⟩

end flights

/-- Event ids are UUIDs. -/
def ColonFree : Act → Prop
  | .append event _ => ':' ∉ event.eventId.toList
  | _ => True

theorem Sound.step {projection : Projection} (sound : Sound projection) {act : Act}
    (colonFree : ColonFree act) : Sound (projection.step publicBaseUrl act) := by
  cases act with
  | append event now =>
      apply sound.siteStep (.insert event.eventId event now) (List.Sublist.refl _)
      · intro _ _ _ h; cases h
      · intro id inserted h
        change (if event.eventId = id then some event else none) = _ at h
        split at h
        · rename_i heq
          cases h
          exact ⟨heq, heq ▸ colonFree⟩
        · cases h
  | claim worker query limit staleAfterSeconds locked now =>
      apply sound.siteStep (.claim worker query limit staleAfterSeconds locked now)
        (List.Sublist.refl _)
      · intro _ _ _ h; cases h
      · intro _ _ h; cases h
  | markFailed index error fraction now =>
      apply sound.siteStep (.mark index (.failed error none fraction) now) (List.Sublist.refl _)
      · intro _ _ _ h; cases h
      · intro _ _ h; cases h
  | crash worker =>
      apply sound.siteStep (.crash worker) List.filter_sublist
      · intro _ _ _ h; cases h
      · intro _ _ h; cases h
  | start index readings =>
      cases hitem : projection.site.held[index]? with
      | none => simpa only [Projection.step, hitem] using sound
      | some item =>
          cases hplan : plans publicBaseUrl item.2.data readings with
          | error failure => simpa only [Projection.step, hitem, hplan] using sound
          | ok planned => simpa only [Projection.step, hitem, hplan] using sound.start hitem hplan
  | prepare index fresh identities now =>
      cases hflight : projection.flights[index]? with
      | none => simpa only [Projection.step, hflight] using sound
      | some flight =>
          cases hprepared : projection.prepared flight fresh identities now with
          | none => simpa only [Projection.step, hflight, hprepared] using sound
          | some changed =>
              simp only [Projection.step, hflight, hprepared]
              exact sound.prepare hflight hprepared
  | insert index now =>
      cases hflight : projection.flights[index]? with
      | none => simpa only [Projection.step, hflight] using sound
      | some flight =>
          cases hinserted : projection.inserted index flight now with
          | none => simpa only [Projection.step, hflight, hinserted] using sound
          | some changed =>
              simp only [Projection.step, hflight, hinserted]
              exact sound.insert hflight hinserted
  | commit index now =>
      cases hflight : projection.flights[index]? with
      | none => simpa only [Projection.step, hflight] using sound
      | some flight =>
          simp only [Projection.step, hflight]
          split
          · exact sound.commit now hflight ‹_›
          · exact sound
  | abort index =>
      cases hflight : projection.flights[index]? with
      | none => simpa only [Projection.step, hflight] using sound
      | some flight => simpa only [Projection.step, hflight] using sound.abort hflight

theorem sound_run {acts : List Act} (colonFree : ∀ act ∈ acts, ColonFree act) :
    Sound (Projection.run publicBaseUrl acts) := by
  have hfold : ∀ projection, Sound projection →
      Sound (acts.foldl (Projection.step publicBaseUrl) projection) := by
    induction acts with
    | nil => exact fun _ sound => sound
    | cons act rest ih =>
        intro projection sound
        exact ih (fun other hother => colonFree other (List.mem_cons_of_mem _ hother)) _
          (sound.step (colonFree act List.mem_cons_self))
  exact hfold _ sound_empty

/-- The message with the key of an addressee is the addressee's. -/
theorem Sound.message_of_reached {projection : Projection} (sound : Sound projection)
    {event : DomainEvent} {entry : String × Recipient} (recorded : projection.Recorded event)
    (reached : projection.Reached event entry) :
    ∃ message ∈ projection.messages,
      message.deduplicationKey = deduplicationKey event.eventId entry.1 entry.2.provider
        entry.2.externalUserId ∧
      message.provider = entry.2.provider ∧ message.recipientId = entry.2.externalUserId := by
  obtain ⟨hpurpose, hkey⟩ := reached
  obtain ⟨message, hmem, hkey⟩ := List.mem_map.mp hkey
  obtain ⟨origin, horigin, purpose, horiginal, haddressed⟩ :=
    sound.addressed message (List.mem_append_left _ hmem)
  obtain ⟨row, hrow, hdata⟩ := recorded
  obtain ⟨other, hother, hsame⟩ := horigin
  have hlist := congrArg String.toList (haddressed.symm.trans hkey)
  rw [deduplicationKey_toList, deduplicationKey_toList] at hlist
  have hid : origin.eventId = event.eventId := String.toList_inj.mp
    (eq_of_append_colon (sound.keyed _ other hother).2 (sound.keyed _ row hrow).2 hlist).1
  have hevent : origin = event := by
    rw [hid, hrow] at hother
    cases hother
    rw [← hsame, ← hdata]
  subst hevent
  obtain ⟨-, hprovider, huser⟩ :=
    deduplicationKey_injective horiginal hpurpose (haddressed.symm.trans hkey)
  exact ⟨message, hmem, hkey, hprovider, huser⟩

/-- The ends of an attempt other than its commit. -/
def Gives : Act → Prop
  | .markFailed .. => True
  | .crash _ => True
  | .abort _ => True
  | _ => False

theorem exactly_once (publicBaseUrl : Option String) {acts : List Act}
    (colonFree : ∀ act ∈ acts, ColonFree act) :
    let projection := Projection.run publicBaseUrl acts
    (∀ event purpose provider user,
      (keys projection.messages).count (deduplicationKey event purpose provider user) ≤ 1) ∧
    (∀ event readings planned later replanned,
      plans publicBaseUrl event readings = .ok planned →
      plans publicBaseUrl event later = .ok replanned →
      ∀ plan ∈ planned, ∀ other ∈ replanned, ∀ provider channel user somebody,
        deduplicationKey event.eventId plan.purpose provider user =
          deduplicationKey event.eventId other.purpose channel somebody →
        plan.purpose = other.purpose ∧ provider = channel ∧ user = somebody) ∧
    (projection.messages = projection.attempts.flatMap Attempt.messages ∧
      projection.tokens = projection.attempts.flatMap Attempt.tokens ∧
      ∀ act, Gives act →
        (projection.step publicBaseUrl act).messages = projection.messages ∧
        (projection.step publicBaseUrl act).tokens = projection.tokens ∧
        (projection.step publicBaseUrl act).attempts = projection.attempts) ∧
    ∀ id row, projection.site.rows.get? id = some row → row.status = .settled →
      ∃ attempt ∈ projection.attempts, attempt.eventId = id ∧
        ∀ entry ∈ attempt.resolved, ∃ message ∈ projection.messages,
          message.deduplicationKey =
            deduplicationKey id entry.1 entry.2.provider entry.2.externalUserId ∧
          message.provider = entry.2.provider ∧
          message.recipientId = entry.2.externalUserId := by
  intro projection
  have sound : Sound projection := sound_run colonFree
  refine ⟨fun event purpose provider user => ?_, ?_, ⟨sound.messages, sound.tokens, ?_⟩,
    fun id row hrow hstatus => ?_⟩
  · have hkeys : (keys projection.messages).Nodup :=
      sound.distinct.sublist ((List.sublist_append_left _ _).map _)
    exact List.nodup_iff_count_le_one.mp hkeys _
  · intro event readings planned later replanned hplanned hreplanned plan hplan other hother
      provider channel user somebody hkey
    exact deduplicationKey_injective (plans_purpose hplanned hplan)
      (plans_purpose hreplanned hother) hkey
  · intro act hact
    cases act with
    | markFailed index error fraction now => exact ⟨rfl, rfl, rfl⟩
    | crash worker => exact ⟨rfl, rfl, rfl⟩
    | abort index =>
        cases hflight : projection.flights[index]? <;> simp [Projection.step, hflight]
    | _ => cases hact
  · obtain ⟨attempt, hattempt, hid, hreached⟩ := sound.delivered id row hrow hstatus
    obtain ⟨hevent, -⟩ := sound.keyed id row hrow
    refine ⟨attempt, hattempt, hid, fun entry hentry => ?_⟩
    have hrecorded : projection.Recorded row.data := ⟨row, hevent.symm ▸ hrow, rfl⟩
    have hmessage := sound.message_of_reached hrecorded (hreached entry hentry)
    rwa [hevent] at hmessage

def sampleOrder : WorkOrder :=
  { id := "o1", publicNumber := "A000", organizationId := "acme", workType := "repair",
    source := "web", details := .empty, requesterId := none, coordinatorId := none,
    evidenceRequirements := .default, status := .poolOpen, poolMode := some .curated,
    assigneeId := none, poolResponses := .empty, report := none, version := 2, createdAt := ⟨0⟩,
    updatedAt := ⟨0⟩, events := [], required := by decide }

def sampleEvent : DomainEvent :=
  .create ⟨⟨0⟩, "e1"⟩ "acme" .workOrder "o1" 2 .poolPublished (.ofList [("mode", .str "curated")])
    none

/-- Two masters, each with a Telegram account. -/
def sampleMasters : Identities :=
  { actors := .ofList [(("acme", "ann"), ⟨.master, "Ann", none, none, none, true, none⟩),
      (("acme", "bob"), ⟨.master, "Bob", none, none, none, true, none⟩)]
    actorRoles := .ofList [((("acme", "ann"), .master), true), ((("acme", "bob"), .master), true)]
    externalIdentities := .ofList [(("acme", .messenger .telegram, "1"), "ann"),
      (("acme", .messenger .telegram, "2"), "bob")] }

/-- A worker projects an event while another takes it over and projects it too. -/
def sampleActs : List Act :=
  [.append sampleEvent ⟨0⟩,
    .claim 0 ⟨none⟩ 50 120 (fun _ => false) ⟨0⟩, .start 0 ⟨some sampleOrder, "card", none, none⟩,
    .prepare 0 ["t1"] sampleMasters ⟨0⟩, .insert 0 ⟨0⟩,
    .claim 1 ⟨none⟩ 50 120 (fun _ => false) ⟨121000000⟩,
    .start 0 ⟨some sampleOrder, "card", none, none⟩, .prepare 1 ["t2"] sampleMasters ⟨0⟩,
    .insert 1 ⟨0⟩, .insert 0 ⟨0⟩, .insert 0 ⟨0⟩, .commit 0 ⟨0⟩, .insert 0 ⟨0⟩, .insert 0 ⟨0⟩,
    .insert 0 ⟨0⟩, .commit 0 ⟨0⟩]

theorem exactly_once_takeover :
    let projection := Projection.run none sampleActs
    keys projection.messages = ["e1:pool:telegram:1", "e1:pool:telegram:2"] ∧
      projection.attempts.length = 2 ∧
      (keys projection.messages).count (deduplicationKey "e1" "pool" .telegram "1") ≤ 1 := by
  have colonFree : ∀ act ∈ sampleActs, ColonFree act := by
    intro act hact
    simp only [sampleActs, List.mem_cons, List.not_mem_nil, or_false] at hact
    rcases hact with rfl | h
    · show ':' ∉ "e1".toList
      decide
    · rcases h with rfl | rfl | rfl | rfl | rfl | rfl | rfl | rfl | rfl | rfl | rfl | rfl | rfl |
        rfl | rfl <;> trivial
  exact ⟨by decide +kernel, by decide +kernel, (exactly_once none colonFree).1 _ _ _ _⟩

end Projection
end DispatchCore.Messaging
