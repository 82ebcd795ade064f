import DispatchCore.Application.Atomic

/-! What one command leaves in the records.  Orders and sessions keep the same
books: a stored version counts the events of its aggregate in the outbox, and a
commit either changes nothing or adds the next versions. -/
namespace DispatchCore.Application

open DispatchCore.Library DispatchCore.Domain DispatchCore.Infrastructure

/-- What orders and sessions have in common for the store. -/
structure Aggregate (α : Type) where
  kind : AggregateType
  key : α → Key
  version : α → Nat
  pending : α → List DomainEvent
  pulled : α → α
  key_pulled : ∀ value, key (pulled value) = key value
  version_pulled : ∀ value, version (pulled value) = version value
  pending_pulled : ∀ value, pending (pulled value) = []
  pulled_of_idle : ∀ value, pending value = [] → pulled value = value

def orderAggregate : Aggregate WorkOrder where
  kind := .workOrder
  key := fun order => (order.organizationId, order.id)
  version := WorkOrder.version
  pending := WorkOrder.events
  pulled := fun order => order.pullEvents.2
  key_pulled := fun _ => rfl
  version_pulled := fun _ => rfl
  pending_pulled := fun _ => rfl
  pulled_of_idle := fun order h => by
    cases order
    simp only at h
    subst h
    rfl

def sessionAggregate : Aggregate TrackingSession where
  kind := .trackingSession
  key := fun session => (session.organizationId, session.id)
  version := TrackingSession.version
  pending := TrackingSession.events
  pulled := fun session => session.pullEvents.2
  key_pulled := fun _ => rfl
  version_pulled := fun _ => rfl
  pending_pulled := fun _ => rfl
  pulled_of_idle := fun session h => by
    cases session
    simp only at h
    subst h
    rfl

/-- The event belongs to the aggregate. -/
def Owned (kind : AggregateType) (key : Key) (event : DomainEvent) : Prop :=
  event.aggregateType = kind ∧ (event.organizationId, event.aggregateId) = key

instance (kind : AggregateType) (key : Key) (event : DomainEvent) :
    Decidable (Owned kind key event) :=
  inferInstanceAs (Decidable (_ ∧ _))

def eventsOf (kind : AggregateType) (key : Key) (events : List DomainEvent) :
    List DomainEvent :=
  events.filter fun event => Owned kind key event

theorem eventsOf_append (kind : AggregateType) (key : Key) (left right : List DomainEvent) :
    eventsOf kind key (left ++ right) = eventsOf kind key left ++ eventsOf kind key right :=
  List.filter_append ..

theorem eventsOf_owned {kind : AggregateType} {key : Key} {events : List DomainEvent}
    (owned : ∀ event ∈ events, Owned kind key event) : eventsOf kind key events = events := by
  rw [eventsOf, List.filter_eq_self]
  simpa using owned

theorem eventsOf_foreign {kind : AggregateType} {key : Key} {events : List DomainEvent}
    (foreign : ∀ event ∈ events, ¬Owned kind key event) : eventsOf kind key events = [] := by
  rw [eventsOf, List.filter_eq_nil_iff]
  simpa using foreign

namespace Aggregate

variable {α : Type} (aggregate : Aggregate α)

def versionOf (stored : Option α) : Nat := stored.elim 0 aggregate.version

/-- A recorded value follows the stored one: its pending events carry the next
versions, and without any it is the stored one. -/
structure Follows (before : Option α) (recorded : α) : Prop where
  numbered : Numbered (aggregate.versionOf before) (aggregate.pending recorded)
  counted : aggregate.version recorded =
    aggregate.versionOf before + (aggregate.pending recorded).length
  owned : ∀ event ∈ aggregate.pending recorded,
    Owned aggregate.kind (aggregate.key recorded) event
  idle : aggregate.pending recorded = [] → before = some recorded

/-- The stored values sit under their keys with nothing pending, and the outbox
holds their events, numbered from one up to their versions. -/
structure Ledger (stored : Dict Key α) (outbox : List DomainEvent) : Prop where
  keyed : ∀ key value, stored.get? key = some value →
    aggregate.key value = key ∧ aggregate.pending value = []
  numbered : ∀ key, Numbered 0 (eventsOf aggregate.kind key outbox)
  counted : ∀ key, (eventsOf aggregate.kind key outbox).length =
    aggregate.versionOf (stored.get? key)

/-- Nothing is lost, and what changed has a higher version. -/
def Extends (stored later : Dict Key α) : Prop :=
  ∀ key value, stored.get? key = some value → ∃ next, later.get? key = some next ∧
    (next = value ∨ aggregate.version value < aggregate.version next)

variable {aggregate}

theorem Extends.refl (stored : Dict Key α) : aggregate.Extends stored stored :=
  fun _ value h => ⟨value, h, .inl rfl⟩

theorem Extends.trans {first second third : Dict Key α}
    (left : aggregate.Extends first second) (right : aggregate.Extends second third) :
    aggregate.Extends first third := by
  intro key value h
  obtain ⟨middle, hmiddle, hleft⟩ := left key value h
  obtain ⟨last, hlast, hright⟩ := right key middle hmiddle
  refine ⟨last, hlast, ?_⟩
  rcases hleft with rfl | hleft
  · exact hright
  · rcases hright with rfl | hright
    · exact .inr hleft
    · exact .inr (hleft.trans hright)

/-- A stored value whose version is the one that was read is the value that
was read. -/
theorem Extends.unchanged {stored later : Dict Key α}
    (extension : aggregate.Extends stored later) {key : Key} {value current : α}
    (read : stored.get? key = some value) (found : later.get? key = some current)
    (same : aggregate.version current = aggregate.version value) : current = value := by
  obtain ⟨next, hnext, hstep⟩ := extension key value read
  rw [found] at hnext
  cases hnext
  rcases hstep with h | h
  · exact h
  · omega

/-- Likewise for any moment in between. -/
theorem Extends.between {first second third : Dict Key α}
    (left : aggregate.Extends first second) (right : aggregate.Extends second third)
    {key : Key} {value : α} (start : first.get? key = some value)
    (last : third.get? key = some value) : second.get? key = some value := by
  obtain ⟨middle, hmiddle, hleft⟩ := left key value start
  obtain ⟨final, hfinal, hright⟩ := right key middle hmiddle
  rw [last] at hfinal
  cases hfinal
  rcases hleft with rfl | hleft
  · exact hmiddle
  · rcases hright with rfl | hright
    · exact hmiddle
    · omega

theorem Extends.set {stored : Dict Key α} {recorded : α}
    (follows : aggregate.Follows (stored.get? (aggregate.key recorded)) recorded) :
    aggregate.Extends stored
      (stored.set (aggregate.key recorded) (aggregate.pulled recorded)) := by
  intro key value h
  by_cases hkey : key = aggregate.key recorded
  · subst hkey
    refine ⟨_, Dict.get?_set_self _ _ _, ?_⟩
    by_cases hidle : aggregate.pending recorded = []
    · have hsame := follows.idle hidle
      rw [h] at hsame
      cases hsame
      exact .inl (aggregate.pulled_of_idle _ hidle)
    · have hcounted := follows.counted
      have hlength : 0 < (aggregate.pending recorded).length :=
        List.length_pos_iff.mpr hidle
      rw [h, versionOf, Option.elim_some] at hcounted
      right
      rw [aggregate.version_pulled]
      omega
  · exact ⟨value, by rw [Dict.get?_set_of_ne _ _ hkey]; exact h, .inl rfl⟩

theorem Follows.foreign {before : Option α} {recorded : α}
    (follows : aggregate.Follows before recorded) {key : Key}
    (h : key ≠ aggregate.key recorded) :
    eventsOf aggregate.kind key (aggregate.pending recorded) = [] :=
  eventsOf_foreign fun event hmem howned =>
    h (howned.2.symm.trans (follows.owned event hmem).2)

theorem Ledger.set {stored : Dict Key α} {outbox : List DomainEvent}
    (ledger : aggregate.Ledger stored outbox) {recorded : α}
    (follows : aggregate.Follows (stored.get? (aggregate.key recorded)) recorded) :
    aggregate.Ledger (stored.set (aggregate.key recorded) (aggregate.pulled recorded))
      (outbox ++ aggregate.pending recorded) := by
  refine ⟨fun key value h => ?_, fun key => ?_, fun key => ?_⟩
  · rw [Dict.get?_set] at h
    split at h
    · rename_i heq
      cases h
      exact ⟨by rw [aggregate.key_pulled, heq], aggregate.pending_pulled _⟩
    · exact ledger.keyed key value h
  · rw [eventsOf_append, numbered_append]
    refine ⟨ledger.numbered key, ?_⟩
    by_cases hkey : key = aggregate.key recorded
    · subst hkey
      rw [eventsOf_owned follows.owned, ledger.counted, Nat.zero_add]
      exact follows.numbered
    · rw [follows.foreign hkey]
      trivial
  · rw [eventsOf_append, List.length_append, ledger.counted, Dict.get?_set]
    by_cases hkey : key = aggregate.key recorded
    · subst hkey
      rw [if_pos rfl, eventsOf_owned follows.owned, versionOf, versionOf, Option.elim_some,
        aggregate.version_pulled, follows.counted, versionOf]
    · rw [if_neg hkey, follows.foreign hkey]
      rfl

/-- Events of another kind do not touch the books. -/
theorem Ledger.append_foreign {stored : Dict Key α} {outbox events : List DomainEvent}
    (ledger : aggregate.Ledger stored outbox)
    (foreign : ∀ event ∈ events, event.aggregateType ≠ aggregate.kind) :
    aggregate.Ledger stored (outbox ++ events) := by
  have hnone (key : Key) : eventsOf aggregate.kind key events = [] :=
    eventsOf_foreign fun event hmem howned => foreign event hmem howned.1
  refine ⟨ledger.keyed, fun key => ?_, fun key => ?_⟩
  · rw [eventsOf_append, hnone, List.append_nil]
    exact ledger.numbered key
  · rw [eventsOf_append, hnone, List.append_nil]
    exact ledger.counted key

end Aggregate
end DispatchCore.Application
