import DispatchCore.Infrastructure.StaffRegistry
import Mathlib.Data.Finset.Preimage
import Mathlib.Data.Fintype.EquivFin

/-! Which runs of the staff calls keep every actor whole. -/
namespace DispatchCore.Infrastructure

open DispatchCore.Library DispatchCore.Domain

namespace StaffRegistry

variable {identities after : Identities} {served : List StaffRequest} {registry : StaffRegistry}

section repeating

/-- The same request finds the actor, and leaves everything as it is. -/
theorem Orderly.repeated (orderly : Orderly registry) {request : StaffRequest}
    (served : request ∈ registry.served) (draw : StaffDraw)
    (account : Option (Provider × String)) :
    (request.call draw account).after registry.identities = registry.identities := by
  obtain ⟨-, -, actor, horganization, hserves⟩ := orderly.served request served
  unfold StaffCall.after
  cases hrun : (request.call draw account).run registry.identities with
  | error failure => rfl
  | ok after =>
      obtain ⟨⟨card, created⟩, hdone, rfl⟩ := except_map_ok.mp hrun
      obtain ⟨-, -, ⟨found, -, hsame⟩ | ⟨other, row, -, -, hnew, -⟩⟩ := createStaffAccount_ok hdone
      · exact hsame
      · exact absurd hserves (findRequest_eq_none.mp hnew actor horganization)

theorem Orderly.wellFormed (orderly : Orderly registry) : WellFormed registry := by
  refine ⟨orderly.sound, fun request hrequest draw account => ?_⟩
  rw [orderly.repeated hrequest]

theorem unusedBindCode_candidate {organizationId : String} {candidate : Nat}
    (free : identities.bindCodeTaken organizationId
      (Text.padLeft 4 '0' (toString (candidate % 10000))) = false) :
    identities.unusedBindCode organizationId [candidate] =
      .ok (Text.padLeft 4 '0' (toString (candidate % 10000))) := by
  unfold Identities.unusedBindCode
  dsimp only
  rw [List.take_of_length_le (by simp), List.map_singleton, List.find?_singleton, free]
  rfl

theorem staffId_injective (organizationId : String) (role : Role) :
    Function.Injective fun tokenHex : String =>
      ((organizationId, s!"{role.value}:{tokenHex}") : Key) := by
  intro left right hsame
  have hids := congrArg (fun actor : Key => actor.2.toList) hsame
  simpa [toString, String.toList_inj] using hids

/-- There is an id that nobody has. -/
theorem exists_free (identities : Identities) (organizationId : String) (role : Role) :
    ∃ tokenHex : String,
      identities.actors.contains (organizationId, s!"{role.value}:{tokenHex}") = false := by
  have hstrings : Infinite String :=
    Infinite.of_injective String.ofList fun _ _ => String.ofList_injective
  obtain ⟨tokenHex, hfree⟩ := Infinite.exists_notMem_finset
    (identities.actors.keys.toFinset.preimage _ (staffId_injective organizationId role).injOn)
  refine ⟨tokenHex, ?_⟩
  rw [Finset.mem_preimage, List.mem_toFinset, Dict.mem_keys] at hfree
  simpa [Dict.contains, Option.eq_none_iff_forall_ne_some] using hfree

theorem createStaffActor_new (draw : StaffDraw) {request : StaffRequest} {code : String}
    (role : request.role = .operator ∨ request.role = .master)
    (key : Text.strip request.requestKey ≠ "")
    (fresh : identities.findRequest request.organizationId request.requestKey = none)
    (unused : identities.unusedBindCode request.organizationId draw.candidates = .ok code)
    (free : identities.actors.contains
      (request.organizationId, s!"{request.role.value}:{draw.tokenHex}") = false) :
    ∃ created row, (request.call draw none).run identities = .ok created ∧
      created.actors.get? (request.organizationId, s!"{request.role.value}:{draw.tokenHex}") =
        some row := by
  have hordinary : request.role ≠ .admin := by
    rintro hadmin
    simp [hadmin] at role
  have hrole : ¬(request.role ≠ .operator ∧ request.role ≠ .master) := by tauto
  have hkey : ¬((some request.requestKey).any fun key => Text.strip key = "") = true := by
    simpa using key
  unfold StaffRequest.call StaffCall.run Identities.createStaffAccount Identities.createStaffActor
  dsimp only
  rw [if_neg hrole, if_neg hkey, Option.bind_some, fresh]
  dsimp only
  rw [unused, except_ok_bind]
  rw [if_neg (Bool.eq_false_iff.mp free), Identities.activateRole_ordinary hordinary]
  exact ⟨_, _, rfl, Dict.get?_set_self _ _ _⟩

/-- A request whose actor is gone creates another one. -/
theorem creates_second {request : StaffRequest} {code : String} (among : request ∈ served)
    (role : request.role = .operator ∨ request.role = .master)
    (key : Text.strip request.requestKey ≠ "") (drawn : Drawn code)
    (fresh : identities.findRequest request.organizationId request.requestKey = none)
    (unused : identities.bindCodeTaken request.organizationId code = false) :
    ¬WellFormed ⟨identities, served⟩ := by
  intro wellFormed
  obtain ⟨candidate, rfl⟩ := drawn
  obtain ⟨tokenHex, hfree⟩ :=
    exists_free identities request.organizationId request.role
  obtain ⟨created, row, hrun, hrow⟩ := createStaffActor_new ⟨tokenHex, ⟨0⟩, [candidate]⟩ role key fresh (unusedBindCode_candidate unused) hfree
  have hkeys := wellFormed.repeated request among ⟨tokenHex, ⟨0⟩, [candidate]⟩ none
  unfold StaffCall.after at hkeys
  rw [hrun] at hkeys
  have hmem := (Dict.mem_keys _ _).mpr ⟨row, hrow⟩
  rw [hkeys, Dict.mem_keys] at hmem
  obtain ⟨old, hold⟩ := hmem
  rw [Dict.contains, hold] at hfree
  contradiction

end repeating

section breaking

variable {organizationId : String}

theorem breaks_upsertActor {actorId displayName : String} {role : Role}
    {account : Option (Provider × String)} (orderly : Orderly registry)
    (wellFormed : WellFormed
      (registry.next (.upsertActor organizationId actorId role displayName account))) :
    Meets registry (.upsertActor organizationId actorId role displayName account) := by
  intro old hold hinactive
  by_contra hneither
  rw [not_or, Bool.not_eq_true] at hneither
  obtain ⟨hother, hallowed⟩ := hneither
  obtain ⟨after, hdone⟩ := (upsertRefused_iff displayName).mp hallowed
  have hrun : (StaffCall.upsertActor organizationId actorId role displayName account).run
      registry.identities = .ok after := hdone
  rw [next_unserved hrun rfl] at wellFormed
  obtain ⟨row, hrow, -, hactors, hroles⟩ := Identities.upsertActor_ok hdone
  have hstored : after.actors.get? (organizationId, actorId) = some row := by
    rw [hactors, Dict.get?_set_self]
  rcases hrow with ⟨hnone, -⟩ | ⟨found, hfound, rfl⟩
  · cases hnone.symm.trans hold
  · cases hfound.symm.trans hold
    have hprimary := (wellFormed.sound.fits _ _ hstored).primary rfl
    rw [Identities.hasRole_set hroles, if_neg fun h => hother h.2] at hprimary
    have hnone := not_hasRole_iff.mp ((orderly.sound.fits _ old hold).inactive hinactive).1
    exact Bool.false_ne_true ((hnone old.role).symm.trans hprimary)

theorem breaks_bindActorByCode {now : Instant} {code externalUserId consumerKey : String}
    {provider : Provider} (orderly : Orderly registry)
    (wellFormed : WellFormed (registry.next
      (.bindActorByCode now organizationId code provider externalUserId consumerKey))) :
    Meets registry (.bindActorByCode now organizationId code provider externalUserId
      consumerKey) := by
  intro pending habsorbed
  obtain ⟨actorId, bound, after, haccount, hdistinct, hmerged, hbound⟩ :=
    Identities.bindActor_absorbed habsorbed
  obtain ⟨answer, hdone⟩ := Identities.bindActorByCode_of_bindActor hbound
  obtain ⟨row, -, hpending, -⟩ := Identities.absorbed_some.mp habsorbed
  have hrun : (StaffCall.bindActorByCode now organizationId code provider externalUserId
      consumerKey).run registry.identities = .ok after := by
    rw [StaffCall.run, hdone]
    rfl
  rw [next_unserved hrun rfl] at wellFormed
  obtain ⟨hrows, hroles⟩ := Identities.mergeActor_ok hmerged
  refine ⟨fun other hother old hold hinactive => ?_, fun request hrequest hsame hserves => ?_⟩
  · cases haccount.symm.trans hother
    have hstored : after.actors.get? (organizationId, actorId) =
        some { old with active := true } := by
      rw [hrows, if_neg hdistinct, hold, Option.map_some, if_pos rfl]
    have hprimary := (wellFormed.sound.fits _ _ hstored).primary rfl
    rw [hroles, if_neg hdistinct] at hprimary
    have hnone := not_hasRole_iff.mp ((orderly.sound.fits _ old hold).inactive hinactive).1
    by_contra hlacks
    rw [if_neg fun h => hlacks h.2] at hprimary
    exact Bool.false_ne_true ((hnone old.role).symm.trans hprimary)
  · obtain ⟨hrole, hkey, -⟩ := orderly.served request hrequest
    have horganization := Identities.pendingActor_organization hpending
    have hleft : ∀ (other : Key) found, after.actors.get? other = some found → other ≠ pending ∧
        ∃ old, registry.identities.actors.get? other = some old ∧
          found.bindCode = old.bindCode ∧ found.staffCreationKey = old.staffCreationKey := by
      intro other found hfound
      rw [hrows] at hfound
      split at hfound
      · contradiction
      · rename_i hother
        obtain ⟨old, hold, rfl⟩ := Option.map_eq_some_iff.mp hfound
        refine ⟨hother, old, hold, ?_⟩
        split <;> exact ⟨rfl, rfl⟩
    have hcode : HasCode registry.identities pending code := by
      have hfound := List.find?_some hpending
      simp only [Bool.and_eq_true, decide_eq_true_eq] at hfound
      exact ⟨row, (Dict.get?_eq_some _ _ _).mpr (List.mem_of_find?_eq_some hpending),
        hfound.1.1.2⟩
    refine creates_second hrequest hrole hkey (orderly.drawn pending code hcode) ?_ ?_ wellFormed
    · rw [findRequest_eq_none]
      rintro other hgroup ⟨found, hfound, hfoundKey⟩
      obtain ⟨hother, old, hold, -, holdKey⟩ := hleft other found hfound
      refine hother (orderly.requests other pending request.requestKey ?_
        ⟨old, hold, holdKey.symm.trans hfoundKey⟩ hserves)
      rw [hgroup, hsame, horganization]
    · rw [bindCodeTaken_eq_false]
      rintro other hgroup ⟨found, hfound, hfoundCode⟩
      obtain ⟨hother, old, hold, holdCode, -⟩ := hleft other found hfound
      refine hother (orderly.sound.codes other pending code ?_
        ⟨old, hold, holdCode.symm.trans hfoundCode⟩ hcode)
      rw [hgroup, hsame, horganization]

end breaking

theorem Orderly.empty : Orderly .empty := by
  refine ⟨⟨?_, ?_, ?_⟩, ?_, ?_, ?_⟩
  · intro actor row hrow
    contradiction
  · intro left right _ hadmin
    contradiction
  · rintro left right code - ⟨row, hrow, -⟩
    contradiction
  · rintro actor code ⟨row, hrow, -⟩
    contradiction
  · rintro left right key - ⟨row, hrow, -⟩
    contradiction
  · intro request hrequest
    contradiction

/-- The tables are well formed after every call of a run exactly if no actor that was let go
comes back without the primary role, and none that was created for a request is merged. -/
theorem staff_wellFormed_iff (calls : List StaffCall) :
    (∀ before, before <+: calls → WellFormed (before.foldl next empty)) ↔
      Throughout next Meets empty calls := by
  refine Throughout.iff_good_of_books (fun _ => Orderly.wellFormed)
    (fun _ _ => Orderly.next) (fun registry call orderly wellFormed => ?_) Orderly.empty
  cases call with
  | upsertActor => exact breaks_upsertActor orderly wellFormed
  | bindActorByCode => exact breaks_bindActorByCode orderly wellFormed
  | createStaffActor | grantRole | revokeRole | deleteActor | issueBindCode => exact True.intro

/-- An operator is dismissed, and comes back as a master: the primary role is still operator. -/
theorem dismissed_operator_returns :
    ¬WellFormed ([StaffCall.upsertActor "acme" "ann" .operator "Ann" none,
      .deleteActor ("acme", "ann"),
      .upsertActor "acme" "ann" .master "Ann" none].foldl next empty) := by
  intro wellFormed
  have hfits := wellFormed.sound.fits ("acme", "ann")
    ⟨.operator, "Ann", none, none, none, true, none⟩ (by decide +kernel)
  have hprimary := hfits.primary rfl
  revert hprimary
  decide +kernel

end StaffRegistry
end DispatchCore.Infrastructure
