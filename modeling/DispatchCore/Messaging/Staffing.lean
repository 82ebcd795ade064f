import DispatchCore.Application.Histories
import DispatchCore.Library.Runs
import DispatchCore.Messaging.Workspaces

/-! The orders and the people at work together: handlers take turns, transaction by
transaction, and nothing but what each of them checked itself keeps a master at work while an
order is with them. -/
namespace DispatchCore.Messaging

open DispatchCore.Library DispatchCore.Domain DispatchCore.Infrastructure
  DispatchCore.Application

/-- The handlers at work, and what they work on. -/
structure StaffWorld where
  premises : Premises
  flights : List (StaffProgram Reply)

inductive StaffTurn
  | arrive (program : StaffProgram Reply)
  | advance (index : Nat)

namespace StaffWorld

def empty : StaffWorld := ⟨.empty, []⟩

def turn (world : StaffWorld) : StaffTurn → StaffWorld
  | .arrive program => { world with flights := world.flights ++ [program] }
  | .advance index =>
      match world.flights[index]? with
      | none => world
      | some program =>
          let (rest, premises) := program.step Premises.perform world.premises
          ⟨premises, world.flights.set index rest⟩

def after (turns : List StaffTurn) : StaffWorld := turns.foldl turn empty

/-- The operation that a turn carries out. -/
def asked (world : StaffWorld) : StaffTurn → Option StaffOp
  | .arrive _ => none
  | .advance index =>
      match world.flights[index]? with
      | some (.call op _) => some op
      | _ => none

end StaffWorld

/-- Every order under way is with an active actor of its organization whose master role is
active. -/
def Premises.ExecutorsWorking (premises : Premises) : Prop :=
  ∀ key order, premises.records.orders.get? key = some order →
    order.status ∈ UnitOfWork.activeStatuses → ∃ executorId, order.assigneeId = some executorId ∧
      premises.identities.works (order.organizationId, executorId) = true

/-- Does an order under way occupy the actor? -/
def occupied (records : Records) (actor : Key) : Bool :=
  records.orders.values.any fun order => UnitOfWork.occupies order = some actor

/-- The executor whom a call puts on its order. -/
def appointee : Call → Option String
  | .claimFirst executorId => some executorId
  | .assign executorId _ => some executorId
  | _ => none

/-- The executor whom a call puts on an order that is there and allows it. -/
def appointment (records : Records) (asked : Key × Call) : Option Key :=
  match appointee asked.2, records.orders.get? asked.1 with
  | some executorId, some order =>
      if asked.2.Enabled order then some (asked.1.1, executorId) else none
  | _, _ => none

namespace StaffOp

def appoints (op : StaffOp) (premises : Premises) : Option Key :=
  match op with
  | .command asked _ => asked.call?.bind (appointment premises.records)
  | _ => none

/-- The actor whom a call on the people ends the work of as a master. -/
def leaves (op : StaffOp) (premises : Premises) : Option Key :=
  match op with
  | .deleteActor actor => if premises.identities.hasRole actor .admin then none else some actor
  | .revokeRole actor .master => some actor
  | .bindActorByCode now organizationId code provider externalUserId consumerKey =>
      premises.identities.absorbed now organizationId code provider externalUserId consumerKey
  | _ => none

/-- Whoever is put on an order works as a master, and whoever ceases to has no order. -/
def Careful (op : StaffOp) (premises : Premises) : Prop :=
  (∀ executor ∈ op.appoints premises, premises.identities.works executor = true) ∧
    ∀ actor ∈ op.leaves premises, occupied premises.records actor = false

instance (op : StaffOp) (premises : Premises) : Decidable (op.Careful premises) := by
  unfold Careful
  infer_instance

end StaffOp

/-- What a turn asks for is careful. -/
def StaffWorld.CarefulTurn (world : StaffWorld) (next : StaffTurn) : Prop :=
  ∀ op ∈ world.asked next, op.Careful world.premises

instance (world : StaffWorld) (next : StaffTurn) : Decidable (world.CarefulTurn next) := by
  unfold StaffWorld.CarefulTurn
  infer_instance

/-! ### One operation -/

section people

variable {op : StaffOp} {premises : Premises}

theorem Premises.identified_identities {α : Type} (outcome : Except IdentityFailure (α × Identities)) :
    (premises.identified outcome).2.records = premises.records ∧
      (premises.identified outcome).2.identities =
        match outcome with
        | .ok (_, identities) => identities
        | .error _ => premises.identities := by
  cases outcome <;> exact ⟨rfl, rfl⟩

/-- A call on the people leaves the orders alone. -/
theorem StaffOp.records_of_people (people : ∀ command answers, op ≠ .command command answers) :
    (Premises.perform op premises).2.records = premises.records := by
  cases op with
  | command command answers => exact absurd rfl (people command answers)
  | upsertActor => exact (Premises.identified_identities _).1
  | createStaffActor => exact (Premises.identified_identities _).1
  | grantRole => exact (Premises.identified_identities _).1
  | bindActorByCode => exact (Premises.identified_identities _).1
  | issueBindCode => exact (Premises.identified_identities _).1
  | _ => rfl

/-- Nobody but the one who leaves ceases to work. -/
theorem StaffOp.retains (op : StaffOp) (premises : Premises) :
    Identities.Retains (op.leaves premises) premises.identities
      (Premises.perform op premises).2.identities := by
  cases op with
  | command command answers =>
      unfold Premises.perform
      dsimp only
      split <;> exact .refl _ _
  | upsertActor organizationId actorId role displayName account =>
      unfold Premises.perform
      rw [(Premises.identified_identities _).2]
      cases hdone : premises.identities.upsertActor organizationId actorId role displayName account with
      | error failure => exact .refl _ _
      | ok after => exact Identities.retains_upsertActor hdone
  | createStaffActor draw organizationId role name phone requestKey =>
      unfold Premises.perform
      rw [(Premises.identified_identities _).2]
      cases hdone : premises.identities.createStaffActor draw organizationId role name phone
          requestKey with
      | error failure => exact .refl _ _
      | ok after => exact Identities.retains_createStaffActor hdone
  | grantRole actor role =>
      unfold Premises.perform
      rw [(Premises.identified_identities _).2]
      cases hdone : premises.identities.grantRole actor role with
      | error failure => exact .refl _ _
      | ok after => exact Identities.retains_grantRole hdone
  | issueBindCode draw actor =>
      unfold Premises.perform
      rw [(Premises.identified_identities _).2]
      cases hdone : premises.identities.issueBindCode draw actor with
      | error failure => exact .refl _ _
      | ok after => exact Identities.retains_issueBindCode hdone
  | bindActorByCode now organizationId code provider externalUserId consumerKey =>
      unfold Premises.perform
      rw [(Premises.identified_identities _).2]
      cases hdone : premises.identities.bindActorByCode now organizationId code provider
          externalUserId consumerKey with
      | error failure => exact .refl _ _
      | ok after =>
          obtain ⟨bound, hbound⟩ := Identities.bindActorByCode_ok hdone
          exact Identities.retains_bindActor hbound
  | updateActorPhone actor phone => exact Identities.retains_updateActorPhone phone
  | deleteActor actor =>
      refine Identities.retains_deleteActor fun ordinary => ?_
      simp [leaves, ordinary]
  | revokeRole actor role =>
      refine Identities.retains_revokeRole fun master => ?_
      subst master
      rfl
  | _ => exact .refl _ _

theorem StaffOp.gone {actor : Key} (leaving : op.leaves premises = some actor) :
    (Premises.perform op premises).2.identities.works actor = false := by
  cases op with
  | deleteActor other =>
      cases hadmin : premises.identities.hasRole other .admin with
      | true => simp [leaves, hadmin] at leaving
      | false =>
          simp only [leaves, hadmin, Bool.false_eq_true, if_false, Option.some.injEq] at leaving
          subst leaving
          exact Identities.deleteActor_gone hadmin
  | revokeRole other role =>
      cases role with
      | master =>
          cases leaving
          exact Identities.revokeRole_gone
      | _ => cases leaving
  | bindActorByCode now organizationId code provider externalUserId consumerKey =>
      obtain ⟨bound, after, hbound, hgone⟩ := Identities.bindActor_gone leaving
      obtain ⟨answer, hdone⟩ := Identities.bindActorByCode_of_bindActor hbound
      unfold Premises.perform
      rw [(Premises.identified_identities _).2, hdone]
      exact hgone
  | _ => cases leaving

theorem occupied_iff {records : Records} {actor : Key} : occupied records actor = true ↔
    ∃ key order, records.orders.get? key = some order ∧
      UnitOfWork.occupies order = some actor := by
  unfold occupied
  rw [List.any_eq_true]
  simp only [Dict.mem_values, decide_eq_true_eq]
  constructor
  · rintro ⟨order, ⟨key, hstored⟩, hoccupies⟩
    exact ⟨key, order, hstored, hoccupies⟩
  · rintro ⟨key, order, hstored, hoccupies⟩
    exact ⟨order, ⟨key, hstored⟩, hoccupies⟩

theorem occupies_iff {order : WorkOrder} {actor : Key} : UnitOfWork.occupies order = some actor ↔
    ∃ executorId, order.assigneeId = some executorId ∧
      order.status ∈ UnitOfWork.activeStatuses ∧ actor = (order.organizationId, executorId) := by
  unfold UnitOfWork.occupies
  cases order.assigneeId with
  | none => simp
  | some executorId =>
      by_cases hactive : order.status ∈ UnitOfWork.activeStatuses <;> simp [hactive, eq_comm]

/-- The look at the orders of a master sees every order that occupies them: letting go is
careful where nothing comes between the two. -/
theorem careful_of_idle {organizationId masterId : String}
    (idle : Premises.masterHasActiveOrders premises.records organizationId masterId = false) :
    (StaffOp.revokeRole (organizationId, masterId) .master).Careful premises := by
  refine ⟨fun executor happoints => (Option.not_mem_none _ happoints).elim, fun actor hleaves => ?_⟩
  cases hleaves
  rw [Bool.eq_false_iff] at idle ⊢
  intro busy
  obtain ⟨key, order, hstored, hoccupies⟩ := occupied_iff.mp busy
  obtain ⟨executorId, hassignee, hactive, hactor⟩ := occupies_iff.mp hoccupies
  cases hactor
  apply idle
  refine List.any_eq_true.mpr ⟨order, (Dict.mem_values _ _).mpr ⟨key, hstored⟩, ?_⟩
  have hcounted : order.status ∈ Premises.activeStatuses :=
    List.mem_of_mem_drop (i := 2) hactive
  simp [hassignee, hcounted]

theorem Premises.ExecutorsWorking.occupying (working : premises.ExecutorsWorking) {key actor : Key}
    {order : WorkOrder} (stored : premises.records.orders.get? key = some order)
    (occupies : UnitOfWork.occupies order = some actor) : premises.identities.works actor = true := by
  obtain ⟨executorId, hassignee, hactive, rfl⟩ := occupies_iff.mp occupies
  obtain ⟨found, hfound, hworks⟩ := working key order stored hactive
  rw [hassignee, Option.some.injEq] at hfound
  rw [hfound]
  exact hworks

theorem executorsWorking_people (people : ∀ command answers, op ≠ .command command answers)
    (working : premises.ExecutorsWorking) :
    (Premises.perform op premises).2.ExecutorsWorking ↔ op.Careful premises := by
  have hrecords := @StaffOp.records_of_people _ premises people
  have hnobody : op.appoints premises = none := by
    cases op with
    | command command answers => exact absurd rfl (people command answers)
    | _ => rfl
  constructor
  · intro later
    refine ⟨fun executor happoints => ?_, fun actor hleaves => Bool.eq_false_iff.mpr fun busy => ?_⟩
    · rw [hnobody] at happoints
      cases happoints
    · obtain ⟨key, order, hstored, hoccupies⟩ := occupied_iff.mp busy
      have hworks := later.occupying (hrecords ▸ hstored) hoccupies
      rw [StaffOp.gone hleaves] at hworks
      cases hworks
  · rintro ⟨-, free⟩ key order hstored hactive
    rw [hrecords] at hstored
    obtain ⟨executorId, hassignee, hworks⟩ := working key order hstored hactive
    refine ⟨executorId, hassignee, op.retains premises _ (fun hleaves => ?_) hworks⟩
    have hfree := free _ hleaves
    rw [Bool.eq_false_iff] at hfree
    exact hfree (occupied_iff.mpr ⟨key, order, hstored,
      occupies_iff.mpr ⟨executorId, hassignee, hactive, rfl⟩⟩)

end people

section orders

variable {order : WorkOrder} {call : Call} {ambient : Ambient}

/-- A call that puts nobody on its order leaves it under way only with whom it was. -/
theorem change_underway (enabled : call.Enabled order) (nobody : appointee call = none)
    (active : (call.change ambient none order).status ∈ UnitOfWork.activeStatuses) :
    order.status ∈ UnitOfWork.activeStatuses ∧
      (call.change ambient none order).assigneeId = order.assigneeId := by
  unfold Call.change at active ⊢
  split at active
  · rename_i idle
    rw [if_pos idle]
    exact ⟨active, rfl⟩
  · rename_i busy
    rw [if_neg busy]
    rw [WorkOrder.recorded_status] at active
    rw [WorkOrder.recorded_assigneeId]
    cases call with
    | claimCoordination coordinatorId => exact ⟨active, rfl⟩
    | publishPool mode actorId => exact absurd active (by simp [Call.writes]; decide)
    | expressInterest executorId => exact ⟨active, rfl⟩
    | withdrawInterest executorId => exact ⟨active, rfl⟩
    | claimFirst executorId => cases nobody
    | assign executorId actorId => cases nobody
    | accept executorId =>
        rw [enabled.1]
        exact ⟨by decide, rfl⟩
    | rejectAssignment executorId =>
        refine absurd active ?_
        simp only [Call.writes]
        split <;> split <;> decide
    | startTravel executorId =>
        rw [enabled.2]
        exact ⟨by decide, rfl⟩
    | startWork executorId =>
        refine ⟨?_, rfl⟩
        rcases List.mem_pair.mp enabled.2 with hstatus | hstatus <;> rw [hstatus] <;> decide
    | complete executorId report => exact absurd active (by simp [Call.writes]; decide)
    | cancel reason actorId => exact absurd active (by simp [Call.writes]; decide)

theorem change_appointed (order : WorkOrder) (ambient : Ambient) {call : Call} {executorId : String} (appoints : appointee call = some executorId) :
    (call.change ambient none order).assigneeId = some executorId ∧
      (call.change ambient none order).status = .assigned := by
  cases call with
  | claimFirst other =>
      cases appoints
      exact ⟨rfl, rfl⟩
  | assign other actorId =>
      cases appoints
      have hchange : (Call.assign executorId actorId).change ambient none order =
          ((Call.assign executorId actorId).writes ambient.clock order).recorded ambient
            (Call.assign executorId actorId).eventName (Call.assign executorId actorId).payload
            none := if_neg fun idle => idle
      rw [hchange, WorkOrder.recorded_assigneeId, WorkOrder.recorded_status]
      simp only [Call.writes]
      split <;> exact ⟨rfl, rfl⟩
  | _ => cases appoints

theorem appointment_some {records : Records} {asked : Key × Call} {executor : Key} :
    appointment records asked = some executor ↔
      ∃ executorId order, appointee asked.2 = some executorId ∧
        records.orders.get? asked.1 = some order ∧ asked.2.Enabled order ∧
        (asked.1.1, executorId) = executor := by
  unfold appointment
  cases appointee asked.2 with
  | none => simp
  | some executorId =>
      cases records.orders.get? asked.1 with
      | none => simp
      | some order => simp [Option.ite_none_right_eq_some]

/-- A command that appoints is a plain call. -/
theorem appointing_command {command : Command} {key : Key} {call : Call} {executorId : String}
    (asked : command.call? = some (key, call)) (appoints : appointee call = some executorId) :
    ∃ ambient plain, command = .change ambient key.1 key.2 call plain := by
  cases command with
  | change ambient organizationId orderId other plain =>
      cases asked
      exact ⟨ambient, plain, rfl⟩
  | startTravel =>
      cases asked
      cases appoints
  | completeOrder =>
      cases asked
      cases appoints
  | cancelOrder =>
      cases asked
      cases appoints
  | _ => cases asked

theorem executorsWorking_command {premises : Premises} (consistent : Consistent premises.records)
    (working : premises.ExecutorsWorking) (command : Command) (answers : Answers) :
    (Premises.perform (.command command answers) premises).2.ExecutorsWorking ↔
      (StaffOp.command command answers).Careful premises := by
  constructor
  · intro later
    refine ⟨fun executor happoints => ?_, fun actor hleaves => by cases hleaves⟩
    obtain ⟨⟨key, call⟩, hasked, happointed⟩ := Option.bind_eq_some_iff.mp happoints
    obtain ⟨executorId, order, hcall, hstored, henabled, rfl⟩ := appointment_some.mp happointed
    obtain ⟨ambient, plain, rfl⟩ := appointing_command hasked hcall
    obtain ⟨hassignee, hstatus⟩ := change_appointed order ambient hcall
    obtain ⟨hkey, -⟩ := consistent.valid.orderKeyed hstored
    have hnext := orderKey_change ambient none call order
    have hoccupies : UnitOfWork.occupies (call.change ambient none order) =
        some (key.1, executorId) := by
      refine occupies_iff.mpr ⟨executorId, hassignee, ?_, ?_⟩
      · rw [hstatus]
        decide
      · exact congrArg (·, executorId) (congrArg Prod.fst (hnext.trans hkey)).symm
    -- the commit goes through, or somebody else's order occupies the executor already
    by_cases hfits : ∀ executor, UnitOfWork.occupies (call.change ambient none order) =
        some executor → FreeBut premises.records (orderKey (call.change ambient none order)) executor
    · have happly : (Command.change ambient key.1 key.2 call plain).apply answers premises.records =
          .ok (putOrder (call.change ambient none order) premises.records) :=
        (change_ok consistent.valid).mpr
          ⟨order, hstored, henabled, (capacity_put consistent.capacity).mpr hfits, rfl⟩
      simp only [Premises.perform, happly] at later
      exact later.occupying (Dict.get?_set_self _ _ _) hoccupies
    · push Not at hfits
      obtain ⟨executor, hsame, hbusy⟩ := hfits
      unfold FreeBut at hbusy
      push Not at hbusy
      obtain ⟨other, holder, -, hheld, hholds⟩ := hbusy
      rw [hoccupies, Option.some.injEq] at hsame
      exact working.occupying hheld (hsame ▸ hholds)
  · rintro ⟨named, -⟩
    unfold Premises.perform
    dsimp only
    cases happly : command.apply answers premises.records with
    | error failure => exact working
    | ok after =>
        obtain ⟨heffect, -⟩ := apply_orders consistent.valid happly
        intro key found hstored hactive
        dsimp only at hstored ⊢
        generalize hlater : after.orders = later at heffect hstored
        cases heffect with
        | kept => exact working key found hstored hactive
        | @created order absent submitted =>
            rw [Dict.get?_set] at hstored
            split at hstored
            · cases hstored
              change order.status ∈ _ at hactive
              rw [submitted] at hactive
              exact absurd hactive (by decide)
            · exact working key found hstored hactive
        | @changed order call ambient asked before enabled =>
            rw [Dict.get?_set] at hstored
            split at hstored
            · cases hstored
              have hkey : orderKey (call.change ambient none order) = orderKey order :=
                orderKey_change ambient none call order
              have horganization : (call.change ambient none order).organizationId =
                  order.organizationId := congrArg Prod.fst hkey
              change ∃ executorId, (call.change ambient none order).assigneeId = some executorId ∧
                premises.identities.works
                  ((call.change ambient none order).organizationId, executorId) = true
              rw [horganization]
              cases happointee : appointee call with
              | some executorId =>
                  refine ⟨executorId, (change_appointed order ambient happointee).1, named _ ?_⟩
                  exact Option.bind_eq_some_iff.mpr ⟨_, asked, appointment_some.mpr
                    ⟨executorId, order, happointee, before, enabled, rfl⟩⟩
              | none =>
                  obtain ⟨hunderway, hassignee⟩ := change_underway enabled happointee hactive
                  rw [hassignee]
                  exact working _ order before hunderway
            · exact working key found hstored hactive

end orders

/-! ### Whole runs -/

theorem executorsWorking_perform {premises : Premises} (consistent : Consistent premises.records)
    (working : premises.ExecutorsWorking) (op : StaffOp) :
    (Premises.perform op premises).2.ExecutorsWorking ↔ op.Careful premises := by
  cases op with
  | command command answers => exact executorsWorking_command consistent working command answers
  | _ => exact executorsWorking_people (fun _ _ h => by cases h) working

theorem consistent_perform {premises : Premises} (consistent : Consistent premises.records)
    (op : StaffOp) : Consistent (Premises.perform op premises).2.records := by
  cases op with
  | command command answers =>
      have hsettled := consistent.settled (command, answers)
      unfold Command.settled at hsettled
      unfold Premises.perform
      dsimp only at hsettled ⊢
      cases happly : command.apply answers premises.records with
      | ok after =>
          rw [happly] at hsettled
          exact hsettled
      | error failure => exact consistent
  | _ =>
      rw [StaffOp.records_of_people fun _ _ h => by cases h]
      exact consistent

namespace StaffWorld

/-- A turn carries out the operation it asks for, if it asks for one. -/
theorem premises_turn (world : StaffWorld) (next : StaffTurn) :
    (world.turn next).premises =
      match world.asked next with
      | none => world.premises
      | some op => (Premises.perform op world.premises).2 := by
  cases next with
  | arrive program => rfl
  | advance index =>
      unfold turn asked
      cases hflight : world.flights[index]? with
      | none => simp only [hflight]
      | some program =>
          simp only [hflight]
          cases program <;> rfl

theorem consistent_turn (world : StaffWorld) (next : StaffTurn)
    (consistent : Consistent world.premises.records) :
    Consistent (world.turn next).premises.records := by
  rw [premises_turn]
  split
  · exact consistent
  · exact consistent_perform consistent _

theorem executorsWorking_turn (world : StaffWorld) (next : StaffTurn)
    (consistent : Consistent world.premises.records) (working : world.premises.ExecutorsWorking) :
    (world.turn next).premises.ExecutorsWorking ↔ world.CarefulTurn next := by
  rw [premises_turn]
  unfold CarefulTurn
  cases world.asked next with
  | none => simpa using working
  | some op => simpa using executorsWorking_perform consistent working op

end StaffWorld

/-- Every order under way is with a working master in every state of a run exactly when every
step of it is careful. -/
theorem executors_working_iff (turns : List StaffTurn) :
    (∀ before, before <+: turns → (StaffWorld.after before).premises.ExecutorsWorking) ↔
      Throughout StaffWorld.turn StaffWorld.CarefulTurn .empty turns := by
  have hopening : StaffWorld.empty.premises.ExecutorsWorking := by
    intro key order hstored
    cases hstored
  exact Throughout.iff_good StaffWorld.consistent_turn StaffWorld.executorsWorking_turn
    consistent_empty hopening

/-- A request that asks for one operation. -/
def requesting (op : StaffOp) : StaffProgram Reply := .call op fun _ => .done (.words "")

/-- One handler, with nobody else at work. -/
def handledAlone (index : Nat) (program : StaffProgram Reply) : List StaffTurn :=
  .arrive program :: List.replicate 4 (.advance index)

def dispatcher : MessengerIdentity :=
  ⟨⟨"org", "operator", .operator⟩, "Ольга", .telegram, "7", [.operator]⟩

def formerMaster : ActorIdentity := ⟨"org", "master:aa", .master⟩

def pressed : Surroundings :=
  { resolvedAt := ⟨0⟩
    completedAt := ⟨0⟩
    ambient := ⟨⟨0⟩, "event"⟩
    sessionAmbient := ⟨⟨⟨0⟩, "event"⟩, ⟨0⟩, "public", "location"⟩
    freshId := "fresh"
    activePoolMode := none
    uuid5 := id }

def creating : Command :=
  .createOrder ⟨⟨0⟩, "event"⟩ "fresh" (some "order") ⟨"org", "repair", "api", .empty, none, none⟩

/-- A master who has shown interest is let go, and then chosen. -/
def chosenAfterLeaving : List StaffTurn :=
  handledAlone 0 (requesting (.createStaffActor ⟨"aa", ⟨9⟩, [7]⟩ "org" .master "Иван" none none)) ++
  handledAlone 1 (requesting (.command creating ⟨"A000", false⟩)) ++
  handledAlone 2 (Reply.words <$>
    (publishPool pressed dispatcher.toActorIdentity "order").program "org" "order") ++
  handledAlone 3 (Reply.words <$> (poolInterest pressed formerMaster "order").program "org" "order") ++
  handledAlone 4 (OperatorCoordinator.deleteMasterConfirm dispatcher "master:aa") ++
  handledAlone 5 (Reply.words <$>
    (assign pressed dispatcher.toActorIdentity "order" "master:aa").program "org" "order")

theorem executor_not_working : ¬(StaffWorld.after chosenAfterLeaving).premises.ExecutorsWorking := by
  intro working
  have hassigned : ((StaffWorld.after chosenAfterLeaving).premises.records.orders.get?
      ("org", "order")).bind UnitOfWork.occupies = some ("org", "master:aa") := by
    decide +kernel
  obtain ⟨order, hstored, hoccupies⟩ := Option.bind_eq_some_iff.mp hassigned
  have hworks := working.occupying hstored hoccupies
  revert hworks
  decide +kernel

end DispatchCore.Messaging
