import DispatchCore.Domain.WorkOrder
import DispatchCore.Infrastructure.Callbacks
import DispatchCore.Infrastructure.Queues

/-! Who is told what about an event: each event of a work order is planned into a
few messages, and every plan of one event has a purpose of its own. -/
namespace DispatchCore.Messaging

open DispatchCore.Library DispatchCore.Domain DispatchCore.Infrastructure

/-- The one thing pressing a button does. -/
inductive Destination
  | action (name : String) (payload : Dict String Json)
  | url (address : String)
  | requestLocation

structure PlannedButton where
  text : String
  destination : Destination
  allowedRole : Option Role
  row : Nat

structure RecipientPlan where
  actorIds : List String
  roles : List Role
  text : String
  buttons : List PlannedButton
  purpose : String
  deliveryRole : Option Role

/-- Bytes that `quote(text, safe="")` keeps. -/
def unreserved (byte : UInt8) : Bool :=
  (48 ≤ byte && byte ≤ 57) || (65 ≤ byte && byte ≤ 90) || (97 ≤ byte && byte ≤ 122) ||
    byte ∈ [45, 46, 95, 126]

def quoteByte (byte : UInt8) : List Char :=
  if unreserved byte then [Char.ofNat byte.toNat]
  else
    ['%', (Text.hexDigits.getD (byte.toNat / 16) '0').toUpper,
      (Text.hexDigits.getD (byte.toNat % 16) '0').toUpper]

/-- `quote(text, safe="")` -/
def quote (text : String) : String :=
  String.ofList (text.toUTF8.toList.flatMap quoteByte)

/-- `text.rstrip("/")` -/
def stripSlashes (text : String) : String :=
  String.ofList (text.toList.reverse.dropWhile (fun letter => letter = '/')).reverse

def publicTrackingUrl (baseUrl token : String) : Except Failure String :=
  if Text.size token < 43 then .error (.valueError "public tracking token is invalid")
  else .ok s!"{stripSlashes baseUrl}/track#{quote token}"

def locationSubmissionUrl (baseUrl token : String) : Except Failure String :=
  if Text.size token < 43 then .error (.valueError "location submission token is invalid")
  else .ok s!"{stripSlashes baseUrl}/track/share#{quote token}"

/-- A text that Python takes for true. -/
def truthy : Option String → Option String
  | some "" => none
  | text => text

section buttons

variable (orderId : String)

def orderPayload : Dict String Json := .ofList [("order_id", .str orderId)]

def actionButton (text action : String) (allowedRole : Role) (row : Nat) : PlannedButton :=
  ⟨text, .action action (orderPayload orderId), some allowedRole, row⟩

end buttons

/-- What the projector has read when it plans an event. -/
structure Readings where
  order : Option WorkOrder
  card : String
  publicToken : Option String
  locationToken : Option String

def message (actorIds : List String) (text purpose : String) (deliveryRole : Role)
    (buttons : List PlannedButton) : RecipientPlan :=
  { actorIds, roles := [], text, buttons, purpose, deliveryRole := some deliveryRole }

def broadcast (role : Role) (text purpose : String) (buttons : List PlannedButton) :
    RecipientPlan :=
  { actorIds := [], roles := [role], text, buttons, purpose, deliveryRole := some role }

/-- To the coordinator, or to every operator where the order has none. -/
def toOperators (coordinator : Option String) (text purpose : String)
    (buttons : List PlannedButton) : RecipientPlan :=
  match coordinator with
  | some coordinator => message [coordinator] text purpose .operator buttons
  | none => broadcast .operator text purpose buttons

def whenSome (actor : Option String) (plan : String → RecipientPlan) : List RecipientPlan :=
  actor.toList.map plan

/-- A message with a link, where there is somebody to send it to, a public address
and a token. -/
def linkPlans (actor publicBaseUrl token : Option String)
    (address : String → String → Except Failure String)
    (plan : String → String → RecipientPlan) : Except Failure (List RecipientPlan) :=
  match actor, truthy publicBaseUrl, truthy token with
  | some actor, some baseUrl, some token =>
      (address baseUrl token).map fun url => [plan actor url]
  | _, _, _ => .ok []

def travelPlans (publicBaseUrl : Option String) (readings : Readings)
    (orderId : String) (assignee coordinator requester : Option String) :
    Except Failure (List RecipientPlan) := do
  let client ← linkPlans requester publicBaseUrl readings.publicToken publicTrackingUrl
    fun requester url => message [requester]
      "Мастер выехал. Положение можно смотреть по ссылке." "travel:client" .client
      [⟨"Открыть карту", .url url, some .client, 0⟩]
  let browser ← linkPlans assignee publicBaseUrl readings.locationToken locationSubmissionUrl
    fun assignee url => message [assignee]
      "Если мессенджер не передаёт геопозицию, откройте резервную передачу GPS."
      "travel:browser_location" .master [⟨"Передавать GPS", .url url, some .master, 0⟩]
  return [message assignee.toList s!"Выезд начат.\n{readings.card}" "travel" .master
      [actionButton orderId "Начать работу" "start_work" .master 0],
    message assignee.toList
      ("Отправьте геопозицию. Для движения используйте " ++
        "трансляцию геопозиции в мессенджере.")
      "travel:location" .master
      [⟨"Отправить геопозицию", .requestLocation, some .master, 0⟩]] ++
    whenSome coordinator (fun coordinator => message [coordinator]
      s!"Мастер выехал на заявку.\n{readings.card}" "coordinator_travel" .operator []) ++
    client ++ browser

def assignmentPlans (event : DomainEvent) (card assignee : String)
    (coordinator : Option String) : List RecipientPlan :=
  let label := if event.name = .firstClaimWon then "Мастер закрепился за заявкой."
    else "Мастер назначен на заявку."
  message [assignee] s!"Вам назначена заявка.\n{card}" "assignment" .master
      [actionButton event.aggregateId "Принять" "accept" .master 0,
        actionButton event.aggregateId "Отказаться" "reject" .master 1] ::
    whenSome coordinator fun coordinator =>
      message [coordinator] s!"{label}\n{card}" "coordinator_assignment" .operator []

def completedPlans (card : String) (coordinator requester : Option String) :
    List RecipientPlan :=
  let text := s!"Заявка завершена.\n{card}"
  let told := whenSome coordinator (fun coordinator =>
      message [coordinator] text "completed:operator" .operator []) ++
    whenSome requester fun requester => message [requester] text "completed:client" .client []
  if told.isEmpty then [broadcast .operator text "completed:operator" []] else told

/-- `_plans`; a missing `executor_id` is a `KeyError`. -/
def plans (publicBaseUrl : Option String) (event : DomainEvent) (readings : Readings) :
    Except Failure (List RecipientPlan) :=
  match event.aggregateType, readings.order with
  | .workOrder, some order =>
      let orderId := event.aggregateId
      let card := readings.card
      let assignee := truthy order.assigneeId
      let coordinator := truthy order.coordinatorId
      let requester := truthy order.requesterId
      match event.name with
      | .submitted => .ok [broadcast .operator s!"Новая заявка от клиента.\n{card}" "submitted"
          [actionButton orderId "В пул" "pool_publish" .operator 0]]
      | .coordinationClaimed => .ok [message
          (truthy (some (event.payload.textAt "coordinator_id"))).toList
          s!"Вы взяли заявку в работу.\n{card}" "coordination_claimed" .operator []]
      | .poolPublished =>
          let curated := event.payload.textAt "mode" = "curated"
          .ok [broadcast .master card "pool"
            [actionButton orderId (if curated then "Готов взять" else "Взять заявку")
              (if curated then "pool_interest" else "pool_claim") .master 0]]
      | .poolInterestRecorded =>
          match event.payload.get? "executor_id" with
          | none => .error (.notFound "'executor_id'")
          | some value =>
              let executorId := value.text?.getD ""
              .ok [toOperators coordinator s!"{card}\nМастер готов взять: {executorId}"
                ("interest:" ++ executorId)
                [⟨"Выбрать мастера",
                  .action "assign" (.ofList [("order_id", .str orderId),
                    ("executor_id", .str executorId)]), some .operator, 0⟩]]
      | .assigned => .ok (assignee.toList.flatMap fun assignee =>
          assignmentPlans event card assignee coordinator)
      | .firstClaimWon => .ok (assignee.toList.flatMap fun assignee =>
          assignmentPlans event card assignee coordinator)
      | .accepted => .ok (message assignee.toList s!"Заявка принята.\n{card}"
            "executor_accepted" .master
            [actionButton orderId "Выехал" "start_travel" .master 0,
              actionButton orderId "Начать на месте" "start_work" .master 1] ::
          whenSome coordinator fun coordinator => message [coordinator]
            s!"Мастер принял заявку.\n{card}" "coordinator_accepted" .operator [])
      | .travelStarted =>
          travelPlans publicBaseUrl readings orderId assignee coordinator requester
      | .started => .ok [message assignee.toList
          (s!"Работа начата.\n{card}\n" ++
            "Отправьте фото и комментарий, затем нажмите «Завершить».")
          "work_started" .master [actionButton orderId "Завершить" "submit_report" .master 0]]
      | .completed => .ok (completedPlans card coordinator requester)
      | .assignmentRejected => .ok [toOperators coordinator
          s!"Мастер отказался; заявка возвращена в пул.\n{card}" "rejected" []]
      | .cancelled => .ok (whenSome assignee (fun assignee =>
            message [assignee] s!"Заявка отменена.\n{card}" "cancelled:master" .master []) ++
          whenSome requester fun requester =>
            message [requester] s!"Заявка отменена.\n{card}" "cancelled:client" .client [])
      | _ => .ok []
  | _, _ => .ok []

/-- The purposes the plans of an event can have. -/
def purposes (event : DomainEvent) : List String :=
  match event.name with
  | .submitted => ["submitted"]
  | .coordinationClaimed => ["coordination_claimed"]
  | .poolPublished => ["pool"]
  | .poolInterestRecorded => ["interest:" ++ event.payload.textAt "executor_id"]
  | .assigned => ["assignment", "coordinator_assignment"]
  | .firstClaimWon => ["assignment", "coordinator_assignment"]
  | .accepted => ["executor_accepted", "coordinator_accepted"]
  | .travelStarted => ["travel", "travel:location", "coordinator_travel", "travel:client",
      "travel:browser_location"]
  | .started => ["work_started"]
  | .completed => ["completed:operator", "completed:client"]
  | .assignmentRejected => ["rejected"]
  | .cancelled => ["cancelled:master", "cancelled:client"]
  | _ => []

/-- The key of a message in the outbound table. -/
def deduplicationKey (eventId purpose : String) (provider : Provider) (externalUserId : String) :
    String :=
  eventId ++ ":" ++ purpose ++ ":" ++ provider.value ++ ":" ++ externalUserId

theorem mem_whenSome {actor : Option String} {plan : String → RecipientPlan}
    {found : RecipientPlan} (h : found ∈ whenSome actor plan) : ∃ someone, found = plan someone := by
  obtain ⟨someone, -, rfl⟩ := List.mem_map.mp h
  exact ⟨someone, rfl⟩

theorem mem_linkPlans {actor publicBaseUrl token : Option String}
    {address : String → String → Except Failure String}
    {plan : String → String → RecipientPlan} {planned : List RecipientPlan} {found : RecipientPlan}
    (h : linkPlans actor publicBaseUrl token address plan = .ok planned) (mem : found ∈ planned) :
    ∃ someone url, found = plan someone url := by
  unfold linkPlans at h
  split at h
  · rename_i someone baseUrl token _ _
    cases haddress : address baseUrl token with
    | error failure => rw [haddress] at h; cases h
    | ok url =>
        rw [haddress] at h
        cases h
        exact ⟨someone, url, List.mem_singleton.mp mem⟩
  · cases h
    cases mem

theorem purpose_toOperators (coordinator : Option String) (text purpose : String)
    (buttons : List PlannedButton) :
    (toOperators coordinator text purpose buttons).purpose = purpose := by
  cases coordinator <;> rfl

theorem assignmentPlans_purpose {event : DomainEvent} {card assignee : String}
    {coordinator : Option String} {plan : RecipientPlan}
    (mem : plan ∈ assignmentPlans event card assignee coordinator) :
    plan.purpose ∈ ["assignment", "coordinator_assignment"] := by
  unfold assignmentPlans at mem
  cases List.mem_cons.mp mem with
  | inl h => subst h; simp [message]
  | inr h =>
      obtain ⟨someone, rfl⟩ := mem_whenSome h
      simp [message]

theorem completedPlans_purpose {card : String} {coordinator requester : Option String}
    {plan : RecipientPlan} (mem : plan ∈ completedPlans card coordinator requester) :
    plan.purpose ∈ ["completed:operator", "completed:client"] := by
  unfold completedPlans at mem
  dsimp only at mem
  split at mem
  · rw [List.mem_singleton] at mem
    subst mem
    simp [broadcast]
  · cases List.mem_append.mp mem with
    | inl h =>
        obtain ⟨someone, rfl⟩ := mem_whenSome h
        simp [message]
    | inr h =>
        obtain ⟨someone, rfl⟩ := mem_whenSome h
        simp [message]

theorem travelPlans_purpose {publicBaseUrl : Option String} {readings : Readings}
    {orderId : String} {assignee coordinator requester : Option String}
    {planned : List RecipientPlan} {plan : RecipientPlan}
    (h : travelPlans publicBaseUrl readings orderId assignee coordinator requester = .ok planned)
    (mem : plan ∈ planned) :
    plan.purpose ∈ ["travel", "travel:location", "coordinator_travel", "travel:client",
      "travel:browser_location"] := by
  unfold travelPlans at h
  obtain ⟨client, hclient, h⟩ := except_bind_ok.mp h
  obtain ⟨browser, hbrowser, h⟩ := except_bind_ok.mp h
  cases h
  simp only [List.mem_append, List.mem_cons, List.not_mem_nil, or_false] at mem
  obtain (((rfl | rfl) | hplan) | hplan) | hplan := mem
  · simp [message]
  · simp [message]
  · obtain ⟨someone, rfl⟩ := mem_whenSome hplan
    simp [message]
  · obtain ⟨someone, url, rfl⟩ := mem_linkPlans hclient hplan
    simp [message]
  · obtain ⟨someone, url, rfl⟩ := mem_linkPlans hbrowser hplan
    simp [message]

theorem plans_purpose {publicBaseUrl : Option String} {event : DomainEvent} {readings : Readings}
    {planned : List RecipientPlan} {plan : RecipientPlan}
    (h : plans publicBaseUrl event readings = .ok planned) (mem : plan ∈ planned) :
    plan.purpose ∈ purposes event := by
  unfold plans at h
  split at h
  · rename_i order _ _
    unfold purposes
    cases hname : event.name <;> simp only [hname] at h
    case poolInterestRecorded =>
      unfold Dict.textAt
      cases hvalue : event.payload.get? "executor_id" with
      | none => rw [hvalue] at h; cases h
      | some value =>
          rw [hvalue] at h
          cases h
          rw [List.mem_singleton] at mem
          subst mem
          rw [purpose_toOperators]
          simp
    case assigned =>
      cases h
      obtain ⟨assignee, -, hplan⟩ := List.mem_flatMap.mp mem
      exact assignmentPlans_purpose hplan
    case firstClaimWon =>
      cases h
      obtain ⟨assignee, -, hplan⟩ := List.mem_flatMap.mp mem
      exact assignmentPlans_purpose hplan
    case accepted =>
      cases h
      cases List.mem_cons.mp mem with
      | inl hplan => subst hplan; simp [message]
      | inr hplan =>
          obtain ⟨someone, rfl⟩ := mem_whenSome hplan
          simp [message]
    case travelStarted => exact travelPlans_purpose h mem
    case completed =>
      cases h
      exact completedPlans_purpose mem
    case assignmentRejected =>
      cases h
      rw [List.mem_singleton] at mem
      rw [mem, purpose_toOperators]
      simp
    case cancelled =>
      cases h
      cases List.mem_append.mp mem with
      | inl hplan =>
          obtain ⟨someone, rfl⟩ := mem_whenSome hplan
          simp [message]
      | inr hplan =>
          obtain ⟨someone, rfl⟩ := mem_whenSome hplan
          simp [message]
    -- the other events have one plan, or none
    all_goals
      cases h
      first
        | (rw [List.mem_singleton] at mem; subst mem; simp [message, broadcast])
        | cases mem
  · cases h
    cases mem
section keys

/-- What stands before the user in a key, the event id aside. -/
def keyHead (purpose : String) (provider : Provider) : List Char :=
  purpose.toList ++ ':' :: (provider.value.toList ++ [':'])

theorem deduplicationKey_toList (eventId purpose : String) (provider : Provider)
    (externalUserId : String) :
    (deduplicationKey eventId purpose provider externalUserId).toList =
      eventId.toList ++ ':' :: (keyHead purpose provider ++ externalUserId.toList) := by
  simp [deduplicationKey, keyHead]

/-- The text before the first colon is determined. -/
theorem eq_of_append_colon {left right restLeft restRight : List Char} (hleft : ':' ∉ left)
    (hright : ':' ∉ right) (h : left ++ ':' :: restLeft = right ++ ':' :: restRight) :
    left = right ∧ restLeft = restRight := by
  induction left generalizing right with
  | nil =>
      cases right with
      | nil => exact ⟨rfl, by simpa using h⟩
      | cons letter rest =>
          simp only [List.nil_append, List.cons_append, List.cons.injEq] at h
          exact absurd (h.1 ▸ List.mem_cons_self) hright
  | cons letter rest ih =>
      cases right with
      | nil =>
          simp only [List.nil_append, List.cons_append, List.cons.injEq] at h
          exact absurd (h.1 ▸ List.mem_cons_self) hleft
      | cons other others =>
          simp only [List.cons_append, List.cons.injEq] at h
          obtain ⟨rfl, h⟩ := h
          obtain ⟨hrest, htail⟩ := ih (fun hmem => hleft (List.mem_cons_of_mem _ hmem))
            (fun hmem => hright (List.mem_cons_of_mem _ hmem)) h
          exact ⟨by rw [hrest], htail⟩

theorem provider_of_prefix {first second : Provider}
    (h : first.value.toList ++ [':'] <+: second.value.toList ++ [':']) : first = second := by
  revert h
  cases first <;> cases second <;> decide

/-- No head of one purpose is the beginning of the head of another. -/
theorem purposes_prefixFree {event : DomainEvent} {purpose other : String}
    {provider channel : Provider} (first : purpose ∈ purposes event)
    (second : other ∈ purposes event)
    (h : keyHead purpose provider <+: keyHead other channel) :
    purpose = other ∧ provider = channel := by
  have hsame : purpose = other → purpose = other ∧ provider = channel := by
    rintro rfl
    refine ⟨rfl, provider_of_prefix ?_⟩
    unfold keyHead at h
    rw [List.prefix_append_right_inj, List.cons_prefix_cons] at h
    exact h.2
  have hconcrete : ∀ heads : List String, purpose ∈ heads → other ∈ heads →
      (∀ left ∈ heads, ∀ right ∈ heads, ∀ sender ∈ [Provider.telegram, .max],
        ∀ receiver ∈ [Provider.telegram, .max],
          keyHead left sender <+: keyHead right receiver → left = right) →
      purpose = other := by
    intro heads hleft hright hfree
    exact hfree _ hleft _ hright _ (by cases provider <;> simp) _ (by cases channel <;> simp) h
  apply hsame
  unfold purposes at first second
  cases hname : event.name <;> simp only [hname] at first second
  case poolInterestRecorded =>
    rw [List.mem_singleton] at first second
    rw [first, second]
  all_goals exact hconcrete _ first second (by decide +kernel)

/-- Distinct addressees of one event have distinct keys. -/
theorem deduplicationKey_injective {event : DomainEvent} {eventId purpose other user somebody : String}
    {provider channel : Provider} (first : purpose ∈ purposes event)
    (second : other ∈ purposes event)
    (h : deduplicationKey eventId purpose provider user =
      deduplicationKey eventId other channel somebody) :
    purpose = other ∧ provider = channel ∧ user = somebody := by
  have hlist := congrArg String.toList h
  rw [deduplicationKey_toList, deduplicationKey_toList] at hlist
  have htail := List.append_cancel_left hlist
  rw [List.cons.injEq] at htail
  have hprefix := List.prefix_or_prefix_of_prefix (List.prefix_append _ _)
    (htail.2 ▸ List.prefix_append (keyHead other channel) somebody.toList)
  obtain ⟨rfl, rfl⟩ : purpose = other ∧ provider = channel := by
    cases hprefix with
    | inl hleft => exact purposes_prefixFree first second hleft
    | inr hright =>
        obtain ⟨hpurpose, hprovider⟩ := purposes_prefixFree second first hright
        exact ⟨hpurpose.symm, hprovider.symm⟩
  exact ⟨rfl, rfl, String.toList_inj.mp (List.append_cancel_left htail.2)⟩

end keys

end DispatchCore.Messaging
