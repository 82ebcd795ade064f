import Mathlib.Data.List.Induction
import DispatchCore.Infrastructure.Inbox
import DispatchCore.Transports.ExecutorTokens

/-! The identifiers of MAX updates.  An update is named by the first of five fields that it
has, under one prefix for all of them, and the inbox keeps the first update of each name. -/
namespace DispatchCore.Transports

open DispatchCore.Library DispatchCore.Domain DispatchCore.Infrastructure

namespace MaxTransport

/-! ### Names of updates -/

inductive Identity
  | updateId
  | callbackId
  | mid
  | messageId
  | timestamp
deriving DecidableEq, Repr

/-- The fields of which the provider gives no value twice. -/
def Identity.unique : Identity → Bool
  | updateId => true
  | callbackId => true
  | mid => true
  | messageId => false
  | timestamp => false

/-- `value if isinstance(value, dict) else {}` -/
def nested (item : Dict String Json) (name : String) : Dict String Json :=
  ((item.get? name).bind Json.dict?).getD .empty

def candidate (item : Dict String Json) : Identity → Json
  | .updateId => (item.get? "update_id").getD .null
  | .callbackId => ((nested item "callback").get? "callback_id").getD .null
  | .mid => ((nested (nested item "message") "body").get? "mid").getD .null
  | .messageId => ((nested item "message").get? "message_id").getD .null
  | .timestamp => (item.get? "timestamp").getD .null

def identityCandidates (item : Dict String Json) : List (Identity × Json) :=
  [Identity.updateId, .callbackId, .mid, .messageId, .timestamp].map
    fun identity => (identity, candidate item identity)

def identity? (item : Dict String Json) : Option (Identity × Json) :=
  (identityCandidates item).find? fun named => truthValue named.2

section names

-- how Python formats a float, a list or a dictionary, and the SHA-256 of a payload
variable (spelling : Json → String) (digest : Dict String Json → HexDigest)

def formatted : Json → String
  | .str text => text
  | .int value => toString value
  | .bool true => "True"
  | .bool false => "False"
  | .null => "None"
  | value => spelling value

def stablePayloadId (provider : Provider) (payload : Dict String Json) : String :=
  s!"{provider.value}:sha256:{(digest payload).val}"

def externalEventId (payload : Dict String Json) : String :=
  match identity? payload with
  | some (_, value) => s!"max:{formatted spelling value}"
  | none => stablePayloadId digest .max payload

/-! ### When two updates are told apart -/

/-- What is promised of two different updates: the provider gives them different values of
each unique field, and they have different digests. -/
structure Apart (left right : Dict String Json) : Prop where
  identified : ∀ identity : Identity, identity.unique →
    truthValue (candidate left identity) → truthValue (candidate right identity) →
      formatted spelling (candidate left identity) ≠ formatted spelling (candidate right identity)
  hashed : digest left ≠ digest right

/-- Both are named by the same unique field, or the values that name them are written
differently; and a value that names one is not written like the digest that names the other. -/
def Told (left right : Dict String Json) : Prop :=
  match identity? left, identity? right with
  | some (identity, value), some (other, worth) =>
      (identity = other ∧ identity.unique) ∨ formatted spelling value ≠ formatted spelling worth
  | some (_, value), none => formatted spelling value ≠ s!"sha256:{(digest right).val}"
  | none, some (_, worth) => formatted spelling worth ≠ s!"sha256:{(digest left).val}"
  | none, none => True

variable {spelling digest}

theorem identity?_some {item : Dict String Json} {identity : Identity} {value : Json}
    (h : identity? item = some (identity, value)) :
    value = candidate item identity ∧ truthValue value := by
  have htrue := List.find?_some h
  obtain ⟨other, -, hpair⟩ := List.mem_map.mp (List.mem_of_find?_eq_some h)
  cases hpair
  exact ⟨rfl, htrue⟩

theorem prefixed_ne (first second : String) :
    s!"max:{first}" ≠ s!"max:{second}" ↔ first ≠ second := by
  constructor
  · rintro h rfl
    exact h rfl
  · intro h heq
    have hlist := congrArg String.toList heq
    simp only [toString, String.toList_append, List.append_cancel_left_eq] at hlist
    exact h (String.toList_inj.mp hlist)

theorem stablePayloadId_max (payload : Dict String Json) :
    stablePayloadId digest .max payload =
      let written := s!"sha256:{(digest payload).val}"
      s!"max:{written}" := by
  apply String.toList_inj.mp
  simp [stablePayloadId, toString, Provider.value]

/-- Two digests are told apart where they are written out. -/
theorem digested_ne {left right : Dict String Json} (h : digest left ≠ digest right) :
    s!"sha256:{(digest left).val}" ≠ s!"sha256:{(digest right).val}" := by
  intro heq
  have hlist := congrArg String.toList heq
  simp only [toString, String.toList_append, List.append_cancel_left_eq] at hlist
  exact h (Subtype.ext (String.toList_inj.mp hlist))

theorem externalEventId_ne_iff {left right : Dict String Json}
    (apart : Apart spelling digest left right) :
    externalEventId spelling digest left ≠ externalEventId spelling digest right ↔
      Told spelling digest left right := by
  unfold externalEventId Told
  cases hleft : identity? left with
  | none =>
      cases hright : identity? right with
      | none =>
          simp only [stablePayloadId_max, prefixed_ne, iff_true]
          exact digested_ne apart.hashed
      | some named =>
          simp only [stablePayloadId_max, prefixed_ne]
          exact ne_comm
  | some named =>
      obtain ⟨identity, value⟩ := named
      cases hright : identity? right with
      | none => simp only [stablePayloadId_max, prefixed_ne]
      | some named =>
          obtain ⟨other, worth⟩ := named
          simp only [prefixed_ne]
          constructor
          · exact .inr
          · rintro (⟨rfl, hunique⟩ | hne)
            · obtain ⟨rfl, htrue⟩ := identity?_some hleft
              obtain ⟨rfl, hother⟩ := identity?_some hright
              exact apart.identified identity hunique htrue hother
            · exact hne

end names

/-! ### What the inbox keeps -/

/-- How updates come in: one by one through the webhook, or as a batch that was polled. -/
inductive Delivery (ε : Type)
  | webhook (event : ε)
  | poll (events : List ε) (nextMarker : String)

def Delivery.events {ε : Type} : Delivery ε → List ε
  | webhook event => [event]
  | poll events _ => events

section inbox

variable {ε : Type} (payload : ε → Dict String Json)
  (spelling : Json → String) (digest : Dict String Json → HexDigest)
  (organizationId consumerKey : String)

def deliver (now : Instant) (ingress : Ingress) : Delivery ε → Ingress
  | .webhook event =>
      (PostgresInboxStore.accept .max (externalEventId spelling digest (payload event))
        organizationId (payload event) consumerKey now ingress).2
  | .poll events nextMarker =>
      (PostgresInboxStore.acceptPollBatch .max organizationId consumerKey
        (some s!"{organizationId}:{Provider.max.value}:{consumerKey}")
        (events.map fun event =>
          (externalEventId spelling digest (payload event), payload event))
        nextMarker now ingress).2

def deliverAll (deliveries : List (Instant × Delivery ε)) : Ingress :=
  deliveries.foldl (fun ingress delivery =>
    deliver payload spelling digest organizationId consumerKey delivery.1 ingress delivery.2) .empty

def received (deliveries : List (Instant × Delivery ε)) : List ε :=
  deliveries.flatMap fun delivery => delivery.2.events

/-- The row an update goes to. -/
def inboxKey (event : ε) : InboxKey :=
  ⟨organizationId, .max, consumerKey, externalEventId spelling digest (payload event)⟩

/-- The update is in the inbox, with what it says. -/
def Kept (ingress : Ingress) (event : ε) : Prop :=
  ∃ row, ingress.inboxEvents.get?
      (inboxKey payload spelling digest organizationId consumerKey event) = some row ∧
    row.data.payload = .obj (payload event).entries

variable {payload spelling digest organizationId consumerKey}

theorem deliver_rows (now : Instant) (ingress : Ingress) (delivery : Delivery ε) :
    (deliver payload spelling digest organizationId consumerKey now ingress delivery).inboxEvents =
      (PostgresInboxStore.insertAll .max organizationId consumerKey now ingress.inboxEvents
        (delivery.events.map fun event =>
          (externalEventId spelling digest (payload event), payload event))).2 := by
  cases delivery with
  | webhook event => rfl
  | poll events nextMarker => rfl

/-- Every row holds an update that came in under its name, and every update has a row. -/
theorem deliverAll_rows (deliveries : List (Instant × Delivery ε)) :
    (∀ event ∈ received deliveries,
      ((deliverAll payload spelling digest organizationId consumerKey deliveries).inboxEvents.get?
        (inboxKey payload spelling digest organizationId consumerKey event)).isSome) ∧
    ∀ key row, (deliverAll payload spelling digest organizationId consumerKey
        deliveries).inboxEvents.get? key = some row →
      ∃ event ∈ received deliveries,
        key = inboxKey payload spelling digest organizationId consumerKey event ∧
          row.data.payload = .obj (payload event).entries := by
  induction deliveries using List.reverseRecOn with
  | nil => exact ⟨fun _ h => by contradiction, fun _ _ h => by contradiction⟩
  | append_singleton earlier delivery ih =>
      obtain ⟨hheld, hnamed⟩ := ih
      obtain ⟨now, delivery⟩ := delivery
      have hlast : deliverAll payload spelling digest organizationId consumerKey
          (earlier ++ [(now, delivery)]) =
            deliver payload spelling digest organizationId consumerKey now
              (deliverAll payload spelling digest organizationId consumerKey earlier) delivery := by
        unfold deliverAll
        rw [List.foldl_append]
        rfl
      have hreceived : received (earlier ++ [(now, delivery)]) =
          received earlier ++ delivery.events := by
        simp [received]
      rw [hlast, deliver_rows, hreceived]
      constructor
      · intro event hevent
        rcases List.mem_append.mp hevent with hearlier | hnow
        · obtain ⟨row, hrow⟩ := Option.isSome_iff_exists.mp (hheld event hearlier)
          exact Option.isSome_iff_exists.mpr
            ⟨row, PostgresInboxStore.insertAll_rows.1 _ row hrow⟩
        · exact PostgresInboxStore.insertAll_rows.2 _
            (List.mem_map.mpr ⟨event, hnow, rfl⟩)
      · intro key row hrow
        rcases PostgresInboxStore.insertAll_new hrow with hbefore | ⟨entry, hentry, hkey, hpayload⟩
        · obtain ⟨event, hevent, hsame⟩ := hnamed key row hbefore
          exact ⟨event, List.mem_append_left _ hevent, hsame⟩
        · obtain ⟨event, hevent, rfl⟩ := List.mem_map.mp hentry
          exact ⟨event, List.mem_append_right _ hevent, hkey, hpayload⟩

end inbox

/-- Someone opens the dialogue with the bot. -/
def botStarted (userId timestamp : Int) : Dict String Json :=
  .ofList [("update_type", .str "bot_started"), ("timestamp", .int timestamp),
    ("user", .obj [("user_id", .int userId)])]

/-- A message of some text. -/
def messageCreated (mid text : String) : Dict String Json :=
  .ofList [("update_type", .str "message_created"),
    ("message", .obj [("body", .obj [("mid", .str mid), ("text", .str text)])])]

/-- A digest that tells some updates from the others. -/
def sampleDigest (marked : Dict String Json → Bool) (item : Dict String Json) : HexDigest :=
  ⟨String.ofList (List.replicate 64 (if marked item then 'a' else 'b')), by
    rw [String.toList_ofList]
    refine ⟨List.length_replicate, fun letter hmem => ?_⟩
    rw [List.eq_of_mem_replicate hmem]
    split <;> decide⟩

/-- Two messages of the same text, each with its own `mid`. -/
def messageDigest : Dict String Json → HexDigest :=
  sampleDigest fun item => (candidate item .mid).text? = some "mid-1"

def startDigest : Dict String Json → HexDigest :=
  sampleDigest fun item => ((nested item "user").get? "user_id").bind Json.int? = some 1

end MaxTransport
end DispatchCore.Transports
