import DispatchCore.Domain.Transitions

/-! The rows a work order is stored in: sixteen columns of `work_orders`, given
by position and read by name, and a row of `pool_responses` for every executor
who responded. -/
namespace DispatchCore.Infrastructure

open DispatchCore.Library DispatchCore.Domain

inductive Column
  | null
  | text (value : String)
  | integer (value : Nat)
  | jsonb (value : Json)
  | timestamptz (value : Instant)

abbrev OrderRow := Dict String Column

structure ResponseRow where
  organizationId : String
  workOrderId : String
  executorId : String
  status : String
  respondedAt : Instant
deriving DecidableEq

/-- How reading a row fails. -/
inductive Unreadable
  | keyError (name : String)
  | valueError (message : String)
  | typeError (message : String)
deriving DecidableEq

def nullable : Option String → Column
  | none => .null
  | some value => .text value

/-- `json.dumps` writes nothing for an absent text. -/
def nullableJson : Option String → Json
  | none => .null
  | some value => .str value

def reportJson (report : CompletionReport) : Json :=
  .obj [("photo_refs", .arr (report.photoRefs.map .str)),
    ("comment", nullableJson report.comment),
    ("signature_ref", nullableJson report.signatureRef),
    ("customer_code", nullableJson report.customerCode)]

def requirementsJson (rules : EvidenceRequirements) : Json :=
  .obj [("minimum_photos", .int rules.minimumPhotos),
    ("comment_required", .bool rules.commentRequired),
    ("signature_required", .bool rules.signatureRequired),
    ("customer_code_required", .bool rules.customerCodeRequired)]

/-- The parameters `$1` to `$16` of both statements. -/
def orderValues (order : WorkOrder) : List Column :=
  [.text order.organizationId,
    .text order.id,
    .text order.publicNumber,
    .text order.workType,
    .text order.source,
    .jsonb (.obj order.details.entries),
    nullable order.requesterId,
    nullable order.coordinatorId,
    .jsonb (requirementsJson order.evidenceRequirements),
    .text order.status.value,
    nullable (order.poolMode.map PoolMode.value),
    nullable order.assigneeId,
    (order.report.map reportJson).elim .null .jsonb,
    .integer order.version,
    .timestamptz order.createdAt,
    .timestamptz order.updatedAt]

/-- The columns that identify an order. -/
def keyColumns : List String := ["organization_id", "id"]

/-- The columns an update sets, to `$3` and what follows it. -/
def updatedColumns : List String :=
  ["public_number", "work_type", "source", "details", "requester_id", "coordinator_id",
    "evidence_requirements", "status", "pool_mode", "assignee_id", "report", "version",
    "created_at", "updated_at"]

def insertedColumns : List String := keyColumns ++ updatedColumns

def insertedRow (order : WorkOrder) : OrderRow :=
  Dict.ofList (insertedColumns.zip (orderValues order))

def updatedRow (previous : OrderRow) (order : WorkOrder) : OrderRow :=
  previous.update (updatedColumns.zip ((orderValues order).drop 2))

/-- The row was inserted for the order, or is the order's row after an update. -/
inductive WrittenRow (order : WorkOrder) : OrderRow → Prop
  | inserted : WrittenRow order (insertedRow order)
  | updated {previous : OrderRow}
      (organization : previous.get? "organization_id" = some (.text order.organizationId))
      (identity : previous.get? "id" = some (.text order.id)) :
      WrittenRow order (updatedRow previous order)

/-! ### The rows of the responses -/

def responseRow (order : WorkOrder) (response : PoolResponse) : ResponseRow :=
  ⟨order.organizationId, order.id, response.executorId, response.status.value,
    response.respondedAt⟩

def responseRows (order : WorkOrder) : List ResponseRow :=
  order.poolResponses.values.map (responseRow order)

/-- The primary key of `pool_responses`. -/
def ResponseRow.key (row : ResponseRow) : String × String × String :=
  (row.organizationId, row.workOrderId, row.executorId)

def ResponseRow.Within (order : WorkOrder) (row : ResponseRow) : Prop :=
  row.organizationId = order.organizationId ∧ row.workOrderId = order.id

instance (order : WorkOrder) (row : ResponseRow) : Decidable (row.Within order) :=
  inferInstanceAs (Decidable (_ ∧ _))

/-- The rows of the order are deleted and written anew, in one transaction. -/
def replaceResponses (table : List ResponseRow) (order : WorkOrder) :
    Except Failure (List ResponseRow) :=
  let after := table.filter (fun row => ¬row.Within order) ++ responseRows order
  if (after.map ResponseRow.key).Nodup then .ok after
  else .error (.concurrencyConflict
    "database uniqueness constraint rejected concurrent assignment")

/-- `ORDER BY responded_at, executor_id` -/
def ResponseRow.upTo (left right : ResponseRow) : Bool :=
  left.respondedAt < right.respondedAt ||
    (left.respondedAt = right.respondedAt && left.executorId ≤ right.executorId)

def selectResponses (table : List ResponseRow) (order : WorkOrder) : List ResponseRow :=
  (table.filter fun row => row.Within order).mergeSort ResponseRow.upTo

/-! ### Reading the rows -/

/-- A column of the row, by name. -/
def column (row : OrderRow) (name : String) : Except Unreadable Column :=
  match row.get? name with
  | none => .error (.keyError name)
  | some found => .ok found

namespace Column

def asText : Column → Except Unreadable String
  | text value => .ok value
  | _ => .error (.typeError "a text column")

def asNullable : Column → Except Unreadable (Option String)
  | text value => .ok (some value)
  | null => .ok none
  | _ => .error (.typeError "a text column")

def asInteger : Column → Except Unreadable Nat
  | integer value => .ok value
  | _ => .error (.typeError "an integer column")

def asTimestamp : Column → Except Unreadable Instant
  | timestamptz value => .ok value
  | _ => .error (.typeError "a timestamptz column")

/-- `_json_value`, where a `jsonb` column returns what it does for a value. -/
def asJson (jsonb : Json → Json) : Column → Except Unreadable Json
  | .jsonb value => .ok (jsonb value)
  | null => .ok .null
  | _ => .error (.typeError "a jsonb column")

end Column

/-- The member of an enumeration with that value. -/
def memberOf {α : Type} (name : String) (value : α → String) (members : List α) (text : String) :
    Except Unreadable α :=
  match members.find? fun member => value member = text with
  | some member => .ok member
  | none => .error (.valueError s!"{Text.repr text} is not a valid {name}")

def statusOf : String → Except Unreadable WorkOrderStatus :=
  memberOf "WorkOrderStatus" WorkOrderStatus.value
    [.submitted, .poolOpen, .assigned, .accepted, .enRoute, .inProgress, .completed, .cancelled]

def responseStatusOf : String → Except Unreadable PoolResponseStatus :=
  memberOf "PoolResponseStatus" PoolResponseStatus.value
    [.interested, .selected, .rejected, .withdrawn]

def poolModeOf : String → Except Unreadable PoolMode :=
  memberOf "PoolMode" PoolMode.value [.curated, .firstClaim]

/-- `PoolMode(row["pool_mode"]) if row["pool_mode"] else None` -/
def optionalPoolMode : Option String → Except Unreadable (Option PoolMode)
  | none => .ok none
  | some text => if text = "" then .ok none else (poolModeOf text).map some

/-- A mapping, as far as the constructors below take one. -/
def asMapping : Json → Except Unreadable (Dict String Json)
  | .obj fields => .ok (Dict.ofList fields)
  | _ => .error (.typeError "not a mapping")

def asTextOrNone : Json → Except Unreadable (Option String)
  | .null => .ok none
  | .str value => .ok (some value)
  | _ => .error (.typeError "not a text")

def asTexts : List Json → Except Unreadable (List String)
  | [] => .ok []
  | .str value :: rest => do
      let others ← asTexts rest
      return value :: others
  | _ :: _ => .error (.typeError "not a text")

/-- `tuple(report_data.get("photo_refs", ()))` -/
def photoRefs (data : Dict String Json) : Except Unreadable (List String) :=
  match data.get? "photo_refs" with
  | none => .ok []
  | some (.arr items) => asTexts items
  | some _ => .error (.typeError "not an array")

def reportFromJson : Json → Except Unreadable (Option CompletionReport)
  | .null => .ok none
  | value => do
      let data ← asMapping value
      let photoRefs ← photoRefs data
      let comment ← asTextOrNone ((data.get? "comment").getD .null)
      let signatureRef ← asTextOrNone ((data.get? "signature_ref").getD .null)
      let customerCode ← asTextOrNone ((data.get? "customer_code").getD .null)
      return some { photoRefs, comment, signatureRef, customerCode }

/-- A keyword argument that has a default. -/
def flag (data : Dict String Json) (name : String) : Except Unreadable Bool :=
  match data.get? name with
  | none => .ok false
  | some (.bool value) => .ok value
  | some _ => .error (.typeError "not a truth value")

def minimumPhotos (data : Dict String Json) : Except Unreadable Int :=
  match data.get? "minimum_photos" with
  | none => .ok 0
  | some (.int value) => .ok value
  | some _ => .error (.typeError "not an integer")

def requirementNames : List String :=
  ["minimum_photos", "comment_required", "signature_required", "customer_code_required"]

/-- `EvidenceRequirements(**requirements_data)` -/
def requirementsFromJson (value : Json) : Except Unreadable EvidenceRequirements := do
  let data ← asMapping value
  if ∀ name ∈ data.keys, name ∈ requirementNames then
    let minimumPhotos ← minimumPhotos data
    let commentRequired ← flag data "comment_required"
    let signatureRequired ← flag data "signature_required"
    let customerCodeRequired ← flag data "customer_code_required"
    if nonNegative : 0 ≤ minimumPhotos then
      return { minimumPhotos, commentRequired, signatureRequired, customerCodeRequired, nonNegative }
    else throw (.valueError "minimum_photos cannot be negative")
  else throw (.typeError "got an unexpected keyword argument")

def responseFromRow (row : ResponseRow) : Except Unreadable (String × PoolResponse) := do
  let status ← responseStatusOf row.status
  return (row.executorId, ⟨row.executorId, status, row.respondedAt⟩)

def responsesFromRows (rows : List ResponseRow) : Except Unreadable (Dict String PoolResponse) := do
  let entries ← rows.mapM responseFromRow
  return Dict.ofList entries

def orderFromRows (jsonb : Json → Json) (row : OrderRow) (responses : List ResponseRow) :
    Except Unreadable WorkOrder := do
  let requirements ← (← column row "evidence_requirements").asJson jsonb
  let report ← reportFromJson (← (← column row "report").asJson jsonb)
  let poolResponses ← responsesFromRows responses
  let id ← (← column row "id").asText
  let publicNumber ← (← column row "public_number").asText
  let organizationId ← (← column row "organization_id").asText
  let workType ← (← column row "work_type").asText
  let source ← (← column row "source").asText
  let details ← asMapping (← (← column row "details").asJson jsonb)
  let requesterId ← (← column row "requester_id").asNullable
  let coordinatorId ← (← column row "coordinator_id").asNullable
  let evidenceRequirements ← requirementsFromJson requirements
  let status ← statusOf (← (← column row "status").asText)
  let poolMode ← optionalPoolMode (← (← column row "pool_mode").asNullable)
  let assigneeId ← (← column row "assignee_id").asNullable
  let version ← (← column row "version").asInteger
  let createdAt ← (← column row "created_at").asTimestamp
  let updatedAt ← (← column row "updated_at").asTimestamp
  if required : id ≠ "" ∧ publicNumber ≠ "" ∧ organizationId ≠ "" ∧ workType ≠ "" then
    return {
      id, publicNumber, organizationId, workType, source, details, requesterId, coordinatorId,
      evidenceRequirements, status, poolMode, assigneeId, poolResponses, report, version,
      createdAt, updatedAt, events := [], required }
  else throw (.valueError "id, public_number, organization_id and work_type are required")

end DispatchCore.Infrastructure
