import DispatchCore.Application.KeptOrders

/-! `POST /v1/orders`: an order is created under a key of the client, and what the client gets
that sends a body under the same key again. -/
namespace DispatchCore.Api

open DispatchCore.Library DispatchCore.Domain DispatchCore.Infrastructure DispatchCore.Application

structure EvidenceRequirementsInput where
  minimumPhotos : Int
  commentRequired : Bool
  signatureRequired : Bool
  customerCodeRequired : Bool
  bounded : 0 ≤ minimumPhotos ∧ minimumPhotos ≤ 20

/-- A body that passes validation, its details as `json.loads` read them. -/
structure CreateOrderInput where
  workType : String
  source : String
  requesterId : Option String
  details : List (String × Document JsonNumber)
  evidence : EvidenceRequirementsInput
  workTypeBounded : 1 ≤ Text.size workType ∧ Text.size workType ≤ 100
  sourceBounded : 1 ≤ Text.size source ∧ Text.size source ≤ 100
  requesterBounded : ∀ requester ∈ requesterId, Text.size requester ≤ 200
  detailsBounded : details.length ≤ 50
  textsBounded : ∀ name text, (name, .str text) ∈ details → Text.size text ≤ 1000
  distinct : (Document.obj details).distinct = true

/-- The header `Idempotency-Key`. -/
structure IdempotencyKey where
  text : String
  bounded : 8 ≤ Text.size text ∧ Text.size text ≤ 200

/-! ### Fingerprints -/

/-- What both fingerprints are made of. -/
def submission (workType source : String) (requesterId : Option String)
    (details : Document JsonNumber) (minimumPhotos : Int)
    (commentRequired signatureRequired customerCodeRequired : Bool) : Document JsonNumber :=
  .obj [("work_type", .str workType), ("source", .str source),
    ("requester_id", requesterId.elim .null .str), ("details", details),
    ("evidence", .obj [("minimum_photos", .number (.int minimumPhotos)),
      ("comment_required", .bool commentRequired),
      ("signature_required", .bool signatureRequired),
      ("customer_code_required", .bool customerCodeRequired)])]

def CreateOrderInput.document (body : CreateOrderInput) : Document JsonNumber :=
  submission body.workType body.source body.requesterId (.obj body.details)
    body.evidence.minimumPhotos body.evidence.commentRequired body.evidence.signatureRequired
    body.evidence.customerCodeRequired

def orderDocument (order : WorkOrder) : Document JsonNumber :=
  submission order.workType order.source order.requesterId (detailsDocument order.details)
    order.evidenceRequirements.minimumPhotos order.evidenceRequirements.commentRequired
    order.evidenceRequirements.signatureRequired order.evidenceRequirements.customerCodeRequired

/-- `json.dumps(value, sort_keys=True, separators=(",", ":"))` -/
def dumps (value : Document JsonNumber) : List Char :=
  (value.sorted byName).text JsonNumber.numbers

/-- Of a body whose numbers are finite: `model_dump` gives it as it was read. -/
def bodyFingerprint (body : CreateOrderInput) : List Char := dumps body.document

def createFingerprint (order : WorkOrder) : List Char := dumps (orderDocument order)

/-! ### The endpoint -/

structure WorkOrderResponse where
  id : String
  publicNumber : String
  organizationId : String
  workType : String
  source : String
  details : Dict String Json
  requesterId : Option String
  coordinatorId : Option String
  status : String
  poolMode : Option String
  assigneeId : Option String
  interestedExecutorIds : List String
  version : Nat
  createdAt : Instant
  updatedAt : Instant

def WorkOrderResponse.fromDomain (order : WorkOrder) : WorkOrderResponse where
  id := order.id
  publicNumber := order.publicNumber
  organizationId := order.organizationId
  workType := order.workType
  source := order.source
  details := order.details
  requesterId := order.requesterId
  coordinatorId := order.coordinatorId
  status := order.status.value
  poolMode := order.poolMode.map PoolMode.value
  assigneeId := order.assigneeId
  interestedExecutorIds := order.interestedExecutorIds
  version := order.version
  createdAt := order.createdAt
  updatedAt := order.updatedAt

inductive CreationAnswer
  | created (response : WorkOrderResponse)
  | refused (status : Nat) (detail : String)
  | serverError

/-- The exception handlers of the application. -/
def failureAnswer : OrderError → CreationAnswer
  | .raised (.notFound message) => .refused 404 message
  | .raised (.invalidTransition message) => .refused 409 message
  | .raised (.evidenceMissing message) => .refused 409 message
  | .raised (.packValidation message) => .refused 409 message
  | .raised (.concurrencyConflict message) => .refused 409 message
  | _ => .serverError

/-- No number of the details is one that JSON does not have. -/
def CreateOrderInput.finite (body : CreateOrderInput) : Bool :=
  (Document.obj body.details).all JsonNumber.finite

def CreateOrderInput.creation (body : CreateOrderInput) (organizationId : String) : Creation where
  organizationId := organizationId
  workType := body.workType
  source := body.source
  details := Dict.ofList (body.details.map fun field => (field.1, field.2.json))
  requesterId := body.requesterId
  evidenceRequirements := some
    ⟨body.evidence.minimumPhotos, body.evidence.commentRequired, body.evidence.signatureRequired,
      body.evidence.customerCodeRequired, body.evidence.bounded.1⟩

/-- What the endpoint is given: its settings, the ids it derives, and the columns it stores in. -/
structure OrderApi where
  organizationId : String
  uuid5 : String → {id : String // id ≠ ""}
  jsonb : Json → Json

namespace OrderApi

variable (api : OrderApi)

def orderId (key : IdempotencyKey) : String :=
  api.uuid5 s!"dispatch:{api.organizationId}:order:{key.text}"

/-- The command of the service.  `jsonb` refuses what `json.dumps` writes for other numbers. -/
def submit (ambient : Ambient) (key : IdempotencyKey) (body : CreateOrderInput)
    (tables : OrderTables) : Except OrderError (WorkOrder × OrderTables) :=
  if body.finite then
    PostgresService.createNewOrder ambient (api.orderId key) (body.creation api.organizationId)
      tables
  else .error .dataError

def createOrder (ambient : Ambient) (key : IdempotencyKey) (body : CreateOrderInput)
    (tables : OrderTables) : CreationAnswer × OrderTables :=
  match api.submit ambient key body tables with
  | .ok (order, after) => (.created (.fromDomain order), after)
  | .error (.raised (.concurrencyConflict _)) =>
      match tables.getOrder api.jsonb (api.organizationId, api.orderId key) with
      | .error failure => (failureAnswer failure, tables)
      | .ok order =>
          if createFingerprint order = bodyFingerprint body then
            (.created (.fromDomain order), tables)
          else
            (.refused 409 "Idempotency-Key was already used for another request", tables)
  | .error failure => (failureAnswer failure, tables)

end OrderApi

/-! ### Submissions -/

section submission

variable {workType source : String} {requesterId : Option String}
  {details other : Document JsonNumber} {minimumPhotos : Int}
  {commentRequired signatureRequired customerCodeRequired : Bool}

theorem submission_map {change : JsonNumber → JsonNumber}
    (whole : ∀ value, change (.int value) = .int value) :
    (submission workType source requesterId details minimumPhotos commentRequired
      signatureRequired customerCodeRequired).map change =
    submission workType source requesterId (details.map change) minimumPhotos commentRequired
      signatureRequired customerCodeRequired := by
  have hphotos : (Document.number (.int minimumPhotos)).map change =
      .number (.int minimumPhotos) := congrArg Document.number (whole minimumPhotos)
  have hrequester : (requesterId.elim .null .str : Document JsonNumber).map change =
      requesterId.elim .null .str := by
    cases requesterId <;> rfl
  unfold submission
  rw [Document.map_obj]
  simp only [List.map_cons, List.map_nil]
  rw [Document.map_obj, hrequester]
  simp only [List.map_cons, List.map_nil, hphotos]
  rfl

theorem submission_alike (alike : details.alike other) :
    (submission workType source requesterId details minimumPhotos commentRequired
      signatureRequired customerCodeRequired).alike
    (submission workType source requesterId other minimumPhotos commentRequired
      signatureRequired customerCodeRequired) := by
  unfold Document.alike at alike ⊢
  unfold submission
  rw [Document.sorted_obj, Document.sorted_obj]
  simp only [List.map_cons, List.map_nil]
  rw [alike]

theorem submission_all {test : JsonNumber → Bool} (whole : ∀ value, test (.int value) = true) :
    (submission workType source requesterId details minimumPhotos commentRequired
      signatureRequired customerCodeRequired).all test = details.all test := by
  have hphotos : (Document.number (.int minimumPhotos)).all test = true := whole minimumPhotos
  have hrequester : (requesterId.elim .null .str : Document JsonNumber).all test = true := by
    cases requesterId <;> rfl
  have hevidence : (Document.obj [("minimum_photos", Document.number (.int minimumPhotos)),
      ("comment_required", .bool commentRequired), ("signature_required", .bool signatureRequired),
      ("customer_code_required", .bool customerCodeRequired)]).all test = true := by
    rw [Document.all_obj]
    simp only [List.forall_mem_cons]
    exact ⟨hphotos, rfl, rfl, rfl, by simp⟩
  rw [Bool.eq_iff_iff, submission, Document.all_obj]
  simp only [List.forall_mem_cons, hrequester, hevidence]
  simp [Document.all, Document.fold]

theorem submission_allTexts {test : String → Bool} (names : ∀ name ∈ ["work_type", "source",
    "requester_id", "details", "evidence", "minimum_photos", "comment_required",
    "signature_required", "customer_code_required"], test name = true) :
    (submission workType source requesterId details minimumPhotos commentRequired
      signatureRequired customerCodeRequired).allTexts test =
    (test workType && test source && details.allTexts test && requesterId.all test) := by
  have hrequester : (requesterId.elim .null .str : Document JsonNumber).allTexts test =
      requesterId.all test := by
    cases requesterId <;> rfl
  simp only [List.forall_mem_cons] at names
  obtain ⟨hwork, hsource, hid, hdetails, hevidence, hphotos, hcomment, hsignature, hcode, -⟩ := names
  have hrules : (Document.obj [("minimum_photos", Document.number (JsonNumber.int minimumPhotos)),
      ("comment_required", .bool commentRequired), ("signature_required", .bool signatureRequired),
      ("customer_code_required", .bool customerCodeRequired)]).allTexts test = true := by
    rw [Document.allTexts_obj]
    simp only [List.forall_mem_cons]
    exact ⟨⟨hphotos, rfl⟩, ⟨hcomment, rfl⟩, ⟨hsignature, rfl⟩, ⟨hcode, rfl⟩, by simp⟩
  rw [Bool.eq_iff_iff, submission, Document.allTexts_obj]
  simp only [List.forall_mem_cons, hrequester, hrules, hwork, hsource, hid, hdetails, hevidence,
    Bool.and_eq_true]
  simp only [Document.allTexts, Document.fold, true_and, List.not_mem_nil, false_implies,
    implies_true, and_true]
  tauto

end submission

theorem dumps_eq_iff {left right : Document JsonNumber} :
    dumps left = dumps right ↔ left.alike right := Document.text_injective.eq_iff

namespace CreateOrderInput

variable {body : CreateOrderInput} {organizationId : String}

/-- All the texts and numbers of the body can be stored. -/
def storable (body : CreateOrderInput) : Bool :=
  body.document.all JsonNumber.finite && body.document.allTexts withoutNul

/-- The same body, whatever the order of the members. -/
def same (body other : CreateOrderInput) : Prop := body.document.alike other.document

theorem finite_document (body : CreateOrderInput) :
    body.document.all JsonNumber.finite = body.finite :=
  submission_all fun _ => rfl

theorem document_settled (body : CreateOrderInput) : body.document.map JsonNumber.settled =
    submission body.workType body.source body.requesterId
      ((Document.obj body.details).map JsonNumber.settled) body.evidence.minimumPhotos
      body.evidence.commentRequired body.evidence.signatureRequired
      body.evidence.customerCodeRequired :=
  submission_map fun _ => rfl

theorem detailsDocument_creation (finite : body.finite = true) :
    detailsDocument (body.creation organizationId).details =
      (Document.obj body.details).map JsonNumber.unsigned := by
  have hnames : ((body.details.map fun field => (field.1, field.2.json)).map Prod.fst).Nodup := by
    rw [List.map_map]
    exact (Document.distinct_obj.mp body.distinct).1
  rw [detailsDocument, creation, Dict.entries_ofList hnames, ← Document.json_obj]
  exact Document.document_json finite

theorem storable_creation (finite : body.finite = true) :
    (body.creation organizationId).storable = body.document.allTexts withoutNul := by
  rw [Creation.storable, detailsDocument_creation finite, Document.allTexts_map, document,
    submission_allTexts (by decide)]
  rfl

/-- A body that is the same is stored as well. -/
theorem same.storable {other : CreateOrderInput} (same : body.same other) :
    body.storable = other.storable := by
  unfold CreateOrderInput.storable
  rw [same.all, same.allTexts]

/-- The same body under the same key is the one that was stored exactly when the column leaves
its numbers alone. -/
theorem settled_alike_iff : (body.document.map JsonNumber.settled).alike body.document ↔
    body.document.all JsonNumber.plain = true := by
  unfold Document.alike
  rw [← Document.map_sorted, Document.map_eq_self_iff, Document.all_sorted]
  have htest : (fun value : JsonNumber => decide (value.settled = value)) = JsonNumber.plain := by
    funext value
    rw [Bool.eq_iff_iff, decide_eq_true_eq]
    exact value.settled_eq_self_iff
  rw [htest]

end CreateOrderInput

/-! ### The order that was created first -/

section again

variable {api : OrderApi} {key : IdempotencyKey} {first : CreateOrderInput} {created : WorkOrder}
  {tables after : OrderTables}

/-- The tables hold the order that the first body under the key created. -/
structure CreatedFirst (api : OrderApi) (key : IdempotencyKey) (first : CreateOrderInput)
    (created : WorkOrder) (tables : OrderTables) : Prop where
  origin : ∃ publicNumber, originOf created = ⟨api.orderId key, publicNumber, api.organizationId,
    first.workType, first.source, (first.creation api.organizationId).details, first.requesterId,
    ⟨first.evidence.minimumPhotos, first.evidence.commentRequired, first.evidence.signatureRequired,
      first.evidence.customerCodeRequired, first.evidence.bounded.1⟩⟩
  finite : first.finite = true
  storable : first.storable = true
  organization : api.organizationId ≠ "" ∧ withoutNul api.organizationId = true
  identity : withoutNul (api.orderId key) = true
  holds : ∃ order, Holds created tables order

theorem CreatedFirst.rowKey (stored : CreatedFirst api key first created tables) :
    rowKey created = (api.organizationId, api.orderId key) := by
  obtain ⟨publicNumber, horigin⟩ := stored.origin
  exact Prod.ext (congrArg Origin.organizationId horigin) (congrArg Origin.id horigin)

/-- Details of a body are stored with separate names. -/
theorem CreatedFirst.settled (stored : CreatedFirst api key first created tables) :
    (detailsDocument created.details).distinct = true ∧
      (detailsDocument created.details).map JsonNumber.settled =
        (Document.obj first.details).map JsonNumber.settled := by
  obtain ⟨publicNumber, horigin⟩ := stored.origin
  have hdetails : created.details = (first.creation api.organizationId).details :=
    congrArg Origin.details horigin
  rw [hdetails, CreateOrderInput.detailsDocument_creation stored.finite, Document.distinct_map,
    Document.map_map, JsonNumber.settled_unsigned]
  exact ⟨first.distinct, rfl⟩

theorem createdFirst {ambient : Ambient} {response : WorkOrderResponse}
    (free : tables.orders.get? (api.organizationId, api.orderId key) = none)
    (done : api.createOrder ambient key first tables = (.created response, after)) :
    ∃ created, response = .fromDomain created ∧ CreatedFirst api key first created after := by
  unfold OrderApi.createOrder at done
  cases hsubmit : api.submit ambient key first tables with
  | error failure =>
      -- Without an order under the key there is none to return.
      rw [hsubmit] at done
      cases failure with
      | raised failure =>
          cases failure with
          | concurrencyConflict message =>
              have hget : tables.getOrder api.jsonb (api.organizationId, api.orderId key) =
                  .error (.raised (.notFound
                    s!"work order {Text.repr (api.orderId key)} was not found")) := by
                unfold OrderTables.getOrder
                rw [free]
              simp only [hget] at done
              cases done
          | invalidTransition | evidenceMissing | packValidation | valueError | notFound
          | runtimeError | typeError => cases done
      | unreadable | dataError => cases done
  | ok result =>
      obtain ⟨created, found⟩ := result
      rw [hsubmit] at done
      obtain ⟨hresponse, rfl⟩ := Prod.mk.inj done
      unfold OrderApi.submit at hsubmit
      by_cases hfinite : first.finite = true
      · rw [if_pos hfinite] at hsubmit
        obtain ⟨⟨publicNumber, horigin⟩, -, horganization, hnul, hidentity, hstorable, hholds⟩ :=
          PostgresService.createNewOrder_ok hsubmit
        refine ⟨created, (CreationAnswer.created.inj hresponse).symm, ⟨publicNumber, horigin⟩, hfinite, ?_,
          ⟨horganization, hnul⟩, hidentity, hholds⟩
        rw [CreateOrderInput.storable_creation hfinite] at hstorable
        unfold CreateOrderInput.storable
        rw [first.finite_document, hfinite, hstorable]
        rfl
      · rw [if_neg hfinite] at hsubmit
        contradiction

theorem CreatedFirst.later (returns : ReturnsValues api.jsonb)
    (stored : CreatedFirst api key first created tables) (later : List Progress) :
    CreatedFirst api key first created (later.foldl (Progress.next api.jsonb) tables) :=
  { stored with holds := holds_run returns stored.settled.1 stored.holds later }

/-- What is read under the key: the first body, as the columns give it back. -/
theorem CreatedFirst.getOrder (returns : ReturnsValues api.jsonb)
    (stored : CreatedFirst api key first created tables) :
    ∃ loaded, tables.getOrder api.jsonb (api.organizationId, api.orderId key) = .ok loaded ∧
      loaded.id = created.id ∧ loaded.publicNumber = created.publicNumber ∧
      (orderDocument loaded).alike (first.document.map JsonNumber.settled) := by
  obtain ⟨order, hholds⟩ := stored.holds
  obtain ⟨publicNumber, horigin⟩ := stored.origin
  obtain ⟨hdistinct, hsettled⟩ := stored.settled
  obtain ⟨loaded, hloaded, -, hcontinues, hdetails⟩ := hholds.getOrder returns hdistinct
  have hloadedOrigin := hcontinues.origin
  have hid : loaded.id = created.id := congrArg Origin.id hloadedOrigin
  have hnumber : loaded.publicNumber = created.publicNumber :=
    congrArg Origin.publicNumber hloadedOrigin
  rw [stored.rowKey] at hloaded
  rw [horigin] at hloadedOrigin
  refine ⟨loaded, hloaded, hid, hnumber, ?_⟩
  have hwork : loaded.workType = first.workType := congrArg Origin.workType hloadedOrigin
  have hsource : loaded.source = first.source := congrArg Origin.source hloadedOrigin
  have hrequester : loaded.requesterId = first.requesterId :=
    congrArg Origin.requesterId hloadedOrigin
  have hrules : loaded.evidenceRequirements = _ :=
    congrArg Origin.evidenceRequirements hloadedOrigin
  rw [orderDocument, hwork, hsource, hrequester, hrules, first.document_settled]
  rw [hsettled] at hdetails
  exact submission_alike hdetails

/-- Another number can be given out. -/
def HasRoom (tables : OrderTables) (organizationId : String) : Prop :=
  (tables.counters.get? organizationId).getD 0 + 1 < NumberingTables.bigintLimit

instance (tables : OrderTables) (organizationId : String) :
    Decidable (HasRoom tables organizationId) := inferInstanceAs (Decidable (_ < _))

theorem CreatedFirst.submit (stored : CreatedFirst api key first created tables)
    (again : Ambient) (second : CreateOrderInput) :
    api.submit again key second tables = .error
      (if HasRoom tables api.organizationId ∧ second.storable = true then
        .raised (.concurrencyConflict s!"work order {Text.repr (api.orderId key)} already exists")
      else .dataError) := by
  have hfinite := second.finite_document
  have hstorable : second.storable = (second.finite && second.document.allTexts withoutNul) := by
    unfold CreateOrderInput.storable
    rw [hfinite]
  unfold OrderApi.submit
  by_cases hsecond : second.finite = true
  · have hwork : second.workType ≠ "" := by
      intro hempty
      have hsize := second.workTypeBounded.1
      rw [hempty] at hsize
      exact absurd hsize (by decide)
    obtain ⟨order, hholds⟩ := stored.holds
    obtain ⟨row, hrow, -⟩ := hholds.row
    rw [stored.rowKey] at hrow
    have htaken := @PostgresService.createNewOrder_taken again (api.orderId key)
      (second.creation api.organizationId) tables
      ⟨(api.uuid5 _).property, stored.organization.1, hwork⟩ stored.organization.2
      stored.identity row hrow
    rw [CreateOrderInput.storable_creation hsecond] at htaken
    rw [if_pos hsecond, hstorable, hsecond, Bool.true_and]
    exact htaken
  · rw [if_neg hsecond, hstorable, if_neg fun h => ?_]
    exact hsecond (Bool.and_eq_true_iff.mp h.2).1

/-- The answer to a body under the key of the first. -/
theorem CreatedFirst.again (returns : ReturnsValues api.jsonb)
    (stored : CreatedFirst api key first created tables) (again : Ambient)
    (second : CreateOrderInput) :
    ∃ loaded, tables.getOrder api.jsonb (api.organizationId, api.orderId key) = .ok loaded ∧
      loaded.id = created.id ∧ loaded.publicNumber = created.publicNumber ∧
      (¬(HasRoom tables api.organizationId ∧ second.storable = true) →
        api.createOrder again key second tables = (.serverError, tables)) ∧
      (HasRoom tables api.organizationId ∧ second.storable = true →
        ((first.document.map JsonNumber.settled).alike second.document →
          api.createOrder again key second tables = (.created (.fromDomain loaded), tables)) ∧
        (¬(first.document.map JsonNumber.settled).alike second.document →
          api.createOrder again key second tables =
            (.refused 409 "Idempotency-Key was already used for another request", tables))) := by
  obtain ⟨loaded, hloaded, hid, hnumber, halike⟩ := stored.getOrder returns
  have hsubmit := stored.submit again second
  have hprint : createFingerprint loaded = bodyFingerprint second ↔
      (first.document.map JsonNumber.settled).alike second.document := by
    unfold createFingerprint bodyFingerprint
    rw [dumps_eq_iff]
    exact ⟨fun h => halike.symm.trans h, fun h => halike.trans h⟩
  refine ⟨loaded, hloaded, hid, hnumber, ?_, ?_⟩
  · intro hrefused
    rw [if_neg hrefused] at hsubmit
    unfold OrderApi.createOrder
    simp only [hsubmit]
    rfl
  · intro haccepted
    rw [if_pos haccepted] at hsubmit
    unfold OrderApi.createOrder
    simp only [hsubmit, hloaded]
    exact ⟨fun h => if_pos (hprint.mpr h), fun h => if_neg (mt hprint.mp h)⟩

end again

/-! ### Repeating a creation -/

/-- The order is returned that was created first, as it is now, and nothing is written. -/
def ReturnsFirst (api : OrderApi) (key : IdempotencyKey) (response : WorkOrderResponse)
    (tables : OrderTables) (result : CreationAnswer × OrderTables) : Prop :=
  ∃ order, tables.getOrder api.jsonb (api.organizationId, api.orderId key) = .ok order ∧
    order.id = response.id ∧ order.publicNumber = response.publicNumber ∧
    result = (.created (.fromDomain order), tables)

/-- The answer is 409, and nothing is written. -/
def Refuses (tables : OrderTables) (result : CreationAnswer × OrderTables) : Prop :=
  ∃ detail, result = (.refused 409 detail, tables)

/-- After an order was created under a key, and whatever followed, a body under the key gets the
order if it is the same and 409 if it is another, exactly as long as numbers are left for orders,
the same body has only numbers that `jsonb` gives back as they were written, and another one can
be stored and is not what `jsonb` made of the first. -/
theorem creation_idempotent_iff (api : OrderApi) (returns : ReturnsValues api.jsonb)
    {tables after : OrderTables} {ambient : Ambient} {key : IdempotencyKey}
    {first : CreateOrderInput} {response : WorkOrderResponse}
    (free : tables.orders.get? (api.organizationId, api.orderId key) = none)
    (done : api.createOrder ambient key first tables = (.created response, after))
    (later : List Progress) (again : Ambient) (second : CreateOrderInput) :
    ((first.same second → ReturnsFirst api key response (later.foldl (Progress.next api.jsonb) after)
        (api.createOrder again key second (later.foldl (Progress.next api.jsonb) after))) ∧
      (¬first.same second → Refuses (later.foldl (Progress.next api.jsonb) after)
        (api.createOrder again key second (later.foldl (Progress.next api.jsonb) after)))) ↔
    HasRoom (later.foldl (Progress.next api.jsonb) after) api.organizationId ∧
      (first.same second → first.document.all JsonNumber.plain = true) ∧
      (¬first.same second → second.storable = true ∧
        ¬(first.document.map JsonNumber.settled).alike second.document) := by
  obtain ⟨created, rfl, hfirst⟩ := createdFirst free done
  have hstored := hfirst.later returns later
  obtain ⟨loaded, hloaded, hid, hnumber, hfailed, hanswered⟩ := hstored.again returns again second
  generalize later.foldl (Progress.next api.jsonb) after = now at *
  by_cases hsame : first.same second
  · have hstorable : second.storable = true := hsame.storable ▸ hstored.storable
    have hplain : (first.document.map JsonNumber.settled).alike second.document ↔
        first.document.all JsonNumber.plain = true := by
      rw [← CreateOrderInput.settled_alike_iff]
      exact ⟨fun h => h.trans hsame.symm, fun h => h.trans hsame⟩
    simp only [hsame, true_implies, not_true_eq_false, false_implies, and_true]
    constructor
    · rintro ⟨order, -, -, -, hresult⟩
      by_cases hroom : HasRoom now api.organizationId
      · refine ⟨hroom, ?_⟩
        by_contra hspelt
        have hrefused := (hanswered ⟨hroom, hstorable⟩).2 (mt hplain.mp hspelt)
        rw [hrefused] at hresult
        cases hresult
      · rw [hfailed fun h => hroom h.1] at hresult
        cases hresult
    · rintro ⟨hroom, hspelt⟩
      exact ⟨loaded, hloaded, hid, hnumber,
        (hanswered ⟨hroom, hstorable⟩).1 (hplain.mpr hspelt)⟩
  · simp only [hsame, false_implies, true_and, not_false_eq_true, true_implies]
    constructor
    · rintro ⟨detail, hresult⟩
      by_cases haccepted : HasRoom now api.organizationId ∧ second.storable = true
      · refine ⟨haccepted.1, haccepted.2, fun halike => ?_⟩
        rw [(hanswered haccepted).1 halike] at hresult
        cases hresult
      · rw [hfailed haccepted] at hresult
        cases hresult
    · rintro ⟨hroom, hstorable, hother⟩
      exact ⟨_, (hanswered ⟨hroom, hstorable⟩).2 hother⟩

/-! ### Two bodies -/

/-- Members by the length of their names, and then by these. -/
def jsonbOrder (left right : String) : Bool :=
  left.utf8ByteSize < right.utf8ByteSize ||
    (left.utf8ByteSize = right.utf8ByteSize && left ≤ right)

def settlingJsonb (value : Json) : Json :=
  ((value.document.map JsonNumber.settled).sorted jsonbOrder).json

theorem settlingJsonb_returns : ReturnsValues settlingJsonb := by
  intro value hdistinct
  have hfinite : ((value.document.map JsonNumber.settled).sorted jsonbOrder).all
      JsonNumber.finite = true := by
    rw [Document.all_sorted, Document.all_map]
    exact (congrArg (fun test => value.document.all test)
      JsonNumber.finite_settled).trans value.finite_document
  rw [settlingJsonb, Document.document_json hfinite, Document.map_sorted, Document.map_map,
    JsonNumber.unsigned_settled]
  refine Document.sorted_sorted byName_order ?_
  rw [Document.distinct_map]
  exact hdistinct

def acmeApi : OrderApi where
  organizationId := "acme"
  uuid5 := fun _ => ⟨"397b8025-9dba-5418-9799-d91c5248e623", by decide⟩
  jsonb := settlingJsonb

def retryKey : IdempotencyKey := ⟨"retry-001", by decide⟩

/-- A body with one number. -/
def numberedBody (number : JsonNumber) : CreateOrderInput where
  workType := "repair"
  source := "web"
  requesterId := none
  details := [("amount", .number number)]
  evidence := ⟨0, false, false, false, by decide⟩
  workTypeBounded := by decide
  sourceBounded := by decide
  requesterBounded := by simp
  detailsBounded := Nat.le_of_lt_succ (by simp)
  textsBounded := by simp
  distinct := rfl

def noOrders : OrderTables where
  orders := .empty
  identified := fun _ _ h => by contradiction
  responses := []
  keyed := List.nodup_nil
  counters := .empty
  outbox := .empty

def firstRun (number : JsonNumber) : CreationAnswer × OrderTables :=
  acmeApi.createOrder ⟨⟨0⟩, "e1"⟩ retryKey (numberedBody number) noOrders

def CreationAnswer.isCreated : CreationAnswer → Bool
  | created _ => true
  | _ => false

theorem firstRun_created {number : JsonNumber} (h : (firstRun number).1.isCreated = true) :
    ∃ response, firstRun number = (.created response, (firstRun number).2) := by
  cases hanswer : (firstRun number).1 with
  | created response => exact ⟨response, Prod.ext hanswer rfl⟩
  | refused | serverError =>
      rw [hanswer] at h
      contradiction

/-- Another order follows the first. -/
def followed : List Progress :=
  [.created ⟨⟨1⟩, "e2"⟩ "o2" ⟨"acme", "repair", "web", .empty, none, none⟩]

theorem small_number_repeated : ∃ response,
    firstRun (.int 2) = (.created response, (firstRun (.int 2)).2) ∧
    ReturnsFirst acmeApi retryKey response
      (followed.foldl (Progress.next settlingJsonb) (firstRun (.int 2)).2)
      (acmeApi.createOrder ⟨⟨2⟩, "e3"⟩ retryKey (numberedBody (.int 2))
        (followed.foldl (Progress.next settlingJsonb) (firstRun (.int 2)).2)) := by
  obtain ⟨response, hdone⟩ := @firstRun_created (.int 2) (by decide +kernel)
  refine ⟨response, hdone, ?_⟩
  have hsame : (numberedBody (.int 2)).same (numberedBody (.int 2)) := Eq.refl _
  refine ((creation_idempotent_iff acmeApi settlingJsonb_returns rfl hdone followed _ _).mpr
    ⟨?_, fun _ => rfl, fun h => absurd hsame h⟩).1 hsame
  decide +kernel

/-- `1e16` comes back as `10000000000000000`, and the same body is refused. -/
theorem large_number_refused : ∃ response,
    firstRun (.float (10 ^ 16)) = (.created response, (firstRun (.float (10 ^ 16))).2) ∧
    acmeApi.createOrder ⟨⟨2⟩, "e3"⟩ retryKey (numberedBody (.float (10 ^ 16)))
        (firstRun (.float (10 ^ 16))).2 =
      (.refused 409 "Idempotency-Key was already used for another request",
        (firstRun (.float (10 ^ 16))).2) := by
  obtain ⟨response, hdone⟩ := @firstRun_created (.float (10 ^ 16)) (by decide +kernel)
  obtain ⟨created, -, hstored⟩ := createdFirst rfl hdone
  obtain ⟨loaded, -, -, -, -, hanswered⟩ := hstored.again settlingJsonb_returns ⟨⟨2⟩, "e3"⟩
    (numberedBody (.float (10 ^ 16)))
  refine ⟨response, hdone, (hanswered ⟨?_, hstored.storable⟩).2 ?_⟩
  · decide +kernel
  · rw [CreateOrderInput.settled_alike_iff]
    decide +kernel

end DispatchCore.Api
