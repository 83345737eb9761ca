import HeyKevin.L1Encoding.IsoFormat
import HeyKevin.L3Repository.InMemory
import HeyKevin.L3Repository.Proposals
/-!
# The stored request document

`app/db/service_requests.py:108-735`: what one document of a contractor's
`service_requests` collection holds, and the functions that read and write it.
A document is one of three shapes told apart by the fields it has: a create
that waits for its provider, a request with local execution, and a request
that a provider executes, with or without a proposed operation.

A document maps its fields to values. No writer stores a field outside
`Field`. Ids hold no `/`.

Line numbers are those of app/db/service_requests.py.
-/
namespace HeyKevin.L3.Firestore

open HeyKevin.Core L1 L1.Text L1.Datetime L2

/-! ## Documents -/

inductive Field
  | customer_key
  | execution_kind
  | status
  | updated_at
  | expires_at
  | aggregate
  | provider_binding
  | finalized_provider_create_receipt
  | pending_provider_create
  | pending_provider_operation
  | provider_recovery_state
  | provider_recovery_attempts
  | next_attempt_at
  | provider_recovery_lease
deriving DecidableEq, Repr

def Field.all : List Field :=
  [customer_key, execution_kind, status, updated_at, expires_at, aggregate, provider_binding,
    finalized_provider_create_receipt, pending_provider_create, pending_provider_operation,
    provider_recovery_state, provider_recovery_attempts, next_attempt_at, provider_recovery_lease]

abbrev Document := Field → Option Value

namespace Document

/-- `data.get(f)` -/
def get (d : Document) (f : Field) : Value := (d f).getD .none

/-- `f in data` -/
def has (d : Document) (f : Field) : Bool := (d f).isSome

/-- `data[f] = v` -/
def set (d : Document) (f : Field) (v : Value) : Document := fun g => if f = g then some v else d g

/-- `data.pop(f, None)` -/
def pop (d : Document) (f : Field) : Document := fun g => if f = g then none else d g

/-- `data.update(e)` -/
def update (d e : Document) : Document := fun g => (e g).or (d g)

def ofList (fields : List (Field × Value)) : Document := fun f => fields.lookup f

/-- `set(data) == set(fs)` -/
def keysAre (d : Document) (fs : List Field) : Bool :=
  Field.all.all fun f => d.has f == fs.contains f

end Document

/-! ## Errors -/

/-- `except (TypeError, ValueError)` -/
def isTypeOrValueError : Err → Bool
  | .overflow => false
  | .repositoryConflict _ => false
  | .providerBindingRequired _ => false
  | _ => true

def conflictOn {α : Type} (message : String) (x : Except Err α) : Except Err α :=
  x.mapError fun e => if isTypeOrValueError e then .repositoryConflict message else e

@[simp] theorem conflictOn_eq_ok {α : Type} {message : String} {x : Except Err α} {a : α} :
    conflictOn message x = .ok a ↔ x = .ok a := mapError_eq_ok

@[simp] theorem conflictOn_ok {α : Type} (message : String) (a : α) :
    conflictOn message (Except.ok a) = .ok a := rfl

/-! ## Constants -/

def RETENTION_DAYS : ℤ := 90
def PROVIDER_OPERATION_SCHEMA_VERSION : ℤ := 2
def PROVIDER_CREATE_SCHEMA_VERSION : ℤ := 1
def PENDING_PROVIDER_CREATE_STATUS : String := "pending_provider_create"
def PROVIDER_RECOVERY_PENDING : String := "pending"
def PROVIDER_RECOVERY_NEEDS_REVIEW : String := "needs_review"
def RECOVERY_BACKOFF_BASE_SECONDS : ℤ := 30
def RECOVERY_BACKOFF_MAX_SECONDS : ℤ := 6 * 3600

def second : ℤ := 1000000

/-! ## Values inside a document -/

def requireDict (value : Value) (keys : List String) (message : String) : Except Err Dict :=
  match value with
  | .dict data => do
    ensure (Dict.keysAre data keys) (.repositoryConflict message)
    return data
  | _ => .error (.repositoryConflict message)

/-- `require` for a field that a constructor takes as a string. -/
def requireStr (value : Value) (message : String) : Except Err Str :=
  match value with
  | .str s => .ok s
  | _ => .error (.repositoryConflict message)

def requireInt (value : Value) (message : String) : Except Err ℤ :=
  match value with
  | .number (.int z) => .ok z
  | _ => .error (.repositoryConflict message)

/-- mirrors 119-122 -/
def bindingToDict (binding : ProviderBinding) : Value :=
  .dict [("kind", .str binding.kind), ("resource_id", .str binding.resource_id)]

/-- mirrors 125-133 -/
def bindingFromDict (value : Value) : Except Err (Option ProviderBinding) :=
  match value with
  | .none => .ok none
  | value => do
    let data ← requireDict value ["kind", "resource_id"] "provider binding has an invalid schema"
    let binding ← conflictOn "provider binding is invalid"
      (ProviderBinding.make (data.get "kind") (data.get "resource_id"))
    return some binding

variable {P : Python}

def resultToDict (result : CommandResult P) : Value :=
  .dict [("request", .dict result.request.toDict), ("outcome", .dict result.outcome.toDict)]

variable (P) in
/-- The two halves of a stored result, as `from_dict` reads them. -/
def resultFromDict (value : Value) (schema invalid wrapped : String) :
    Except Err (CommandResult P) := do
  let data ← requireDict value ["request", "outcome"] schema
  ensure (Value.isDict (data.get "request") ∧ Value.isDict (data.get "outcome"))
    (.repositoryConflict invalid)
  conflictOn wrapped do
    let request ← ServiceRequest.fromDict P (data.get "request")
    let outcome ← Outcome.fromDict P (data.get "outcome")
    return ⟨request, outcome⟩

/-! ## Proposed operations -/

def proposalData (p : PreparedProviderOperation P) : Dict :=
  [("operation", .text p.operation.value),
    ("arguments", .dict (p.arguments.map fun a => (a.1, .str a.2))),
    ("result", resultToDict p.result)]

def operationData (p : PreparedProviderOperation P) : Dict :=
  [("schema_version", .int PROVIDER_OPERATION_SCHEMA_VERSION),
    ("logical_operation_id", .str p.logical_operation_id),
    ("semantic_fingerprint", .str p.command_fingerprint),
    ("base_revision", .int p.base_revision),
    ("origin_idempotency_key", .str p.idempotency_key),
    ("proposal", .dict (proposalData p))]

/-- mirrors 136-152 -/
def pendingOperationData (p : PreparedProviderOperation P) : Except Err Value := do
  validatePreparedProviderOperation p
  return .dict (operationData p)

/-- `isinstance(arguments, dict)` with text values, in the order of its keys. -/
def proposalArguments (value : Value) : Except Err (List (String × Str)) :=
  match value with
  | .dict data => do
    let arguments ← data.mapM fun (key, item) => do
      let item ← requireStr item "provider proposal arguments are invalid"
      return (key, item)
    return arguments.insertionSort fun a b => a.1 ≤ b.1
  | _ => .error (.repositoryConflict "provider proposal arguments are invalid")

/-- mirrors 155-214 -/
def pendingOperationFromData (value : Value) (contractor_id customer_key request_id : Str)
    (binding : ProviderBinding) (base_request : ServiceRequest P) :
    Except Err (PreparedProviderOperation P) := do
  let data ← requireDict value ["schema_version", "logical_operation_id", "semantic_fingerprint",
    "base_revision", "origin_idempotency_key", "proposal"]
    "pending provider operation has an invalid schema"
  ensure ((data.get "schema_version").isInt PROVIDER_OPERATION_SCHEMA_VERSION)
    (.repositoryConflict "pending provider operation schema is unsupported")
  let proposal ← requireDict (data.get "proposal") ["operation", "arguments", "result"]
    "provider proposal has an invalid schema"
  let arguments ← proposalArguments (proposal.get "arguments")
  let result ← resultFromDict P (proposal.get "result")
    "provider proposal result has an invalid schema" "provider proposal result is invalid"
    "provider proposal is invalid"
  let operation ← conflictOn "provider proposal is invalid"
    (parseOperation (proposal.get "operation"))
  let logical_operation_id ←
    requireStr (data.get "logical_operation_id") "provider proposal is invalid"
  let idempotency_key ←
    requireStr (data.get "origin_idempotency_key") "provider proposal is invalid"
  let command_fingerprint ←
    requireStr (data.get "semantic_fingerprint") "provider proposal is invalid"
  let base_revision ← requireInt (data.get "base_revision") "provider proposal is invalid"
  let preparation : PreparedProviderOperation P :=
    { logical_operation_id := logical_operation_id
      contractor_id := contractor_id
      customer_key := customer_key
      request_id := request_id
      idempotency_key := idempotency_key
      binding := binding
      base_request := base_request
      result := result
      command_fingerprint := command_fingerprint
      operation := operation
      arguments := arguments
      base_revision := base_revision }
  conflictOn "provider proposal is invalid" (validatePreparedProviderOperation preparation)
  return preparation

/-! ## Proposed creates -/

def createData (p : PreparedProviderCreate P) : Dict :=
  [("schema_version", .int PROVIDER_CREATE_SCHEMA_VERSION),
    ("logical_operation_id", .str p.logical_operation_id),
    ("semantic_fingerprint", .str p.semantic_fingerprint),
    ("command_fingerprint", .str p.command_fingerprint),
    ("base_revision", .int p.base_revision),
    ("origin_idempotency_key", .str p.idempotency_key),
    ("binding", bindingToDict p.binding),
    ("title", .str p.title),
    ("description", .str p.description),
    ("result", resultToDict p.result)]

/-- mirrors 217-235 -/
def pendingCreateData (p : PreparedProviderCreate P) : Except Err Value := do
  validatePreparedProviderCreate p
  return .dict (createData p)

variable (P) in
/-- mirrors 238-292 -/
def pendingCreateFromData (value : Value) (contractor_id customer_key request_id : Str) :
    Except Err (PreparedProviderCreate P) := do
  let data ← requireDict value ["schema_version", "logical_operation_id", "semantic_fingerprint",
    "command_fingerprint", "base_revision", "origin_idempotency_key", "binding", "title",
    "description", "result"] "pending provider create has an invalid schema"
  ensure ((data.get "schema_version").isInt PROVIDER_CREATE_SCHEMA_VERSION)
    (.repositoryConflict "pending provider create schema is unsupported")
  let result ← resultFromDict P (data.get "result")
    "provider create result has an invalid schema" "provider create result is invalid"
    "provider create proposal is invalid"
  let binding ← bindingFromDict (data.get "binding")
  let binding ← require binding (.repositoryConflict "provider create binding is missing")
  let logical_operation_id ←
    requireStr (data.get "logical_operation_id") "provider create proposal is invalid"
  let idempotency_key ←
    requireStr (data.get "origin_idempotency_key") "provider create proposal is invalid"
  let command_fingerprint ←
    requireStr (data.get "command_fingerprint") "provider create proposal is invalid"
  let semantic_fingerprint ←
    requireStr (data.get "semantic_fingerprint") "provider create proposal is invalid"
  let title ← requireStr (data.get "title") "provider create proposal is invalid"
  let description ← requireStr (data.get "description") "provider create proposal is invalid"
  let base_revision ←
    requireInt (data.get "base_revision") "provider create proposal is invalid"
  let preparation : PreparedProviderCreate P :=
    { logical_operation_id := logical_operation_id
      contractor_id := contractor_id
      customer_key := customer_key
      request_id := request_id
      idempotency_key := idempotency_key
      binding := binding
      result := result
      command_fingerprint := command_fingerprint
      semantic_fingerprint := semantic_fingerprint
      title := title
      description := description
      base_revision := base_revision }
  conflictOn "provider create proposal is invalid" (validatePreparedProviderCreate preparation)
  return preparation

/-- mirrors 295-309 -/
def pendingCreateFields (p : PreparedProviderCreate P) (customer_key : Str) :
    Except Err Document := do
  let pending ← pendingCreateData p
  return .ofList [
    (.customer_key, .str customer_key),
    (.status, .text PENDING_PROVIDER_CREATE_STATUS),
    (.provider_recovery_state, .text PROVIDER_RECOVERY_PENDING),
    (.provider_recovery_attempts, .int 0),
    (.next_attempt_at, .time p.result.request.data.updated_at),
    (.updated_at, .time p.result.request.data.updated_at),
    (.pending_provider_create, pending)]

def receiptData (logical_operation_id semantic_fingerprint : Str) (binding : ProviderBinding)
    (result : CommandResult P) : Dict :=
  [("schema_version", .int PROVIDER_CREATE_SCHEMA_VERSION),
    ("logical_operation_id", .str logical_operation_id),
    ("semantic_fingerprint", .str semantic_fingerprint),
    ("binding", bindingToDict binding),
    ("result", resultToDict result)]

/-- mirrors 312-324 -/
def finalizedCreateReceiptData (p : PreparedProviderCreate P) : Value :=
  .dict (receiptData p.logical_operation_id p.semantic_fingerprint p.binding p.result)

/-- mirrors 643-655 -/
def appliedResult (request : ServiceRequest P) (command_fingerprint : Str) :
    Option (CommandResult P) :=
  match request.data.idempotency_records.filter fun record =>
      record.data.command_fingerprint = command_fingerprint with
  | [record] => some ⟨request, record.data.outcome⟩
  | _ => none

def RECEIPT_KEYS : List String :=
  ["schema_version", "logical_operation_id", "semantic_fingerprint", "binding", "result"]

/-- mirrors 327-372 -/
def validateFinalizedCreateReceipt (value : Value) (p : PreparedProviderCreate P) :
    Except Err (CommandResult P) := do
  let data ← requireDict value RECEIPT_KEYS "provider create receipt has an invalid schema"
  ensure ((data.get "schema_version").isInt PROVIDER_CREATE_SCHEMA_VERSION ∧
      (data.get "logical_operation_id").isStr p.logical_operation_id ∧
      (data.get "semantic_fingerprint").isStr p.semantic_fingerprint)
    (.repositoryConflict "provider create receipt does not match")
  let binding ← bindingFromDict (data.get "binding")
  ensure (binding = some p.binding) (.repositoryConflict "provider create receipt does not match")
  let result ← resultFromDict P (data.get "result") "provider create receipt result is invalid"
    "provider create receipt result is invalid" "provider create receipt is invalid"
  let applied := appliedResult result.request p.command_fingerprint
  ensure (result.request.data.request_id = p.request_id ∧
      applied.map CommandResult.outcome = some result.outcome)
    (.repositoryConflict "provider create receipt result does not match")
  return result

/-! ## Leases -/

/-- mirrors 424-427 -/
def requiredAwareDatetime (value : Value) (field_name : String) : Except Err DateTime :=
  match value with
  | .time t => do
    ensure t.offset.isSome (.repositoryConflict s!"{field_name} is invalid")
    require t.astimezoneUtc .overflow
  | _ => .error (.repositoryConflict s!"{field_name} is invalid")

/-- mirrors 453-463 -/
def boundedWorkerIdentifier (value : Value) (field_name : String) : Except Err Str :=
  match value with
  | .str s => do
    let normalized := strip s
    ensure (normalized ≠ [] ∧ normalized.length ≤ 128 ∧
        normalized.any (fun c => c.val < 33 || c.val == 127) = false)
      (.repositoryConflict s!"{field_name} is invalid")
    return normalized
  | _ => .error (.repositoryConflict s!"{field_name} is invalid")

structure Lease where
  owner : Str
  lease_id : Str
  expires_at : DateTime
deriving DecidableEq

def Lease.toDict (lease : Lease) : Value :=
  .dict [("owner", .str lease.owner), ("lease_id", .str lease.lease_id),
    ("expires_at", .time lease.expires_at)]

/-- mirrors 430-440 -/
def leaseToDict (owner lease_id : Str) (expires_at : DateTime) : Except Err Value := do
  let owner ← boundedWorkerIdentifier (.str owner) "recovery owner"
  let lease_id ← boundedWorkerIdentifier (.str lease_id) "recovery lease_id"
  let expires_at ← requiredAwareDatetime (.time expires_at) "recovery lease expiry"
  return Lease.toDict ⟨owner, lease_id, expires_at⟩

/-- mirrors 443-450 -/
def leaseFromDict (value : Value) : Except Err Lease := do
  let data ← requireDict value ["owner", "lease_id", "expires_at"]
    "provider recovery lease has an invalid schema"
  let owner ← boundedWorkerIdentifier (data.get "owner") "recovery owner"
  let lease_id ← boundedWorkerIdentifier (data.get "lease_id") "recovery lease_id"
  let expires_at ← requiredAwareDatetime (data.get "expires_at") "recovery lease expiry"
  return ⟨owner, lease_id, expires_at⟩

/-- mirrors 466-476, given the parts of
the path -/
def strictServiceRequestPath (path : List Str) : Except Err (Str × Str) :=
  match path with
  | [collection, contractor, subcollection, request] => do
    ensure (collection = py "contractors" ∧ subcollection = py "service_requests")
      (.repositoryConflict "provider recovery path is invalid")
    let contractor_id ← requiredIdentifier (.str contractor) "contractor_id"
    let request_id ← requiredIdentifier (.str request) "request_id"
    ensure (contractor_id = contractor ∧ request_id = request)
      (.repositoryConflict "provider recovery path is invalid")
    return (contractor_id, request_id)
  | _ => .error (.repositoryConflict "provider recovery path is invalid")

/-- mirrors 479-485, in seconds -/
def recoveryBackoff (attempt : ℤ) : ℤ :=
  let exponent := min (max (attempt - 1) 0) 20
  min (RECOVERY_BACKOFF_BASE_SECONDS * 2 ^ exponent.toNat) RECOVERY_BACKOFF_MAX_SECONDS

/-! ## Reading a document -/

/-- A count of attempts: an `int` that is not a `bool` and not negative. -/
def recoveryAttempts (value : Value) (message : String) : Except Err ℤ :=
  match value with
  | .number (.int z) => do
    ensure (0 ≤ z) (.repositoryConflict message)
    return z
  | _ => .error (.repositoryConflict message)

/-- mirrors 488-504 -/
def recoveryMetadata (data : Document) : Except Err (ℤ × DateTime × Option Lease) := do
  ensure ((data.get .provider_recovery_state).isStr (py PROVIDER_RECOVERY_PENDING))
    (.repositoryConflict "provider recovery is not pending")
  let attempts ← recoveryAttempts (data.get .provider_recovery_attempts)
    "provider recovery attempts are invalid"
  let next_attempt_at ←
    requiredAwareDatetime (data.get .next_attempt_at) "provider recovery retry time"
  match data.get .provider_recovery_lease with
  | .none => return (attempts, next_attempt_at, none)
  | lease_value => do
    let lease ← leaseFromDict lease_value
    ensure (lease.expires_at.instant = next_attempt_at.instant)
      (.repositoryConflict "provider recovery lease expiry does not match retry time")
    return (attempts, next_attempt_at, some lease)

def checkLease (data : Document) : Except Err Unit :=
  if data.has .provider_recovery_lease then
    (leaseFromDict (data.get .provider_recovery_lease)).map fun _ => ()
  else .ok ()

variable (P) in
/-- mirrors 375-421 -/
def loadPendingCreate (snapshot : Option Document) (contractor_id customer_key request_id : Str) :
    Except Err (PreparedProviderCreate P) := do
  let data ← require snapshot (.repositoryConflict "pending provider create was not found")
  let expected_keys : List Field := [.customer_key, .status, .provider_recovery_state,
    .provider_recovery_attempts, .next_attempt_at, .updated_at, .pending_provider_create]
  ensure (data.keysAre expected_keys ∨ data.keysAre (.provider_recovery_lease :: expected_keys))
    (.repositoryConflict "pending provider create document has an invalid schema")
  ensure ((data.get .customer_key).isStr customer_key)
    (.repositoryConflict "service request does not belong to this customer")
  ensure ((data.get .status).isStr (py PENDING_PROVIDER_CREATE_STATUS))
    (.repositoryConflict "pending provider create status is invalid")
  ensure ((data.get .provider_recovery_state).isStr (py PROVIDER_RECOVERY_PENDING))
    (.repositoryConflict "pending provider recovery state is invalid")
  let _ ← recoveryAttempts (data.get .provider_recovery_attempts)
    "pending provider recovery attempts are invalid"
  let preparation ← pendingCreateFromData P (data.get .pending_provider_create) contractor_id
    customer_key request_id
  ensure ((data.get .updated_at).eq (.time preparation.result.request.data.updated_at))
    (.repositoryConflict "pending provider create timestamp is invalid")
  let _ ← requiredAwareDatetime (data.get .next_attempt_at) "pending provider create retry time"
  checkLease data
  return preparation

variable (P) in
/-- mirrors 677-694 -/
def loadBoundRequest (snapshot : Option Document) (customer_key request_id : Str) :
    Except Err (Document × ServiceRequest P) := do
  let data ← require snapshot (.repositoryConflict "service request was not found")
  ensure ((data.get .customer_key).isStr customer_key)
    (.repositoryConflict "service request does not belong to this customer")
  ensure (Value.isDict (data.get .aggregate))
    (.repositoryConflict "service request aggregate is missing")
  let request ← ServiceRequest.fromDict P (data.get .aggregate)
  ensure (request.data.request_id = request_id)
    (.repositoryConflict "stored aggregate does not match its request path")
  return (data, request)

/-- `ExecutionKind(value)` -/
def parseExecutionKind (value : Value) : Except Err ExecutionKind :=
  if value.isStr (py ExecutionKind.LOCAL.value) then .ok .LOCAL
  else if value.isStr (py ExecutionKind.PROVIDER.value) then .ok .PROVIDER
  else .error (.repositoryConflict "service request execution provenance is missing or invalid")

/-- The receipt half of `_execution_target_from_data`: what a provider request stores of its create
is still in its history.
mirrors 736-777 -/
def checkProviderReceipt (receipt : Value) (binding : ProviderBinding) (request : ServiceRequest P)
    (request_id : Str) : Except Err Unit := do
  let data ← requireDict receipt RECEIPT_KEYS "provider execution receipt is missing or invalid"
  ensure ((data.get "schema_version").isInt PROVIDER_CREATE_SCHEMA_VERSION)
    (.repositoryConflict "provider execution receipt schema is unsupported")
  let _ ← conflictOn "provider execution receipt is invalid"
    (requiredIdentifier (data.get "logical_operation_id") "logical_operation_id")
  let _ ← conflictOn "provider execution receipt is invalid"
    (requiredIdentifier (data.get "semantic_fingerprint") "semantic_fingerprint")
  let stored ← bindingFromDict (data.get "binding")
  ensure (stored = some binding)
    (.repositoryConflict "provider execution receipt binding does not match")
  let create_result ← resultFromDict P (data.get "result")
    "provider execution receipt result is invalid" "provider execution receipt is invalid"
    "provider execution receipt is invalid"
  match create_result.request.data.idempotency_records with
  | [record] =>
    ensure (create_result.request.data.request_id = request_id ∧
        record.data.outcome.data.operation = .CREATE ∧
        record.data.outcome = create_result.outcome)
      (.repositoryConflict "provider execution receipt result does not match")
    let applied := appliedResult request record.data.command_fingerprint
    ensure (applied.map CommandResult.outcome = some create_result.outcome)
      (.repositoryConflict "provider execution receipt is not present in canonical state")
  | _ => .error (.repositoryConflict "provider execution receipt result does not match")

variable (P) in
/-- mirrors 697-782 -/
def executionTargetFromData (data : Document) (customer_key request_id : Str) :
    Except Err (ServiceRequestExecutionTarget P) := do
  ensure ((data.get .customer_key).isStr customer_key)
    (.repositoryConflict "service request does not belong to this customer")
  ensure (Value.isDict (data.get .aggregate))
    (.repositoryConflict "service request aggregate is missing")
  let request ← conflictOn "service request aggregate is invalid"
    (ServiceRequest.fromDict P (data.get .aggregate))
  ensure (request.data.request_id = request_id)
    (.repositoryConflict "stored aggregate does not match its request path")
  let execution_kind ← parseExecutionKind (data.get .execution_kind)
  match execution_kind with
  | .LOCAL => do
    ensure (data.has .provider_binding = false ∧
        data.has .finalized_provider_create_receipt = false)
      (.repositoryConflict "local execution provenance conflicts with provider state")
    return ⟨request, .local⟩
  | .PROVIDER => do
    let binding ← bindingFromDict (data.get .provider_binding)
    let binding ← require binding
      (.repositoryConflict "provider execution binding is missing")
    checkProviderReceipt (data.get .finalized_provider_create_receipt) binding request request_id
    return ⟨request, .provider binding⟩

/-! ## Recovery -/

inductive RecoveryKind
  | create
  | operation
deriving DecidableEq

/-- `PreparedProviderCreate | PreparedProviderOperation` -/
inductive Proposal (P : Python)
  | create (p : PreparedProviderCreate P)
  | operation (p : PreparedProviderOperation P)
deriving DecidableEq

def Proposal.kind : Proposal P → RecoveryKind
  | create _ => .create
  | operation _ => .operation

def Proposal.logical_operation_id : Proposal P → Str
  | create p => p.logical_operation_id
  | operation p => p.logical_operation_id

def Proposal.identity : Proposal P → Identity
  | create p => p.identity
  | operation p => p.identity

end HeyKevin.L3.Firestore
