import HeyKevin.L2Domain.Codec
import HeyKevin.L2Domain.Idempotency
/-!
# Provider proposals

`app/services/service_request_repository.py`, the part that both repositories
share. A command on a request that an external provider owns is first
proposed: the repository evaluates it, keeps the result as a
`PreparedProviderOperation` (or a `PreparedProviderCreate`), and makes it
canonical only when the provider has confirmed it. The proposal is addressed
by a logical id, a digest of who proposed what at which revision.

Fields and arguments have their types; a stored value of unknown type is a
`Value`.

Line numbers are those of app/services/service_request_repository.py.
-/
namespace HeyKevin.L3

open HeyKevin.Core L1 L1.Text L1.Datetime L2

inductive ExecutionKind
  | LOCAL
  | PROVIDER
deriving DecidableEq, Repr

def ExecutionKind.value : ExecutionKind → String
  | LOCAL => "local"
  | PROVIDER => "provider"

/-! ## Identities -/

/-- mirrors 1368-1371 -/
def requiredIdentifier (value : Value) (field_name : String) : Except Err Str :=
  match value with
  | .str s => do
    ensure (strip s ≠ []) (.valueError s!"{field_name} must be a non-empty string")
    return strip s
  | _ => .error (.valueError s!"{field_name} must be a non-empty string")

/-- mirrors 1374-1380 -/
def requiredCustomerKey (value : Value) : Except Err Str := do
  let normalized ← requiredIdentifier value "customer_key"
  ensure (Python.isDigest normalized = true)
    (.valueError "customer_key must be a lowercase SHA-256 digest")
  return normalized

structure Identity where
  contractor : Str
  customer : Str
  request : Str
deriving DecidableEq

/-- mirrors 1383-1392 -/
def repositoryIdentity (contractor_id customer_key request_id : Str) : Except Err Identity := do
  let contractor ← requiredIdentifier (.str contractor_id) "contractor_id"
  let customer ← requiredCustomerKey (.str customer_key)
  let request ← requiredIdentifier (.str request_id) "request_id"
  return ⟨contractor, customer, request⟩

theorem requiredIdentifier_eq_ok {value : Value} {field_name : String} {s : Str} :
    requiredIdentifier value field_name = .ok s ↔
      s ≠ [] ∧ ∃ t, value = .str t ∧ strip t = s := by
  unfold requiredIdentifier
  split
  · simp only [bind_eq_ok, ensure_eq_ok, exists_unit, pure_eq_ok, Except.ok.injEq,
      Value.str.injEq]
    constructor
    · rintro ⟨hne, rfl⟩; exact ⟨hne, _, rfl, rfl⟩
    · rintro ⟨hne, _, rfl, rfl⟩; exact ⟨hne, rfl⟩
  · rename_i h
    simp only [reduceCtorEq, false_iff]
    rintro ⟨-, t, rfl, -⟩
    exact h t rfl

structure Identity.Normal (i : Identity) : Prop where
  contractor : strip i.contractor = i.contractor ∧ i.contractor ≠ []
  customer : Python.isDigest i.customer = true ∧ strip i.customer = i.customer
  request : strip i.request = i.request ∧ i.request ≠ []

theorem repositoryIdentity_eq_ok {contractor_id customer_key request_id : Str} {i : Identity} :
    repositoryIdentity contractor_id customer_key request_id = .ok i ↔
      i = ⟨strip contractor_id, strip customer_key, strip request_id⟩ ∧ i.contractor ≠ [] ∧
        i.request ≠ [] ∧ Python.isDigest i.customer = true := by
  simp only [repositoryIdentity, requiredCustomerKey, bind_eq_ok, requiredIdentifier_eq_ok,
    ensure_eq_ok, exists_unit, pure_eq_ok, Except.ok.injEq, Value.str.injEq]
  constructor
  · rintro ⟨_, ⟨h1, _, rfl, rfl⟩, _, ⟨_, ⟨-, _, rfl, rfl⟩, h2, rfl⟩, _, ⟨h3, _, rfl, rfl⟩, rfl⟩
    exact ⟨rfl, h1, h3, h2⟩
  · rintro ⟨rfl, h1, h3, h2⟩
    refine ⟨_, ⟨h1, _, rfl, rfl⟩, _, ⟨_, ⟨?_, _, rfl, rfl⟩, h2, rfl⟩, _, ⟨h3, _, rfl, rfl⟩, rfl⟩
    intro h
    simp [h, Python.isDigest] at h2

theorem repositoryIdentity_normal {contractor_id customer_key request_id : Str} {i : Identity}
    (h : repositoryIdentity contractor_id customer_key request_id = .ok i) : i.Normal := by
  obtain ⟨rfl, h1, h2, h3⟩ := repositoryIdentity_eq_ok.mp h
  exact ⟨⟨strip_strip _, h1⟩, ⟨h3, strip_strip _⟩, ⟨strip_strip _, h2⟩⟩

/-! ## Bindings -/

/-- `ProviderBinding`, with what its `__post_init__` establishes. -/
@[ext] structure ProviderBinding where
  kind : Str
  resource_id : Str
  kind_normal : strip kind = kind ∧ kind ≠ [] ∧ kind.length ≤ 40
  resource_normal : strip resource_id = resource_id ∧ resource_id ≠ [] ∧ resource_id.length ≤ 512
deriving DecidableEq

/-- mirrors 63-75 (`__post_init__`) -/
def ProviderBinding.make (kind resource_id : Value) : Except Err ProviderBinding := do
  let kind ← requiredIdentifier kind "provider kind"
  let resource_id ← requiredIdentifier resource_id "provider resource_id"
  if h : strip kind = kind ∧ kind ≠ [] ∧ kind.length ≤ 40 then
    if h' : strip resource_id = resource_id ∧ resource_id ≠ [] ∧ resource_id.length ≤ 512 then
      return ⟨kind, resource_id, h, h'⟩
    else .error (.valueError "provider resource_id exceeds 512 characters")
  else .error (.valueError "provider kind exceeds 40 characters")

@[simp] theorem ProviderBinding.make_fields (b : ProviderBinding) :
    ProviderBinding.make (.str b.kind) (.str b.resource_id) = .ok b := by
  have h1 : requiredIdentifier (.str b.kind) "provider kind" = .ok b.kind :=
    requiredIdentifier_eq_ok.mpr ⟨b.kind_normal.2.1, _, rfl, b.kind_normal.1⟩
  have h2 : requiredIdentifier (.str b.resource_id) "provider resource_id" = .ok b.resource_id :=
    requiredIdentifier_eq_ok.mpr ⟨b.resource_normal.2.1, _, rfl, b.resource_normal.1⟩
  rw [make, bind_of_ok _ h1, bind_of_ok _ h2]
  exact (dif_pos b.kind_normal).trans (dif_pos b.resource_normal)

/-! ## Fingerprints and arguments -/

variable {P : Python}

/-- mirrors 1395-1405 -/
def resultFingerprint (result : CommandResult P) (idempotency_key : Str) : Except Err Str :=
  match result.request.data.idempotency_records.filter fun record =>
      record.data.idempotency_key = idempotency_key with
  | [record] => .ok record.data.command_fingerprint
  | _ => .error (.repositoryConflict
      "prepared mutation did not contain the requested idempotency record")

/-- mirrors 1427-1430 -/
def providerDatetime (value : DateTime) : Except Err Str := do
  ensure value.offset.isSome (.repositoryConflict "provider proposal timestamp must be aware")
  let utc ← require value.astimezoneUtc .overflow
  return zuluText utc

/-- mirrors 1408-1424
(`_provider_operation_arguments`) -/
def providerOperationArguments (result : CommandResult P) : Except Err (List (String × Str)) :=
  match result.outcome.data.operation with
  | .CANCEL => return []
  | .RESCHEDULE => do
    let stop ← providerDatetime result.outcome.data.scheduled_end
    let start ← providerDatetime result.outcome.data.scheduled_start
    return [("scheduled_end", stop), ("scheduled_start", start)]
  | .ADD_SERVICE => do
    let service ← require result.outcome.data.services.getLast?
      (.repositoryConflict "add-service proposal has no service")
    return [("service", service)]
  | .CREATE => .error (.repositoryConflict "provider proposal operation is unsupported")

def nulSeparated (label : String) (fields : List Str) : Str :=
  fields.foldl (fun text field => text ++ 0 :: field) (py label)

def operationMaterial (i : Identity) (base_revision : ℤ) (command_fingerprint : Str) : Str :=
  nulSeparated "service-request-provider-operation-v2"
    [i.contractor, i.customer, i.request, decimal base_revision, command_fingerprint]

variable (P) in
/-- mirrors 1433-1444
(`_logical_provider_operation_id`) -/
def logicalProviderOperationId (i : Identity) (base_revision : ℤ) (command_fingerprint : Str) :
    Except Err Str :=
  hashText P (operationMaterial i base_revision command_fingerprint)

def createMaterial (i : Identity) (semantic_fingerprint : Str) : Str :=
  nulSeparated "service-request-provider-create-v1"
    [i.contractor, i.customer, i.request, py "0", semantic_fingerprint]

variable (P) in
/-- mirrors 1587-1597 -/
def logicalProviderCreateId (i : Identity) (semantic_fingerprint : Str) : Except Err Str :=
  hashText P (createMaterial i semantic_fingerprint)

def semanticText (command_fingerprint : Str) (binding : ProviderBinding) (title description : Str) :
    Str :=
  Json.dumps (.obj [("binding", .obj [("kind", .str binding.kind),
      ("resource_id", .str binding.resource_id)]),
    ("command_fingerprint", .str command_fingerprint), ("description", .str description),
    ("title", .str title)])

variable (P) in
/-- mirrors 1565-1584
(`_provider_create_semantic_fingerprint`) -/
def providerCreateSemanticFingerprint (command_fingerprint : Str) (binding : ProviderBinding)
    (title description : Str) : Except Err Str :=
  hashText P (semanticText command_fingerprint binding title description)

variable (P) in
/-- mirrors 1600-1608 -/
def normalizeProviderTitle (value : Value) : Except Err Str :=
  match value with
  | .str s => do
    let normalized := joinSpace (split (P.nfkc s))
    ensure (normalized ≠ []) (.valueError "provider title must be non-empty")
    ensure (normalized.length ≤ 200) (.valueError "provider title exceeds 200 characters")
    return normalized
  | _ => .error (.typeError "provider title must be a string")

/-- `s.replace("\r\n", "\n")` -/
def replaceCrLf : Str → Str
  | c :: d :: s => if c = 13 ∧ d = 10 then 10 :: replaceCrLf s else c :: replaceCrLf (d :: s)
  | s => s

variable (P) in
/-- mirrors 1611-1619
(`_normalize_provider_description`) -/
def normalizeProviderDescription (value : Value) : Except Err Str :=
  match value with
  | .str s => do
    let normalized := (replaceCrLf (P.nfkc s)).map fun c => if c = 13 then 10 else c
    let normalized := strip ([10].intercalate
      ((normalized.splitOn 10).map fun line => joinSpace (split line)))
    ensure (normalized.length ≤ 1500)
      (.valueError "provider description exceeds 1500 characters")
    return normalized
  | _ => .error (.typeError "provider description must be a string")

/-- mirrors 1659-1671
(`_applied_result_by_fingerprint`) -/
def appliedResultByFingerprint (request : ServiceRequest P) (command_fingerprint : Str) :
    Except Err (Option (CommandResult P)) :=
  match request.data.idempotency_records.filter fun record =>
      record.data.command_fingerprint = command_fingerprint with
  | [] => .ok none
  | [record] => .ok (some ⟨request, record.data.outcome⟩)
  | _ => .error (.repositoryConflict "command fingerprint is not unique")

/-! ## Proposed operations -/

variable (P)

structure PreparedProviderOperation where
  logical_operation_id : Str
  contractor_id : Str
  customer_key : Str
  request_id : Str
  idempotency_key : Str
  binding : ProviderBinding
  base_request : ServiceRequest P
  result : CommandResult P
  command_fingerprint : Str
  operation : Operation
  arguments : List (String × Str)
  base_revision : ℤ
  already_applied : Bool := false
deriving DecidableEq

variable {P}

/-- mirrors 1622-1656
(`_validate_prepared_provider_operation`) -/
def validatePreparedProviderOperation (p : PreparedProviderOperation P) : Except Err Unit := do
  let i ← repositoryIdentity p.contractor_id p.customer_key p.request_id
  let key ← requiredIdentifier (.str p.idempotency_key) "idempotency_key"
  ensure (p.base_request.data.request_id = i.request ∧
      p.result.request.data.request_id = i.request)
    (.repositoryConflict "prepared aggregate does not match its request path")
  let fingerprint ← resultFingerprint p.result key
  ensure (fingerprint = p.command_fingerprint)
    (.repositoryConflict "prepared result does not match its command fingerprint")
  let base_revision := p.result.outcome.data.revision - 1
  ensure (p.base_revision = base_revision)
    (.repositoryConflict "prepared base revision is invalid")
  ensure (p.operation = p.result.outcome.data.operation)
    (.repositoryConflict "prepared operation does not match its result")
  let arguments ← providerOperationArguments p.result
  ensure (p.arguments = arguments)
    (.repositoryConflict "prepared arguments do not match its result")
  let logical_id ← logicalProviderOperationId P i base_revision fingerprint
  ensure (p.logical_operation_id = logical_id)
    (.repositoryConflict "provider logical operation id is invalid")
  ensure (p.already_applied = true ∨ p.base_request.data.revision = base_revision)
    (.repositoryConflict "proposal base does not match canonical revision")

/-- mirrors 1447-1485 -/
def prepareProviderOperation (i : Identity) (idempotency_key : Str) (binding : ProviderBinding)
    (base_request : ServiceRequest P) (result : CommandResult P) :
    Except Err (PreparedProviderOperation P) := do
  let fingerprint ← resultFingerprint result idempotency_key
  let base_revision := result.outcome.data.revision - 1
  ensure (1 ≤ base_revision)
    (.repositoryConflict "provider mutation must follow request creation")
  let applied ← appliedResultByFingerprint base_request fingerprint
  let logical_operation_id ← logicalProviderOperationId P i base_revision fingerprint
  let arguments ← providerOperationArguments result
  let preparation : PreparedProviderOperation P :=
    { logical_operation_id := logical_operation_id
      contractor_id := i.contractor
      customer_key := i.customer
      request_id := i.request
      idempotency_key := idempotency_key
      binding := binding
      base_request := base_request
      result := result
      command_fingerprint := fingerprint
      operation := result.outcome.data.operation
      arguments := arguments
      base_revision := base_revision
      already_applied := applied.isSome }
  validatePreparedProviderOperation preparation
  return preparation

/-! ## Proposed creates -/

variable (P)

structure PreparedProviderCreate where
  logical_operation_id : Str
  contractor_id : Str
  customer_key : Str
  request_id : Str
  idempotency_key : Str
  binding : ProviderBinding
  result : CommandResult P
  command_fingerprint : Str
  semantic_fingerprint : Str
  title : Str
  description : Str
  base_revision : ℤ := 0
  already_applied : Bool := false
deriving DecidableEq

structure FinalizedProviderCreateReceipt where
  logical_operation_id : Str
  contractor_id : Str
  customer_key : Str
  request_id : Str
  semantic_fingerprint : Str
  binding : ProviderBinding
  result : CommandResult P
deriving DecidableEq

variable {P}

/-- mirrors 1514-1562
(`_validate_prepared_provider_create`) -/
def validatePreparedProviderCreate (p : PreparedProviderCreate P) : Except Err Unit := do
  let i ← repositoryIdentity p.contractor_id p.customer_key p.request_id
  let key ← requiredIdentifier (.str p.idempotency_key) "idempotency_key"
  ensure (p.result.request.data.request_id = i.request)
    (.repositoryConflict "prepared aggregate does not match its request path")
  ensure (p.result.outcome.data.operation = .CREATE)
    (.repositoryConflict "prepared provider create has a non-create result")
  ensure (p.base_revision = 0 ∧ p.result.outcome.data.revision = 1 ∧
      p.result.request.data.revision = 1)
    (.repositoryConflict "prepared provider create revision is invalid")
  let command_fingerprint ← resultFingerprint p.result key
  ensure (p.command_fingerprint = command_fingerprint)
    (.repositoryConflict "prepared create does not match its command fingerprint")
  let title ← normalizeProviderTitle P (.str p.title)
  let description ← normalizeProviderDescription P (.str p.description)
  ensure (p.title = title ∧ p.description = description)
    (.repositoryConflict "prepared provider arguments are not normalized")
  let semantic_fingerprint ←
    providerCreateSemanticFingerprint P command_fingerprint p.binding title description
  ensure (p.semantic_fingerprint = semantic_fingerprint)
    (.repositoryConflict "prepared create semantic fingerprint is invalid")
  let logical_id ← logicalProviderCreateId P i semantic_fingerprint
  ensure (p.logical_operation_id = logical_id)
    (.repositoryConflict "provider create logical operation id is invalid")

/-- mirrors 1488-1511 -/
def prepareProviderCreate (i : Identity) (idempotency_key : Str) (binding : ProviderBinding)
    (title description : Str) (result : CommandResult P) :
    Except Err (PreparedProviderCreate P) := do
  ensure (result.outcome.data.operation = .CREATE)
    (.repositoryConflict "provider create requires a create command")
  ensure (result.outcome.data.revision = 1 ∧ result.request.data.revision = 1)
    (.repositoryConflict "provider create must start at revision one")
  let command_fingerprint ← resultFingerprint result idempotency_key
  let semantic_fingerprint ←
    providerCreateSemanticFingerprint P command_fingerprint binding title description
  let logical_operation_id ← logicalProviderCreateId P i semantic_fingerprint
  let preparation : PreparedProviderCreate P :=
    { logical_operation_id := logical_operation_id
      contractor_id := i.contractor
      customer_key := i.customer
      request_id := i.request
      idempotency_key := idempotency_key
      binding := binding
      result := result
      command_fingerprint := command_fingerprint
      semantic_fingerprint := semantic_fingerprint
      title := title
      description := description }
  validatePreparedProviderCreate preparation
  return preparation

/-- mirrors 1674-1685
(`_receipt_is_present_in_request`) -/
def receiptIsPresentInRequest (receipt : FinalizedProviderCreateReceipt P)
    (request : ServiceRequest P) : Except Err Bool :=
  match receipt.result.request.data.idempotency_records with
  | [record] =>
    if record.data.outcome.data.operation = .CREATE then do
      let applied ← appliedResultByFingerprint request record.data.command_fingerprint
      return applied.any fun a => a.outcome = receipt.result.outcome
    else return false
  | _ => return false

/-! ## Mutations -/

/-- `ServiceRequestMutation`: the callers parse their arguments inside the
callable, so it may fail before it is a command. -/
abbrev Mutation := Except Err Command

variable (P) in
def Mutation.call (mutation : Mutation) (current : Option (ServiceRequest P)) :
    Except Err (CommandResult P) := do
  let c ← mutation
  c.apply P current

/-- The proposal that `prepare_provider_create` evaluates before it takes the
lock or enters the transaction.
mirrors 707-742 and
app/db/service_requests.py:1273-1303 -/
def proposeCreate (contractor_id customer_key request_id idempotency_key : Str)
    (binding : ProviderBinding) (title description : Str) (mutation : Mutation) :
    Except Err (PreparedProviderCreate P) := do
  let i ← repositoryIdentity contractor_id customer_key request_id
  let key ← requiredIdentifier (.str idempotency_key) "idempotency_key"
  let title ← normalizeProviderTitle P (.str title)
  let description ← normalizeProviderDescription P (.str description)
  let result ← mutation.call P none
  ensure (result.request.data.request_id = i.request)
    (.repositoryConflict "mutation returned a different request_id")
  prepareProviderCreate i key binding title description result

end HeyKevin.L3
