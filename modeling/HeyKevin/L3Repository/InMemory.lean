import HeyKevin.Core.Entries
import HeyKevin.L3Repository.Preparation
/-!
# The in-memory repository

`app/services/service_request_repository.py:316-905`, the reference
repository. It keeps five maps under (contractor, request) and one lock, so a
call is one step. A call that raises has written nothing; the others write
last, hence `Except Err (α × Repository P)`.

The five read-only or refusing methods `bind_provider`, `get_provider_binding`
and `get_execution_target` add nothing to `executionTargetLocked` and are left
out.

Line numbers are those of app/services/service_request_repository.py.
-/
namespace HeyKevin.L3

open HeyKevin.Core L1 L1.Text L1.Datetime L2

variable (P : Python)

structure StoredServiceRequest where
  contractor_id : Str
  customer_key : Str
  request : ServiceRequest P
  execution_kind : ExecutionKind
deriving DecidableEq

/-- `execution_kind` and `provider_binding` of a target; its `__post_init__`
admits a binding exactly for provider execution. -/
inductive Execution
  | local
  | provider (binding : ProviderBinding)
deriving DecidableEq

structure ServiceRequestExecutionTarget where
  request : ServiceRequest P
  execution : Execution
deriving DecidableEq

abbrev StorageKey := Str × Str

namespace InMemory

structure Repository where
  records : Entries StorageKey (StoredServiceRequest P) := []
  provider_bindings : Entries StorageKey ProviderBinding := []
  pending_provider_operations : Entries StorageKey (PreparedProviderOperation P) := []
  pending_provider_creates : Entries StorageKey (PreparedProviderCreate P) := []
  finalized_provider_creates : Entries StorageKey (FinalizedProviderCreateReceipt P) := []
deriving DecidableEq

variable {P}

namespace Repository

variable (s : Repository P)

/-- mirrors 871-917 -/
def executionTargetLocked (storage_key : StorageKey) (customer_key : Str) :
    Except Err (Option (ServiceRequestExecutionTarget P)) :=
  match s.records.find? storage_key with
  | none => .ok none
  | some stored =>
    if stored.customer_key ≠ customer_key then .ok none
    else
      let binding := s.provider_bindings.find? storage_key
      let receipt := s.finalized_provider_creates.find? storage_key
      match stored.execution_kind with
      | .LOCAL => do
        ensure (binding = none ∧ receipt = none)
          (.repositoryConflict "local execution provenance conflicts with provider state")
        return some ⟨stored.request, .local⟩
      | .PROVIDER =>
        match binding, receipt with
        | some binding, some receipt => do
          ensure (receipt.binding = binding)
            (.repositoryConflict "provider execution provenance is incomplete or corrupt")
          let present ← receiptIsPresentInRequest receipt stored.request
          ensure (present = true)
            (.repositoryConflict "provider execution provenance is incomplete or corrupt")
          return some ⟨stored.request, .provider binding⟩
        | _, _ => .error
          (.repositoryConflict "provider execution provenance is incomplete or corrupt")

/-- mirrors 327-345 -/
def get (contractor_id customer_key request_id : Str) : Except Err (Option (ServiceRequest P)) := do
  let i ← repositoryIdentity contractor_id customer_key request_id
  let target ← s.executionTargetLocked (i.contractor, i.request) i.customer
  return target.map ServiceRequestExecutionTarget.request

/-- The guard of `apply` on an existing request: only local execution passes. -/
def requireLocal (stored : Option (StoredServiceRequest P)) (storage_key : StorageKey)
    (customer_key : Str) : Except Err Unit :=
  match stored with
  | none => .ok ()
  | some _ => do
    let target ← s.executionTargetLocked storage_key customer_key
    let target ← require target (.repositoryConflict "service request was not found")
    ensure (target.execution = .local)
      (.providerBindingRequired "provider requests require two-phase mutation")

/-- mirrors 347-404 -/
def apply (contractor_id customer_key request_id : Str) (mutation : Mutation) :
    Except Err (CommandResult P × Repository P) := do
  let i ← repositoryIdentity contractor_id customer_key request_id
  let storage_key := (i.contractor, i.request)
  let stored := s.records.find? storage_key
  ensure (∀ x ∈ stored, x.customer_key = i.customer)
    (.repositoryConflict "service request does not belong to this customer")
  ensure (s.pending_provider_creates.find? storage_key = none)
    (.repositoryConflict "a provider create is pending for this service request")
  ensure (s.pending_provider_operations.find? storage_key = none)
    (.repositoryConflict "a provider mutation is pending for this service request")
  s.requireLocal stored storage_key i.customer
  let result ← mutation.call P (stored.map StoredServiceRequest.request)
  ensure (result.request.data.request_id = i.request)
    (.repositoryConflict "mutation returned a different request_id")
  let stored : StoredServiceRequest P := ⟨i.contractor, i.customer, result.request, .LOCAL⟩
  return (result, { s with records := s.records.set storage_key stored })

/-- `(a.updated_at, a.request_id) < (b.updated_at, b.request_id)` -/
def Earlier (a b : ServiceRequest P) : Prop :=
  a.data.updated_at.instant < b.data.updated_at.instant ∨
    a.data.updated_at.instant = b.data.updated_at.instant ∧ a.data.request_id < b.data.request_id

instance (a b : ServiceRequest P) : Decidable (Earlier a b) := inferInstanceAs (Decidable (_ ∨ _))

/-- One turn of the loop of `list_actionable`; a conflict skips the request. -/
def actionable (contractor customer : Str) (entry : StorageKey × StoredServiceRequest P) :
    Except Err (Option (ServiceRequest P)) :=
  if entry.2.contractor_id ≠ contractor ∨ entry.2.customer_key ≠ customer then .ok none
  else
    match s.executionTargetLocked entry.1 customer with
    | .error (.repositoryConflict _) => .ok none
    | .error e => .error e
    | .ok none => .ok none
    | .ok (some target) =>
      if target.request.data.status = .OPEN then .ok (some target.request) else .ok none

/-- mirrors 406-436 -/
def listActionable (contractor_id customer_key : Str) (limit : ℤ) :
    Except Err (List (ServiceRequest P)) := do
  let contractor ← requiredIdentifier (.str contractor_id) "contractor_id"
  let customer ← requiredCustomerKey (.str customer_key)
  ensure (1 ≤ limit) (.valueError "limit must be a positive integer")
  let requests ← s.records.mapM (s.actionable contractor customer)
  let requests := requests.reduceOption.insertionSort fun a b => ¬ Earlier a b
  return requests.take (min limit 5).toNat

/-- mirrors 523-590 -/
def prepareProviderOperation (contractor_id customer_key request_id idempotency_key : Str)
    (mutation : Mutation) : Except Err (PreparedProviderOperation P × Repository P) := do
  let i ← repositoryIdentity contractor_id customer_key request_id
  let key ← requiredIdentifier (.str idempotency_key) "idempotency_key"
  let storage_key := (i.contractor, i.request)
  let stored ← require ((s.records.find? storage_key).filter fun x => x.customer_key = i.customer)
    (.repositoryConflict "service request was not found")
  let target ← s.executionTargetLocked storage_key i.customer
  match target with
  | some ⟨_, .provider binding⟩ =>
    let result ← mutation.call P (some stored.request)
    ensure (result.request.data.request_id = i.request)
      (.repositoryConflict "mutation returned a different request_id")
    let preparation ← L3.prepareProviderOperation i key binding stored.request result
    match s.pending_provider_operations.find? storage_key with
    | some existing =>
      ensure (existing.command_fingerprint = preparation.command_fingerprint ∧
          existing.base_revision = preparation.base_revision ∧
          existing.operation = preparation.operation ∧
          existing.arguments = preparation.arguments)
        (.repositoryConflict "a different provider mutation is already pending")
      return (existing, s)
    | none =>
      if preparation.already_applied = true then return (preparation, s)
      else return (preparation, { s with pending_provider_operations :=
        s.pending_provider_operations.set storage_key preparation })
  | _ => .error (.repositoryConflict "service request is not provider-backed")

/-- mirrors 592-658 -/
def finalizeProviderOperation (preparation : PreparedProviderOperation P) :
    Except Err (CommandResult P × Repository P) := do
  validatePreparedProviderOperation preparation
  let storage_key := (preparation.contractor_id, preparation.request_id)
  let stored ← require ((s.records.find? storage_key).filter fun x =>
      x.customer_key = preparation.customer_key)
    (.repositoryConflict "service request was not found")
  if preparation.already_applied = true then
    let target ← s.executionTargetLocked storage_key preparation.customer_key
    let applied ← appliedResultByFingerprint stored.request preparation.command_fingerprint
    match target with
    | some ⟨_, .provider _⟩ =>
      let applied ← require applied
        (.repositoryConflict "applied provider operation no longer matches canonical state")
      return (applied, s)
    | _ => .error (.repositoryConflict "service request is not provider-backed")
  else
    match s.pending_provider_operations.find? storage_key with
    | none =>
      let applied ← appliedResultByFingerprint stored.request preparation.command_fingerprint
      let applied ← require applied
        (.repositoryConflict "provider operation is not the current prepared mutation")
      return (applied, s)
    | some pending =>
      ensure (pending.logical_operation_id = preparation.logical_operation_id)
        (.repositoryConflict "provider operation is not the current prepared mutation")
      ensure (stored.request = pending.base_request)
        (.repositoryConflict "service request changed before provider finalization")
      let target ← s.executionTargetLocked storage_key preparation.customer_key
      ensure (target.map ServiceRequestExecutionTarget.execution =
          some (.provider pending.binding))
        (.repositoryConflict "service request changed before provider finalization")
      let stored : StoredServiceRequest P :=
        ⟨pending.contractor_id, pending.customer_key, pending.result.request, .PROVIDER⟩
      return (pending.result, { s with
        records := s.records.set storage_key stored
        pending_provider_operations := s.pending_provider_operations.pop storage_key })

/-- mirrors 660-693 -/
def recoverProviderOperation (contractor_id customer_key request_id : Str) :
    Except Err (Option (PreparedProviderOperation P)) := do
  let i ← repositoryIdentity contractor_id customer_key request_id
  let storage_key := (i.contractor, i.request)
  match (s.records.find? storage_key).filter fun x => x.customer_key = i.customer,
      s.pending_provider_operations.find? storage_key with
  | some stored, some pending =>
    let target ← s.executionTargetLocked storage_key i.customer
    ensure (pending.base_request = stored.request ∧
        target.map ServiceRequestExecutionTarget.execution = some (.provider pending.binding))
      (.repositoryConflict "pending provider operation no longer matches canonical state")
    return some pending
  | _, _ => return none

/-- The preparation that stands for a finalized create.
mirrors 766-786 -/
def replayedCreate (receipt : FinalizedProviderCreateReceipt P)
    (preparation : PreparedProviderCreate P) : Except Err (PreparedProviderCreate P) := do
  let first ← require receipt.result.request.data.idempotency_records.head?
    (.valueError "tuple index out of range")
  return { preparation with
      logical_operation_id := receipt.logical_operation_id
      idempotency_key := first.data.idempotency_key
      binding := receipt.binding
      result := receipt.result
      command_fingerprint := first.data.command_fingerprint
      semantic_fingerprint := receipt.semantic_fingerprint
      base_revision := 0
      already_applied := true }

/-- mirrors 695-800 -/
def prepareProviderCreate (contractor_id customer_key request_id idempotency_key : Str)
    (binding : ProviderBinding) (title description : Str) (mutation : Mutation) :
    Except Err (PreparedProviderCreate P × Repository P) := do
  let preparation ← proposeCreate contractor_id customer_key request_id idempotency_key binding
    title description mutation
  let storage_key := (preparation.contractor_id, preparation.request_id)
  match s.records.find? storage_key with
  | some stored =>
    ensure (stored.customer_key = preparation.customer_key)
      (.repositoryConflict "service request does not belong to this customer")
    let target ← s.executionTargetLocked storage_key preparation.customer_key
    let receipt ← require (s.finalized_provider_creates.find? storage_key)
      (.repositoryConflict "service request already exists")
    match target with
    | some ⟨_, .provider _⟩ =>
      ensure (receipt.semantic_fingerprint = preparation.semantic_fingerprint ∧
          receipt.binding = preparation.binding ∧
          s.provider_bindings.find? storage_key = some receipt.binding)
        (.repositoryConflict "service request was finalized with different create semantics")
      let present ← receiptIsPresentInRequest receipt stored.request
      ensure (present = true)
        (.repositoryConflict "service request was finalized with different create semantics")
      let replayed ← replayedCreate receipt preparation
      return (replayed, s)
    | _ => .error (.repositoryConflict
        "service request was finalized with different create semantics")
  | none =>
    ensure (s.pending_provider_operations.find? storage_key = none)
      (.repositoryConflict "a provider mutation is pending for this service request")
    match s.pending_provider_creates.find? storage_key with
    | some existing =>
      ensure (existing.semantic_fingerprint = preparation.semantic_fingerprint)
        (.repositoryConflict "a different provider create is already pending")
      return (existing, s)
    | none =>
      let s' := { s with pending_provider_creates :=
        s.pending_provider_creates.set storage_key preparation }
      return (preparation, s')

/-- mirrors 802-859 -/
def finalizeProviderCreate (preparation : PreparedProviderCreate P) :
    Except Err (CommandResult P × Repository P) := do
  validatePreparedProviderCreate preparation
  let storage_key := (preparation.contractor_id, preparation.request_id)
  match s.records.find? storage_key with
  | some stored =>
    let target ← s.executionTargetLocked storage_key preparation.customer_key
    match target, s.finalized_provider_creates.find? storage_key with
    | some ⟨_, .provider _⟩, some receipt =>
      ensure (receipt.logical_operation_id = preparation.logical_operation_id ∧
          s.provider_bindings.find? storage_key = some receipt.binding)
        (.repositoryConflict "service request already exists")
      let present ← receiptIsPresentInRequest receipt stored.request
      ensure (present = true) (.repositoryConflict "service request already exists")
      return (receipt.result, s)
    | _, _ => .error (.repositoryConflict "service request already exists")
  | none =>
    let pending ← require (s.pending_provider_creates.find? storage_key)
      (.repositoryConflict "provider create is not the current prepared operation")
    ensure (pending.logical_operation_id = preparation.logical_operation_id)
      (.repositoryConflict "provider create is not the current prepared operation")
    ensure (s.provider_bindings.find? storage_key = none)
      (.repositoryConflict "provider binding appeared before create finalization")
    let stored : StoredServiceRequest P :=
      ⟨pending.contractor_id, pending.customer_key, pending.result.request, .PROVIDER⟩
    let receipt : FinalizedProviderCreateReceipt P :=
      ⟨pending.logical_operation_id, pending.contractor_id, pending.customer_key,
        pending.request_id, pending.semantic_fingerprint, pending.binding, pending.result⟩
    return (pending.result, { s with
      records := s.records.set storage_key stored
      provider_bindings := s.provider_bindings.set storage_key pending.binding
      finalized_provider_creates := s.finalized_provider_creates.set storage_key receipt
      pending_provider_creates := s.pending_provider_creates.pop storage_key })

/-- mirrors 861-883 -/
def recoverProviderCreate (contractor_id customer_key request_id : Str) :
    Except Err (Option (PreparedProviderCreate P)) := do
  let i ← repositoryIdentity contractor_id customer_key request_id
  let storage_key := (i.contractor, i.request)
  match s.records.find? storage_key, s.pending_provider_creates.find? storage_key with
  | none, some pending =>
    if pending.customer_key ≠ i.customer then return none
    else
      ensure (s.provider_bindings.find? storage_key = none)
        (.repositoryConflict "pending provider create already has a visible binding")
      validatePreparedProviderCreate pending
      return some pending
  | _, _ => return none

end Repository

/-! ## The repository as a machine -/

variable (P) in
inductive Call
  | get (contractor_id customer_key request_id : Str)
  | apply (contractor_id customer_key request_id : Str) (mutation : Mutation)
  | listActionable (contractor_id customer_key : Str) (limit : ℤ)
  | prepareOperation (contractor_id customer_key request_id idempotency_key : Str)
      (mutation : Mutation)
  | finalizeOperation (preparation : PreparedProviderOperation P)
  | recoverOperation (contractor_id customer_key request_id : Str)
  | prepareCreate (contractor_id customer_key request_id idempotency_key : Str)
      (binding : ProviderBinding) (title description : Str) (mutation : Mutation)
  | finalizeCreate (preparation : PreparedProviderCreate P)
  | recoverCreate (contractor_id customer_key request_id : Str)

variable (P) in
inductive Response
  | request (r : Option (ServiceRequest P))
  | requests (rs : List (ServiceRequest P))
  | result (r : CommandResult P)
  | operation (p : Option (PreparedProviderOperation P))
  | create (p : Option (PreparedProviderCreate P))
deriving DecidableEq

def Call.run (s : Repository P) : Call P → Except Err (Response P × Repository P)
  | get contractor customer request => do
    return (.request (← s.get contractor customer request), s)
  | apply contractor customer request mutation => do
    let (result, s) ← s.apply contractor customer request mutation
    return (.result result, s)
  | listActionable contractor customer limit => do
    return (.requests (← s.listActionable contractor customer limit), s)
  | prepareOperation contractor customer request key mutation => do
    let (p, s) ← s.prepareProviderOperation contractor customer request key mutation
    return (.operation (some p), s)
  | finalizeOperation p => do
    let (result, s) ← s.finalizeProviderOperation p
    return (.result result, s)
  | recoverOperation contractor customer request => do
    return (.operation (← s.recoverProviderOperation contractor customer request), s)
  | prepareCreate contractor customer request key binding title description mutation => do
    let (p, s) ← s.prepareProviderCreate contractor customer request key binding title description
      mutation
    return (.create (some p), s)
  | finalizeCreate p => do
    let (result, s) ← s.finalizeProviderCreate p
    return (.result result, s)
  | recoverCreate contractor customer request => do
    return (.create (← s.recoverProviderCreate contractor customer request), s)

def step : Machine (Repository P) (Call P) (Except Err (Response P)) := fun s c =>
  match c.run s with
  | .ok (response, s') => (s', .ok response)
  | .error e => (s, .error e)

def Call.customer : Call P → Str
  | get _ customer _ => strip customer
  | apply _ customer _ _ => strip customer
  | listActionable _ customer _ => strip customer
  | prepareOperation _ customer _ _ _ => strip customer
  | finalizeOperation p => strip p.customer_key
  | recoverOperation _ customer _ => strip customer
  | prepareCreate _ customer _ _ _ _ _ _ => strip customer
  | finalizeCreate p => strip p.customer_key
  | recoverCreate _ customer _ => strip customer

end InMemory

end HeyKevin.L3
