import HeyKevin.Core.Machine
import HeyKevin.L3Repository.FirestoreDocument
import Mathlib.Logic.Function.Basic
/-!
# The Firestore repository

`app/db/service_requests.py:785-1892`: the transaction bodies, each a function
of the document it reads. A body returns its result and the document that it
leaves; one that raises writes nothing. `datetime.now(UTC)` and the lease ids
that `secrets.token_hex` draws are arguments.

* `apply`, `prepareProviderOperation`, `finalizeProviderOperation`,
  `prepareProviderCreate`, `finalizeProviderCreate`: the callers.
* `claimOne`, `finalizeProviderRecovery`, `finalizeReconciledProviderRecovery`,
  `releaseProviderRecovery`: the recovery workers.

Line numbers are those of app/db/service_requests.py.
-/
namespace HeyKevin.L3.Firestore

open HeyKevin.Core L1 L1.Text L1.Datetime L2

variable {P : Python}

abbrev Stored := Option Document

/-! ## Fields that the writers share -/

/-- mirrors 658-674 -/
def requestFields (request : ServiceRequest P) (customer_key : Str) (kind : ExecutionKind)
    (now : DateTime) : Except Err Document := do
  let latest :=
    if now.instant > request.data.scheduled_end.instant then now else request.data.scheduled_end
  let expiry ← require (latest.add (RETENTION_DAYS * 86400 * second)) .overflow
  return .ofList [
    (.customer_key, .str customer_key),
    (.execution_kind, .text kind.value),
    (.status, .text request.data.status.value),
    (.updated_at, .time request.data.updated_at),
    (.expires_at, .time expiry),
    (.aggregate, .dict request.toDict)]

def dropProposal (data : Document) : Document :=
  ((((data.pop .pending_provider_operation).pop .provider_recovery_state).pop
    .provider_recovery_attempts).pop .next_attempt_at).pop .provider_recovery_lease

/-- The document that confirming a create writes.
mirrors 1450-1458 and 1680-1688 -/
def finalizedCreate (p : PreparedProviderCreate P) (customer_key : Str) (now : DateTime) :
    Except Err Document := do
  let finalized ← requestFields p.result.request customer_key .PROVIDER now
  return (finalized.set .provider_binding (bindingToDict p.binding)).set
    .finalized_provider_create_receipt (finalizedCreateReceiptData p)

/-- The document that confirming an operation writes.
mirrors 1192-1204 and 1696-1708 -/
def finalizedOperation (data : Document) (p : PreparedProviderOperation P) (customer_key : Str)
    (now : DateTime) : Except Err Document := do
  let fields ← requestFields p.result.request customer_key .PROVIDER now
  return dropProposal (data.update fields)

/-- mirrors 634-640 -/
def activeRecoveryLease (data : Document) (now : DateTime) : Except Err Bool :=
  match data.get .provider_recovery_lease with
  | .none => return false
  | value => do
    let lease ← leaseFromDict value
    return decide (lease.expires_at.instant > now.instant)

/-! ## Callers -/

/-- `data.get(f) is None` -/
def Document.isNone (data : Document) (f : Field) : Bool :=
  match data.get f with
  | .none => true
  | _ => false

/-- The guards of `apply` on an existing document: only local execution passes. -/
def requireLocal (customer_key request_id : Str) (doc : Stored) :
    Except Err (Option (ServiceRequest P)) :=
  match doc with
  | none => .ok none
  | some _ => do
    let (data, current) ← loadBoundRequest P doc customer_key request_id
    let target ← executionTargetFromData P data customer_key request_id
    ensure (data.isNone .pending_provider_operation)
      (.repositoryConflict "a provider mutation is pending for this service request")
    ensure (target.execution = .local)
      (.providerBindingRequired "provider requests require two-phase mutation")
    return some current

/-- A command returns the request it was given when it replays and appends a record
otherwise, so `current is result.request` exactly when the two are equal.
mirrors 842-904 -/
def apply (customer_key request_id : Str) (mutation : Mutation) (now : DateTime) (doc : Stored) :
    Except Err (CommandResult P × Stored) := do
  let current ← requireLocal customer_key request_id doc
  let result ← mutation.call P current
  ensure (result.request.data.request_id = request_id)
    (.repositoryConflict "mutation returned a different request_id")
  if current = some result.request then return (result, doc)
  else
    let fields ← requestFields result.request customer_key .LOCAL now
    return (result, some fields)

def loadProviderRequest (customer_key request_id : Str) (doc : Stored) :
    Except Err (Document × ServiceRequest P × ProviderBinding) := do
  let (data, current) ← loadBoundRequest P doc customer_key request_id
  let target ← executionTargetFromData P data customer_key request_id
  match target.execution with
  | .provider binding => return (data, current, binding)
  | .local => .error (.repositoryConflict "service request is not provider-backed")

/-- mirrors 1012-1112 -/
def prepareProviderOperation (contractor_id customer_key request_id idempotency_key : Str)
    (mutation : Mutation) (doc : Stored) : Except Err (PreparedProviderOperation P × Stored) := do
  let i ← repositoryIdentity contractor_id customer_key request_id
  let key ← requiredIdentifier (.str idempotency_key) "idempotency_key"
  let (data, current, binding) ← loadProviderRequest i.customer i.request doc
  let result ← mutation.call P (some current)
  ensure (result.request.data.request_id = i.request)
    (.repositoryConflict "mutation returned a different request_id")
  let preparation ← L3.prepareProviderOperation i key binding current result
  if data.isNone .pending_provider_operation then
    if preparation.already_applied = true then return (preparation, doc)
    else
      let pending ← pendingOperationData preparation
      let pending_data := (((data.set .pending_provider_operation pending).set
        .provider_recovery_state (.text PROVIDER_RECOVERY_PENDING)).set
        .provider_recovery_attempts (.int 0)).set
        .next_attempt_at (.time preparation.result.request.data.updated_at)
      return (preparation, some (pending_data.pop .expires_at))
  else
    let _ ← recoveryMetadata data
    let recovered ← pendingOperationFromData (data.get .pending_provider_operation) i.contractor
      i.customer i.request binding current
    ensure (recovered.command_fingerprint = preparation.command_fingerprint ∧
        recovered.base_revision = preparation.base_revision ∧
        recovered.operation = preparation.operation ∧
        recovered.arguments = preparation.arguments)
      (.repositoryConflict "a different provider mutation is already pending")
    return (recovered, doc)

/-- mirrors 1114-1213 -/
def finalizeProviderOperation (preparation : PreparedProviderOperation P) (leaseNow now : DateTime)
    (doc : Stored) : Except Err (CommandResult P × Stored) := do
  let i ← repositoryIdentity preparation.contractor_id preparation.customer_key
    preparation.request_id
  validatePreparedProviderOperation preparation
  let (data, current, binding) ← loadProviderRequest i.customer i.request doc
  let applied := appliedResult current preparation.command_fingerprint
  if preparation.already_applied = true then
    let applied ← require (applied.filter fun _ => preparation.binding = binding)
      (.repositoryConflict "applied provider operation no longer matches canonical state")
    return (applied, doc)
  else if data.isNone .pending_provider_operation then
    let applied ← require (applied.filter fun _ => preparation.binding = binding)
      (.repositoryConflict "provider operation is not the current prepared mutation")
    return (applied, doc)
  else
    let _ ← recoveryMetadata data
    let active ← activeRecoveryLease data leaseNow
    ensure (active = false)
      (.repositoryConflict "provider operation is owned by a recovery worker")
    let recovered ← pendingOperationFromData (data.get .pending_provider_operation) i.contractor
      i.customer i.request binding current
    ensure (recovered.logical_operation_id = preparation.logical_operation_id)
      (.repositoryConflict "provider operation is not the current prepared mutation")
    ensure (binding = preparation.binding)
      (.repositoryConflict "service request changed before provider finalization")
    let updated ← finalizedOperation data recovered i.customer now
    return (recovered.result, some updated)

/-- mirrors 1262-1361 -/
def prepareProviderCreate (contractor_id customer_key request_id idempotency_key : Str)
    (binding : ProviderBinding) (title description : Str) (mutation : Mutation) (doc : Stored) :
    Except Err (PreparedProviderCreate P × Stored) := do
  let preparation ← proposeCreate contractor_id customer_key request_id idempotency_key binding
    title description mutation
  match doc with
  | none =>
    let fields ← pendingCreateFields preparation preparation.customer_key
    return (preparation, some fields)
  | some data =>
    ensure ((data.get .customer_key).isStr preparation.customer_key)
      (.repositoryConflict "service request does not belong to this customer")
    if Value.isDict (data.get .aggregate) then
      let target ← executionTargetFromData P data preparation.customer_key preparation.request_id
      ensure (target.execution = .provider preparation.binding)
        (.repositoryConflict "service request execution provenance does not match")
      ensure (data.isNone .finalized_provider_create_receipt = false)
        (.repositoryConflict "service request already exists")
      let _ ← validateFinalizedCreateReceipt (data.get .finalized_provider_create_receipt)
        preparation
      return ({ preparation with already_applied := true }, doc)
    else
      let recovered ← loadPendingCreate P doc preparation.contractor_id preparation.customer_key
        preparation.request_id
      ensure (recovered.semantic_fingerprint = preparation.semantic_fingerprint)
        (.repositoryConflict "a different provider create is already pending")
      return (recovered, doc)

/-- mirrors 1363-1467 -/
def finalizeProviderCreate (preparation : PreparedProviderCreate P) (leaseNow now : DateTime)
    (doc : Stored) : Except Err (CommandResult P × Stored) := do
  validatePreparedProviderCreate preparation
  let i ← repositoryIdentity preparation.contractor_id preparation.customer_key
    preparation.request_id
  let data ← require doc
    (.repositoryConflict "provider create is not the current prepared operation")
  ensure ((data.get .customer_key).isStr i.customer)
    (.repositoryConflict "service request does not belong to this customer")
  if Value.isDict (data.get .aggregate) then
    let (data, current, binding) ← loadProviderRequest i.customer i.request doc
    let applied ← validateFinalizedCreateReceipt (data.get .finalized_provider_create_receipt)
      preparation
    let canonical_create := appliedResult current preparation.command_fingerprint
    ensure (binding = preparation.binding ∧
        canonical_create.map CommandResult.outcome = some applied.outcome)
      (.repositoryConflict "finalized provider create no longer matches canonical state")
    return (applied, doc)
  else
    let recovered ← loadPendingCreate P doc i.contractor i.customer i.request
    let active ← activeRecoveryLease data leaseNow
    ensure (active = false) (.repositoryConflict "provider create is owned by a recovery worker")
    ensure (recovered.logical_operation_id = preparation.logical_operation_id ∧
        recovered.semantic_fingerprint = preparation.semantic_fingerprint)
      (.repositoryConflict "provider create is not the current prepared operation")
    let finalized ← finalizedCreate recovered i.customer now
    return (recovered.result, some finalized)

/-! ## Recovery workers -/

/-- mirrors 507-578 -/
def recoveryPreparation (contractor_id request_id : Str) (doc : Stored) :
    Except Err (Proposal P) := do
  let data ← require doc (.repositoryConflict "provider recovery document was not found")
  let customer_key ← requiredCustomerKey (data.get .customer_key)
  let has_create := data.has .pending_provider_create
  let has_operation := data.has .pending_provider_operation
  ensure (has_create ≠ has_operation)
    (.repositoryConflict "provider recovery proposal is ambiguous")
  let _ ← recoveryMetadata data
  if has_create then
    ensure (Value.isDict (data.get .aggregate) = false ∧ data.has .provider_binding = false)
      (.repositoryConflict "pending provider create exposes canonical state")
    let p ← loadPendingCreate P doc contractor_id customer_key request_id
    return .create p
  else
    let allowed : List Field := [.customer_key, .execution_kind, .status, .updated_at, .aggregate,
      .provider_binding, .pending_provider_operation, .provider_recovery_state,
      .provider_recovery_attempts, .next_attempt_at]
    let optional : List Field := [.finalized_provider_create_receipt, .provider_recovery_lease]
    ensure (allowed.all data.has ∧
        Field.all.all fun f => !data.has f || allowed.contains f || optional.contains f)
      (.repositoryConflict "pending provider operation document has an invalid schema")
    let (_, current) ← loadBoundRequest P doc customer_key request_id
    let target ← executionTargetFromData P data customer_key request_id
    match target.execution with
    | .local => .error (.repositoryConflict "provider recovery target is not provider-backed")
    | .provider binding =>
      ensure ((data.get .status).isStr (py current.data.status.value))
        (.repositoryConflict "provider recovery status is invalid")
      let updated_at ←
        requiredAwareDatetime (data.get .updated_at) "provider recovery update time"
      ensure (updated_at.instant = current.data.updated_at.instant)
        (.repositoryConflict "provider recovery aggregate timestamp is invalid")
      let p ← pendingOperationFromData (data.get .pending_provider_operation) contractor_id
        customer_key request_id binding current
      return .operation p

structure LeasedProviderRecovery (P : Python) where
  kind : RecoveryKind
  contractor_id : Str
  customer_key : Str
  request_id : Str
  owner : Str
  lease_id : Str
  lease_expires_at : DateTime
  attempt : ℤ
  preparation : Proposal P
deriving DecidableEq

/-- `secrets.token_hex(16)` -/
structure LeaseId where
  text : Str
  length : text.length = 32
  hex : text.all Python.isLowerHex = true

/-- The arguments of `claim_due_provider_recoveries` after its checks. -/
structure ClaimSettings where
  owner : Str
  checked_at : DateTime
  limit : ℤ
  lease_seconds : ℤ
  max_attempts : ℤ

/-- mirrors 1511-1530 -/
def claimSettings (owner : Str) (now : DateTime) (limit lease_seconds max_attempts : ℤ) :
    Except Err ClaimSettings := do
  let owner ← boundedWorkerIdentifier (.str owner) "recovery owner"
  let checked_at ← requiredAwareDatetime (.time now) "provider recovery clock"
  ensure (1 ≤ limit ∧ limit ≤ 25) (.valueError "limit must be between 1 and 25")
  ensure (15 ≤ lease_seconds ∧ lease_seconds ≤ 15 * 60)
    (.valueError "lease_seconds must be between 15 and 900")
  ensure (1 ≤ max_attempts ∧ max_attempts ≤ 50)
    (.valueError "max_attempts must be between 1 and 50")
  return ⟨owner, checked_at, limit, lease_seconds, max_attempts⟩

def needsReview (data : Document) : Document :=
  ((data.set .provider_recovery_state (.text PROVIDER_RECOVERY_NEEDS_REVIEW)).pop
    .provider_recovery_lease).pop .expires_at

/-- The transaction of `claim_due_provider_recoveries` on one candidate.
mirrors 1568-1636 -/
def claimOne (settings : ClaimSettings) (contractor_id request_id : Str) (lease_id : LeaseId)
    (doc : Stored) : Except Err (Option (LeasedProviderRecovery P) × Stored) :=
  match doc with
  | none => .ok (none, doc)
  | some data =>
    let read : Except Err _ := do
      let metadata ← recoveryMetadata data
      let preparation ← recoveryPreparation (P := P) contractor_id request_id doc
      return (metadata, preparation)
    match read with
    | .error e =>
      if e = .overflow then .error e
      -- The document can not be replayed; it is kept for review.
      else .ok (none, some (needsReview data))
    | .ok ((attempts, next_attempt_at, current_lease), preparation) =>
      if next_attempt_at.instant > settings.checked_at.instant then .ok (none, doc)
      else if ∃ lease ∈ current_lease, lease.expires_at.instant > settings.checked_at.instant then
        .ok (none, doc)
      else if attempts ≥ settings.max_attempts then .ok (none, some (needsReview data))
      else do
        let attempt := attempts + 1
        let lease_expires_at ←
          require (settings.checked_at.add (settings.lease_seconds * second)) .overflow
        let lease ← leaseToDict settings.owner lease_id.text lease_expires_at
        let leased := ((data.set .provider_recovery_attempts (.int attempt)).set
          .next_attempt_at (.time lease_expires_at)).set .provider_recovery_lease lease
        return (some
          { kind := preparation.kind
            contractor_id := contractor_id
            customer_key := preparation.identity.customer
            request_id := request_id
            owner := settings.owner
            lease_id := lease_id.text
            lease_expires_at := lease_expires_at
            attempt := attempt
            preparation := preparation }, some leased)

/-- mirrors 581-592 -/
def leaseMatches (data : Document) (lease : LeasedProviderRecovery P) : Except Err Bool :=
  match leaseFromDict (data.get .provider_recovery_lease) with
  | .error .overflow => .error .overflow
  | .error _ => .ok false
  | .ok stored => do
    let expires_at ← require lease.lease_expires_at.astimezoneUtc .overflow
    return decide (stored.owner = lease.owner ∧ stored.lease_id = lease.lease_id ∧
      stored.expires_at.instant = expires_at.instant) &&
      (data.get .provider_recovery_attempts).isInt lease.attempt

/-- mirrors 595-631 -/
def validateRecoveryLease (lease : LeasedProviderRecovery P) : Except Err Unit := do
  let i ← repositoryIdentity lease.contractor_id lease.customer_key lease.request_id
  ensure (i = ⟨lease.contractor_id, lease.customer_key, lease.request_id⟩)
    (.repositoryConflict "provider recovery lease identity is invalid")
  match lease.preparation with
  | .create p => validatePreparedProviderCreate p
  | .operation p => validatePreparedProviderOperation p
  ensure (lease.kind = lease.preparation.kind ∧ i = lease.preparation.identity)
    (.repositoryConflict "provider recovery lease does not match its preparation")
  let _ ← boundedWorkerIdentifier (.str lease.owner) "recovery owner"
  let _ ← boundedWorkerIdentifier (.str lease.lease_id) "recovery lease_id"
  let _ ← requiredAwareDatetime (.time lease.lease_expires_at) "recovery lease expiry"
  ensure (1 ≤ lease.attempt)
    (.repositoryConflict "provider recovery lease attempt is invalid")

def leasedPreparation (lease : LeasedProviderRecovery P) (doc : Stored) :
    Except Err (Option (Document × Proposal P)) :=
  match doc with
  | none => .ok none
  | some data => do
    if ← leaseMatches data lease then
      let preparation ← recoveryPreparation (P := P) lease.contractor_id lease.request_id doc
      return some (data, preparation)
    else return none

def leasedProposal (lease : LeasedProviderRecovery P) (doc : Stored) :
    Except Err (Option (Document × Proposal P)) := do
  match ← leasedPreparation lease doc with
  | none => return none
  | some (data, preparation) =>
    ensure (preparation.kind = lease.kind ∧
        preparation.logical_operation_id = lease.preparation.logical_operation_id)
      (.repositoryConflict "provider recovery lease proposal changed")
    return some (data, preparation)

/-- mirrors 1646-1717 -/
def finalizeProviderRecovery (lease : LeasedProviderRecovery P) (now : DateTime) (doc : Stored) :
    Except Err (Bool × Stored) := do
  validateRecoveryLease lease
  match ← leasedProposal lease doc with
  | none => return (false, doc)
  | some (_, .create p) =>
    let finalized ← finalizedCreate p lease.customer_key now
    return (true, some finalized)
  | some (data, .operation p) =>
    let updated ← finalizedOperation data p lease.customer_key now
    return (true, some updated)

/-- `authorized` is whether the claim id is well formed and the contractor document that the
transaction reads has a server time and classifies as `matching_claim`. The claim fields that the
transaction deletes are the contractor's.
mirrors 1719-1831 -/
def finalizeReconciledProviderRecovery (lease : LeasedProviderRecovery P)
    (bound_operation_id : Str) (authorized : Bool) (now : DateTime) (doc : Stored) :
    Except Err (Bool × Stored) := do
  validateRecoveryLease lease
  if bound_operation_id ≠ lease.preparation.logical_operation_id then return (false, doc)
  else
    match lease.preparation with
    | .create _ => return (false, doc)
    | .operation p =>
      if p.operation ≠ .RESCHEDULE ∨ p.binding.kind ≠ py "google_calendar" then return (false, doc)
      else
        match ← leasedPreparation lease doc with
        | none => return (false, doc)
        | some (_, .create _) =>
          .error (.repositoryConflict "reconciled provider recovery proposal changed")
        | some (data, .operation recovered) =>
          ensure (recovered.operation = .RESCHEDULE ∧ recovered.identity = p.identity ∧
              recovered.logical_operation_id = bound_operation_id ∧ recovered.binding = p.binding)
            (.repositoryConflict "reconciled provider recovery proposal changed")
          if authorized = false then return (false, doc)
          else
            let finalized ← finalizedOperation data recovered recovered.customer_key now
            return (true, some finalized)

/-- mirrors 1833-1892 -/
def releaseProviderRecovery (lease : LeasedProviderRecovery P) (now : DateTime) (max_attempts : ℤ)
    (doc : Stored) : Except Err (Bool × Stored) := do
  validateRecoveryLease lease
  let checked_at ← requiredAwareDatetime (.time now) "provider recovery clock"
  ensure (1 ≤ max_attempts ∧ max_attempts ≤ 50)
    (.valueError "max_attempts must be between 1 and 50")
  match ← leasedProposal lease doc with
  | none => return (false, doc)
  | some (data, _) =>
    let released := (data.pop .provider_recovery_lease).pop .expires_at
    if lease.attempt ≥ max_attempts then
      return (true, some ((released.set .provider_recovery_state
        (.text PROVIDER_RECOVERY_NEEDS_REVIEW)).set .next_attempt_at (.time checked_at)))
    else
      let next_attempt_at ←
        require (checked_at.add (recoveryBackoff lease.attempt * second)) .overflow
      return (true, some ((released.set .provider_recovery_state
        (.text PROVIDER_RECOVERY_PENDING)).set .next_attempt_at (.time next_attempt_at)))

/-! ## The repository as a machine -/

abbrev Path := Str × Str

abbrev Store := Path → Stored

variable (P) in
/-- A transaction and the clock readings it takes. `claim` is the turn of the loop of
`claim_due_provider_recoveries` on one candidate of its query, which may be stale by then. -/
inductive Call
  | apply (contractor_id customer_key request_id : Str) (mutation : Mutation) (now : DateTime)
  | prepareCreate (contractor_id customer_key request_id idempotency_key : Str)
      (binding : ProviderBinding) (title description : Str) (mutation : Mutation)
  | finalizeCreate (preparation : PreparedProviderCreate P) (leaseNow now : DateTime)
  | prepareOperation (contractor_id customer_key request_id idempotency_key : Str)
      (mutation : Mutation)
  | finalizeOperation (preparation : PreparedProviderOperation P) (leaseNow now : DateTime)
  | claim (owner : Str) (now : DateTime) (limit lease_seconds max_attempts : ℤ)
      (candidate : List Str) (lease_id : LeaseId)
  | finalizeRecovery (lease : LeasedProviderRecovery P) (now : DateTime)
  | finalizeReconciled (lease : LeasedProviderRecovery P) (bound_operation_id : Str)
      (authorized : Bool) (now : DateTime)
  | releaseRecovery (lease : LeasedProviderRecovery P) (now : DateTime) (max_attempts : ℤ)

variable (P) in
inductive Response
  | result (r : CommandResult P)
  | create (p : PreparedProviderCreate P)
  | operation (p : PreparedProviderOperation P)
  | lease (l : Option (LeasedProviderRecovery P))
  | done (b : Bool)

/-- The document that a call is about. `apply` takes the ids as they are. -/
def Call.path : Call P → Path
  | apply contractor _ request _ _ => (contractor, request)
  | prepareCreate contractor _ request _ _ _ _ _ => (strip contractor, strip request)
  | finalizeCreate p _ _ => (strip p.contractor_id, strip p.request_id)
  | prepareOperation contractor _ request _ _ => (strip contractor, strip request)
  | finalizeOperation p _ _ => (strip p.contractor_id, strip p.request_id)
  | claim _ _ _ _ _ candidate _ => (candidate.getD 1 [], candidate.getD 3 [])
  | finalizeRecovery lease _ => (lease.contractor_id, lease.request_id)
  | finalizeReconciled lease _ _ _ => (lease.contractor_id, lease.request_id)
  | releaseRecovery lease _ _ => (lease.contractor_id, lease.request_id)

def Call.run (doc : Stored) : Call P → Except Err (Response P × Stored)
  | apply contractor customer request mutation now => do
    ensure (contractor ≠ []) (.valueError "contractor_id is required")
    let (r, doc) ← Firestore.apply customer request mutation now doc
    return (.result r, doc)
  | prepareCreate contractor customer request key binding title description mutation => do
    let (p, doc) ← prepareProviderCreate contractor customer request key binding title description
      mutation doc
    return (.create p, doc)
  | finalizeCreate p leaseNow now => do
    let (r, doc) ← finalizeProviderCreate p leaseNow now doc
    return (.result r, doc)
  | prepareOperation contractor customer request key mutation => do
    let (p, doc) ← prepareProviderOperation contractor customer request key mutation doc
    return (.operation p, doc)
  | finalizeOperation p leaseNow now => do
    let (r, doc) ← finalizeProviderOperation p leaseNow now doc
    return (.result r, doc)
  | claim owner now limit lease_seconds max_attempts candidate lease_id => do
    let settings ← claimSettings owner now limit lease_seconds max_attempts
    let (contractor, request) ← strictServiceRequestPath candidate
    let (l, doc) ← claimOne settings contractor request lease_id doc
    return (.lease l, doc)
  | finalizeRecovery lease now => do
    let (b, doc) ← finalizeProviderRecovery lease now doc
    return (.done b, doc)
  | finalizeReconciled lease bound_operation_id authorized now => do
    let (b, doc) ← finalizeReconciledProviderRecovery lease bound_operation_id authorized now doc
    return (.done b, doc)
  | releaseRecovery lease now max_attempts => do
    let (b, doc) ← releaseProviderRecovery lease now max_attempts doc
    return (.done b, doc)

def step : Machine Store (Call P) (Except Err (Response P)) := fun s c =>
  match c.run (s c.path) with
  | .ok (response, doc) => (Function.update s c.path doc, .ok response)
  | .error e => (s, .error e)

end HeyKevin.L3.Firestore
