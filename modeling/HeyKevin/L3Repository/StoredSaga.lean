import HeyKevin.L3Repository.FirestoreRepository
import HeyKevin.L3Repository.Slots
/-!
# The document of a saga

The Firestore repository keeps a saga in one document and, beside it, when the
document may be deleted or who may recover it (`Keeping`). `Saga.document` is
the document; the lemmas here say that the readers of
`app/db/service_requests.py` read a saga's document back.

* `bindingFromDict_toDict`, `resultFromDict_toDict`, `leaseFromDict_toDict`:
  the codecs of the parts.
* `pendingOperationFromData_operationData`, `pendingCreateFromData_createData`:
  a stored proposal is read back as the proposal.
-/
namespace HeyKevin.L3.Firestore

open HeyKevin.Core L1 L1.Text L1.Datetime L2

variable {P : Python}

/-! ## Codecs of the parts -/

@[simp] theorem bindingFromDict_toDict (b : ProviderBinding) :
    bindingFromDict (bindingToDict b) = .ok (some b) := by
  have hkeys : requireDict (bindingToDict b) ["kind", "resource_id"]
      "provider binding has an invalid schema" =
      .ok [("kind", .str b.kind), ("resource_id", .str b.resource_id)] := rfl
  have hget : bindingFromDict (bindingToDict b) = (do
      let data ← requireDict (bindingToDict b) ["kind", "resource_id"]
        "provider binding has an invalid schema"
      let binding ← conflictOn "provider binding is invalid"
        (ProviderBinding.make (data.get "kind") (data.get "resource_id"))
      return some binding) := rfl
  rw [hget, hkeys, ok_bind]
  simp only [Dict.get_cons, String.reduceEq, if_true, if_false, ProviderBinding.make_fields,
    conflictOn_ok, ok_bind]
  rfl

theorem resultFromDict_toDict {result : CommandResult P} (h : result.request.InOrder)
    (schema invalid wrapped : String) :
    resultFromDict P (resultToDict result) schema invalid wrapped = .ok result := by
  have hkeys : requireDict (resultToDict result) ["request", "outcome"] schema =
      .ok [("request", .dict result.request.toDict), ("outcome", .dict result.outcome.toDict)] :=
    rfl
  rw [resultFromDict, hkeys, ok_bind]
  simp only [Dict.get_cons, String.reduceEq, if_true, if_false, Value.isDict, ensure, and_self,
    ok_bind, ServiceRequest.fromDict_toDict h, Outcome.fromDict_toDict]
  rfl

theorem isSpace_of_isLowerHex {c : CodePoint} (h : Python.isLowerHex c = true) :
    isSpace c = false := by
  simp only [Python.isLowerHex, Bool.or_eq_true, Bool.and_eq_true, decide_eq_true_eq] at h
  simp only [isSpace, Bool.or_eq_false_iff, Bool.and_eq_false_iff, decide_eq_false_iff_not,
    beq_eq_false_iff_ne, ne_eq]
  omega

theorem strip_of_hex {s : Str} (h : s.all Python.isLowerHex = true) : strip s = s := by
  rw [List.all_eq_true] at h
  have hspace : ∀ c ∈ s, ¬ isSpace c = true := fun c hc =>
    Bool.eq_false_iff.mp (isSpace_of_isLowerHex (h c hc))
  have hfront : s.dropWhile isSpace = s := by
    cases s with
    | nil => rfl
    | cons c s => exact List.dropWhile_cons_of_neg (hspace c List.mem_cons_self)
  rw [strip, hfront, List.rdropWhile_eq_self_iff]
  exact fun hne => hspace _ (List.getLast_mem hne)

/-- The two identifiers of a lease as `_bounded_worker_identifier` leaves them, and a UTC expiry. -/
structure Lease.Normal (lease : Lease) : Prop where
  owner : boundedWorkerIdentifier (.str lease.owner) "recovery owner" = .ok lease.owner
  lease_id : boundedWorkerIdentifier (.str lease.lease_id) "recovery lease_id" = .ok lease.lease_id
  expires_at : lease.expires_at.IsUtc

theorem requiredAwareDatetime_of_utc {t : DateTime} (h : t.IsUtc) (field_name : String) :
    requiredAwareDatetime (.time t) field_name = .ok t := by
  have hsome : t.offset.isSome = true := by rw [show t.offset = some 0 from h]; rfl
  simp only [requiredAwareDatetime, hsome, ensure, if_true, ok_bind, h.astimezoneUtc, require]

theorem requiredAwareDatetime_eq_ok {t u : DateTime} {field_name : String}
    (h : requiredAwareDatetime (.time t) field_name = .ok u) :
    u.IsUtc ∧ u.instant = t.instant := by
  simp only [requiredAwareDatetime, bind_eq_ok, ensure_eq_ok, exists_unit, require_eq_ok] at h
  exact DateTime.astimezoneUtc_eq_some h.2

theorem leaseFromDict_toDict {lease : Lease} (h : lease.Normal) :
    leaseFromDict lease.toDict = .ok lease := by
  have hkeys : requireDict lease.toDict ["owner", "lease_id", "expires_at"]
      "provider recovery lease has an invalid schema" =
      .ok [("owner", .str lease.owner), ("lease_id", .str lease.lease_id),
        ("expires_at", .time lease.expires_at)] := rfl
  rw [leaseFromDict, hkeys, ok_bind]
  simp only [Dict.get_cons, String.reduceEq, if_true, if_false, h.owner, h.lease_id, ok_bind,
    requiredAwareDatetime_of_utc h.expires_at]
  rfl

theorem boundedWorkerIdentifier_eq_ok {s t : Str} {field_name : String}
    (h : boundedWorkerIdentifier (.str s) field_name = .ok t) :
    t = strip s ∧ ∀ name, boundedWorkerIdentifier (.str t) name = .ok t := by
  simp only [boundedWorkerIdentifier, bind_eq_ok, ensure_eq_ok, exists_unit, pure_eq_ok,
    Except.ok.injEq] at h
  obtain ⟨hbounds, rfl⟩ := h
  refine ⟨rfl, fun name => ?_⟩
  simp only [boundedWorkerIdentifier, strip_strip, ensure_of _ hbounds, ok_bind]
  rfl

theorem leaseToDict_eq_ok {owner lease_id : Str} {expires_at : DateTime} {value : Value}
    (h : leaseToDict owner lease_id expires_at = .ok value) : ∃ lease : Lease, lease.Normal ∧
      value = lease.toDict ∧ lease.owner = strip owner ∧ lease.lease_id = strip lease_id ∧
      lease.expires_at.instant = expires_at.instant := by
  simp only [leaseToDict, bind_eq_ok, pure_eq_ok, Except.ok.injEq] at h
  obtain ⟨o, ho, l, hl, t, ht, rfl⟩ := h
  obtain ⟨rfl, howner⟩ := boundedWorkerIdentifier_eq_ok ho
  obtain ⟨rfl, hid⟩ := boundedWorkerIdentifier_eq_ok hl
  obtain ⟨hutc, hinstant⟩ := requiredAwareDatetime_eq_ok ht
  exact ⟨⟨_, _, t⟩, ⟨howner _, hid _, hutc⟩, rfl, rfl, rfl, hinstant⟩

/-! ## Codecs of the proposals -/

theorem providerOperationArguments_sorted {result : CommandResult P} {arguments : List (String × Str)}
    (h : providerOperationArguments result = .ok arguments) :
    arguments.Pairwise fun a b => a.1 ≤ b.1 := by
  unfold providerOperationArguments at h
  split at h
  · cases h
    exact .nil
  · simp only [bind_eq_ok, pure_eq_ok, Except.ok.injEq] at h
    obtain ⟨stop, -, start, -, rfl⟩ := h
    exact .cons (by simp) (List.pairwise_singleton _ _)
  · simp only [bind_eq_ok, pure_eq_ok, Except.ok.injEq] at h
    obtain ⟨service, -, rfl⟩ := h
    exact List.pairwise_singleton _ _
  · cases h

theorem proposalArguments_map {arguments : List (String × Str)}
    (h : arguments.Pairwise fun a b => a.1 ≤ b.1) :
    proposalArguments (.dict (arguments.map fun a => (a.1, .str a.2))) = .ok arguments := by
  rw [proposalArguments, List.mapM_map, mapM_eq_self.mpr ?_, ok_bind]
  · exact congrArg Except.ok (List.Pairwise.insertionSort_eq h)
  · exact fun _ _ => rfl

/-- **A proposed operation is read back from what it stores.** -/
theorem pendingOperationFromData_operationData {p : PreparedProviderOperation P} (h : p.Valid)
    (hfresh : p.already_applied = false) (horder : p.result.request.InOrder) :
    pendingOperationFromData (.dict (operationData p)) p.contractor_id p.customer_key p.request_id
      p.binding p.base_request = .ok p := by
  have hkeys : requireDict (.dict (operationData p)) ["schema_version", "logical_operation_id",
      "semantic_fingerprint", "base_revision", "origin_idempotency_key", "proposal"]
      "pending provider operation has an invalid schema" = .ok (operationData p) := rfl
  have hproposal : requireDict (.dict (proposalData p)) ["operation", "arguments", "result"]
      "provider proposal has an invalid schema" = .ok (proposalData p) := rfl
  have hschema : (Value.int PROVIDER_OPERATION_SCHEMA_VERSION).isInt
      PROVIDER_OPERATION_SCHEMA_VERSION = true := by decide
  have hvalid := validatePreparedProviderOperation_iff.mpr h
  rw [pendingOperationFromData, hkeys, ok_bind]
  simp only [operationData, Dict.get_cons, String.reduceEq, if_true, if_false, ensure_of _ hschema,
    ok_bind, hproposal]
  simp only [proposalData, Dict.get_cons, String.reduceEq, if_true, if_false, ok_bind,
    proposalArguments_map (providerOperationArguments_sorted h.arguments),
    resultFromDict_toDict horder, parseOperation_value, conflictOn_ok, requireStr, requireInt,
    Value.int]
  rw [show (⟨p.logical_operation_id, p.contractor_id, p.customer_key, p.request_id,
    p.idempotency_key, p.binding, p.base_request, p.result, p.command_fingerprint, p.operation,
    p.arguments, p.base_revision, false⟩ : PreparedProviderOperation P) = p by rw [← hfresh]]
  rw [hvalid]
  rfl

/-- **A proposed create is read back from what it stores.** -/
theorem pendingCreateFromData_createData {p : PreparedProviderCreate P} (h : p.Valid)
    (hfresh : p.already_applied = false) (horder : p.result.request.InOrder) :
    pendingCreateFromData P (.dict (createData p)) p.contractor_id p.customer_key p.request_id =
      .ok p := by
  have hkeys : requireDict (.dict (createData p)) ["schema_version", "logical_operation_id",
      "semantic_fingerprint", "command_fingerprint", "base_revision", "origin_idempotency_key",
      "binding", "title", "description", "result"]
      "pending provider create has an invalid schema" = .ok (createData p) := rfl
  have hvalid := validatePreparedProviderCreate_iff.mpr h
  rw [pendingCreateFromData, hkeys, ok_bind]
  simp only [createData, Dict.get_cons, String.reduceEq, if_true, if_false, ok_bind,
    resultFromDict_toDict horder, bindingFromDict_toDict, require, requireStr, requireInt, Value.int]
  rw [show (⟨p.logical_operation_id, p.contractor_id, p.customer_key, p.request_id,
    p.idempotency_key, p.binding, p.result, p.command_fingerprint, p.semantic_fingerprint, p.title,
    p.description, p.base_revision, false⟩ : PreparedProviderCreate P) = p by rw [← hfresh]]
  rw [hvalid]
  rfl

/-! ## Documents -/

/-- What a document says beside its saga. A document that carries a proposal is under recovery, in
the hands of its workers or of an operator; any other expires, unless a worker met it by a stale
query and marked it for review. -/
inductive Keeping
  | expires (at_ : DateTime)
  | marked
  | pending (attempts : ℤ) (next_attempt_at : DateTime) (lease : Option Lease)
  | review (attempts : ℤ) (next_attempt_at : DateTime)

def Keeping.field : Keeping → Field → Option Value
  | expires t, .expires_at => some (.time t)
  | marked, .provider_recovery_state => some (.text PROVIDER_RECOVERY_NEEDS_REVIEW)
  | pending _ _ _, .provider_recovery_state => some (.text PROVIDER_RECOVERY_PENDING)
  | pending attempts _ _, .provider_recovery_attempts => some (.int attempts)
  | pending _ t _, .next_attempt_at => some (.time t)
  | pending _ _ lease, .provider_recovery_lease => lease.map Lease.toDict
  | review _ _, .provider_recovery_state => some (.text PROVIDER_RECOVERY_NEEDS_REVIEW)
  | review attempts _, .provider_recovery_attempts => some (.int attempts)
  | review _ t, .next_attempt_at => some (.time t)
  | _, _ => none

/-- The lease that a worker holds. -/
def Keeping.lease : Keeping → Option Lease
  | pending _ _ lease => lease
  | _ => none

def Keeping.attempts : Keeping → ℤ
  | pending attempts _ _ => attempts
  | review attempts _ => attempts
  | _ => 0

/-- The fields of a canonical request. -/
def requestField (customer : Str) (r : ServiceRequest P) (kind : ExecutionKind) :
    Field → Option Value
  | .customer_key => some (.str customer)
  | .execution_kind => some (.text kind.value)
  | .status => some (.text r.data.status.value)
  | .updated_at => some (.time r.data.updated_at)
  | .aggregate => some (.dict r.toDict)
  | _ => none

/-- The fields of a create that waits for its provider. -/
def createField (p : PreparedProviderCreate P) : Field → Option Value
  | .customer_key => some (.str p.customer_key)
  | .status => some (.text PENDING_PROVIDER_CREATE_STATUS)
  | .updated_at => some (.time p.result.request.data.updated_at)
  | .pending_provider_create => some (.dict (createData p))
  | _ => none

/-- The fields that a provider request has beside those of `requestField`. -/
def providerField (receipt : FinalizedProviderCreateReceipt P)
    (proposed : Option (PreparedProviderOperation P)) : Field → Option Value
  | .provider_binding => some (bindingToDict receipt.binding)
  | .finalized_provider_create_receipt => some (.dict (receiptData receipt.logical_operation_id
      receipt.semantic_fingerprint receipt.binding receipt.result))
  | .pending_provider_operation => proposed.map fun p => .dict (operationData p)
  | _ => none

end HeyKevin.L3.Firestore

namespace HeyKevin.L3

open L1 L1.Text L2 L3.Firestore

variable {P : Python}

def Saga.field : Saga P → Field → Option Value
  | absent, _ => none
  | creating p, f => createField p f
  | localOnly customer r, f => requestField customer r .LOCAL f
  | provider customer r receipt proposed, f =>
    (requestField customer r .PROVIDER f).or (providerField receipt proposed f)

def Saga.data (g : Saga P) (k : Keeping) : Document := fun f => (g.field f).or (k.field f)

/-- The document of a saga. -/
def Saga.document (g : Saga P) (k : Keeping) : Stored :=
  match g with
  | absent => none
  | g => some (g.data k)

/-- What a document reached by the repository's transactions holds. A local request keeps the
customer key that `apply` was called with, in whatever form. -/
def Saga.Holds (S : Set (List Byte)) (contractor request_id : Str) : Saga P → Prop
  | localOnly _ r => r.data.request_id = request_id ∧ Sound S r
  | g => g.Ok S contractor request_id

/-- The proposal that waits for its provider. -/
def Saga.proposal : Saga P → Option (Proposal P)
  | creating p => some (.create p)
  | provider _ _ _ (some p) => some (.operation p)
  | _ => none

end HeyKevin.L3

namespace HeyKevin.L3.Firestore

open HeyKevin.Core L1 L1.Text L1.Datetime L2

variable {P : Python}

/-- A document with a proposal is under recovery, any other is not. A lease expires when the
document is due again. -/
def Keeping.Fits (g : Saga P) : Keeping → Prop
  | expires _ => g.proposal = none
  | marked => g.proposal = none
  | pending attempts next_attempt_at lease => g.proposal ≠ none ∧ 0 ≤ attempts ∧
      next_attempt_at.IsUtc ∧ ∀ l ∈ lease, l.Normal ∧ l.expires_at = next_attempt_at
  | review attempts next_attempt_at => g.proposal ≠ none ∧ 0 ≤ attempts ∧ next_attempt_at.IsUtc

theorem ne_absent_of_proposal {g : Saga P} {q : Proposal P} (h : g.proposal = some q) :
    g ≠ .absent := by
  rintro rfl
  cases h

theorem Keeping.Fits.lease_eq_none {g : Saga P} {k : Keeping} (hk : k.Fits g)
    (h : g.proposal = none) : k.lease = none := by
  cases k with
  | pending => exact absurd h hk.1
  | _ => rfl

/-! ## Reading a document -/

variable {S : Set (List Byte)} {contractor request_id customer : Str} {g : Saga P} {k : Keeping}
  {data : Document}

theorem document_eq_some {g : Saga P} {k : Keeping} {d : Document} (h : g.document k = some d) :
    g ≠ .absent ∧ d = g.data k := by
  cases g with
  | absent => cases h
  | _ => exact ⟨nofun, (Option.some.inj h).symm⟩

theorem document_of_ne {g : Saga P} (h : g ≠ .absent) (k : Keeping) :
    g.document k = some (g.data k) := by
  cases g <;> first | rfl | exact absurd rfl h

theorem loadBoundRequest_document (hg : g.Holds S contractor request_id)
    {current : ServiceRequest P}
    (h : loadBoundRequest P (g.document k) customer request_id = .ok (data, current)) :
    g.customer = some customer ∧ g.request = some current ∧ data = g.data k := by
  simp only [loadBoundRequest, bind_eq_ok, require_eq_ok, ensure_eq_ok, exists_unit, pure_eq_ok,
    Except.ok.injEq, Prod.mk.injEq] at h
  obtain ⟨d, hd, hc, ha, r, hr, -, rfl, rfl⟩ := h
  cases g with
  | absent => cases hd
  | creating p =>
    cases hd
    cases k <;> cases ha
  | localOnly c r' =>
    cases hd
    have hr : ServiceRequest.fromDict P (.dict r'.toDict) = .ok r := hr
    rw [ServiceRequest.fromDict_toDict hg.2.inOrder] at hr
    cases hr
    have hc : (Value.str c).isStr customer = true := hc
    exact ⟨congrArg some (by simpa using hc), rfl, rfl⟩
  | provider c r' receipt proposed =>
    cases hd
    have hr : ServiceRequest.fromDict P (.dict r'.toDict) = .ok r := hr
    rw [ServiceRequest.fromDict_toDict hg.1.sound.inOrder] at hr
    cases hr
    have hc : (Value.str c).isStr customer = true := hc
    exact ⟨congrArg some (by simpa using hc), rfl, rfl⟩

theorem executionTargetFromData_data (hg : g.Holds S contractor request_id)
    {t : ServiceRequestExecutionTarget P}
    (h : executionTargetFromData P (g.data k) customer request_id = .ok t) :
    g.customer = some customer ∧ g.target = some t := by
  simp only [executionTargetFromData, bind_eq_ok, ensure_eq_ok, exists_unit,
    conflictOn_eq_ok] at h
  obtain ⟨hc, ha, r, hr, -, kind, hkind, h⟩ := h
  cases g with
  | absent => cases k <;> cases ha
  | creating p => cases k <;> cases ha
  | localOnly c r' =>
    have hr : ServiceRequest.fromDict P (.dict r'.toDict) = .ok r := hr
    rw [ServiceRequest.fromDict_toDict hg.2.inOrder] at hr
    cases hr
    have hc : (Value.str c).isStr customer = true := hc
    have hkind : parseExecutionKind (.text ExecutionKind.LOCAL.value) = .ok kind := hkind
    cases hkind
    simp only [bind_eq_ok, ensure_eq_ok, exists_unit, pure_eq_ok, Except.ok.injEq] at h
    obtain ⟨-, rfl⟩ := h
    exact ⟨congrArg some (by simpa using hc), rfl⟩
  | provider c r' receipt proposed =>
    have hr : ServiceRequest.fromDict P (.dict r'.toDict) = .ok r := hr
    rw [ServiceRequest.fromDict_toDict hg.1.sound.inOrder] at hr
    cases hr
    have hc : (Value.str c).isStr customer = true := hc
    have hkind : parseExecutionKind (.text ExecutionKind.PROVIDER.value) = .ok kind := hkind
    cases hkind
    have hbinding : bindingFromDict ((Saga.provider c r receipt proposed).data k
        |>.get .provider_binding) = .ok (some receipt.binding) :=
      bindingFromDict_toDict receipt.binding
    simp only [hbinding, ok_bind, require, bind_eq_ok, exists_unit, pure_eq_ok,
      Except.ok.injEq] at h
    obtain ⟨-, rfl⟩ := h
    exact ⟨congrArg some (by simpa using hc), rfl⟩

theorem loadProviderRequest_document (hg : g.Holds S contractor request_id)
    {current : ServiceRequest P} {binding : ProviderBinding}
    (h : loadProviderRequest customer request_id (g.document k) = .ok (data, current, binding)) :
    ∃ receipt proposed, g = .provider customer current receipt proposed ∧
      binding = receipt.binding ∧ data = g.data k := by
  simp only [loadProviderRequest, bind_eq_ok] at h
  obtain ⟨⟨d, r⟩, hd, t, ht, h⟩ := h
  obtain ⟨-, hr, rfl⟩ := loadBoundRequest_document hg hd
  obtain ⟨hc, htarget⟩ := executionTargetFromData_data hg ht
  split at h
  case h_2 => cases h
  case h_1 b hb =>
    simp only [pure_eq_ok, Except.ok.injEq, Prod.mk.injEq] at h
    obtain ⟨rfl, rfl, rfl⟩ := h
    cases g with
    | provider c r' receipt proposed =>
      cases hr
      cases hc
      cases htarget
      cases hb
      exact ⟨receipt, proposed, rfl, rfl, rfl⟩
    | localOnly => cases htarget; cases hb
    | _ => cases hr

theorem isNone_operation {r : ServiceRequest P} {receipt : FinalizedProviderCreateReceipt P}
    {proposed : Option (PreparedProviderOperation P)} :
    ((Saga.provider customer r receipt proposed).data k).isNone .pending_provider_operation =
      proposed.isNone := by
  cases proposed <;> cases k <;> rfl

/-- The four fields that only recovery writes. -/
def Field.isRecovery : Field → Bool
  | .provider_recovery_state | .provider_recovery_attempts | .next_attempt_at
  | .provider_recovery_lease => true
  | _ => false

theorem get_recovery {f : Field} (hf : f.isRecovery = true) :
    (g.data k).get f = (k.field f).getD .none := by
  have hnone : g.field f = none := by
    cases g <;> cases f <;> first | rfl | cases hf
  rw [Document.get, Saga.data, hnone, Option.none_or]

/-- The expiry and the fields of recovery. -/
def Field.isKeeping (f : Field) : Bool := f.isRecovery || f == .expires_at

theorem data_of_saga {f : Field} (hf : f.isKeeping = false) :
    g.data k f = g.field f := by
  have hnone : k.field f = none := by
    cases f <;> cases k <;> first | rfl | cases hf
  rw [Saga.data, hnone, Option.or_none]

theorem recoveryMetadata_data (hk : k.Fits g) {m : ℤ × DateTime × Option Lease}
    (h : recoveryMetadata (g.data k) = .ok m) : k = .pending m.1 m.2.1 m.2.2 := by
  simp only [recoveryMetadata, bind_eq_ok, ensure_eq_ok, exists_unit] at h
  obtain ⟨hstate, attempts, hattempts, t, ht, h⟩ := h
  rw [get_recovery rfl] at hstate hattempts ht h
  cases k with
  | expires t => cases hstate
  | marked => cases hstate
  | review a n => cases hstate
  | pending a n lease =>
    obtain ⟨-, hpos, hutc, hlease⟩ := hk
    have ha : attempts = a := by
      have hattempts : recoveryAttempts (.int a) "provider recovery attempts are invalid" =
          .ok attempts := hattempts
      simp only [Value.int, recoveryAttempts, ensure_of _ hpos, ok_bind, pure_eq_ok,
        Except.ok.injEq] at hattempts
      exact hattempts.symm
    have hn : t = n := by
      have ht : requiredAwareDatetime (.time n) "provider recovery retry time" = .ok t := ht
      rw [requiredAwareDatetime_of_utc hutc] at ht
      cases ht
      rfl
    subst ha hn
    cases lease with
    | none =>
      cases h
      rfl
    | some l =>
      have hread := leaseFromDict_toDict (hlease l rfl).1
      have h : (do
          let lease ← leaseFromDict l.toDict
          ensure (lease.expires_at.instant = t.instant)
            (.repositoryConflict "provider recovery lease expiry does not match retry time")
          return (attempts, t, some lease)) = Except.ok m := h
      simp only [hread, ok_bind, bind_eq_ok, ensure_eq_ok, exists_unit, pure_eq_ok,
        Except.ok.injEq] at h
      obtain ⟨-, rfl⟩ := h
      rfl

/-- No lease runs by the clock. -/
def Free (clock : Option DateTime) (k : Keeping) : Prop :=
  ∀ l ∈ k.lease, ∃ t ∈ clock, l.expires_at.instant ≤ t.instant

theorem activeRecoveryLease_data (hk : k.Fits g) {now : DateTime}
    (h : activeRecoveryLease (g.data k) now = .ok false) : Free (some now) k := by
  intro l hl
  cases k with
  | pending attempts next lease =>
    cases hl
    refine ⟨now, rfl, ?_⟩
    have hread := leaseFromDict_toDict (hk.2.2.2 l rfl).1
    rw [activeRecoveryLease, get_recovery rfl] at h
    have h : (do
        let lease ← leaseFromDict l.toDict
        return decide (lease.expires_at.instant > now.instant)) = Except.ok false := h
    simp only [hread, ok_bind, pure_eq_ok, Except.ok.injEq, decide_eq_false_iff_not] at h
    omega
  | _ => cases hl

theorem CreateProposal.read {p : PreparedProviderCreate P}
    (h : CreateProposal S contractor request_id p) :
    pendingCreateFromData P (.dict (createData p)) contractor p.customer_key request_id = .ok p := by
  rw [← h.contractor_id, ← h.request_id]
  exact pendingCreateFromData_createData h.valid h.already_applied h.sound.inOrder

theorem OperationProposal.read {binding : ProviderBinding} {base : ServiceRequest P}
    {p : PreparedProviderOperation P}
    (h : OperationProposal S ⟨contractor, customer, request_id⟩ binding base p) :
    pendingOperationFromData (.dict (operationData p)) contractor customer request_id binding base =
      .ok p := by
  have hid := h.identity
  simp only [PreparedProviderOperation.identity, Identity.mk.injEq] at hid
  rw [← hid.1, ← hid.2.1, ← hid.2.2, ← h.binding, ← h.base_request]
  exact pendingOperationFromData_operationData h.valid h.already_applied h.sound.inOrder

theorem loadPendingCreate_document (hg : g.Holds S contractor request_id) (hk : k.Fits g)
    {p : PreparedProviderCreate P}
    (h : loadPendingCreate P (g.document k) contractor customer request_id = .ok p) :
    g = .creating p ∧ p.customer_key = customer ∧
      ∃ attempts next lease, k = .pending attempts next lease := by
  simp only [loadPendingCreate, bind_eq_ok, require_eq_ok, ensure_eq_ok, exists_unit, pure_eq_ok,
    Except.ok.injEq] at h
  obtain ⟨d, hd, -, hc, -, hstate, _, -, q, hq, -, _, -, -, rfl⟩ := h
  cases g with
  | absent => cases hd
  | creating p' =>
    cases hd
    have hp : CreateProposal S contractor request_id p' := hg
    have hc : (Value.str p'.customer_key).isStr customer = true := hc
    rw [Value.isStr_str, decide_eq_true_eq] at hc
    subst hc
    have hq : pendingCreateFromData P (.dict (createData p')) contractor p'.customer_key request_id =
      .ok q := hq
    rw [CreateProposal.read hp] at hq
    cases hq
    refine ⟨rfl, rfl, ?_⟩
    cases k with
    | pending attempts next lease => exact ⟨attempts, next, lease, rfl⟩
    | review => cases hstate
    | _ => cases hk
  | localOnly c r =>
    cases hd
    cases k <;> cases hq
  | provider c r receipt proposed =>
    cases hd
    cases k <;> cases hq

theorem recoveryPreparation_document (hg : g.Holds S contractor request_id) (hk : k.Fits g)
    {q : Proposal P} (h : recoveryPreparation contractor request_id (g.document k) = .ok q) :
    g.proposal = some q ∧ ∃ attempts next lease, k = .pending attempts next lease := by
  simp only [recoveryPreparation, bind_eq_ok, require_eq_ok, ensure_eq_ok, exists_unit] at h
  obtain ⟨d, hd, c, hc, hone, m, hm, h⟩ := h
  have hdata : d = g.data k := by
    cases g <;> cases hd <;> rfl
  subst hdata
  refine ⟨?_, m.1, m.2.1, m.2.2, recoveryMetadata_data hk hm⟩
  split at h
  · simp only [bind_eq_ok, ensure_eq_ok, exists_unit, pure_eq_ok, Except.ok.injEq] at h
    obtain ⟨-, p, hp, rfl⟩ := h
    obtain ⟨rfl, -⟩ := loadPendingCreate_document hg hk hp
    rfl
  · simp only [bind_eq_ok, ensure_eq_ok, exists_unit] at h
    obtain ⟨-, ⟨d', current⟩, hbound, t, ht, h⟩ := h
    obtain ⟨-, hcurrent, rfl⟩ := loadBoundRequest_document hg hbound
    obtain ⟨hcustomer, htarget⟩ := executionTargetFromData_data hg ht
    split at h
    case h_1 => cases h
    case h_2 binding hbinding =>
      simp only [bind_eq_ok, ensure_eq_ok, exists_unit, pure_eq_ok, Except.ok.injEq] at h
      obtain ⟨-, _, -, -, p, hp, rfl⟩ := h
      cases g with
      | provider c' r receipt proposed =>
        cases hcustomer
        cases htarget
        cases hbinding
        cases proposed with
        | none => cases k <;> cases hp
        | some p' =>
          cases hcurrent
          have hp : pendingOperationFromData (.dict (operationData p')) contractor c request_id
            receipt.binding current = .ok p := hp
          rw [OperationProposal.read (hg.2.2 p' rfl)] at hp
          cases hp
          rfl
      | localOnly c' r =>
        cases htarget
        cases hbinding
      | _ => cases hcurrent

/-- The lease a worker was given is the stored one. -/
structure Held (lease : LeasedProviderRecovery P) (k : Keeping) : Prop where
  stored : ∃ next l, k = .pending lease.attempt next (some l) ∧ l.owner = lease.owner ∧
    l.lease_id = lease.lease_id ∧ l.expires_at.instant = lease.lease_expires_at.instant

theorem leaseMatches_data (hk : k.Fits g) {lease : LeasedProviderRecovery P}
    (h : leaseMatches (g.data k) lease = .ok true) : Held lease k := by
  unfold leaseMatches at h
  rw [get_recovery rfl, get_recovery rfl] at h
  split at h
  case h_1 => cases h
  case h_2 => cases h
  case h_3 stored hstored =>
    simp only [bind_eq_ok, require_eq_ok, pure_eq_ok, Except.ok.injEq, Bool.and_eq_true,
      decide_eq_true_eq] at h
    obtain ⟨t, ht, ⟨howner, hid, hinstant⟩, hattempts⟩ := h
    cases k with
    | pending a n lease' =>
      cases lease' with
      | none => cases hstored
      | some l =>
        obtain ⟨-, -, -, hlease⟩ := hk
        have hstored : leaseFromDict l.toDict = .ok stored := hstored
        rw [leaseFromDict_toDict (hlease l rfl).1] at hstored
        cases hstored
        have ha : ((a : ℚ) == (lease.attempt : ℚ)) = true := hattempts
        rw [beq_iff_eq, Int.cast_inj] at ha
        subst ha
        exact ⟨n, stored, rfl, howner, hid,
          hinstant.trans (DateTime.astimezoneUtc_eq_some ht).2⟩
    | _ => cases hstored

end HeyKevin.L3.Firestore
