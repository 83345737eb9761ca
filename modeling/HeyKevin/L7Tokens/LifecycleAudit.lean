import HeyKevin.L7Tokens.Credentials
/-!
# Disconnect audit and revocation outbox

mirrors app/db/integration_lifecycle_audit.py: the document ids (134-152), the
builders (155-234) and the validators of a disconnect (237-590).

The documents are dictionaries. A validator returns the record that the
dictionary spells, and a builder writes one out.

* `validateOutboxRecord_eq_ok`, `validateDisconnectAuditRecord_eq_ok`: a
  document is accepted exactly when it is, but for the order of its entries, what
  the builder writes of a record that meets its own rules.
* `validateDisconnectLifecyclePair_eq_ok`: a pair is accepted exactly when the
  two records belong together.

Line numbers are those of app/db/integration_lifecycle_audit.py.
-/
namespace HeyKevin.L7.Tokens

open HeyKevin.Core Binary64 L1 L1.Text L1.Datetime

/-- `ALL_REVOCATION_STATUSES` -/
inductive RevocationStatus
  | requestStarted | confirmed | rejected | transportError | notAttemptedUnavailable
deriving DecidableEq

/-- `VALID_DISPOSITIONS` -/
inductive Disposition
  | executed | partialReconciled | legacyReconciled
deriving DecidableEq

/-- `VALID_PROVIDERS` -/
inductive Provider
  | jobber | googleCalendar
deriving DecidableEq

/-- `VALID_DISCONNECT_ACTORS` -/
inductive Actor
  | contractorApi | adminApi | systemReconciliation
deriving DecidableEq

/-- `VALID_DISCONNECT_REASONS` -/
inductive Reason
  | contractorInitiatedDisconnect | legacyReconciliation | adminInitiatedDisconnect
  | userRequestedDisconnect
deriving DecidableEq

def RevocationStatus.text : RevocationStatus → String
  | requestStarted => "provider_request_started"
  | confirmed => "provider_confirmed"
  | rejected => "provider_rejected"
  | transportError => "transport_error_unknown"
  | notAttemptedUnavailable => "not_attempted_unavailable_token"

def Disposition.text : Disposition → String
  | executed => "executed"
  | partialReconciled => "partial_reconciled"
  | legacyReconciled => "legacy_reconciled"

def Provider.text : Provider → String
  | jobber => "jobber"
  | googleCalendar => "google_calendar"

def Actor.text : Actor → String
  | contractorApi => "contractor_api"
  | adminApi => "admin_api"
  | systemReconciliation => "system_reconciliation"

def Reason.text : Reason → String
  | contractorInitiatedDisconnect => "contractor_initiated_disconnect"
  | legacyReconciliation => "legacy_reconciliation"
  | adminInitiatedDisconnect => "admin_initiated_disconnect"
  | userRequestedDisconnect => "user_requested_disconnect"

/-- `TERMINAL_REVOCATION_STATUSES` -/
def RevocationStatus.IsTerminal (s : RevocationStatus) : Prop := s ≠ .requestStarted

instance (s : RevocationStatus) : Decidable s.IsTerminal := inferInstanceAs (Decidable (_ ≠ _))

theorem RevocationStatus.text_injective : Function.Injective RevocationStatus.text := by
  intro a b h
  cases a <;> cases b <;> first | rfl | exact absurd h (by decide)

theorem Disposition.text_injective : Function.Injective Disposition.text := by
  intro a b h
  cases a <;> cases b <;> first | rfl | exact absurd h (by decide)

theorem Provider.text_injective : Function.Injective Provider.text := by
  intro a b h
  cases a <;> cases b <;> first | rfl | exact absurd h (by decide)

theorem Actor.text_injective : Function.Injective Actor.text := by
  intro a b h
  cases a <;> cases b <;> first | rfl | exact absurd h (by decide)

theorem Reason.text_injective : Function.Injective Reason.text := by
  intro a b h
  cases a <;> cases b <;> first | rfl | exact absurd h (by decide)

/-! ## Records and documents -/

/-- mirrors 134-141
for google_calendar -/
def formatAuditDocId (contractorId : Str) (provider : Provider) (generation : ℤ)
    (action : String) : Str :=
  contractorId ++ py "_" ++ py provider.text ++ py "_" ++ decimal generation ++ py "_" ++ py action

/-- mirrors 144-152 -/
def formatOutboxDocId (contractorId : Str) (provider : Provider) (generation : ℤ) : Str :=
  formatAuditDocId contractorId provider generation "credentials_deleted"

structure Outbox where
  contractorId : Str
  provider : Provider
  generation : ℤ
  lifecycleEpoch : ℤ
  status : RevocationStatus
  claimId : Option Str
  auditFinalized : Bool
  auditFinalizedAt : Option Double
  createdAt : Double
  updatedAt : Double
  disposition : Disposition
deriving DecidableEq

structure Audit where
  contractorId : Str
  provider : Provider
  generation : ℤ
  lifecycleEpoch : ℤ
  actor : Actor
  reason : Reason
  disposition : Disposition
  revocationStatus : RevocationStatus
  revocationCompletedAt : Option Double
  createdAt : Double
deriving DecidableEq

def optStr : Option Str → Value
  | none => .none
  | some s => .str s

def optFloat : Option Double → Value
  | none => .none
  | some d => .number (.float d)

/-- mirrors 208-234
(`build_disconnect_outbox_record`) -/
def buildDisconnectOutboxRecord (o : Outbox) : Dict :=
  [("schema_version", .int 1), ("contractor_id", .str o.contractorId),
    ("provider", .text o.provider.text), ("generation", .int o.generation),
    ("lifecycle_epoch", .int o.lifecycleEpoch), ("status", .text o.status.text),
    ("claim_id", optStr o.claimId), ("audit_finalized", .bool o.auditFinalized),
    ("audit_finalized_at", optFloat o.auditFinalizedAt),
    ("created_at", .number (.float o.createdAt)), ("updated_at", .number (.float o.updatedAt)),
    ("credential_deletion_disposition", .text o.disposition.text)]

/-- mirrors 174-205
(`build_disconnect_audit_event`) -/
def buildDisconnectAuditEvent (a : Audit) : Dict :=
  [("schema_version", .int 1), ("contractor_id", .str a.contractorId),
    ("provider", .text a.provider.text), ("generation", .int a.generation),
    ("lifecycle_epoch", .int a.lifecycleEpoch), ("action", .text "credentials_deleted"),
    ("actor", .text a.actor.text), ("reason", .text a.reason.text),
    ("credential_deletion_disposition", .text a.disposition.text),
    ("revocation_status", .text a.revocationStatus.text),
    ("revocation_completed_at", optFloat a.revocationCompletedAt),
    ("created_at", .number (.float a.createdAt)), ("timestamp", .number (.float a.createdAt))]

/-- mirrors 155-171
(`build_connect_audit_event`), with the epoch that the connect adds -/
def buildConnectAuditEvent (contractorId : Str) (generation lifecycleEpoch : ℤ) (actor action : Str)
    (timestamp : Double) : Dict :=
  [("contractor_id", .str contractorId), ("provider", .text "google_calendar"),
    ("action", .str action), ("generation", .int generation), ("actor", .str actor),
    ("created_at", .number (.float timestamp)), ("lifecycle_epoch", .int lifecycleEpoch)]

/-! ## The validators -/

/-- What a caller expects of a pair; `none` where it does not say. -/
structure Expected where
  contractorId : Option Str
  provider : Option Provider
  generation : Option ℤ
  lifecycleEpoch : Option ℤ
  auditId : Option Str
  outboxId : Option Str

def Expected.anything : Expected := ⟨none, none, none, none, none, none⟩

/-- `expected is None or value == expected` -/
def Agrees {α : Type} (expected : Option α) (x : α) : Prop := ∀ e ∈ expected, x = e

instance {α : Type} [DecidableEq α] (expected : Option α) (x : α) :
    Decidable (Agrees expected x) := inferInstanceAs (Decidable (∀ e ∈ expected, x = e))

@[simp] theorem agrees_none {α : Type} (x : α) : Agrees none x := fun _ h => by cases h
@[simp] theorem agrees_some {α : Type} (e x : α) : Agrees (some e) x ↔ x = e := by simp [Agrees]

def optStr? : Value → Option (Option Str)
  | .none => some none
  | .str s => if s = [] then none else some (some s)
  | _ => none

def optFloat? (v : Value) : Option (Option Double) :=
  match v with
  | .none => some none
  | v => (positiveFloat? v).map some

def outboxKeys : List String :=
  ["schema_version", "contractor_id", "provider", "generation", "lifecycle_epoch", "status",
    "claim_id", "audit_finalized", "audit_finalized_at", "created_at", "updated_at",
    "credential_deletion_disposition"]

def auditKeys : List String :=
  ["schema_version", "contractor_id", "provider", "generation", "lifecycle_epoch", "action",
    "actor", "reason", "credential_deletion_disposition", "revocation_status",
    "revocation_completed_at", "created_at", "timestamp"]

structure Context where
  contractorId : Str
  provider : Provider
  generation : ℤ
  lifecycleEpoch : ℤ

/-- The checks of both validators up to the lifecycle epoch. A key outside the
closed set fails here, a forbidden one included. -/
def validateContext (what : String) (keys : List String) (expected : Expected)
    (expectedId : Option Str) (d : Dict) : Except Error Context := do
  ensure (d.keysAre keys = true) (.value (what ++ " record key mismatch"))
  ensure (counter? (d.get "schema_version") = some 1) (.value "Invalid schema_version")
  let cid ← require (str? (d.get "contractor_id")) (Error.value "contractor_id must be non-empty str")
  ensure (cid ≠ []) (.value "contractor_id must be non-empty str")
  ensure (Agrees expected.contractorId cid) (.value "contractor_id mismatch")
  let provider ← require
    (spelled? Provider.text [.jobber, .googleCalendar] (d.get "provider"))
    (Error.value "Invalid provider")
  ensure (Agrees expected.provider provider) (.value "provider mismatch")
  let generation ← require (counter? (d.get "generation")) (Error.value "Invalid generation")
  ensure (Agrees expected.generation generation) (.value "generation mismatch")
  ensure (Agrees expectedId (formatOutboxDocId cid provider generation))
    (.value (what ++ " id mismatch"))
  let epoch ← require (counter? (d.get "lifecycle_epoch")) (Error.value "Invalid lifecycle_epoch")
  ensure (Agrees expected.lifecycleEpoch epoch) (.value "lifecycle_epoch mismatch")
  pure ⟨cid, provider, generation, epoch⟩

/-- The rule of `audit_finalized` and its time once the status is terminal. -/
def FinalizedAtRule (o : Outbox) : Prop :=
  match o.auditFinalized, o.auditFinalizedAt with
  | true, some t => 0 < t.val ∧ o.updatedAt.val ≤ t.val
  | true, none => False
  | false, some _ => False
  | false, none => True

instance (o : Outbox) : Decidable (FinalizedAtRule o) := by
  unfold FinalizedAtRule
  split <;> infer_instance

def StatusRule (o : Outbox) : Prop :=
  match o.status with
  | .requestStarted => o.claimId.isSome ∧ o.auditFinalized = false ∧ o.auditFinalizedAt = none ∧
      o.updatedAt = o.createdAt
  | .notAttemptedUnavailable => o.claimId = none ∧ FinalizedAtRule o
  | _ => o.claimId.isSome ∧ FinalizedAtRule o

instance (o : Outbox) : Decidable (StatusRule o) := by
  unfold StatusRule
  split <;> infer_instance

/-- mirrors 237-371.
The three rules of the status report one error each in the source. -/
def validateOutboxRecord (expected : Expected) (d : Dict) : Except Error Outbox := do
  let c ← validateContext "Outbox" outboxKeys expected expected.outboxId d
  let status ← require (spelled? RevocationStatus.text
    [.requestStarted, .confirmed, .rejected, .transportError, .notAttemptedUnavailable]
    (d.get "status")) (Error.value "Invalid revocation status")
  let disposition ← require (spelled? Disposition.text
    [.executed, .partialReconciled, .legacyReconciled] (d.get "credential_deletion_disposition"))
    (Error.value "Invalid credential_deletion_disposition")
  let finalized ← require (bool? (d.get "audit_finalized"))
    (Error.value "audit_finalized must be exact bool")
  let createdAt ← require (positiveFloat? (d.get "created_at"))
    (Error.value "created_at must be finite positive float")
  let updatedAt ← require (positiveFloat? (d.get "updated_at"))
    (Error.value "updated_at must be finite positive float")
  ensure (createdAt.val ≤ updatedAt.val) (.value "updated_at cannot be before created_at")
  let claimId ← require (optStr? (d.get "claim_id")) (Error.value "claim_id must be non-empty str")
  let finalizedAt ← require (optFloat? (d.get "audit_finalized_at"))
    (Error.value "audit_finalized_at must be finite positive float when finalized")
  let o : Outbox := ⟨c.contractorId, c.provider, c.generation, c.lifecycleEpoch, status, claimId,
    finalized, finalizedAt, createdAt, updatedAt, disposition⟩
  ensure (StatusRule o) (.value "claim_id and audit_finalized must fit the status")
  pure o

/-- The rule of `revocation_completed_at`. -/
def CompletedAtRule (a : Audit) : Prop :=
  match a.revocationStatus, a.revocationCompletedAt with
  | .requestStarted, none => True
  | .requestStarted, some _ => False
  | _, none => False
  | _, some t => 0 < t.val ∧ a.createdAt.val ≤ t.val

instance (a : Audit) : Decidable (CompletedAtRule a) := by
  unfold CompletedAtRule
  split <;> infer_instance

/-- mirrors 374-503
(`validate_disconnect_audit_record`) -/
def validateDisconnectAuditRecord (expected : Expected) (d : Dict) : Except Error Audit := do
  let c ← validateContext "Disconnect audit" auditKeys expected expected.auditId d
  ensure ((d.get "action").isStr (py "credentials_deleted") = true)
    (.value "Invalid action in disconnect audit record")
  let actor ← require (spelled? Actor.text [.contractorApi, .adminApi, .systemReconciliation]
    (d.get "actor")) (Error.value "Invalid actor in disconnect audit record")
  let reason ← require (spelled? Reason.text [.contractorInitiatedDisconnect,
    .legacyReconciliation, .adminInitiatedDisconnect, .userRequestedDisconnect] (d.get "reason"))
    (Error.value "Invalid reason in disconnect audit record")
  let disposition ← require (spelled? Disposition.text
    [.executed, .partialReconciled, .legacyReconciled] (d.get "credential_deletion_disposition"))
    (Error.value "Invalid credential_deletion_disposition in audit record")
  let status ← require (spelled? RevocationStatus.text
    [.requestStarted, .confirmed, .rejected, .transportError, .notAttemptedUnavailable]
    (d.get "revocation_status")) (Error.value "Invalid revocation_status in audit record")
  let createdAt ← require (positiveFloat? (d.get "created_at"))
    (Error.value "created_at must be finite positive float in audit record")
  ensure (positiveFloat? (d.get "timestamp") = some createdAt)
    (.value "timestamp must exactly equal created_at in audit record")
  let completedAt ← require (optFloat? (d.get "revocation_completed_at"))
    (Error.value "revocation_completed_at must be finite positive float")
  let a : Audit := ⟨c.contractorId, c.provider, c.generation, c.lifecycleEpoch, actor, reason,
    disposition, status, completedAt, createdAt⟩
  ensure (CompletedAtRule a) (.value "revocation_completed_at must fit the status")
  pure a

def Coherent (a : Audit) (o : Outbox) : Prop :=
  if o.status = .requestStarted then
    o.auditFinalized = false ∧ a.revocationStatus = .requestStarted ∧ a.revocationCompletedAt = none
  else if o.auditFinalized = false then
    a.revocationStatus = .requestStarted ∧ a.revocationCompletedAt = none
  else
    a.revocationStatus = o.status ∧ a.revocationCompletedAt = some o.updatedAt ∧
      ∃ t ∈ o.auditFinalizedAt, o.updatedAt.val ≤ t.val

instance (a : Audit) (o : Outbox) : Decidable (Coherent a o) := by
  unfold Coherent
  split
  · infer_instance
  · split <;> infer_instance

/-- mirrors 506-590
(`validate_disconnect_lifecycle_pair`) -/
def validateDisconnectLifecyclePair (expected : Expected) (audit outbox : Dict) :
    Except Error (Audit × Outbox) := do
  let a ← validateDisconnectAuditRecord expected audit
  let o ← validateOutboxRecord expected outbox
  ensure (a.contractorId = o.contractorId) (.value "Contractor ID mismatch between audit and outbox")
  ensure (a.provider = o.provider) (.value "Provider mismatch between audit and outbox")
  ensure (a.generation = o.generation) (.value "Generation mismatch between audit and outbox")
  ensure (a.lifecycleEpoch = o.lifecycleEpoch)
    (.value "Lifecycle epoch mismatch between audit and outbox")
  ensure (a.disposition = o.disposition) (.value "Disposition mismatch between audit and outbox")
  ensure (a.createdAt = o.createdAt) (.value "created_at mismatch between audit and outbox")
  ensure (Coherent a o) (.value "Incoherent state or finalization of audit and outbox")
  pure (a, o)

/-! ## What the validators accept -/

@[simp] theorem optStr?_eq_some {v : Value} {x : Option Str} :
    optStr? v = some x ↔ v = optStr x ∧ x ≠ some [] := by
  cases v with
  | none => cases x <;> simp [optStr?, optStr]
  | str s =>
    by_cases hs : s = []
    · cases x <;> simp [optStr?, optStr, hs, eq_comm]
    · cases x with
      | none => simp [optStr?, optStr, hs]
      | some t =>
        simp only [optStr?, hs, if_false, Option.some.injEq, optStr, Value.str.injEq, ne_eq]
        exact ⟨fun h => ⟨h, h ▸ hs⟩, And.left⟩
  | _ => cases x <;> simp [optStr?, optStr]

@[simp] theorem optFloat?_eq_some {v : Value} {x : Option Double} :
    optFloat? v = some x ↔ v = optFloat x ∧ ∀ t ∈ x, 0 < t.val := by
  cases x with
  | none => cases v <;> simp [optFloat?, optFloat]
  | some t => cases v <;> simp [optFloat?, optFloat]

structure Context.Valid (c : Context) : Prop where
  contractorId : c.contractorId ≠ []
  generation : IsCounter c.generation
  lifecycleEpoch : IsCounter c.lifecycleEpoch

structure Context.Meets (c : Context) (expected : Expected) (expectedId : Option Str) : Prop where
  contractorId : Agrees expected.contractorId c.contractorId
  provider : Agrees expected.provider c.provider
  generation : Agrees expected.generation c.generation
  id : Agrees expectedId (formatOutboxDocId c.contractorId c.provider c.generation)
  lifecycleEpoch : Agrees expected.lifecycleEpoch c.lifecycleEpoch

theorem validateContext_eq_ok {what : String} {keys : List String} {expected : Expected}
    {expectedId : Option Str} {d : Dict} {c : Context} :
    validateContext what keys expected expectedId d = .ok c ↔
      d.keysAre keys = true ∧ d.get "schema_version" = .int 1 ∧
      d.get "contractor_id" = .str c.contractorId ∧ d.get "provider" = .text c.provider.text ∧
      d.get "generation" = .int c.generation ∧ d.get "lifecycle_epoch" = .int c.lifecycleEpoch ∧
      c.Valid ∧ c.Meets expected expectedId := by
  simp only [validateContext, bind_eq_ok, ensure_eq_ok, exists_unit, require_eq_ok, str?_eq_some,
    counter?_eq_some, spelled?_eq_some Provider.text_injective, pure_eq_ok, Except.ok.injEq]
  constructor
  · rintro ⟨hk, ⟨hv, -⟩, cid, hcid, hne, hac, p, ⟨hp, -⟩, hap, g, ⟨hg, hgc⟩, hag, hid, e,
      ⟨he, hec⟩, hae, rfl⟩
    exact ⟨hk, hv, hcid, hp, hg, he, ⟨hne, hgc, hec⟩, ⟨hac, hap, hag, hid, hae⟩⟩
  · rintro ⟨hk, hv, hcid, hp, hg, he, hval, hm⟩
    exact ⟨hk, ⟨hv, by decide⟩, c.contractorId, hcid, hval.contractorId, hm.contractorId,
      c.provider, ⟨hp, by cases c.provider <;> simp⟩, hm.provider, c.generation,
      ⟨hg, hval.generation⟩, hm.generation, hm.id, c.lifecycleEpoch, ⟨he, hval.lifecycleEpoch⟩,
      hm.lifecycleEpoch, rfl⟩

def Outbox.context (o : Outbox) : Context :=
  ⟨o.contractorId, o.provider, o.generation, o.lifecycleEpoch⟩

def Audit.context (a : Audit) : Context :=
  ⟨a.contractorId, a.provider, a.generation, a.lifecycleEpoch⟩

structure Outbox.Valid (o : Outbox) : Prop where
  context : o.context.Valid
  createdAt : 0 < o.createdAt.val
  updatedAt : o.createdAt.val ≤ o.updatedAt.val
  claimId : o.claimId ≠ some []
  finalizedAt : ∀ t ∈ o.auditFinalizedAt, 0 < t.val
  status : StatusRule o

structure Audit.Valid (a : Audit) : Prop where
  context : a.context.Valid
  createdAt : 0 < a.createdAt.val
  completedAt : ∀ t ∈ a.revocationCompletedAt, 0 < t.val
  status : CompletedAtRule a

theorem keysAre_outbox (o : Outbox) : (buildDisconnectOutboxRecord o).keysAre outboxKeys = true := by
  simp [Dict.keysAre, buildDisconnectOutboxRecord, outboxKeys, Entries.keys]

theorem keysAre_audit (a : Audit) : (buildDisconnectAuditEvent a).keysAre auditKeys = true := by
  simp [Dict.keysAre, buildDisconnectAuditEvent, auditKeys, Entries.keys]

theorem validateOutboxRecord_eq_ok {expected : Expected} {d : Dict} {o : Outbox} :
    validateOutboxRecord expected d = .ok o ↔
      Dict.Same d (buildDisconnectOutboxRecord o) ∧ o.Valid ∧
        o.context.Meets expected expected.outboxId := by
  simp only [validateOutboxRecord, bind_eq_ok, validateContext_eq_ok, require_eq_ok, ensure_eq_ok,
    exists_unit, spelled?_eq_some RevocationStatus.text_injective,
    spelled?_eq_some Disposition.text_injective, bool?_eq_some, positiveFloat?_eq_some,
    optStr?_eq_some, optFloat?_eq_some, pure_eq_ok, Except.ok.injEq]
  constructor
  · rintro ⟨c, ⟨hk, hv, hcid, hp, hg, he, hval, hm⟩, st, ⟨hst, -⟩, dp, ⟨hdp, -⟩, fin, hfin, ca,
      ⟨hca, hcap⟩, ua, ⟨hua, -⟩, hle, cl, ⟨hcl, hcln⟩, fa, ⟨hfa, hfap⟩, hrule, rfl⟩
    refine ⟨Dict.same_of_get hk (keysAre_outbox _) ?_, ⟨hval, hcap, hle, hcln, hfap, hrule⟩, hm⟩
    simp only [outboxKeys, List.forall_mem_cons, List.not_mem_nil, false_implies, implies_true,
      and_true]
    simp [buildDisconnectOutboxRecord, *]
  · rintro ⟨hs, hval, hm⟩
    have hget := hs.get
    refine ⟨o.context, ⟨(hs.keysAre _).trans (keysAre_outbox o), ?_, ?_, ?_, ?_, ?_, hval.context,
      hm⟩, o.status, ⟨?_, by cases o.status <;> simp⟩, o.disposition,
      ⟨?_, by cases o.disposition <;> simp⟩, o.auditFinalized, ?_, o.createdAt,
      ⟨?_, hval.createdAt⟩, o.updatedAt, ⟨?_, hval.createdAt.trans_le hval.updatedAt⟩,
      hval.updatedAt, o.claimId, ⟨?_, hval.claimId⟩, o.auditFinalizedAt, ⟨?_, hval.finalizedAt⟩,
      hval.status, rfl⟩ <;> rw [hget] <;> simp [buildDisconnectOutboxRecord, Outbox.context]

theorem validateDisconnectAuditRecord_eq_ok {expected : Expected} {d : Dict} {a : Audit} :
    validateDisconnectAuditRecord expected d = .ok a ↔
      Dict.Same d (buildDisconnectAuditEvent a) ∧ a.Valid ∧
        a.context.Meets expected expected.auditId := by
  simp only [validateDisconnectAuditRecord, bind_eq_ok, validateContext_eq_ok, require_eq_ok,
    ensure_eq_ok, exists_unit, spelled?_eq_some RevocationStatus.text_injective,
    spelled?_eq_some Disposition.text_injective, spelled?_eq_some Actor.text_injective,
    spelled?_eq_some Reason.text_injective, positiveFloat?_eq_some, optFloat?_eq_some,
    Value.isStr_iff, pure_eq_ok, Except.ok.injEq]
  constructor
  · rintro ⟨c, ⟨hk, hv, hcid, hp, hg, he, hval, hm⟩, hact, ac, ⟨hac, -⟩, rs, ⟨hrs, -⟩, dp,
      ⟨hdp, -⟩, st, ⟨hst, -⟩, ca, ⟨hca, hcap⟩, ⟨hts, -⟩, co, ⟨hco, hcop⟩, hrule, rfl⟩
    refine ⟨Dict.same_of_get hk (keysAre_audit _) ?_, ⟨hval, hcap, hcop, hrule⟩, hm⟩
    simp only [auditKeys, List.forall_mem_cons, List.not_mem_nil, false_implies, implies_true,
      and_true]
    simp [buildDisconnectAuditEvent, Value.text, *]
  · rintro ⟨hs, hval, hm⟩
    have hget := hs.get
    refine ⟨a.context, ⟨(hs.keysAre _).trans (keysAre_audit a), ?_, ?_, ?_, ?_, ?_, hval.context,
      hm⟩, ?_, a.actor, ⟨?_, by cases a.actor <;> simp⟩, a.reason,
      ⟨?_, by cases a.reason <;> simp⟩, a.disposition, ⟨?_, by cases a.disposition <;> simp⟩,
      a.revocationStatus, ⟨?_, by cases a.revocationStatus <;> simp⟩, a.createdAt,
      ⟨?_, hval.createdAt⟩, ⟨?_, hval.createdAt⟩, a.revocationCompletedAt,
      ⟨?_, hval.completedAt⟩, hval.status, rfl⟩ <;>
      rw [hget] <;> simp [buildDisconnectAuditEvent, Audit.context, Value.text]

structure Paired (a : Audit) (o : Outbox) : Prop where
  context : a.context = o.context
  disposition : a.disposition = o.disposition
  createdAt : a.createdAt = o.createdAt
  coherent : Coherent a o

/-- A pair is accepted exactly when both documents spell valid records that
belong together. -/
theorem validateDisconnectLifecyclePair_eq_ok {expected : Expected} {d e : Dict} {a : Audit}
    {o : Outbox} : validateDisconnectLifecyclePair expected d e = .ok (a, o) ↔
      (Dict.Same d (buildDisconnectAuditEvent a) ∧ a.Valid ∧
          a.context.Meets expected expected.auditId) ∧
        (Dict.Same e (buildDisconnectOutboxRecord o) ∧ o.Valid ∧
          o.context.Meets expected expected.outboxId) ∧ Paired a o := by
  simp only [validateDisconnectLifecyclePair, bind_eq_ok, validateDisconnectAuditRecord_eq_ok,
    validateOutboxRecord_eq_ok, ensure_eq_ok, exists_unit, pure_eq_ok, Except.ok.injEq,
    Prod.mk.injEq]
  constructor
  · rintro ⟨a, ha, o, ho, hc, hp, hg, he, hd, ht, hco, rfl, rfl⟩
    refine ⟨ha, ho, ⟨?_, hd, ht, hco⟩⟩
    rw [Audit.context, Outbox.context, hc, hp, hg, he]
  · rintro ⟨ha, ho, hp⟩
    have hc := hp.context
    simp only [Audit.context, Outbox.context, Context.mk.injEq] at hc
    exact ⟨a, ha, o, ho, hc.1, hc.2.1, hc.2.2.1, hc.2.2.2, hp.disposition, hp.createdAt,
      hp.coherent, rfl, rfl⟩

end HeyKevin.L7.Tokens
