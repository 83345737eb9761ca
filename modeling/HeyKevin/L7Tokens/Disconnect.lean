import HeyKevin.L7Tokens.Mutations
/-!
# Disconnect, revocation outcome, audit finalization

mirrors the bodies of `disconnect_provider_envelope_cas`,
`record_revocation_outcome_cas` and `finalize_revocation_audit_cas` for
google_calendar (app/services/integration_token_mutations.py:2987-3753), and the
verification that a disconnect makes before it returns (2859-2984).

A disconnect of a connected record advances the generation, deletes the
credentials and creates the audit and outbox documents of the new generation in
one transaction. It hands out the access token it deleted, for one revocation
request, together with the claim under which the outcome may be recorded.

**Left out.** `is_durable_provider_connected`: it only widens the test
`connected is True`, which it implies.

Line numbers are those of app/services/integration_token_mutations.py.
-/
namespace HeyKevin.L7.Tokens

open HeyKevin.Core Binary64 L1 L1.Text L1.Datetime

structure Store where
  record : Record
  audits : Str → Option Dict
  outboxes : Str → Option Dict

/-- `transaction.create(ref, doc)`, or an update of the whole document. -/
def put (docs : Str → Option Dict) (id : Str) (d : Dict) : Str → Option Dict :=
  Function.update docs id (some d)

/-- The arguments of `disconnect_provider_envelope_cas`. -/
structure Disconnect where
  actor : Str
  reason : Option Str
  candidateClaimId : Str
  vault : Vault
  readTime : DateTime

/-- What a body leaves in the result boxes. `expectedFloor` is `none` for
`_FLOOR_ABSENT`. -/
structure DisconnectResult where
  generation : ℤ
  lifecycleEpoch : ℤ
  credentialDeletion : String
  accessTokenForRevocation : Option Str
  claimId : Option Str
  expectedDisconnectedAt : Option Double
  expectedFloor : Option Bool
  audit : Audit
  outbox : Outbox

def readActor (actor : Str) : Except Error Actor :=
  require (spelled? Actor.text [.contractorApi, .adminApi, .systemReconciliation] (.str actor))
    (.value "Invalid actor in disconnect audit record")

/-- `reason or default` -/
def readReason (reason : Option Str) (default : Reason) : Except Error Reason :=
  match reason with
  | none | some [] => .ok default
  | some s =>
    require (spelled? Reason.text [.contractorInitiatedDisconnect, .legacyReconciliation,
      .adminInitiatedDisconnect, .userRequestedDisconnect] (.str s))
      (.value "Invalid reason in disconnect audit record")

/-- `"system_reconciliation" if actor == "contractor_api" else actor` -/
def reconcilingActor (actor : Str) : Except Error Actor := do
  let a ← readActor actor
  pure (if a = .contractorApi then .systemReconciliation else a)

/-- `should_require_floor` -/
def Record.RequiresFloor (r : Record) : Prop :=
  match r .tokenEnvelopeRequired with
  | some v => bool? v ≠ some false ∨ holdsDict
  | none => holdsDict
where
  holdsDict : Prop := isDict (r.get .accessToken) = true ∨ isDict (r.get .refreshToken) = true
  isDict : Value → Bool
    | .dict _ => true
    | _ => false

instance (r : Record) : Decidable (Record.RequiresFloor.holdsDict r) :=
  inferInstanceAs (Decidable (_ ∨ _))

instance (r : Record) : Decidable r.RequiresFloor := by
  unfold Record.RequiresFloor
  split <;> infer_instance

def tombstonePatch (r : Record) (now : Double) (l : Lifecycle) : Patch :=
  deleteClaims fun
    | .connected => .set (.bool false)
    | .generation => .set (.int (l.generation + 1))
    | .lifecycleEpoch => .set (.int (l.epoch + 1))
    | .disconnectedAt => .set (.number (.float now))
    | .accessToken | .refreshToken | .tokenExpiresAt | .expiresAt | .connectedAt
    | .firstConnectedAt | .tokenRefreshedAt | .scope => .delete
    | .tokenEnvelopeRequired => if r.RequiresFloor then .set (.bool true) else .keep
    | _ => .keep

def checkPreemptable : Except String IntentStatus → Except Error Unit
  | .error _ => .error (.casConflict "Malformed existing operation intent/quarantine state")
  | .ok .quarantined | .ok (.quarantinedReauthorizing _) =>
    .error (.casConflict
      "Provider is in durable quarantine / unknown outcome state; disconnect rejected")
  | .ok (.valid c) => do
    ensure (c.phase ≠ .providerRequestStarted) (.casConflict
      "Provider operation request started; disconnect pending completion of in-flight operation")
    ensure (c.phase ≠ .providerOutcomeUncertain)
      (.casConflict "Provider operation outcome uncertain; disconnect pending reconciliation")
  | .ok .absent => .ok ()

def expectedPair (contractorId : Str) (generation epoch : ℤ) : Expected :=
  ⟨some contractorId, some .googleCalendar, some generation, some epoch,
    some (formatOutboxDocId contractorId .googleCalendar generation),
    some (formatOutboxDocId contractorId .googleCalendar generation)⟩

def newOutbox (contractorId : Str) (generation epoch : ℤ) (claimId : Option Str) (now : Double)
    (disposition : Disposition) : Outbox :=
  ⟨contractorId, .googleCalendar, generation, epoch,
    if claimId.isSome then .requestStarted else .notAttemptedUnavailable, claimId,
    claimId.isNone, if claimId.isSome then none else some now, now, now, disposition⟩

/-- The first audit record, beside `newOutbox`. -/
def newAudit (contractorId : Str) (generation epoch : ℤ) (claimId : Option Str) (now : Double)
    (disposition : Disposition) (actor : Actor) (reason : Reason) : Audit :=
  ⟨contractorId, .googleCalendar, generation, epoch, actor, reason, disposition,
    if claimId.isSome then .requestStarted else .notAttemptedUnavailable,
    if claimId.isSome then none else some now, now⟩

def disconnectMutation (contractorId : Str) (d : Disconnect) (now : Double) (l : Lifecycle)
    (s : Store) : Except Error (Store × DisconnectResult) := do
  let token := extractRevocationAccessToken d.vault s.record l.generation
  let claimId := token.map fun _ => d.candidateClaimId
  ensure (l.generation + 1 ≤ maxKeyVersion)
    (.envelope "Generation overflow: exceeded MAX_KEY_VERSION")
  ensure (l.epoch + 1 ≤ maxKeyVersion)
    (.envelope "Lifecycle epoch overflow: exceeded MAX_KEY_VERSION")
  let docId := formatOutboxDocId contractorId .googleCalendar (l.generation + 1)
  ensure ((s.audits docId).isNone ∧ (s.outboxes docId).isNone)
    (.aborted "Deterministic audit/outbox document already exists for new generation")
  let disposition :=
    if bool? (s.record.get .connected) = some true then Disposition.executed else .partialReconciled
  let actor ← readActor d.actor
  let reason ← readReason d.reason .contractorInitiatedDisconnect
  let audit := newAudit contractorId (l.generation + 1) (l.epoch + 1) claimId now disposition actor
    reason
  let outbox := newOutbox contractorId (l.generation + 1) (l.epoch + 1) claimId now disposition
  let _ ← validateDisconnectLifecyclePair .anything (buildDisconnectAuditEvent audit)
    (buildDisconnectOutboxRecord outbox)
  pure (⟨s.record.update (tombstonePatch s.record now l),
      put s.audits docId (buildDisconnectAuditEvent audit),
      put s.outboxes docId (buildDisconnectOutboxRecord outbox)⟩,
    ⟨l.generation + 1, l.epoch + 1, disposition.text, token, claimId, some now,
      if s.record.RequiresFloor then some true
      else if bool? (s.record.get .tokenEnvelopeRequired) = some false then some false else none,
      audit, outbox⟩)

/-- The branch of a record that is a clean tombstone already: the pair of its
generation is reported, or completed where an older release left it out. -/
def disconnectTombstone (contractorId : Str) (d : Disconnect) (now : Double) (l : Lifecycle)
    (s : Store) : Except Error (Store × DisconnectResult) := do
  let docId := formatOutboxDocId contractorId .googleCalendar l.generation
  let result (deletion : String) (a : Audit) (o : Outbox) : DisconnectResult :=
    ⟨l.generation, l.epoch, deletion, none, none, positiveFloat? (s.record.get .disconnectedAt),
      (s.record .tokenEnvelopeRequired).map fun v => (bool? v).getD true, a, o⟩
  match s.outboxes docId, s.audits docId with
  | some outbox, some audit => do
    let (a, o) ← (validateDisconnectLifecyclePair
      (expectedPair contractorId l.generation l.epoch) audit outbox).mapError fun _ =>
        Error.casConflict
          "Incoherent existing audit/outbox pair for already disconnected contractor"
    pure (s, result "already_disconnected" a o)
  | none, none => do
    let actor ← reconcilingActor d.actor
    let reason ← readReason d.reason .legacyReconciliation
    let audit := newAudit contractorId l.generation l.epoch none now .legacyReconciled actor reason
    let outbox := newOutbox contractorId l.generation l.epoch none now .legacyReconciled
    let _ ← validateDisconnectLifecyclePair .anything (buildDisconnectAuditEvent audit)
      (buildDisconnectOutboxRecord outbox)
    pure (⟨s.record, put s.audits docId (buildDisconnectAuditEvent audit),
        put s.outboxes docId (buildDisconnectOutboxRecord outbox)⟩,
      result Disposition.legacyReconciled.text audit outbox)
  | some outbox, none => do
    let o ← (validateOutboxRecord (expectedPair contractorId l.generation l.epoch)
      outbox).mapError fun e =>
        Error.casConflict ("Existing outbox record invalid: " ++ e.message)
    ensure (o.auditFinalized = true ∧ o.status.IsTerminal)
      (.casConflict "Cannot derive audit record from unfinalized or started outbox record")
    let actor ← reconcilingActor d.actor
    let reason ← readReason d.reason .legacyReconciliation
    let audit : Audit := ⟨contractorId, .googleCalendar, l.generation, l.epoch, actor, reason,
      o.disposition, o.status, some o.updatedAt, o.createdAt⟩
    let _ ← validateDisconnectLifecyclePair .anything (buildDisconnectAuditEvent audit)
      (buildDisconnectOutboxRecord o)
    pure (⟨s.record, put s.audits docId (buildDisconnectAuditEvent audit), s.outboxes⟩,
      result Disposition.legacyReconciled.text audit o)
  | none, some _ => .error (.casConflict "Cannot reconstruct outbox from lone audit record")

/-- mirrors 3063-3422
(`disconnect_provider_envelope_cas._disconnect_txn`) -/
def disconnectTxn (contractorId : Str) (d : Disconnect) (s : Store) :
    Except Error (Store × DisconnectResult) := do
  checkPreemptable (parseProviderOperationIntent s.record)
  let now ← serverTime d.readTime
  let l ← (parseDurableLifecycleCounters s.record).mapError fun _ =>
    Error.casConflict "Invalid lifecycle metadata on contractor document"
  if IsDurableProviderTombstone s.record then disconnectTombstone contractorId d now l s
  else disconnectMutation contractorId d now l s

def disconnect (contractorId : Str) (d : Disconnect) (s : Store) :
    Except Error (Store × DisconnectResult) := do
  ensure (d.candidateClaimId ≠ []) (.envelope "Invalid candidate_claim_id")
  disconnectTxn contractorId d s

/-! ## What a disconnect verifies before it returns -/

/-- The comparison of an outbox with the record that the body built: once the
status is terminal, the fields that an outcome moves may differ. -/
def Outbox.Extends (o expected : Outbox) : Prop :=
  { o with
      status := expected.status, auditFinalized := expected.auditFinalized,
      auditFinalizedAt := expected.auditFinalizedAt, updatedAt := expected.updatedAt } = expected ∧
    (o.status.IsTerminal ∨ o = expected)

def Audit.Extends (a expected : Audit) : Prop :=
  { a with
      revocationStatus := expected.revocationStatus,
      revocationCompletedAt := expected.revocationCompletedAt } = expected ∧
    (a.revocationStatus.IsTerminal ∨ a = expected)

instance (o e : Outbox) : Decidable (o.Extends e) := inferInstanceAs (Decidable (_ ∧ _))
instance (a e : Audit) : Decidable (a.Extends e) := inferInstanceAs (Decidable (_ ∧ _))

/-- mirrors 2859-2984
(`_verify_complete_disconnect_postcondition`) -/
def verifyDisconnect (contractorId : Str) (res : DisconnectResult) (s : Store) :
    Except Error Unit := do
  ensure (IsDurableProviderTombstone s.record)
    (.envelope "Contractor document failed durable tombstone verification")
  ensure (counter? (s.record.get .generation) = some res.generation)
    (.envelope "Generation mismatch on postcondition read")
  ensure (counter? (s.record.get .lifecycleEpoch) = some res.lifecycleEpoch)
    (.envelope "Lifecycle epoch mismatch on postcondition read")
  ensure (res.expectedDisconnectedAt.isSome ∧
      positiveFloat? (s.record.get .disconnectedAt) = res.expectedDisconnectedAt)
    (.envelope "disconnected_at mismatch on postcondition read")
  ensure ((s.record .tokenEnvelopeRequired).map bool? = res.expectedFloor.map some)
    (.envelope "Floor mismatch on postcondition read")
  let docId := formatOutboxDocId contractorId .googleCalendar res.generation
  let outbox ← require (s.outboxes docId)
    (.envelope "Outbox record not found during postcondition verification")
  let o ← validateOutboxRecord (expectedPair contractorId res.generation res.lifecycleEpoch) outbox
  ensure (o.Extends res.outbox) (.envelope "Outbox field mismatch on postcondition read")
  let audit ← require (s.audits docId)
    (.envelope "Audit record not found during postcondition verification")
  let a ← validateDisconnectAuditRecord
    (expectedPair contractorId res.generation res.lifecycleEpoch) audit
  ensure (a.Extends res.audit) (.envelope "Audit field mismatch on postcondition read")
  let _ ← validateDisconnectLifecyclePair
    (expectedPair contractorId res.generation res.lifecycleEpoch) audit outbox

/-! ## The outcome and the finalization -/

/-- The arguments of `record_revocation_outcome_cas`. -/
structure RecordOutcome where
  outboxId : Str
  claimId : Str
  outcomeStatus : RevocationStatus
  expectedGeneration : ℤ
  expectedLifecycleEpoch : ℤ
  readTime : DateTime

def readPair (contractorId outboxId : Str) (generation epoch : ℤ) (m : String) (s : Store) :
    Except Error ((Audit × Outbox) × Dict × Dict) := do
  let auditId := formatOutboxDocId contractorId .googleCalendar generation
  let outbox ← require (s.outboxes outboxId) (.casConflict "Outbox or audit record not found")
  let audit ← require (s.audits auditId) (.casConflict "Outbox or audit record not found")
  let pair ← (validateDisconnectLifecyclePair
    { expectedPair contractorId generation epoch with outboxId := some outboxId }
    audit outbox).mapError fun e => Error.casConflict (m ++ e.message)
  pure (pair, audit, outbox)

/-- `max(a, b)` -/
def later (a b : Double) : Double := if a.val < b.val then b else a

/-- mirrors 3525-3620
(`record_revocation_outcome_cas._outcome_txn` and the checks before it) -/
def recordOutcome (contractorId : Str) (c : RecordOutcome) (s : Store) : Except Error Store := do
  ensure (c.outboxId ≠ []) (.envelope "Invalid outbox_id")
  ensure (c.claimId ≠ []) (.envelope "Invalid claim_id")
  ensure c.outcomeStatus.IsTerminal (.envelope "Invalid outcome_status")
  ensure (IsCounter c.expectedGeneration) (.envelope "Invalid expected_generation")
  ensure (IsCounter c.expectedLifecycleEpoch) (.envelope "Invalid expected_lifecycle_epoch")
  let ((_, o), _, outbox) ← readPair contractorId c.outboxId c.expectedGeneration
    c.expectedLifecycleEpoch "Incoherent audit/outbox pair before outcome recording: " s
  ensure (o.claimId = some c.claimId) (.casConflict "Claim ID mismatch on outbox record")
  if o.status = c.outcomeStatus then pure s
  else do
    ensure (o.status = .requestStarted)
      (.casConflict ("Outbox already in terminal status " ++ o.status.text))
    let now ← serverTime c.readTime
    pure { s with outboxes := put s.outboxes c.outboxId (Dict.update outbox
      [("status", .text c.outcomeStatus.text),
        ("updated_at", .number (.float (later now o.createdAt)))]) }

/-- The arguments of `finalize_revocation_audit_cas`. -/
structure Finalize where
  outboxId : Str
  expectedGeneration : ℤ
  expectedLifecycleEpoch : ℤ
  readTime : DateTime

/-- mirrors 3656-3753
(`finalize_revocation_audit_cas._finalize_txn` and the checks before it) -/
def finalize (contractorId : Str) (c : Finalize) (s : Store) : Except Error Store := do
  ensure (c.outboxId ≠ []) (.envelope "Invalid outbox_id")
  ensure (IsCounter c.expectedGeneration) (.envelope "Invalid expected_generation")
  ensure (IsCounter c.expectedLifecycleEpoch) (.envelope "Invalid expected_lifecycle_epoch")
  let ((_, o), audit, outbox) ← readPair contractorId c.outboxId c.expectedGeneration
    c.expectedLifecycleEpoch "Incoherent audit/outbox pair before finalization: " s
  ensure o.status.IsTerminal
    (.casConflict ("Cannot finalize non-terminal outbox status " ++ o.status.text))
  if o.auditFinalized = true then pure s
  else do
    let now ← serverTime c.readTime
    let auditId := formatOutboxDocId contractorId .googleCalendar c.expectedGeneration
    pure { s with
      audits := put s.audits auditId (Dict.update audit
        [("revocation_status", .text o.status.text),
          ("revocation_completed_at", .number (.float o.updatedAt))])
      outboxes := put s.outboxes c.outboxId (Dict.update outbox
        [("audit_finalized", .bool true),
          ("audit_finalized_at", .number (.float (later now o.updatedAt)))]) }

/-! ## The system -/

inductive Call
  | acquire (a : Acquire)
  | transition (t : Transition)
  | persist (p : Persist)
  | connect (c : Connect)
  | consume (c : Consume)
  | disconnect (d : Disconnect)
  | recordOutcome (c : RecordOutcome)
  | finalize (c : Finalize)

inductive Result
  | reserved
  | quarantined
  | started
  | persisted
  | connected
  | consumed (status : ConsumeStatus)
  | disconnected (res : DisconnectResult)
  | recorded
  | finalized

def body (contractorId : Str) (s : Store) : Call → Except Error (Store × Result)
  | .acquire a => do
    let (r, quarantined) ← acquire a s.record
    pure ({ s with record := r }, if quarantined then .quarantined else .reserved)
  | .transition t => do
    let r ← transition t s.record
    pure ({ s with record := r }, .started)
  | .persist p => do
    let r ← persist p s.record
    pure ({ s with record := r }, .persisted)
  | .connect c => do
    let (r, auditId, audit) ← connect contractorId c s.record s.audits
    pure ({ s with record := r, audits := put s.audits auditId audit }, .connected)
  | .consume c =>
    .ok ({ s with record := (consume contractorId c s.record).1 },
      .consumed (consume contractorId c s.record).2)
  | .disconnect d => do
    let (s, res) ← disconnect contractorId d s
    pure (s, .disconnected res)
  | .recordOutcome c => do
    let s ← recordOutcome contractorId c s
    pure (s, .recorded)
  | .finalize c => do
    let s ← finalize contractorId c s
    pure (s, .finalized)

def step (contractorId : Str) : Machine Store Call (Except Error Result) := fun s c =>
  match body contractorId s c with
  | .ok (s', result) => (s', .ok result)
  | .error e => (s, .error e)

end HeyKevin.L7.Tokens
