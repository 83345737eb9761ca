import HeyKevin.Core.Machine
import HeyKevin.L8Triage.Contracts
/-!
# The visual triage state machine

A handler checks an event against the aggregate and writes the aggregate in
place, so an exception leaves what was written before it: a handler that
raises returns the aggregate as it was at that moment (`Raised`). `apply`
screens an event, runs its handler under a backup, and records a receipt.

The fields that no event ever sets (the analysis artifact, the candidate set,
the policy versions) are left out. `Aggregate` is what `_backup` saves.

Mirrors app/services/visual_diagnosis_state.py.

Line numbers without a file are those of app/services/visual_diagnosis_state.py.
-/
namespace HeyKevin.L8.Triage

open HeyKevin.Core L1 L1.Text L1.Datetime

structure Aggregate where
  caseId : Option Str
  contractorId : Option Str
  callSidRef : Option Str
  supportedScenario : Str
  state : StateVector
  pending : Option PendingCustomerAction
  resolvedCustomerActions : List PendingCustomerAction
  questionCount : ℕ
  ratingPlateCount : ℕ
  recaptureCount : ℕ
  mediaAssets : Entries Str MediaAsset
  deletionRetryCount : ℕ
  createdAt : Option Aware
  expiresAt : Option Aware
  completedAt : Option Aware
  deletedAt : Option Aware
  deletionRequestedAt : Option Aware
  analysisRetryCount : ℕ
  policyReceiptRef : Option Str

/-- mirrors 79-105 (`__init__`) -/
def Aggregate.initial : Aggregate where
  caseId := none
  contractorId := none
  callSidRef := none
  supportedScenario := py "hvac.not_cooling_with_outdoor_unit_noise"
  state :=
    { case := .created, consent := .notRequested, media := .none, analysis := .notStarted
      contractorPacket := .notReady, customerDelivery := .notEvaluated
      deletion := .notRequested }
  pending := none
  resolvedCustomerActions := []
  questionCount := 0
  ratingPlateCount := 0
  recaptureCount := 0
  mediaAssets := []
  deletionRetryCount := 0
  createdAt := none
  expiresAt := none
  completedAt := none
  deletedAt := none
  deletionRequestedAt := none
  analysisRetryCount := 0
  policyReceiptRef := none

/-! ## Reading a payload -/

/-- mirrors 451-455 -/
def value (payload : Dict) (key : String) : Except Fault Value :=
  if payload.has key then .ok (payload.get key) else .error (rejected "missing_payload")

/-- mirrors 457-462 -/
def text (payload : Dict) (key : String) : Except Fault Str := do
  match ← value payload key with
  | .str (c :: s) => .ok (c :: s)
  | _ => .error (rejected "invalid_payload_code")

/-- mirrors 464-470 -/
def enum (α : Type) [ClosedStrEnum α] (payload : Dict) (key : String) : Except Fault α := do
  require (ofValue α (← text payload key)) (rejected "invalid_payload_code")

/-- `payload.get(key, default)` -/
def getOr (payload : Dict) (key : String) (default : String) : Value :=
  if payload.has key then payload.get key else .text default

/-! ## Guards -/

namespace Aggregate

variable (agg : Aggregate)

def requireCase : Except Fault Unit := ensure agg.caseId.isSome (rejected "aggregate_not_found")

def requireNotDeleting : Except Fault Unit :=
  ensure (agg.state.deletion = .notRequested) (rejected "deletion_precedence")

def requireActive : Except Fault Unit :=
  ensure (agg.state.case = .active) (rejected "case_not_active")

def requireNoPending : Except Fault Unit :=
  ensure (agg.pending = none) (rejected "customer_action_pending")

def requireOpen : Except Fault Unit := do
  agg.requireCase
  agg.requireNotDeleting
  agg.requireActive

/-- `if event_time < self._created_at: raise`; comparing with `None` is a `TypeError`. -/
def requireNotBeforeCreated (t : Aware) (fault : Fault) : Except Fault Unit := do
  let created ← require agg.createdAt .structural
  ensure (created.instant ≤ t.instant) fault

/-- No action was resolved after `t`. -/
def ResolvedBy (t : Aware) : Prop :=
  ∀ a ∈ agg.resolvedCustomerActions, ∀ r ∈ a.resolvedAt, r.instant ≤ t.instant

instance (t : Aware) : Decidable (agg.ResolvedBy t) :=
  inferInstanceAs (Decidable (∀ a ∈ agg.resolvedCustomerActions, _))

/-- mirrors 1161-1175
(`_reject_if_predates_recorded_activity`) -/
def rejectIfPredatesRecordedActivity (t : Aware) : Except Fault Unit := do
  ensure (∀ a ∈ agg.pending, a.issuedAt.instant ≤ t.instant)
    (rejected "terminal_event_predates_case")
  ensure (agg.ResolvedBy t) (rejected "terminal_event_predates_case")

/-- mirrors 809-810 -/
def hasValidatedRole (role : MediaRole) : Bool :=
  agg.mediaAssets.any fun e => e.2.role = role && e.2.validation = .validated

/-- mirrors 812-815 -/
def hasValidatedSymptomEvidence : Bool :=
  agg.hasValidatedRole .symptomVideo || agg.hasValidatedRole .targetedRecapture

/-- mirrors 802-807 -/
def matchingAsset (payload : Dict) : Except Fault MediaAsset := do
  let assetId ← text payload "asset_id"
  require (Entries.find? agg.mediaAssets assetId) (rejected "asset_binding_mismatch")

/-- `self._media_assets[asset.asset_id] = asset.model_copy(update={"validation": validation})` -/
def withValidation (asset : MediaAsset) (validation : MediaValidation) : Entries Str MediaAsset :=
  Entries.set agg.mediaAssets asset.assetId.val { asset with validation }

def NothingPrepared : Prop :=
  agg.state.contractorPacket = .notReady ∧ agg.state.customerDelivery = .notEvaluated

instance : Decidable agg.NothingPrepared := inferInstanceAs (Decidable (_ ∧ _))

def Concluded : Prop := agg.state.analysis = .complete ∨ agg.state.analysis = .abstained

instance : Decidable agg.Concluded := inferInstanceAs (Decidable (_ ∨ _))

end Aggregate

structure Raised where
  fault : Fault
  left : Aggregate

def Aggregate.attempt {α : Type} (agg : Aggregate) (x : Except Fault α) : Except Raised α :=
  x.mapError fun fault => ⟨fault, agg⟩

abbrev Handler := VisualTriageEvent → Aggregate → Except Raised (Aggregate × Code)

/-! ## The case and its consent -/

/-- mirrors 538-557 -/
def caseCreated : Handler := fun e agg => agg.attempt do
  ensure (agg.caseId = none) (rejected "case_already_exists")
  ensure (∀ k ∈ e.payload.keys, k ∈ ["scenario", "source_ref"]) (rejected "invalid_case_payload")
  let scenario := if e.payload.has "scenario" then e.payload.get "scenario"
    else .str agg.supportedScenario
  let scenario ← (textField (fun s => 46 ∈ s) scenario).mapError
    fun _ => rejected "invalid_case_payload"
  ensure (VisualTriageCase.isScenario scenario.val) (rejected "invalid_case_payload")
  let sourceRef ← (optionalField (textField fun s => isOpaqueRef s = true)
    (e.payload.get "source_ref")).mapError fun _ => rejected "invalid_case_payload"
  return ({ agg with
    caseId := some e.caseId
    contractorId := some e.contractorId
    callSidRef := sourceRef.map Subtype.val
    supportedScenario := scenario.val
    createdAt := some e.eventTime }, code "case_created")

/-- mirrors 559-566 -/
def consentRequested : Handler := fun _ agg => agg.attempt do
  agg.requireCase
  agg.requireNotDeleting
  ensure (agg.state.case = .created ∧ agg.state.consent = .notRequested)
    (rejected "consent_request_not_allowed")
  agg.requireNoPending
  return ({ agg with state := { agg.state with consent := .awaitingDecision } },
    code "consent_requested")

/-- mirrors 568-578 -/
def consentGranted : Handler := fun _ agg => agg.attempt do
  agg.requireCase
  agg.requireNotDeleting
  ensure (agg.state.case = .created ∧ agg.state.consent = .awaitingDecision)
    (rejected "consent_grant_not_allowed")
  return ({ agg with
    state := { agg.state with case := .active, consent := .granted, media := .awaitingRequired } },
    code "consent_granted")

/-- mirrors 580-590 -/
def consentDeclined : Handler := fun e agg => agg.attempt do
  agg.requireCase
  agg.requireNotDeleting
  ensure (agg.state.case = .created ∧ agg.state.consent = .awaitingDecision)
    (rejected "consent_decline_not_allowed")
  agg.requireNotBeforeCreated e.eventTime (rejected "terminal_event_predates_case")
  return ({ agg with
    state := { agg.state with case := .cancelled, consent := .declined }
    pending := none
    completedAt := some e.eventTime }, code "consent_declined")

namespace Aggregate

def InFlight (media : MediaStatus) : Prop := media = .uploadPending ∨ media = .uploadedQuarantined

instance (media : MediaStatus) : Decidable (InFlight media) :=
  inferInstanceAs (Decidable (_ ∨ _))

def finalizedAssets (assets : Entries Str MediaAsset) : Entries Str MediaAsset :=
  assets.map fun e =>
    if e.2.validation = .pending then (e.1, { e.2 with validation := .unavailable }) else e

/-- The pending action is dropped and an upload in flight is given up.
mirrors 1183-1208
(`self._pending = None`, `_finalized_media_after_termination`) -/
def finalized (agg : Aggregate) : Aggregate :=
  if InFlight agg.state.media then
    let agg := { agg with pending := none, mediaAssets := finalizedAssets agg.mediaAssets }
    { agg with state := { agg.state with
        media := if agg.hasValidatedSymptomEvidence then .validated else .unavailable } }
  else { agg with pending := none }

end Aggregate

/-- mirrors 592-604 -/
def consentWithdrawn : Handler := fun e agg => agg.attempt do
  agg.requireCase
  agg.requireNotDeleting
  ensure (agg.state.case = .active ∧ agg.state.consent = .granted)
    (rejected "consent_withdrawal_not_allowed")
  agg.requireNotBeforeCreated e.eventTime (rejected "terminal_event_predates_case")
  agg.rejectIfPredatesRecordedActivity e.eventTime
  let agg := agg.finalized
  return ({ agg with
    state := { agg.state with case := .cancelled, consent := .withdrawn }
    completedAt := some e.eventTime }, code "consent_withdrawn")

/-! ## Customer actions -/

/-- mirrors 524-536 -/
def parseActionExpiry (P : Python) (eventTime : Aware) : Value → Except Fault (Option Aware)
  | .none => .ok none
  | .str s => do
    let utc := s.flatMap fun c => if c = 90 then py "+00:00" else [c]
    let parsed ← require (fromisoformat P utc) (rejected "invalid_action_expiry")
    if h : parsed.offset.isSome ∧ eventTime.instant < parsed.instant then .ok (some ⟨parsed, h.1⟩)
    else .error (rejected "invalid_action_expiry")
  | _ => .error (rejected "invalid_action_expiry")

/-- mirrors 504-508 (`options`) -/
def responseOptions (payload : Dict) : Except Fault (List Value) :=
  if payload.has "response_option_codes" then
    match payload.get "response_option_codes" with
    | .list xs => .ok xs
    | _ => .error (rejected "invalid_payload_code")
  else .ok []

/-- mirrors 493-522 -/
def actionFromPayload (P : Python) (agg : Aggregate) (payload : Dict) (kind : ActionKind)
    (eventTime : Aware) : Except Fault PendingCustomerAction := do
  agg.requireNotBeforeCreated eventTime (rejected "action_issued_before_case_created")
  ensure (agg.ResolvedBy eventTime) (rejected "action_issued_before_case_created")
  let options ← responseOptions payload
  let requestId ← text payload "request_id"
  let budgetBucket ← text payload "budget_bucket"
  let expiresAt ← parseActionExpiry P eventTime (payload.get "expires_at")
  let requestId ← field (fun s => isOpaqueRef s = true) requestId
  let budgetBucket ← field (fun s => isCode s = true) budgetBucket
  let copyRef ← optionalField (textField fun s => isOpaqueRef s = true) (payload.get "copy_ref")
  let codes ← options.mapM (textField fun s => isCode s = true)
  let codes ← field (fun codes : List Code => codes.length ≤ 8) codes
  let locale ← textField (fun s => isLocale s = true) (getOr payload "locale" "und")
  let optionality ← textField (fun s => isCode s = true ∧ s.length ≤ 32)
    (getOr payload "optionality" "optional")
  let safeRefusalCode ← optionalField (textField fun s => isCode s = true)
    (payload.get "safe_refusal_code")
  let decisionRef ← optionalField (textField fun s => isOpaqueRef s = true)
    (payload.get "decision_ref")
  let evidenceRef ← optionalField (textField fun s => isOpaqueRef s = true)
    (payload.get "evidence_ref")
  return {
    requestId, kind, budgetBucket
    status := .issued
    copyRef
    responseOptionCodes := codes
    responseOptionCode := none
    locale, optionality, safeRefusalCode, decisionRef, evidenceRef
    issuedAt := eventTime
    expiresAt
    resolvedAt := none }

def Aggregate.awaiting (agg : Aggregate) (action : PendingCustomerAction) : Aggregate :=
  { agg with
    pending := some action
    state := { agg.state with analysis := .awaitingCustomerAction } }

/-- `expected_bucket`, of the kinds in `_MEDIA_ACTION_KINDS`. -/
def mediaBucket : ActionKind → Option Str
  | .ratingPlate => some (py "rating_plate")
  | .targetedRecapture => some (py "recapture")
  | .diagnosticQuestion => none

/-- A rating plate is asked for once, on top of a validated symptom video.
mirrors 622-629 -/
def PlateDue (agg : Aggregate) : Prop :=
  agg.ratingPlateCount < 1 ∧ agg.state.media = .validated ∧ agg.Concluded ∧
    agg.hasValidatedRole .symptomVideo = true

instance (agg : Aggregate) : Decidable (PlateDue agg) := inferInstanceAs (Decidable (_ ∧ _))

/-- mirrors 606-644 -/
def mediaActionIssued (P : Python) : Handler := fun e agg => do
  let kind ← agg.attempt do
    agg.requireOpen
    agg.requireNoPending
    let kind ← enum ActionKind e.payload "action_kind"
    let bucket ← require (mediaBucket kind) (rejected "invalid_media_action_kind")
    ensure ((← text e.payload "receipt_ref") = e.eventId)
      (rejected "action_receipt_binding_mismatch")
    ensure ((← text e.payload "budget_bucket") = bucket)
      (rejected "action_budget_binding_mismatch")
    ensure (kind = .ratingPlate → PlateDue agg) (rejected "rating_plate_budget_exhausted")
    ensure (kind ≠ .ratingPlate → agg.recaptureCount < 1 ∧ agg.state.media = .rejected)
      (rejected "recapture_not_reachable")
    ensure agg.NothingPrepared (rejected "output_already_prepared")
    return kind
  -- the budget is spent before the action is built
  let agg := if kind = .ratingPlate then { agg with ratingPlateCount := agg.ratingPlateCount + 1 }
    else { agg with recaptureCount := agg.recaptureCount + 1 }
  let action ← agg.attempt (actionFromPayload P agg e.payload kind e.eventTime)
  return (agg.awaiting action, code "media_action_issued")

def PromptClosed (a : PendingCustomerAction) : Prop :=
  a.kind = .diagnosticQuestion ∧
    a.status ∈ [ActionStatus.declined, .cannotSafelyComplete, .expired, .cancelled]

instance (a : PendingCustomerAction) : Decidable (PromptClosed a) :=
  inferInstanceAs (Decidable (_ ∧ _))

/-- mirrors 646-693 -/
def diagnosticQuestionIssued (P : Python) : Handler := fun e agg => do
  agg.attempt do
    agg.requireOpen
    agg.requireNoPending
    ensure agg.Concluded (rejected "analysis_not_question_ready")
    ensure agg.NothingPrepared (rejected "output_already_prepared")
    ensure (∀ a ∈ agg.resolvedCustomerActions, ¬ PromptClosed a)
      (rejected "question_prompt_closed")
    ensure ((← enum ActionKind e.payload "action_kind") = .diagnosticQuestion)
      (rejected "invalid_question_action_kind")
    ensure ((← text e.payload "budget_bucket") = py "question")
      (rejected "action_budget_binding_mismatch")
    ensure ((← text e.payload "receipt_ref") = e.eventId)
      (rejected "action_receipt_binding_mismatch")
    let _ ← text e.payload "copy_ref"
    let options ← responseOptions e.payload |>.mapError fun _ =>
      rejected "question_options_required"
    ensure (options.length ≠ 0) (rejected "question_options_required")
    let requestId ← text e.payload "request_id"
    let copyRef ← text e.payload "copy_ref"
    ensure (∀ a ∈ agg.resolvedCustomerActions,
        a.requestId.val ≠ requestId ∧ a.copyRef.map Subtype.val ≠ some copyRef)
      (rejected "question_identity_reused")
    ensure (agg.questionCount < 2) (rejected "question_budget_exhausted")
  -- the budget is spent before the action is built
  let agg := { agg with questionCount := agg.questionCount + 1 }
  let action ← agg.attempt
    (actionFromPayload P agg e.payload .diagnosticQuestion e.eventTime)
  return (agg.awaiting action, code "diagnostic_question_issued")

/-- Expiry needs the deadline to have passed, an answer needs it not to have.
mirrors 726-737 -/
def checkQuestionWindow (action : PendingCustomerAction) (status : ActionStatus) (t : Aware) :
    Except Fault Unit :=
  if status = .expired ∨ status = .cancelled then do
    ensure (action.status = .issued) (rejected "action_not_expirable")
    ensure (status = .expired → ∃ x ∈ action.expiresAt, x.instant ≤ t.instant)
      (rejected "action_not_expired")
  else ensure (∀ x ∈ action.expiresAt, t.instant < x.instant) (rejected "action_expired")

/-- An answer names one of the options; no other resolution names any.
mirrors 718-723 -/
def responseOption (action : PendingCustomerAction) (status : ActionStatus) :
    Value → Except Fault (Option Str)
  | .str s =>
    if status = .answered ∧ s ∈ action.responseOptionCodes.val.map Subtype.val then .ok (some s)
    else .error (rejected "response_binding_mismatch")
  | .none =>
    if status = .answered then .error (rejected "response_binding_mismatch") else .ok none
  | _ => .error (rejected "response_binding_mismatch")

/-- `del actions[:-4]` -/
def lastFour (actions : List PendingCustomerAction) : List PendingCustomerAction :=
  actions.drop (actions.length - 4)

/-- The pending action is recorded as resolved.
mirrors 738-743 -/
def Aggregate.resolve (agg : Aggregate) (resolved : PendingCustomerAction) : Aggregate :=
  { agg with
    resolvedCustomerActions := lastFour (agg.resolvedCustomerActions ++ [resolved])
    pending := none }

/-- mirrors 695-750 -/
def customerActionResolved : Handler := fun e agg => agg.attempt do
  agg.requireOpen
  let pending ← require agg.pending (rejected "no_matching_question")
  ensure (pending.kind = .diagnosticQuestion) (rejected "no_matching_question")
  ensure ((← text e.payload "request_id") = pending.requestId.val)
    (rejected "action_binding_mismatch")
  ensure ((← enum ActionKind e.payload "action_kind") = .diagnosticQuestion)
    (rejected "action_binding_mismatch")
  ensure ((← text e.payload "locale") = pending.locale.val) (rejected "action_binding_mismatch")
  let status ← enum ActionStatus e.payload "status"
  ensure (status ∈ [ActionStatus.answered, .notSure, .declined, .cannotSafelyComplete, .expired,
    .cancelled]) (rejected "invalid_question_resolution")
  let responseOptionCode ← responseOption pending status (e.payload.get "response_option_code")
  ensure (pending.issuedAt.instant ≤ e.eventTime.instant)
    (rejected "action_resolved_before_issuance")
  checkQuestionWindow pending status e.eventTime
  let agg := agg.resolve
    { pending with status, resolvedAt := some e.eventTime, responseOptionCode }
  let analysis := if status ∈ [ActionStatus.answered, .notSure] ∧ agg.hasValidatedSymptomEvidence
    then AnalysisStatus.ready else .abstained
  return ({ agg with state := { agg.state with analysis } }, code "customer_action_resolved")

/-! ## Media -/

/-- mirrors 752-766 -/
def assetFromPayload (P : Python) (payload : Dict) (role : MediaRole) :
    Except Fault MediaAsset := do
  let mediaType ← text payload "media_type"
  ensure (isMediaType (P.casefold mediaType)) (rejected "invalid_media_type")
  let assetId ← text payload "asset_id"
  let digest ← text payload "digest"
  let assetId ← field (fun s => isOpaqueRef s = true) assetId
  let mediaType ← field (fun s : Str => 1 ≤ s.length ∧ s.length ≤ 32) mediaType
  let byteSize ← intField (fun n => 0 ≤ n ∧ n ≤ 50 * 1024 * 1024)
    (if payload.has "byte_size" then payload.get "byte_size" else .int 0)
  let durationMs ← optionalField (intField fun n => 0 ≤ n ∧ n ≤ 120000)
    (payload.get "duration_ms")
  let width ← optionalField (intField fun n => 1 ≤ n ∧ n ≤ 20000) (payload.get "width")
  let height ← optionalField (intField fun n => 1 ≤ n ∧ n ≤ 20000) (payload.get "height")
  let digest ← field (fun s => Python.isDigest s = true) digest
  return { assetId, role, mediaType, byteSize, durationMs, width, height, digest,
           validation := .pending }

/-- mirrors 768-772 -/
def roleForAction : ActionKind → Except Fault MediaRole
  | .ratingPlate => .ok .ratingPlate
  | .targetedRecapture => .ok .targetedRecapture
  | .diagnosticQuestion => .error .keyError

/-- The action can still be acted on at `t`.
mirrors 788-794, 829-835 -/
def checkActionWindow (action : PendingCustomerAction) (t : Aware) : Except Fault Unit := do
  ensure (action.issuedAt.instant ≤ t.instant) (rejected "action_resolved_before_issuance")
  ensure (∀ x ∈ action.expiresAt, t.instant < x.instant) (rejected "action_expired")

/-- What an upload now is for: the pending media action, or the first video.
mirrors 781-795 -/
def uploadRole (agg : Aggregate) (t : Aware) : Except Fault MediaRole :=
  match agg.pending with
  | none => do
    ensure (agg.state.media = .awaitingRequired) (rejected "initial_upload_not_allowed")
    return .symptomVideo
  | some action => do
    ensure (action.kind ≠ .diagnosticQuestion ∧ action.status = .issued)
      (rejected "upload_not_allowed")
    checkActionWindow action t
    roleForAction action.kind

/-- mirrors 774-800 -/
def uploadStarted (P : Python) : Handler := fun e agg => agg.attempt do
  agg.requireOpen
  let assetId ← text e.payload "asset_id"
  ensure (Entries.find? agg.mediaAssets assetId = none) (rejected "duplicate_upload")
  let role ← uploadRole agg e.eventTime
  let asset ← assetFromPayload P e.payload role
  return ({ agg with
    mediaAssets := Entries.set agg.mediaAssets assetId asset
    pending := agg.pending.map fun action => { action with status := .uploading }
    state := { agg.state with media := .uploadPending } }, code "upload_started")

/-- mirrors 823-835 -/
def checkFinalized (pending : Option PendingCustomerAction) (asset : MediaAsset) (t : Aware) :
    Except Fault Unit :=
  match pending with
  | none => .ok ()
  | some action => do
    ensure (action.status = .uploading) (rejected "upload_not_pending")
    ensure (asset.role = (← roleForAction action.kind)) (rejected "action_binding_mismatch")
    checkActionWindow action t

/-- mirrors 817-838 -/
def uploadFinalized : Handler := fun e agg => agg.attempt do
  agg.requireOpen
  let asset ← agg.matchingAsset e.payload
  ensure (agg.state.media = .uploadPending) (rejected "upload_not_pending")
  checkFinalized agg.pending asset e.eventTime
  return ({ agg with
    pending := agg.pending.map fun action => { action with status := .submitted }
    state := { agg.state with media := .uploadedQuarantined } }, code "upload_finalized")

def mediaState : MediaValidation → Except Fault MediaStatus
  | .validated => .ok .validated
  | .rejected => .ok .rejected
  | .unavailable => .ok .unavailable
  | .pending => .error .keyError

/-- mirrors 840-881 -/
def mediaValidated : Handler := fun e agg => agg.attempt do
  agg.requireOpen
  let asset ← agg.matchingAsset e.payload
  ensure (agg.state.media = .uploadedQuarantined) (rejected "media_not_quarantined")
  ensure (asset.validation = .pending) (rejected "asset_not_pending_validation")
  let validation ← enum MediaValidation e.payload "validation"
  ensure (validation ≠ .pending) (rejected "validation_not_final")
  ensure (∀ action ∈ agg.pending, ∀ x ∈ action.expiresAt, e.eventTime.instant < x.instant)
    (rejected "action_expired")
  let mediaState ← mediaState validation
  let agg := { agg with mediaAssets := agg.withValidation asset validation }
  let media := if asset.role ≠ .symptomVideo ∧ agg.hasValidatedSymptomEvidence
    then MediaStatus.validated else mediaState
  let analysis := if agg.pending = none then
      if validation = .validated then AnalysisStatus.ready else .abstained
    else .awaitingCustomerAction
  return ({ agg with state := { agg.state with media, analysis } }, code "media_validated")

def Aborts (status : ActionStatus) : Prop := status = .expired ∨ status = .cancelled

instance (status : ActionStatus) : Decidable (Aborts status) :=
  inferInstanceAs (Decidable (_ ∨ _))

/-- mirrors 909-924 -/
def checkMediaWindow (action : PendingCustomerAction) (status : ActionStatus) (t : Aware) :
    Except Fault Unit := do
  ensure (action.issuedAt.instant ≤ t.instant) (rejected "action_resolved_before_issuance")
  ensure (status = .expired → ∃ x ∈ action.expiresAt, x.instant ≤ t.instant)
    (rejected "action_not_expired")
  ensure (¬ Aborts status → ∀ x ∈ action.expiresAt, t.instant < x.instant)
    (rejected "action_expired")
  ensure (Aborts status → action.status ∈ [ActionStatus.issued, .uploading, .submitted])
    (rejected "action_not_resolvable")

/-- The assets after the action is resolved with `status`: an abort gives up
an asset that was never judged.
mirrors 925-959 -/
def settledAssets (agg : Aggregate) (action : PendingCustomerAction) (role : MediaRole)
    (status : ActionStatus) (payload : Dict) : Except Fault (Entries Str MediaAsset) :=
  if status = .fulfilled then do
    ensure (action.status = .submitted) (rejected "media_action_not_submitted")
    let asset ← agg.matchingAsset payload
    ensure ((← enum MediaValidation payload "validation") = .validated)
      (rejected "media_fulfillment_binding_mismatch")
    ensure (asset.role = role ∧ asset.validation = .validated)
      (rejected "media_fulfillment_binding_mismatch")
    return agg.mediaAssets
  else if action.status = .issued then .ok agg.mediaAssets
  else if action.status = .submitted then do
    let asset ← agg.matchingAsset payload
    ensure (asset.role = role) (rejected "media_resolution_binding_mismatch")
    if Aborts status ∧ asset.validation = .pending then
      return agg.withValidation asset .unavailable
    else
      let validation ← enum MediaValidation payload "validation"
      ensure (validation ≠ .pending ∧ asset.validation = validation)
        (rejected "media_resolution_binding_mismatch")
      return agg.mediaAssets
  else if Aborts status ∧ action.status = .uploading then do
    let asset ← agg.matchingAsset payload
    ensure (asset.role = role) (rejected "media_resolution_binding_mismatch")
    return agg.withValidation asset .unavailable
  else .error (rejected "media_action_not_resolvable")

/-- mirrors 883-988 -/
def mediaActionResolved : Handler := fun e agg => agg.attempt do
  agg.requireOpen
  let pending ← require agg.pending (rejected "no_matching_media_action")
  ensure (pending.kind ≠ .diagnosticQuestion) (rejected "no_matching_media_action")
  ensure ((← text e.payload "request_id") = pending.requestId.val)
    (rejected "action_binding_mismatch")
  ensure ((← enum ActionKind e.payload "action_kind") = pending.kind)
    (rejected "action_binding_mismatch")
  let expectedRole ← roleForAction pending.kind
  ensure ((← enum MediaRole e.payload "media_role") = expectedRole)
    (rejected "action_binding_mismatch")
  let status ← enum ActionStatus e.payload "status"
  ensure (status ∈ [ActionStatus.fulfilled, .unavailable, .declined, .cannotSafelyComplete,
    .expired, .cancelled]) (rejected "invalid_media_resolution")
  checkMediaWindow pending status e.eventTime
  let mediaAssets ← settledAssets agg pending expectedRole status e.payload
  let agg := { agg with mediaAssets }.resolve
    { pending with status, resolvedAt := some e.eventTime }
  let media := if Aborts status ∧ Aggregate.InFlight agg.state.media then
      if agg.hasValidatedSymptomEvidence then MediaStatus.validated else .rejected
    else agg.state.media
  let analysis := if status = .fulfilled ∨ agg.hasValidatedSymptomEvidence
    then AnalysisStatus.ready else .abstained
  return ({ agg with state := { agg.state with media, analysis } }, code "media_action_resolved")

/-! ## Analysis -/

/-- mirrors 990-1002 -/
def analysisStarted : Handler := fun _ agg => agg.attempt do
  agg.requireOpen
  agg.requireNoPending
  ensure (agg.state.analysis = .ready ∧ agg.state.media = .validated ∧
    agg.hasValidatedSymptomEvidence = true) (rejected "analysis_not_ready")
  return ({ agg with state := { agg.state with analysis := .processing } },
    code "analysis_started")

/-- The number of a retry: the payload and the event agree that it is the next
one, and it is at most the third.
mirrors 1010-1021, 1243-1254 -/
def retryAttempt (stage : String) (e : VisualTriageEvent) (count : ℕ) (fault : Fault) :
    Except Fault ℕ := do
  ensure (e.retryStage = some (py stage)) (rejected "retry_stage_invalid")
  match ← value e.payload "attempt" with
  | .number (.int attempt) =>
    ensure (e.retryAttempt = some attempt ∧ attempt = count + 1 ∧ attempt ≤ 3) fault
    return attempt.toNat
  | _ => .error fault

/-- mirrors 1004-1024 -/
def analysisRetryRecorded : Handler := fun e agg => agg.attempt do
  agg.requireOpen
  ensure (agg.state.analysis = .failedRetriable) (rejected "analysis_retry_not_allowed")
  let attempt ← retryAttempt "analysis" e agg.analysisRetryCount (rejected "retry_attempt_invalid")
  return ({ agg with
    analysisRetryCount := attempt
    state := { agg.state with analysis := .ready } }, code "analysis_retry_recorded")

/-- mirrors 1026-1038 -/
def analysisCompleted : Handler := fun e agg => agg.attempt do
  agg.requireOpen
  ensure (agg.state.analysis = .processing) (rejected "analysis_not_processing")
  let outcome ← text e.payload "outcome"
  ensure (outcome ∈ [py "complete", py "abstained"]) (rejected "invalid_analysis_outcome")
  let analysis := if outcome = py "complete" then AnalysisStatus.complete else .abstained
  return ({ agg with state := { agg.state with analysis } }, code "analysis_completed")

/-- mirrors 1040-1052 -/
def analysisFailed : Handler := fun e agg => agg.attempt do
  agg.requireOpen
  ensure (agg.state.analysis = .processing) (rejected "analysis_not_processing")
  let failureState ← text e.payload "failure_state"
  ensure (failureState ∈ [py "failed_retriable", py "failed_terminal"])
    (rejected "invalid_analysis_failure")
  ensure (failureState = py "failed_retriable" → agg.analysisRetryCount < 3)
    (rejected "analysis_retry_exhausted")
  let analysis ← require (ofValue AnalysisStatus failureState) .structural
  return ({ agg with state := { agg.state with analysis } }, code "analysis_failed")

/-! ## Outputs -/

/-- mirrors 1054-1064 -/
def packetReady : Handler := fun _ agg => agg.attempt do
  agg.requireOpen
  agg.requireNoPending
  ensure (agg.state.contractorPacket = .notReady) (rejected "packet_already_ready")
  ensure agg.Concluded (rejected "packet_not_ready")
  return ({ agg with state := { agg.state with contractorPacket := .ready } },
    code "contractor_packet_ready_recorded")

/-- mirrors 1066-1074 -/
def packetDeliveryStarted : Handler := fun _ agg => agg.attempt do
  agg.requireOpen
  agg.requireNoPending
  ensure (agg.state.contractorPacket = .ready) (rejected "packet_delivery_not_ready")
  return ({ agg with state := { agg.state with contractorPacket := .deliveryPending } },
    code "contractor_packet_delivery_started")

/-- Whether a delivery receipt reports success.
mirrors 1082-1084, 1126-1128 -/
def delivered (payload : Dict) : Except Fault Bool := do
  let status ← text payload "status"
  ensure (status ∈ [py "delivered", py "failed"]) (rejected "invalid_delivery_status")
  return status = py "delivered"

/-- mirrors 1076-1090 -/
def packetDeliveryReceipt : Handler := fun e agg => agg.attempt do
  agg.requireOpen
  ensure (agg.state.contractorPacket = .deliveryPending) (rejected "packet_delivery_not_pending")
  let contractorPacket := if ← delivered e.payload then PacketStatus.delivered else .deliveryFailed
  return ({ agg with state := { agg.state with contractorPacket } },
    code "contractor_packet_delivery_receipt_recorded")

/-- mirrors 1092-1106 -/
def deliveryPolicyReceipt : Handler := fun e agg => agg.attempt do
  agg.requireOpen
  agg.requireNoPending
  ensure (agg.state.customerDelivery = .notEvaluated) (rejected "policy_receipt_already_recorded")
  ensure agg.Concluded (rejected "policy_receipt_not_ready")
  let receiptRef ← text e.payload "receipt_ref"
  ensure (receiptRef = e.eventId ∧ isOpaqueRef receiptRef = true) (rejected "invalid_receipt_ref")
  return ({ agg with
    policyReceiptRef := some e.eventId
    state := { agg.state with customerDelivery := .policyReceiptRecorded } },
    code "delivery_policy_receipt_recorded")

/-- mirrors 1108-1118 -/
def customerDeliveryStarted : Handler := fun e agg => agg.attempt do
  agg.requireOpen
  agg.requireNoPending
  ensure (agg.state.customerDelivery = .policyReceiptRecorded)
    (rejected "customer_delivery_not_ready")
  ensure (some (← text e.payload "receipt_ref") = agg.policyReceiptRef)
    (rejected "policy_receipt_binding_mismatch")
  return ({ agg with state := { agg.state with customerDelivery := .deliveryPending } },
    code "customer_delivery_started")

/-- mirrors 1120-1134 -/
def customerDeliveryReceipt : Handler := fun e agg => agg.attempt do
  agg.requireOpen
  ensure (agg.state.customerDelivery = .deliveryPending)
    (rejected "customer_delivery_not_pending")
  let customerDelivery := if ← delivered e.payload then DeliveryStatus.delivered
    else .deliveryFailed
  return ({ agg with state := { agg.state with customerDelivery } },
    code "customer_delivery_receipt_recorded")

/-! ## Endings -/

/-- Nothing is pending, in flight, being analysed or being delivered.
mirrors 1141-1153 -/
def Aggregate.Quiescent (agg : Aggregate) : Prop :=
  agg.pending = none ∧ ¬ InFlight agg.state.media ∧
    agg.state.analysis ∉ [AnalysisStatus.processing, .failedRetriable, .awaitingCustomerAction] ∧
    agg.state.contractorPacket ≠ .deliveryPending ∧ agg.state.customerDelivery ≠ .deliveryPending

instance (agg : Aggregate) : Decidable agg.Quiescent := inferInstanceAs (Decidable (_ ∧ _))

/-- mirrors 1136-1159 -/
def caseClosed : Handler := fun e agg => agg.attempt do
  agg.requireCase
  agg.requireNotDeleting
  ensure (agg.state.case = .active) (rejected "case_close_not_allowed")
  ensure agg.Quiescent (rejected "case_not_quiescent")
  agg.requireNotBeforeCreated e.eventTime (rejected "terminal_event_predates_case")
  agg.rejectIfPredatesRecordedActivity e.eventTime
  return ({ agg with
    completedAt := some e.eventTime
    state := { agg.state with case := .closed } }, code "case_closed")

/-- mirrors 1210-1224 -/
def terminalCase (status : CaseStatus) (decisionCode : Code) : Handler := fun e agg =>
  agg.attempt do
    agg.requireCase
    agg.requireNotDeleting
    ensure (agg.state.case ∈ [CaseStatus.created, .active]) (rejected "case_terminal_not_allowed")
    agg.requireNotBeforeCreated e.eventTime (rejected "terminal_event_predates_case")
    agg.rejectIfPredatesRecordedActivity e.eventTime
    let agg := agg.finalized
    return ({ agg with
      completedAt := some e.eventTime
      expiresAt := if status = .expired then some e.eventTime else agg.expiresAt
      state := { agg.state with case := status } }, decisionCode)

/-- mirrors 1177-1178 -/
def caseCancelled : Handler := terminalCase .cancelled (code "case_cancelled")

/-- mirrors 1180-1181 -/
def caseExpired : Handler := terminalCase .expired (code "case_expired")

/-- mirrors 1226-1237 -/
def deletionRequested : Handler := fun e agg => agg.attempt do
  agg.requireCase
  ensure (agg.state.deletion = .notRequested) (rejected "deletion_already_requested")
  agg.requireNotBeforeCreated e.eventTime (rejected "terminal_event_predates_case")
  agg.rejectIfPredatesRecordedActivity e.eventTime
  let agg := agg.finalized
  return ({ agg with
    deletionRequestedAt := some e.eventTime
    state := { agg.state with deletion := .pending } }, code "deletion_requested")

/-- mirrors 1239-1256 -/
def deletionRetryRecorded : Handler := fun e agg => agg.attempt do
  agg.requireCase
  ensure (agg.state.deletion = .pending) (rejected "deletion_not_pending")
  let attempt ← retryAttempt "deletion" e agg.deletionRetryCount
    (rejected "deletion_retry_invalid")
  return ({ agg with deletionRetryCount := attempt }, code "deletion_retry_recorded")

/-- mirrors 1258-1269 -/
def deletionVerified : Handler := fun e agg => agg.attempt do
  agg.requireCase
  ensure (agg.state.deletion = .pending) (rejected "deletion_not_pending")
  agg.requireNotBeforeCreated e.eventTime (rejected "terminal_event_predates_case")
  ensure (∀ t ∈ agg.deletionRequestedAt, t.instant ≤ e.eventTime.instant)
    (rejected "terminal_event_predates_case")
  agg.rejectIfPredatesRecordedActivity e.eventTime
  return ({ agg with
    deletedAt := some e.eventTime
    state := { agg.state with deletion := .verified } }, code "deletion_verified")

/-- mirrors 418-449 -/
def dispatch (P : Python) (e : VisualTriageEvent) : Aggregate → Except Raised (Aggregate × Code) :=
  match e.kind with
  | .caseCreated => caseCreated e
  | .consentRequested => consentRequested e
  | .consentGranted => consentGranted e
  | .consentDeclined => consentDeclined e
  | .consentWithdrawn => consentWithdrawn e
  | .mediaActionIssued => mediaActionIssued P e
  | .diagnosticQuestionIssued => diagnosticQuestionIssued P e
  | .customerActionResolved => customerActionResolved e
  | .uploadStarted => uploadStarted P e
  | .uploadFinalized => uploadFinalized e
  | .mediaValidated => mediaValidated e
  | .mediaActionResolved => mediaActionResolved e
  | .analysisStarted => analysisStarted e
  | .analysisRetryRecorded => analysisRetryRecorded e
  | .analysisCompleted => analysisCompleted e
  | .analysisFailed => analysisFailed e
  | .contractorPacketReadyRecorded => packetReady e
  | .contractorPacketDeliveryStarted => packetDeliveryStarted e
  | .contractorPacketDeliveryReceiptRecorded => packetDeliveryReceipt e
  | .deliveryPolicyReceiptRecorded => deliveryPolicyReceipt e
  | .customerDeliveryStarted => customerDeliveryStarted e
  | .customerDeliveryReceiptRecorded => customerDeliveryReceipt e
  | .caseClosed => caseClosed e
  | .caseCancelled => caseCancelled e
  | .caseExpired => caseExpired e
  | .deletionRequested => deletionRequested e
  | .deletionRetryRecorded => deletionRetryRecorded e
  | .deletionVerified => deletionVerified e

/-! ## The machine -/

structure State extends Aggregate where
  revision : ℕ
  ordinaryReceipts : List Receipt
  controlReceipts : List Receipt
  ledger : Entries Str Receipt

namespace State

/-- mirrors 79-105 (`__init__`) -/
def fresh : State :=
  { Aggregate.initial with revision := 0, ordinaryReceipts := [], controlReceipts := [], ledger := [] }

/-- mirrors 368-392 -/
def backup (s : State) : Aggregate := s.toAggregate

/-- mirrors 394-416 -/
def restore (s : State) (backup : Aggregate) : State := { s with toAggregate := backup }

/-- mirrors 115-142 -/
def snapshot (s : State) : Except Fault (Option VisualTriageCase) :=
  match s.caseId, s.contractorId with
  | some caseId, some contractorId => (VisualTriageCase.construct
      { caseId, contractorId
        callSidRef := s.callSidRef
        supportedScenario := s.supportedScenario
        aggregateRevision := s.revision
        stateVector := s.state
        pendingCustomerAction := s.pending
        resolvedCustomerActions := s.resolvedCustomerActions
        questionCount := s.questionCount
        ratingPlateRequestCount := s.ratingPlateCount
        recaptureCount := s.recaptureCount
        mediaAssets := s.mediaAssets.map Prod.snd
        ordinaryReceipts := s.ordinaryReceipts
        controlReceipts := s.controlReceipts
        deletionRetryCount := s.deletionRetryCount
        createdAt := s.createdAt
        expiresAt := s.expiresAt
        completedAt := s.completedAt
        deletedAt := s.deletedAt }).map some
  | _, _ => .ok none

/-- mirrors 279-303 (`reason`, `next_action`) -/
def reason (s : State) : Str × Option Str :=
  if s.state.deletion = .pending then (py "deletion_pending", none)
  else if s.state.deletion = .verified then (py "verified_deleted", none)
  else if s.state.case ∈ [CaseStatus.closed, .cancelled, .expired] then (py "case_terminal", none)
  else if s.pending.isSome then (py "customer_action_pending", some (py "resolve_customer_action"))
  else if s.state.media = .awaitingRequired then
    (py "media_required", some (py "upload_initial_symptom_media"))
  else if s.state.analysis = .ready then (py "analysis_ready", some (py "start_analysis"))
  else if s.state.contractorPacket = .ready then
    (py "packet_ready", some (py "record_packet_delivery"))
  else (py "ok", none)

/-- What a role may be told to do next.
mirrors 331-340 -/
def nextActionFor (role : ProjectionRole) (nextAction : Option Str) : Option Str :=
  let hidden := match role with
    | .internal => false
    | .audit => true
    | .customer => nextAction ∈ [some (py "start_analysis"), some (py "record_packet_delivery")]
    | .contractor => nextAction ∈ [some (py "resolve_customer_action"),
        some (py "upload_initial_symptom_media"), some (py "start_analysis")]
  if hidden then none else nextAction

/-- mirrors 272-366 -/
def projection (P : Python) (s : State) (role : ProjectionRole) (historical : Option (ℕ × Code)) :
    Except Fault Projection :=
  let detailed := s.pending.filter fun _ => role ≠ .contractor
  Projection.construct P
    { role
      state := s.state
      aggregateRevision := s.revision
      historicalReplay := historical.isSome
      historicalRevision := historical.map Prod.fst
      historicalDecisionCode := historical.map fun h => h.2.val
      nextAction := nextActionFor role s.reason.2
      reasonCode := s.reason.1
      pendingActionKind := s.pending.map (·.kind)
      pendingActionStatus := s.pending.map (·.status)
      pendingActionRequestRef := detailed.map (·.requestId.val)
      pendingActionLocale := detailed.map (·.locale.val)
      pendingActionCopyRef := detailed.bind fun a => a.copyRef.map Subtype.val
      pendingActionBudgetBucket := (s.pending.filter fun _ => role ∈ [.internal, .audit]).map
        (·.budgetBucket.val)
      pendingActionOptionality := detailed.map (·.optionality.val)
      pendingActionSafeRefusalCode := detailed.bind fun a => a.safeRefusalCode.map Subtype.val
      pendingActionResponseOptionCodes := (detailed.map (·.responseOptionCodes.val)).getD []
      pendingActionExpiresAt := detailed.bind (·.expiresAt) }

end State

structure Refusal where
  code : Code
  reveal : Bool

/-- `self._reject(code)` -/
def refusal (s : String) (h : isCode (py s) = true := by decide) : Refusal := ⟨code s h, true⟩

/-- `self._reject(code, reveal=False)` -/
def hidden (s : String) (h : isCode (py s) = true := by decide) : Refusal := ⟨code s h, false⟩

/-- mirrors 264-270 -/
def reject (P : Python) (s : State) (r : Refusal) : Except Fault Decision :=
  let shown := r.reveal && s.caseId.any (!·.isEmpty)
  let projection := if shown then (s.projection P .internal none).map some else .ok none
  projection.map fun projection =>
    { accepted := false
      replayed := false
      decisionCode := r.code
      historicalDecisionCode := none
      historicalRevision := none
      currentRevision := if r.reveal then s.revision else 0
      projection }

/-- mirrors 62-66 -/
def controlKinds : List EventKind :=
  [.consentDeclined, .consentWithdrawn, .caseClosed, .caseCancelled, .caseExpired,
    .deletionRequested, .deletionRetryRecorded, .deletionVerified]

/-- mirrors 67-71 -/
def deletionKinds : List EventKind := [.deletionRequested, .deletionRetryRecorded, .deletionVerified]

def Bound (s : State) (e : VisualTriageEvent) : Prop :=
  s.caseId = some e.caseId ∧ s.contractorId = some e.contractorId

instance (s : State) (e : VisualTriageEvent) : Decidable (Bound s e) :=
  inferInstanceAs (Decidable (_ ∧ _))

/-- Everything `apply` checks before it dispatches; the receipt of an event
seen before.
mirrors 147-210 (`apply`) -/
def screen (P : Python) (s : State) (e : VisualTriageEvent) : Except Refusal (Option Receipt) := do
  ensure (s.caseId.isSome → Bound s e) (hidden "binding_mismatch")
  ensure (e.assertIntegrity P) (hidden "event_integrity_mismatch")
  ensure (s.caseId = none → e.kind = .caseCreated) (hidden "aggregate_not_found")
  ensure (s.caseId.isSome → Bound s e) (hidden "binding_mismatch")
  match Entries.find? s.ledger e.eventId with
  | some prior =>
    ensure (prior.semanticEnvelopeFingerprint.val = e.semanticEnvelopeFingerprint)
      (refusal "event_id_conflict")
    ensure (s.state.deletion = .verified → e.kind = .deletionVerified)
      (refusal "verified_deletion_terminal")
    return some prior
  | none =>
    ensure (e.sourceKind = .synthetic) (hidden "source_kind_mismatch")
    ensure (s.state.deletion = .pending → e.kind ∈ deletionKinds) (refusal "deletion_pending")
    ensure (s.state.deletion ≠ .verified) (refusal "verified_deletion_terminal")
    ensure (s.caseId.isSome → e.expectedRevision = s.revision) (refusal "stale_or_future_revision")
    ensure (s.caseId = none → e.expectedRevision = 0) (refusal "stale_or_future_revision")
    ensure (e.kind ∈ controlKinds → s.controlReceipts.length < controlReceiptCap)
      (refusal "control_lane_capacity")
    ensure (e.kind ∉ controlKinds → s.ordinaryReceipts.length < ordinaryReceiptCap)
      (refusal "ordinary_lane_capacity")
    return none

/-- The code of a rejection for what a handler raised.
mirrors 230-244 -/
def Fault.refusal : Fault → Refusal
  | .rejected code => ⟨code, true⟩
  | .keyError => Triage.refusal "event_integrity_mismatch"
  | .structural => Triage.refusal "invalid_structural_payload"

/-- mirrors app/services/visual_diagnosis_contracts.py:527-551 -/
def receipt (e : VisualTriageEvent) (decisionCode : Code) (revision : ℕ) :
    Except Fault Receipt := do
  let eventId ← field (fun s => isOpaqueRef s = true) e.eventId
  let fingerprint ← field (fun s => Python.isDigest s = true) e.semanticEnvelopeFingerprint
  return {
    eventId
    kind := e.kind
    semanticEnvelopeFingerprint := fingerprint
    historicalDecisionCode := decisionCode
    resultingRevision := revision }

/-- The handler and the receipt of its decision.
mirrors 213-229 -/
def perform (P : Python) (s : State) (e : VisualTriageEvent) :
    Except Raised (Aggregate × Receipt) := do
  let (agg, decisionCode) ← dispatch P e s.toAggregate
  let receipt ← agg.attempt (receipt e decisionCode (s.revision + 1))
  return (agg, receipt)

/-- mirrors 246-251 -/
def State.commit (s : State) (agg : Aggregate) (receipt : Receipt) : State :=
  { agg with
    revision := s.revision + 1
    ledger := Entries.set s.ledger receipt.eventId.val receipt
    controlReceipts := if receipt.kind ∈ controlKinds then s.controlReceipts ++ [receipt]
      else s.controlReceipts
    ordinaryReceipts := if receipt.kind ∈ controlKinds then s.ordinaryReceipts
      else s.ordinaryReceipts ++ [receipt] }

/-- What is returned for an event seen before.
mirrors 180-193 -/
def replay (P : Python) (s : State) (prior : Receipt) : Except Fault Decision := do
  let projection ← s.projection P .internal
    (some (prior.resultingRevision, prior.historicalDecisionCode))
  return {
    accepted := true
    replayed := true
    decisionCode := code "replayed"
    historicalDecisionCode := some prior.historicalDecisionCode
    historicalRevision := some prior.resultingRevision
    currentRevision := s.revision
    projection := some projection }

/-- mirrors 252-257 -/
def accept (P : Python) (s : State) (decisionCode : Code) : Except Fault Decision := do
  let projection ← s.projection P .internal none
  return {
    accepted := true
    replayed := false
    decisionCode
    historicalDecisionCode := none
    historicalRevision := none
    currentRevision := s.revision
    projection := some projection }

/-- A step of the machine; an `error` response is an exception that escapes.
mirrors 144-257 -/
def apply (P : Python) : Machine State VisualTriageEvent (Except Fault Decision) := fun s e =>
  match screen P s e with
  | .error r => (s, reject P s r)
  | .ok (some prior) => (s, replay P s prior)
  | .ok none =>
    match perform P s e with
    | .error raised =>
      let s := State.restore { s with toAggregate := raised.left } s.backup
      (s, reject P s raised.fault.refusal)
    | .ok (agg, receipt) =>
      let s := s.commit agg receipt
      (s, accept P s receipt.historicalDecisionCode)

end HeyKevin.L8.Triage
