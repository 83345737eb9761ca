import HeyKevin.Core.Fallible
import HeyKevin.L1Encoding.Iso
import HeyKevin.L1Encoding.Json
import Mathlib.Data.List.Sort
/-!
# Contracts of the visual triage case

The closed vocabularies, the event envelope with its two digests, and the
values the state machine keeps: pending actions, media assets, receipts,
projections, decisions and snapshots.

A text that a constructor checks against a pattern is a subtype here, so a
value that was built needs no second look. `model_copy` does not validate; the
fields it writes are plain.

Mirrors app/services/visual_diagnosis_contracts.py.

Line numbers without a file are those of app/services/visual_diagnosis_contracts.py.
-/
namespace HeyKevin.L8.Triage

open HeyKevin.Core L1 L1.Text L1.Datetime

/-! ## Patterns -/

def isLower (c : CodePoint) : Bool := 97 ≤ c.val && c.val < 123
def isUpper (c : CodePoint) : Bool := 65 ≤ c.val && c.val < 91
def isDecimal (c : CodePoint) : Bool := 48 ≤ c.val && c.val < 58

/-- `re.fullmatch(r"[head][tail]{0,n}", s)` -/
def fullmatch (head tail : CodePoint → Bool) (n : ℕ) : Str → Bool
  | [] => false
  | c :: s => head c && s.all tail && s.length ≤ n

/-- mirrors 23 (`OPAQUE_REF_PATTERN`) -/
def isOpaqueRef (s : Str) : Bool :=
  fullmatch (fun c => isLower c || isUpper c || isDecimal c)
    (fun c => isLower c || isUpper c || isDecimal c || (py "._:-").contains c) 127 s

/-- mirrors 24 (`CODE_PATTERN`) -/
def isCode (s : Str) : Bool :=
  fullmatch isLower (fun c => isLower c || isDecimal c || (py "_.:-").contains c) 63 s

/-- mirrors 25 (`PAYLOAD_KEY_PATTERN`) -/
def isPayloadKey (s : Str) : Bool :=
  fullmatch isLower (fun c => isLower c || isDecimal c || (py "_").contains c) 63 s

/-- mirrors app/services/visual_diagnosis_state.py:754 (`media_type`) -/
def isMediaType (s : Str) : Bool :=
  fullmatch (fun c => isLower c || isDecimal c)
    (fun c => isLower c || isDecimal c || (py "+./-").contains c) 31 s

def isLanguage (s : Str) : Bool := s.all isLower && (s.length == 2 || s.length == 3)

def isScript : Str → Bool
  | [] => false
  | c :: s => isUpper c && s.all isLower && s.length == 3

def isRegion (s : Str) : Bool :=
  (s.all isUpper && s.length == 2) || (s.all isDecimal && s.length == 3)

/-- A language, then perhaps a script, then perhaps a region.
mirrors 473, 517-524 (`validate_locale`) -/
def isLocale (s : Str) : Bool :=
  2 ≤ s.length && s.length ≤ 35 &&
    (s == py "und" ||
      match List.splitOn 45 s with
      | [language] => isLanguage language
      | [language, subtag] => isLanguage language && (isScript subtag || isRegion subtag)
      | [language, script, region] => isLanguage language && isScript script && isRegion region
      | _ => false)

example : isLocale (py "pt-BR") = true ∧ isLocale (py "zh-Hant-TW") = true ∧
    isLocale (py "pt_BR") = false := by
  decide

abbrev OpaqueRef := { s : Str // isOpaqueRef s = true }
abbrev Code := { s : Str // isCode s = true }
abbrev Digest := { s : Str // Python.isDigest s = true }
abbrev Locale := { s : Str // isLocale s = true }

def code (s : String) (h : isCode (py s) = true := by decide) : Code := ⟨py s, h⟩

theorem length_of_fullmatch {head tail : CodePoint → Bool} {n : ℕ} {s : Str}
    (h : fullmatch head tail n s = true) : 0 < s.length ∧ s.length ≤ n + 1 := by
  cases s with
  | nil => cases h
  | cons c s =>
    simp only [fullmatch, Bool.and_eq_true, decide_eq_true_eq] at h
    simp only [List.length_cons]
    omega

theorem OpaqueRef.length_le (r : OpaqueRef) : r.val.length ≤ 128 := (length_of_fullmatch r.2).2
theorem Code.length_le (c : Code) : c.val.length ≤ 64 := (length_of_fullmatch c.2).2

theorem Locale.length_le (l : Locale) : l.val.length ≤ 35 := by
  have h := l.2
  simp only [isLocale, Bool.and_eq_true, decide_eq_true_eq] at h
  exact h.1.2

/-! ## Closed vocabularies -/

/-- A `str` enumeration: its members and their values.
mirrors 164-167 (`_ClosedStrEnum`) -/
class ClosedStrEnum (α : Type) where
  members : List α
  value : α → String

/-- `EnumType(value)`; `none` is its `ValueError`. -/
def ofValue (α : Type) [ClosedStrEnum α] (s : Str) : Option α :=
  (ClosedStrEnum.members : List α).find? fun m => py (ClosedStrEnum.value m) = s

inductive CaseStatus
  | created
  | active
  | closed
  | cancelled
  | expired
deriving DecidableEq

inductive ConsentStatus
  | notRequested
  | awaitingDecision
  | granted
  | declined
  | withdrawn
deriving DecidableEq

inductive MediaStatus
  | none
  | awaitingRequired
  | uploadPending
  | uploadedQuarantined
  | validated
  | rejected
  | unavailable
deriving DecidableEq

inductive AnalysisStatus
  | notStarted
  | ready
  | processing
  | awaitingCustomerAction
  | complete
  | abstained
  | failedRetriable
  | failedTerminal
deriving DecidableEq

instance : ClosedStrEnum AnalysisStatus where
  members := [.notStarted, .ready, .processing, .awaitingCustomerAction, .complete, .abstained,
    .failedRetriable, .failedTerminal]
  value
    | .notStarted => "not_started"
    | .ready => "ready"
    | .processing => "processing"
    | .awaitingCustomerAction => "awaiting_customer_action"
    | .complete => "complete"
    | .abstained => "abstained"
    | .failedRetriable => "failed_retriable"
    | .failedTerminal => "failed_terminal"

inductive PacketStatus
  | notReady
  | ready
  | deliveryPending
  | delivered
  | deliveryFailed
deriving DecidableEq

inductive DeliveryStatus
  | notEvaluated
  | policyReceiptRecorded
  | deliveryPending
  | delivered
  | deliveryFailed
deriving DecidableEq

inductive DeletionStatus
  | notRequested
  | pending
  | verified
deriving DecidableEq

inductive EventKind
  | caseCreated
  | consentRequested
  | consentGranted
  | consentDeclined
  | consentWithdrawn
  | mediaActionIssued
  | diagnosticQuestionIssued
  | customerActionResolved
  | uploadStarted
  | uploadFinalized
  | mediaValidated
  | mediaActionResolved
  | analysisStarted
  | analysisRetryRecorded
  | analysisCompleted
  | analysisFailed
  | contractorPacketReadyRecorded
  | contractorPacketDeliveryStarted
  | contractorPacketDeliveryReceiptRecorded
  | deliveryPolicyReceiptRecorded
  | customerDeliveryStarted
  | customerDeliveryReceiptRecorded
  | caseClosed
  | caseCancelled
  | caseExpired
  | deletionRequested
  | deletionRetryRecorded
  | deletionVerified
deriving DecidableEq

namespace EventKind

def value : EventKind → String
  | caseCreated => "case_created"
  | consentRequested => "consent_requested"
  | consentGranted => "consent_granted"
  | consentDeclined => "consent_declined"
  | consentWithdrawn => "consent_withdrawn"
  | mediaActionIssued => "media_action_issued"
  | diagnosticQuestionIssued => "diagnostic_question_issued"
  | customerActionResolved => "customer_action_resolved"
  | uploadStarted => "upload_started"
  | uploadFinalized => "upload_finalized"
  | mediaValidated => "media_validated"
  | mediaActionResolved => "media_action_resolved"
  | analysisStarted => "analysis_started"
  | analysisRetryRecorded => "analysis_retry_recorded"
  | analysisCompleted => "analysis_completed"
  | analysisFailed => "analysis_failed"
  | contractorPacketReadyRecorded => "contractor_packet_ready_recorded"
  | contractorPacketDeliveryStarted => "contractor_packet_delivery_started"
  | contractorPacketDeliveryReceiptRecorded => "contractor_packet_delivery_receipt_recorded"
  | deliveryPolicyReceiptRecorded => "delivery_policy_receipt_recorded"
  | customerDeliveryStarted => "customer_delivery_started"
  | customerDeliveryReceiptRecorded => "customer_delivery_receipt_recorded"
  | caseClosed => "case_closed"
  | caseCancelled => "case_cancelled"
  | caseExpired => "case_expired"
  | deletionRequested => "deletion_requested"
  | deletionRetryRecorded => "deletion_retry_recorded"
  | deletionVerified => "deletion_verified"

/-- mirrors 62-107 (`_EVENT_PAYLOAD_KEYS`) -/
def payloadKeys : EventKind → List String
  | caseCreated => ["scenario", "source_ref"]
  | mediaActionIssued | diagnosticQuestionIssued =>
    ["request_id", "action_kind", "budget_bucket", "copy_ref", "receipt_ref", "locale",
      "optionality", "safe_refusal_code", "decision_ref", "evidence_ref",
      "response_option_codes", "expires_at"]
  | customerActionResolved =>
    ["request_id", "status", "action_kind", "locale", "response_option_code"]
  | uploadStarted =>
    ["asset_id", "media_type", "byte_size", "duration_ms", "width", "height", "digest"]
  | uploadFinalized => ["asset_id"]
  | mediaValidated => ["asset_id", "validation"]
  | mediaActionResolved =>
    ["request_id", "action_kind", "media_role", "validation", "status", "asset_id"]
  | analysisRetryRecorded | deletionRetryRecorded => ["attempt"]
  | analysisCompleted => ["outcome"]
  | analysisFailed => ["failure_state"]
  | contractorPacketDeliveryReceiptRecorded | customerDeliveryReceiptRecorded => ["status"]
  | deliveryPolicyReceiptRecorded | customerDeliveryStarted => ["receipt_ref"]
  | _ => []

end EventKind

inductive EventSource
  | synthetic
  | customerAction
  | system
  | policyReceipt
deriving DecidableEq

def EventSource.value : EventSource → String
  | synthetic => "synthetic_structural"
  | customerAction => "customer_action"
  | system => "system"
  | policyReceipt => "policy_receipt"

inductive ActionKind
  | diagnosticQuestion
  | ratingPlate
  | targetedRecapture
deriving DecidableEq

instance : ClosedStrEnum ActionKind where
  members := [.diagnosticQuestion, .ratingPlate, .targetedRecapture]
  value
    | .diagnosticQuestion => "diagnostic_question"
    | .ratingPlate => "rating_plate"
    | .targetedRecapture => "targeted_recapture"

inductive ActionStatus
  | issued
  | uploading
  | submitted
  | answered
  | notSure
  | fulfilled
  | unavailable
  | declined
  | cannotSafelyComplete
  | expired
  | cancelled
deriving DecidableEq

instance : ClosedStrEnum ActionStatus where
  members := [.issued, .uploading, .submitted, .answered, .notSure, .fulfilled, .unavailable,
    .declined, .cannotSafelyComplete, .expired, .cancelled]
  value
    | .issued => "issued"
    | .uploading => "uploading"
    | .submitted => "submitted"
    | .answered => "answered"
    | .notSure => "not_sure"
    | .fulfilled => "fulfilled"
    | .unavailable => "unavailable"
    | .declined => "declined"
    | .cannotSafelyComplete => "cannot_safely_complete"
    | .expired => "expired"
    | .cancelled => "cancelled"

inductive MediaRole
  | symptomVideo
  | ratingPlate
  | targetedRecapture
deriving DecidableEq

instance : ClosedStrEnum MediaRole where
  members := [.symptomVideo, .ratingPlate, .targetedRecapture]
  value
    | .symptomVideo => "symptom_video"
    | .ratingPlate => "rating_plate"
    | .targetedRecapture => "targeted_recapture"

inductive MediaValidation
  | pending
  | validated
  | rejected
  | unavailable
deriving DecidableEq

instance : ClosedStrEnum MediaValidation where
  members := [.pending, .validated, .rejected, .unavailable]
  value
    | .pending => "pending"
    | .validated => "validated"
    | .rejected => "rejected"
    | .unavailable => "unavailable"

inductive ProjectionRole
  | internal
  | customer
  | contractor
  | audit
deriving DecidableEq

/-- What a handler raises: `TransitionRejected` with its code, a `ValueError`
or `TypeError` of a structural contract, or a `KeyError`. -/
inductive Fault
  | rejected (code : Code)
  | structural
  | keyError

/-- `raise TransitionRejected(...)` -/
def rejected (s : String) (h : isCode (py s) = true := by decide) : Fault := .rejected (code s h)

/-! ## Canonical text -/

/-- mirrors 27-41 -/
def forbiddenPayloadTerms : List Str :=
  ["address", "api_key", "credential", "diagnosis", "model", "part", "phone", "price", "prompt",
    "serial", "token", "transcript", "url"].map py

/-- `any(term in lowered for term in _FORBIDDEN_PAYLOAD_TERMS)` -/
def mentionsForbidden (lowered : Str) : Bool :=
  forbiddenPayloadTerms.any fun term => decide (term <:+: lowered)

/-- mirrors 42-45 (`_FORBIDDEN_VALUE_PATTERNS`) -/
def standsAlone (term s : Str) : Bool :=
  let free := fun c : Option CodePoint => c.all fun c => !(isLower c || isDecimal c)
  (List.range (s.length + 1)).any fun i =>
    term.isPrefixOf (s.drop i) && free (s.take i).getLast? && free (s.drop (i + term.length)).head?

mutual

/-- Whether the check returns.
mirrors 126-155 -/
def validateStructuralValue (P : Python) (depth : ℕ) : Value → Bool
  | .none | .bool _ | .number (.int _) => depth ≤ 4
  | .str s => depth ≤ 4 && s.length ≤ 256 && !mentionsForbidden (P.casefold s)
  | .list xs => depth ≤ 4 && xs.length ≤ 16 && validateStructuralItems P (depth + 1) xs
  | .dict kvs => depth ≤ 4 && kvs.length ≤ 32 && validateStructuralEntries P (depth + 1) kvs
  | _ => false

def validateStructuralItems (P : Python) (depth : ℕ) : List Value → Bool
  | [] => true
  | x :: xs => validateStructuralValue P depth x && validateStructuralItems P depth xs

def validateStructuralEntries (P : Python) (depth : ℕ) : List (String × Value) → Bool
  | [] => true
  | (k, v) :: kvs =>
    isPayloadKey (py k) && !mentionsForbidden (P.casefold (py k)) &&
      validateStructuralValue P depth v && validateStructuralEntries P depth kvs

end

def joined : List Str → Str
  | [] => []
  | [s] => s
  | s :: ss => s ++ py "," ++ joined ss

mutual

/-- `json.dumps(value, ensure_ascii=False, sort_keys=True, separators=(",", ":"),
allow_nan=False)`; `none` is its `TypeError` or `ValueError`. -/
def dumps (P : Python) : Value → Option Str
  | .none => some (py "null")
  | .bool true => some (py "true")
  | .bool false => some (py "false")
  | .number (.int z) => some (decimal z)
  | .number (.float d) => some (P.strOf (.number (.float d)))
  | .str s => some (Json.quoted s)
  | .list xs => (dumpsItems P xs).map fun items => py "[" ++ joined items ++ py "]"
  | .dict kvs => (dumpsEntries P kvs).map fun entries =>
      let sorted := entries.insertionSort fun a b => a.1 ≤ b.1
      py "\x7b" ++ joined (sorted.map fun e => Json.quoted (py e.1) ++ py ":" ++ e.2) ++ py "\x7d"
  | .nonFinite _ | .time _ => none

def dumpsItems (P : Python) : List Value → Option (List Str)
  | [] => some []
  | x :: xs => do return (← dumps P x) :: (← dumpsItems P xs)

def dumpsEntries (P : Python) : List (String × Value) → Option (List (String × Str))
  | [] => some []
  | (k, v) :: kvs => do return (k, ← dumps P v) :: (← dumpsEntries P kvs)

end

/-- mirrors 110-123 (`_canonical_json`, `_sha256`) -/
def sha256 (P : Python) (value : Value) : Option Str :=
  ((dumps P value).bind encodeUtf8).map P.sha256

/-! ## Events -/

structure VisualTriageEvent where
  schemaVersion : Str
  caseId : Str
  contractorId : Str
  eventId : Str
  kind : EventKind
  payload : Dict
  canonicalPayloadDigest : Str
  semanticEnvelopeFingerprint : Str
  expectedRevision : ℤ
  sourceKind : EventSource
  eventTime : Aware
  retryStage : Option Str
  retryAttempt : Option ℤ
  evidenceScope : Str

namespace VisualTriageEvent

def schema : Str := py "visual_diagnosis/v1"
def syntheticScope : Str := py "synthetic_offline_only"

/-- mirrors 632-644 -/
def envelope (e : VisualTriageEvent) : Value :=
  .dict
    [("schema_version", .str e.schemaVersion),
      ("case_id", .str e.caseId),
      ("contractor_id", .str e.contractorId),
      ("event_kind", .text e.kind.value),
      ("canonical_payload_digest", .str e.canonicalPayloadDigest),
      ("expected_revision", .int e.expectedRevision),
      ("source_kind", .text e.sourceKind.value),
      ("event_time", .str (isoformat e.eventTime.val)),
      ("retry_stage", (e.retryStage.map Value.str).getD .none),
      ("retry_attempt", (e.retryAttempt.map Value.int).getD .none),
      ("evidence_scope", .str e.evidenceScope)]

/-- Whether the check returns. The time of an event is aware by its type.
mirrors 610-649 -/
def assertIntegrity (P : Python) (e : VisualTriageEvent) : Bool :=
  [e.eventId, e.caseId, e.contractorId].all isOpaqueRef &&
    validateStructuralValue P 0 (.dict e.payload) &&
    e.payload.keys.all (e.kind.payloadKeys.contains ·) &&
    sha256 P (.dict e.payload) == some e.canonicalPayloadDigest &&
    sha256 P e.envelope == some e.semanticEnvelopeFingerprint &&
    e.schemaVersion == schema && e.evidenceScope == syntheticScope

/-- `none` where a value has no canonical text; the validators run later, in
`assertIntegrity`. mirrors 651-693 -/
def build (P : Python) (caseId contractorId eventId : Str) (kind : EventKind) (payload : Dict)
    (expectedRevision : ℤ) (sourceKind : EventSource) (eventTime : Aware)
    (retryStage : Option Str) (retryAttempt : Option ℤ) : Option VisualTriageEvent := do
  let payloadDigest ← sha256 P (.dict payload)
  let unsigned : VisualTriageEvent :=
    { schemaVersion := schema, caseId, contractorId, eventId, kind, payload
      canonicalPayloadDigest := payloadDigest
      semanticEnvelopeFingerprint := []
      expectedRevision, sourceKind, eventTime, retryStage, retryAttempt
      evidenceScope := syntheticScope }
  let fingerprint ← sha256 P unsigned.envelope
  return { unsigned with semanticEnvelopeFingerprint := fingerprint }

end VisualTriageEvent

/-! ## Values of the case -/

/-- mirrors 360-367 -/
structure StateVector where
  case : CaseStatus
  consent : ConsentStatus
  media : MediaStatus
  analysis : AnalysisStatus
  contractorPacket : PacketStatus
  customerDelivery : DeliveryStatus
  deletion : DeletionStatus

/-- mirrors 439-462 -/
structure MediaAsset where
  assetId : OpaqueRef
  role : MediaRole
  mediaType : { s : Str // 1 ≤ s.length ∧ s.length ≤ 32 }
  byteSize : { n : ℤ // 0 ≤ n ∧ n ≤ 50 * 1024 * 1024 }
  durationMs : Option { n : ℤ // 0 ≤ n ∧ n ≤ 120000 }
  width : Option { n : ℤ // 1 ≤ n ∧ n ≤ 20000 }
  height : Option { n : ℤ // 1 ≤ n ∧ n ≤ 20000 }
  digest : Digest
  validation : MediaValidation

/-- mirrors 465-524 -/
structure PendingCustomerAction where
  requestId : OpaqueRef
  kind : ActionKind
  budgetBucket : Code
  status : ActionStatus
  copyRef : Option OpaqueRef
  responseOptionCodes : { codes : List Code // codes.length ≤ 8 }
  responseOptionCode : Option Str
  locale : Locale
  optionality : { s : Str // isCode s = true ∧ s.length ≤ 32 }
  safeRefusalCode : Option Code
  decisionRef : Option OpaqueRef
  evidenceRef : Option OpaqueRef
  issuedAt : Aware
  expiresAt : Option Aware
  resolvedAt : Option Aware

/-- mirrors 527-551 -/
structure Receipt where
  eventId : OpaqueRef
  kind : EventKind
  semanticEnvelopeFingerprint : Digest
  historicalDecisionCode : Code
  resultingRevision : ℕ

def field {α : Type} (p : α → Prop) [DecidablePred p] (a : α) : Except Fault { a : α // p a } :=
  if h : p a then .ok ⟨a, h⟩ else .error .structural

/-- A `str` field of a strict model. -/
def textField (p : Str → Prop) [DecidablePred p] : Value → Except Fault { s : Str // p s }
  | .str s => field p s
  | _ => .error .structural

/-- An `int` field of a strict model; a `bool` is none. -/
def intField (p : ℤ → Prop) [DecidablePred p] : Value → Except Fault { n : ℤ // p n }
  | .number (.int n) => field p n
  | _ => .error .structural

/-- A field that may be `None`. -/
def optionalField {α : Type} (read : Value → Except Fault α) : Value → Except Fault (Option α)
  | .none => .ok none
  | v => (read v).map some

@[simp] theorem field_eq_ok {α : Type} {p : α → Prop} [DecidablePred p] {a : α}
    {b : { a : α // p a }} : field p a = .ok b ↔ b.val = a := by
  unfold field
  split
  · rename_i h
    simp only [Except.ok.injEq, Subtype.ext_iff, eq_comm]
  · rename_i h
    simp only [reduceCtorEq, false_iff]
    intro hb
    exact h (hb ▸ b.2)

/-! ## Projections, decisions and snapshots -/

/-- mirrors 46-55 -/
def projectionReasonCodes : List Str :=
  ["ok", "case_terminal", "customer_action_pending", "deletion_pending", "media_required",
    "analysis_ready", "packet_ready", "verified_deleted"].map py

/-- mirrors 56-61 -/
def projectionNextActions : List Str :=
  ["resolve_customer_action", "upload_initial_symptom_media", "start_analysis",
    "record_packet_delivery"].map py

/-- mirrors 751-776 -/
structure Projection where
  role : ProjectionRole
  state : StateVector
  aggregateRevision : ℕ
  historicalReplay : Bool
  historicalRevision : Option ℕ
  historicalDecisionCode : Option Str
  nextAction : Option Str
  reasonCode : Str
  pendingActionKind : Option ActionKind
  pendingActionStatus : Option ActionStatus
  pendingActionRequestRef : Option Str
  pendingActionLocale : Option Str
  pendingActionCopyRef : Option Str
  pendingActionBudgetBucket : Option Str
  pendingActionOptionality : Option Str
  pendingActionSafeRefusalCode : Option Str
  pendingActionResponseOptionCodes : List Code
  pendingActionExpiresAt : Option Aware

namespace Projection

/-- mirrors 777-785 (`validate_projection_codes`) -/
def validCode (P : Python) (s : Str) : Bool :=
  !forbiddenPayloadTerms.any (standsAlone · (P.casefold s)) && isCode s

/-- The `max_length` of the text fields and the two validators.
mirrors 760-798 -/
def valid (P : Python) (p : Projection) : Bool :=
  p.historicalDecisionCode.all (fun s => s.length ≤ 64 && validCode P s) &&
    p.nextAction.all (fun s => s.length ≤ 64 && validCode P s) &&
    p.reasonCode.length ≤ 64 && validCode P p.reasonCode &&
    p.pendingActionRequestRef.all (·.length ≤ 128) &&
    p.pendingActionLocale.all (·.length ≤ 35) &&
    p.pendingActionCopyRef.all (·.length ≤ 128) &&
    p.pendingActionBudgetBucket.all (·.length ≤ 64) &&
    p.pendingActionOptionality.all (·.length ≤ 32) &&
    p.pendingActionSafeRefusalCode.all (·.length ≤ 64) &&
    p.pendingActionResponseOptionCodes.length ≤ 8 &&
    (p.state.deletion = .notRequested ||
      p.nextAction.isNone &&
        [py "deletion_pending", py "verified_deleted"].contains p.reasonCode) &&
    projectionReasonCodes.contains p.reasonCode &&
    p.nextAction.all (projectionNextActions.contains ·)

def construct (P : Python) (p : Projection) : Except Fault Projection :=
  if p.valid P then .ok p else .error .structural

end Projection

/-- mirrors 801-815 -/
structure Decision where
  accepted : Bool
  replayed : Bool
  decisionCode : Code
  historicalDecisionCode : Option Code
  historicalRevision : Option ℕ
  currentRevision : ℕ
  projection : Option Projection

def ordinaryReceiptCap : ℕ := 64
def controlReceiptCap : ℕ := 6

/-- mirrors 696-721 -/
structure VisualTriageCase where
  caseId : Str
  contractorId : Str
  callSidRef : Option Str
  supportedScenario : Str
  aggregateRevision : ℕ
  stateVector : StateVector
  pendingCustomerAction : Option PendingCustomerAction
  resolvedCustomerActions : List PendingCustomerAction
  questionCount : ℕ
  ratingPlateRequestCount : ℕ
  recaptureCount : ℕ
  mediaAssets : List MediaAsset
  ordinaryReceipts : List Receipt
  controlReceipts : List Receipt
  deletionRetryCount : ℕ
  createdAt : Option Aware
  expiresAt : Option Aware
  completedAt : Option Aware
  deletedAt : Option Aware

namespace VisualTriageCase

/-- `CODE_PATTERN.fullmatch(value.replace(".", ":"))` -/
def isScenario (s : Str) : Bool := isCode (s.map fun c => if c = 46 then 58 else c)

/-- The constraints of the fields and the validators.
mirrors 696-748 (`VisualTriageCase`) -/
def valid (c : VisualTriageCase) : Bool :=
  isOpaqueRef c.caseId && isOpaqueRef c.contractorId && c.callSidRef.all isOpaqueRef &&
    c.supportedScenario.length ≤ 128 && isScenario c.supportedScenario &&
    c.resolvedCustomerActions.length ≤ 4 &&
    c.questionCount ≤ 2 && c.ratingPlateRequestCount ≤ 1 && c.recaptureCount ≤ 1 &&
    c.mediaAssets.length ≤ 4 &&
    c.ordinaryReceipts.length ≤ ordinaryReceiptCap &&
    c.controlReceipts.length ≤ controlReceiptCap &&
    c.deletionRetryCount ≤ 3

def construct (c : VisualTriageCase) : Except Fault VisualTriageCase :=
  if c.valid then .ok c else .error .structural

end VisualTriageCase

end HeyKevin.L8.Triage
