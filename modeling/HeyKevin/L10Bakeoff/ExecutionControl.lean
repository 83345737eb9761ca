import HeyKevin.Core.Entries
import HeyKevin.Core.Machine
import HeyKevin.L1Encoding.Python
/-!
# Execution control in memory

The messages between the control store and the pre-auth store of a bakeoff, and
`InMemoryExecutionControlStore` (app/services/voice_bakeoff_security_contracts.py).
A reservation waits for its acknowledgement, is active, and ends revoked or
expired; expiry is noticed when a call reads the record.

Keys, signatures and SHA-256 are parameters (`Authorities`); what
`secrets` draws is an argument of the call. Constants of a message (its schema
version, its purpose) are left out.

Line numbers without a file are those of app/services/voice_bakeoff_security_contracts.py.
-/
namespace HeyKevin.L10.Control

open HeyKevin.Core L1 L1.Text

abbrev Bytes := List Byte

/-! ## References and digests -/

def isOpaqueChar (c : CodePoint) : Bool :=
  (97 ≤ c.val && c.val < 123) || (65 ≤ c.val && c.val < 91) || (48 ≤ c.val && c.val < 58) ||
    c.val == 46 || c.val == 95 || c.val == 58 || c.val == 45

/-- mirrors 107-115 (`_require_ref`) -/
def isOpaqueRef (s : Str) : Bool :=
  (py "ref_").isPrefixOf s && 4 < s.length && s.length ≤ 200 && s.all isOpaqueChar

/-- mirrors app/services/voice_bakeoff_transactional_control_seam.py:59-60 -/
def isRef (s : Str) : Bool := (py "ref_").isPrefixOf s && 4 < s.length

theorem isRef_of_isOpaqueRef {s : Str} (h : isOpaqueRef s = true) : isRef s = true := by
  simp only [isOpaqueRef, Bool.and_eq_true] at h
  simp only [isRef, Bool.and_eq_true]
  exact h.1.1

abbrev OpaqueRef := {s : Str // isOpaqueRef s = true}

abbrev Digest := {s : Str // Python.isDigest s = true}

instance instLawfulBEqDigest : LawfulBEq Digest := inferInstance

/-! ## Messages -/

/-- mirrors 542-596 -/
structure VerifiedApproval where
  approvalIdDigest : Digest
  nonceDigest : Digest
  bindingDigest : Digest
  epoch : ℤ
  issuedAtMs : ℤ
  expiresAtMs : ℤ
  /-- The other fields, which only the signature covers, and the signature. -/
  evidence : Bytes
  epoch_pos : 1 ≤ epoch
  window : 0 ≤ issuedAtMs ∧ issuedAtMs < expiresAtMs

/-- mirrors 887-926 -/
structure AdmissionReceipt where
  controlRef : OpaqueRef
  controlVersion : ℤ
  bindingDigest : Digest
  approvalIdDigest : Digest
  nonceDigest : Digest
  activationDeadlineMs : ℤ
  expiresAtMs : ℤ
deriving DecidableEq

/-- mirrors 930-973 -/
structure PreAuthActivationGrant where
  issuerRef : OpaqueRef
  audienceRef : OpaqueRef
  controlRef : OpaqueRef
  controlVersion : ℤ
  bindingDigest : Digest
  receiptDigest : Digest
  grantIdDigest : Digest
  issuedAtMs : ℤ
  expiresAtMs : ℤ
  proof : Bytes
deriving DecidableEq

/-- mirrors 977-1020
(`PreAuthActivationAcknowledgement`) -/
structure PreAuthActivationAcknowledgement where
  audienceRef : OpaqueRef
  controlRef : OpaqueRef
  controlVersion : ℤ
  preauthRef : OpaqueRef
  preauthVersion : ℤ
  bindingDigest : Digest
  receiptDigest : Digest
  grantIdDigest : Digest
  tokenDigest : Digest
  acknowledgedAtMs : ℤ
  proof : Bytes
deriving DecidableEq

/-- mirrors 1024-1064;
its control reference comes from a record -/
structure ControlActivationProof where
  audienceRef : OpaqueRef
  controlRef : Str
  controlVersion : ℤ
  preauthRef : OpaqueRef
  preauthVersion : ℤ
  bindingDigest : Digest
  grantIdDigest : Digest
  tokenDigest : Digest
  activatedAtMs : ℤ
  proof : Bytes
deriving DecidableEq

/-- mirrors 1265-1283 -/
structure AdmissionBundle where
  receipt : AdmissionReceipt
  grant : PreAuthActivationGrant
deriving DecidableEq

inductive ControlState
  | pendingPreauth
  | active
  | revoked
  | expired
deriving DecidableEq

inductive RevocationReason
  | activationFailed
  | controlFinalizationFailed
  | controlConfirmationFailed
  | teardown
deriving DecidableEq

structure Authorities where
  /-- `ApprovalProvenanceVerifier.verify` -/
  verifyApproval : VerifiedApproval → Bool
  /-- The signature of `ControlGrantSigner` on a grant without one. -/
  signGrant : PreAuthActivationGrant → Bytes
  /-- `PreAuthAcknowledgementVerifier.verify` -/
  verifyAcknowledgement : PreAuthActivationAcknowledgement → Bool
  /-- The signature of `ControlActivationSigner` on a proof without one. -/
  signActivation : ControlActivationProof → Bytes
  /-- `receipt.receipt_digest` -/
  receiptDigest : AdmissionReceipt → Digest
  /-- `_acknowledgement_digest` -/
  acknowledgementDigest : PreAuthActivationAcknowledgement → Digest
  issuerRef : OpaqueRef
  preauthAudienceRef : OpaqueRef

/-- What `secrets` draws for one admission. -/
structure Draw where
  controlRef : OpaqueRef
  grantIdDigest : Digest

/-! ## Records -/

/-- `_ControlRecord`, and `_ControlReservation` of the transactional store, whose
`control_version` is `version` here. -/
structure ControlRecord where
  controlRef : Str
  version : ℤ
  state : ControlState
  bindingDigest : Digest
  approvalIdDigest : Digest
  nonceDigest : Digest
  epoch : ℤ
  activationDeadlineMs : ℤ
  expiresAtMs : ℤ
  grantIdDigest : Digest
  receiptDigest : Digest
  acknowledgementDigest : Option Digest
  preauthRef : Option Str
  tokenDigest : Option Digest
  activatedAtMs : Option ℤ
  revocationReason : Option RevocationReason
deriving DecidableEq

namespace ControlRecord

/-- mirrors 1646-1656 (`_expire`) and
app/services/voice_bakeoff_transactional_control_seam.py:468-483 (`expired`) -/
def expired (r : ControlRecord) (nowMs : ℤ) : ControlRecord :=
  if r.state = .pendingPreauth ∧ (r.activationDeadlineMs ≤ nowMs ∨ r.expiresAtMs ≤ nowMs) then
    { r with version := r.version + 1, state := .expired }
  else if r.state = .active ∧ r.expiresAtMs ≤ nowMs then
    { r with version := r.version + 1, state := .expired }
  else r

/-- `state in {PENDING_PREAUTH, ACTIVE}` -/
def isLive (r : ControlRecord) : Bool := r.state = .pendingPreauth || r.state = .active

/-- The reservation that `finalize` writes. -/
def activate (r : ControlRecord) (ack : PreAuthActivationAcknowledgement) (digest : Digest)
    (nowMs : ℤ) : ControlRecord :=
  { r with
    state := .active
    version := r.version + 1
    preauthRef := some ack.preauthRef.val
    tokenDigest := some ack.tokenDigest
    acknowledgementDigest := some digest
    activatedAtMs := some nowMs }

/-- The reservation that `revoke` writes. -/
def revoke (r : ControlRecord) (reason : RevocationReason) : ControlRecord :=
  { r with state := .revoked, version := r.version + 1, revocationReason := some reason }

/-- The check of `authorizes_session`. -/
def authorizes (r : ControlRecord) (preauthRef bindingDigest tokenDigest : Str) : Bool :=
  r.state = .active && r.preauthRef = some preauthRef && r.bindingDigest.val = bindingDigest &&
    r.tokenDigest.map Subtype.val = some tokenDigest

@[simp] theorem expired_controlRef (r : ControlRecord) (t : ℤ) :
    (r.expired t).controlRef = r.controlRef := by
  unfold expired
  split
  · rfl
  split <;> rfl
@[simp] theorem expired_bindingDigest (r : ControlRecord) (t : ℤ) :
    (r.expired t).bindingDigest = r.bindingDigest := by
  unfold expired
  split
  · rfl
  split <;> rfl
@[simp] theorem expired_epoch (r : ControlRecord) (t : ℤ) : (r.expired t).epoch = r.epoch := by
  unfold expired
  split
  · rfl
  split <;> rfl

theorem expired_cases (r : ControlRecord) (t : ℤ) : r.expired t = r ∨
    r.isLive = true ∧ r.expired t = { r with version := r.version + 1, state := .expired } := by
  unfold expired isLive
  split
  · rename_i h
    exact .inr ⟨by simp [h.1], rfl⟩
  split
  · rename_i h
    exact .inr ⟨by simp [h.1], rfl⟩
  · exact .inl rfl

theorem isLive_of_expired {r : ControlRecord} {t : ℤ} (h : (r.expired t).isLive = true) :
    r.isLive = true := by
  rcases r.expired_cases t with he | ⟨hlive, -⟩
  · rwa [he] at h
  · exact hlive

theorem expired_of_not_isLive {r : ControlRecord} (h : r.isLive = false) (t : ℤ) :
    r.expired t = r := by
  rcases r.expired_cases t with he | ⟨hlive, -⟩
  · exact he
  · rw [h] at hlive
    cases hlive

theorem expired_expired (r : ControlRecord) {t u : ℤ} (h : t ≤ u) :
    (r.expired t).expired u = r.expired u := by
  unfold expired
  split
  · rename_i hp
    have hu : r.activationDeadlineMs ≤ u ∨ r.expiresAtMs ≤ u := by omega
    simp [hp.1, hu]
  split
  · rename_i ha
    have hu : r.expiresAtMs ≤ u := by omega
    simp [ha.1, hu]
  · rfl

end ControlRecord

/-! ## One admission -/

section

variable (A : Authorities)

/-- The checks of `admit` before it reads the store. -/
def mayAdmit (approval : VerifiedApproval) (nowMs activationTtlMs : ℤ) : Bool :=
  A.verifyApproval approval && 1 ≤ activationTtlMs && approval.issuedAtMs ≤ nowMs &&
    nowMs < approval.expiresAtMs

def newReceipt (approval : VerifiedApproval) (nowMs activationTtlMs : ℤ) (draw : Draw) :
    AdmissionReceipt where
  controlRef := draw.controlRef
  controlVersion := 1
  bindingDigest := approval.bindingDigest
  approvalIdDigest := approval.approvalIdDigest
  nonceDigest := approval.nonceDigest
  activationDeadlineMs := min (nowMs + activationTtlMs) approval.expiresAtMs
  expiresAtMs := approval.expiresAtMs

def newRecord (approval : VerifiedApproval) (nowMs activationTtlMs : ℤ) (draw : Draw) :
    ControlRecord where
  controlRef := draw.controlRef.val
  version := 1
  state := .pendingPreauth
  bindingDigest := approval.bindingDigest
  approvalIdDigest := approval.approvalIdDigest
  nonceDigest := approval.nonceDigest
  epoch := approval.epoch
  activationDeadlineMs := min (nowMs + activationTtlMs) approval.expiresAtMs
  expiresAtMs := approval.expiresAtMs
  grantIdDigest := draw.grantIdDigest
  receiptDigest := A.receiptDigest (newReceipt approval nowMs activationTtlMs draw)
  acknowledgementDigest := none
  preauthRef := none
  tokenDigest := none
  activatedAtMs := none
  revocationReason := none

/-- mirrors 1085-1118 (`ControlGrantSigner.issue`) -/
def newGrant (approval : VerifiedApproval) (nowMs activationTtlMs : ℤ) (draw : Draw) :
    PreAuthActivationGrant :=
  let grant : PreAuthActivationGrant :=
    { issuerRef := A.issuerRef
      audienceRef := A.preauthAudienceRef
      controlRef := draw.controlRef
      controlVersion := 1
      bindingDigest := approval.bindingDigest
      receiptDigest := A.receiptDigest (newReceipt approval nowMs activationTtlMs draw)
      grantIdDigest := draw.grantIdDigest
      issuedAtMs := nowMs
      expiresAtMs := min (nowMs + activationTtlMs) approval.expiresAtMs
      proof := List.replicate 64 0 }
  { grant with proof := A.signGrant grant }

def newBundle (approval : VerifiedApproval) (nowMs activationTtlMs : ℤ) (draw : Draw) :
    AdmissionBundle :=
  ⟨newReceipt approval nowMs activationTtlMs draw, newGrant A approval nowMs activationTtlMs draw⟩

/-! ## One acknowledgement -/

/-- mirrors 1575-1594 -/
def activationProof (r : ControlRecord) (ack : PreAuthActivationAcknowledgement)
    (activatedAtMs : ℤ) : ControlActivationProof :=
  let proof : ControlActivationProof :=
    { audienceRef := A.preauthAudienceRef
      controlRef := r.controlRef
      controlVersion := r.version
      preauthRef := ack.preauthRef
      preauthVersion := ack.preauthVersion
      bindingDigest := r.bindingDigest
      grantIdDigest := r.grantIdDigest
      tokenDigest := ack.tokenDigest
      activatedAtMs := activatedAtMs
      proof := List.replicate 64 0 }
  { proof with proof := A.signActivation proof }

/-- mirrors 1596-1612
(`_acknowledgement_matches`) -/
def acknowledgementMatches (r : ControlRecord) (ack : PreAuthActivationAcknowledgement) : Bool :=
  ack.audienceRef = A.issuerRef && ack.controlRef.val = r.controlRef &&
    ack.controlVersion = r.version - 1 && some ack.preauthRef.val = r.preauthRef &&
    ack.bindingDigest = r.bindingDigest && ack.receiptDigest = r.receiptDigest &&
    ack.grantIdDigest = r.grantIdDigest && some ack.tokenDigest = r.tokenDigest &&
    some (A.acknowledgementDigest ack) = r.acknowledgementDigest

def acknowledges (r : ControlRecord) (ack : PreAuthActivationAcknowledgement) (nowMs : ℤ) : Bool :=
  r.state = .pendingPreauth && ack.audienceRef = A.issuerRef && ack.controlVersion = r.version &&
    ack.bindingDigest = r.bindingDigest && ack.receiptDigest = r.receiptDigest &&
    ack.grantIdDigest = r.grantIdDigest && ack.acknowledgedAtMs ≤ nowMs &&
    ack.acknowledgedAtMs < r.activationDeadlineMs

/-- What `finalize` makes of an unexpired reservation: the reservation it leaves, and the proof.
An active one without an activation time raises, and no store holds one. -/
def finalizeRecord (r : ControlRecord) (ack : PreAuthActivationAcknowledgement) (nowMs : ℤ) :
    ControlRecord × Option ControlActivationProof :=
  if r.state = .active then
    (r, if acknowledgementMatches A r ack then r.activatedAtMs.map (activationProof A r ack)
      else none)
  else if acknowledges A r ack nowMs then
    let active := r.activate ack (A.acknowledgementDigest ack) nowMs
    (active, some (activationProof A active ack nowMs))
  else (r, none)

/-! ## The store in memory -/

structure MemoryStore where
  consumedNonces : List Digest
  consumedApprovalIds : List Digest
  bindingEpochs : Entries (Digest × ℤ) Str
  records : Entries Str ControlRecord

def MemoryStore.empty : MemoryStore := ⟨[], [], [], []⟩

def MemoryStore.setRecord (s : MemoryStore) (r : ControlRecord) : MemoryStore :=
  { s with records := s.records.set r.controlRef r }

/-- The rest of `admit`, once no live reservation holds the binding epoch. -/
def MemoryStore.admitNew (s : MemoryStore) (approval : VerifiedApproval)
    (nowMs activationTtlMs : ℤ) (authorized : Bool) (draw : Draw) :
    MemoryStore × Option AdmissionBundle :=
  if approval.nonceDigest ∈ s.consumedNonces ∨
      approval.approvalIdDigest ∈ s.consumedApprovalIds then (s, none)
  else if !authorized then (s, none)
  else
    ({ consumedNonces := approval.nonceDigest :: s.consumedNonces
       consumedApprovalIds := approval.approvalIdDigest :: s.consumedApprovalIds
       bindingEpochs :=
         s.bindingEpochs.set (approval.bindingDigest, approval.epoch) draw.controlRef.val
       records := s.records.set draw.controlRef.val
         (newRecord A approval nowMs activationTtlMs draw) },
      some (newBundle A approval nowMs activationTtlMs draw))

/-- `authorized` is the answer of the commit authorizer.
mirrors 1409-1494 (`admit`) -/
def MemoryStore.admitApproval (s : MemoryStore) (approval : VerifiedApproval)
    (nowMs activationTtlMs : ℤ) (authorized : Bool) (draw : Draw) :
    MemoryStore × Option AdmissionBundle :=
  if !mayAdmit A approval nowMs activationTtlMs then (s, none)
  else
    match (s.bindingEpochs.find? (approval.bindingDigest, approval.epoch)).bind s.records.find? with
    | some prior =>
      let prior := prior.expired nowMs
      let s := s.setRecord prior
      if prior.isLive then (s, none)
      else s.admitNew A approval nowMs activationTtlMs authorized draw
    | none => s.admitNew A approval nowMs activationTtlMs authorized draw

/-- mirrors 1536-1573 -/
def MemoryStore.finalize (s : MemoryStore) (ack : PreAuthActivationAcknowledgement) (nowMs : ℤ) :
    MemoryStore × Option ControlActivationProof :=
  if !A.verifyAcknowledgement ack then (s, none)
  else
    match s.records.find? ack.controlRef.val with
    | none => (s, none)
    | some r =>
      let (r, proof) := finalizeRecord A (r.expired nowMs) ack nowMs
      (s.setRecord r, proof)

/-- mirrors 1515-1534 -/
def MemoryStore.authorizesSession (s : MemoryStore)
    (controlRef preauthRef bindingDigest tokenDigest : Str) (nowMs : ℤ) : MemoryStore × Bool :=
  match s.records.find? controlRef with
  | none => (s, false)
  | some r =>
    let r := r.expired nowMs
    (s.setRecord r, r.authorizes preauthRef bindingDigest tokenDigest)

/-- mirrors 1624-1644 -/
def MemoryStore.revoke (s : MemoryStore) (controlRef : Str) (reason : RevocationReason)
    (nowMs : ℤ) : MemoryStore × Bool :=
  match s.records.find? controlRef with
  | none => (s, false)
  | some r =>
    let r := r.expired nowMs
    if r.state = .revoked then (s.setRecord r, true)
    else (s.setRecord (r.revoke reason), true)

/-! ## Calls -/

inductive ControlCall
  | admitApproval (approval : VerifiedApproval) (nowMs activationTtlMs : ℤ) (draw : Draw)
  | finalize (ack : PreAuthActivationAcknowledgement) (nowMs : ℤ)
  | authorizesSession (controlRef preauthRef bindingDigest tokenDigest : Str) (nowMs : ℤ)
  | revoke (controlRef : Str) (reason : RevocationReason) (nowMs : ℤ)

inductive Answer
  | bundle (b : Option AdmissionBundle)
  | proof (p : Option ControlActivationProof)
  | bool (b : Bool)
deriving DecidableEq

namespace ControlCall

def nowMs : ControlCall → ℤ
  | admitApproval _ nowMs _ _ => nowMs
  | finalize _ nowMs => nowMs
  | authorizesSession _ _ _ _ nowMs => nowMs
  | revoke _ _ nowMs => nowMs

def refusal : ControlCall → Answer
  | admitApproval .. => .bundle none
  | finalize .. => .proof none
  | authorizesSession .. => .bool false
  | revoke .. => .bool false

def drawnRef : ControlCall → Option Str
  | admitApproval _ _ _ draw => some draw.controlRef.val
  | _ => none

def target : ControlCall → Option Str
  | admitApproval .. => none
  | finalize ack _ => if A.verifyAcknowledgement ack then some ack.controlRef.val else none
  | authorizesSession controlRef _ _ _ _ => some controlRef
  | revoke controlRef _ _ => some controlRef

def onRecord (call : ControlCall) (r : ControlRecord) : ControlRecord × Answer :=
  match call with
  | admitApproval .. => (r, .bundle none)
  | finalize ack nowMs =>
    ((finalizeRecord A r ack nowMs).1, .proof (finalizeRecord A r ack nowMs).2)
  | authorizesSession _ preauthRef bindingDigest tokenDigest _ =>
    (r, .bool (r.authorizes preauthRef bindingDigest tokenDigest))
  | revoke _ reason _ => (if r.state = .revoked then r else r.revoke reason, .bool true)

end ControlCall

def memory : Machine MemoryStore ControlCall Answer := fun s call =>
  match call with
  | .admitApproval approval nowMs ttlMs draw =>
    let (s, b) := s.admitApproval A approval nowMs ttlMs true draw
    (s, .bundle b)
  | .finalize ack nowMs =>
    let (s, p) := s.finalize A ack nowMs
    (s, .proof p)
  | .authorizesSession controlRef preauthRef bindingDigest tokenDigest nowMs =>
    let (s, b) := s.authorizesSession controlRef preauthRef bindingDigest tokenDigest nowMs
    (s, .bool b)
  | .revoke controlRef reason nowMs =>
    let (s, b) := s.revoke controlRef reason nowMs
    (s, .bool b)

theorem memory_cases (s : MemoryStore) (call : ControlCall) :
    (∃ approval nowMs ttlMs draw, call = .admitApproval approval nowMs ttlMs draw) ∨
    (call.target A).bind s.records.find? = none ∧ memory A s call = (s, call.refusal) ∨
    ∃ ref r, call.target A = some ref ∧ s.records.find? ref = some r ∧
      memory A s call = (s.setRecord (call.onRecord A (r.expired call.nowMs)).1,
        (call.onRecord A (r.expired call.nowMs)).2) := by
  cases call with
  | admitApproval approval nowMs ttlMs draw => exact .inl ⟨_, _, _, _, rfl⟩
  | finalize ack nowMs =>
    right
    simp only [memory, MemoryStore.finalize, ControlCall.target]
    by_cases hv : A.verifyAcknowledgement ack = true
    · cases hr : s.records.find? ack.controlRef.val with
      | none => exact .inl ⟨by simp [hv, hr], by simp [hv, ControlCall.refusal]⟩
      | some r =>
        refine .inr ⟨_, r, by simp [hv], hr, ?_⟩
        simp [hv, ControlCall.onRecord, ControlCall.nowMs]
    · exact .inl ⟨by simp [hv], by simp [hv, ControlCall.refusal]⟩
  | authorizesSession controlRef preauthRef bindingDigest tokenDigest nowMs =>
    right
    simp only [memory, MemoryStore.authorizesSession, ControlCall.target]
    cases hr : s.records.find? controlRef with
    | none => exact .inl ⟨by simp [hr], rfl⟩
    | some r => exact .inr ⟨_, r, rfl, hr, rfl⟩
  | revoke controlRef reason nowMs =>
    right
    simp only [memory, MemoryStore.revoke, ControlCall.target]
    cases hr : s.records.find? controlRef with
    | none => exact .inl ⟨by simp [hr], rfl⟩
    | some r =>
      refine .inr ⟨_, r, rfl, hr, ?_⟩
      by_cases hrev : (r.expired nowMs).state = .revoked <;>
        simp [ControlCall.onRecord, ControlCall.nowMs, hrev]

end

end HeyKevin.L10.Control
