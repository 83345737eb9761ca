import HeyKevin.L8Triage.StateMachine
/-!
# What an accepted event does

`Did e agg agg'` lists, one constructor for each way an event is accepted,
what its handler found and what it wrote. Everything proved about runs goes
through it; no handler is unfolded twice.

* `dispatch_reports`: a handler that returns did one of these, and its decision
  code is the name of the event.
* `screen_eq_none`, `perform_eq_ok`, `apply_stepped`: the same for `screen`,
  for the handler with its receipt, and for a step of the machine.
-/
namespace HeyKevin.L8.Triage

open HeyKevin.Core L1 L1.Text L1.Datetime

/-! ## Guards that passed -/

namespace Aggregate

/-- A case that events can still move: active, with no deletion requested. -/
def Open (agg : Aggregate) : Prop :=
  agg.state.deletion = .notRequested ∧ agg.state.case = .active

/-- `t` is not before the creation of the case. -/
def CreatedBy (agg : Aggregate) (t : Aware) : Prop :=
  ∃ created, agg.createdAt = some created ∧ created.instant ≤ t.instant

/-- `t` is not before any recorded issue or resolution. -/
def ActiveBy (agg : Aggregate) (t : Aware) : Prop :=
  (∀ a ∈ agg.pending, a.issuedAt.instant ≤ t.instant) ∧ agg.ResolvedBy t

variable {agg : Aggregate}

@[simp] theorem attempt_eq_ok {α : Type} {x : Except Fault α} {a : α} :
    agg.attempt x = .ok a ↔ x = .ok a := mapError_eq_ok

@[simp] theorem requireCase_eq_ok {u : Unit} :
    agg.requireCase = .ok u ↔ agg.caseId.isSome = true := ensure_eq_ok

@[simp] theorem requireNotDeleting_eq_ok {u : Unit} :
    agg.requireNotDeleting = .ok u ↔ agg.state.deletion = .notRequested := ensure_eq_ok

@[simp] theorem requireNoPending_eq_ok {u : Unit} :
    agg.requireNoPending = .ok u ↔ agg.pending = none := ensure_eq_ok

@[simp] theorem requireOpen_eq_ok {u : Unit} :
    agg.requireOpen = .ok u ↔ agg.caseId.isSome = true ∧ agg.Open := by
  simp [requireOpen, requireActive, Open]

@[simp] theorem requireNotBeforeCreated_eq_ok {t : Aware} {fault : Fault} {u : Unit} :
    agg.requireNotBeforeCreated t fault = .ok u ↔ agg.CreatedBy t := by
  simp [requireNotBeforeCreated, CreatedBy]

@[simp] theorem rejectIfPredatesRecordedActivity_eq_ok {t : Aware} {u : Unit} :
    agg.rejectIfPredatesRecordedActivity t = .ok u ↔ agg.ActiveBy t := by
  simp [rejectIfPredatesRecordedActivity, ActiveBy]

theorem matchingAsset_eq_ok {payload : Dict} {asset : MediaAsset}
    (h : agg.matchingAsset payload = .ok asset) :
    ∃ assetId, Entries.find? agg.mediaAssets assetId = some asset := by
  simp only [matchingAsset, bind_eq_ok, require_eq_ok] at h
  obtain ⟨assetId, -, h⟩ := h
  exact ⟨assetId, h⟩

end Aggregate

theorem actionFromPayload_eq_ok {P : Python} {agg : Aggregate} {payload : Dict} {kind : ActionKind}
    {t : Aware} {action : PendingCustomerAction}
    (h : actionFromPayload P agg payload kind t = .ok action) :
    agg.CreatedBy t ∧ agg.ResolvedBy t ∧ action.kind = kind ∧ action.status = .issued ∧
      action.issuedAt = t ∧ action.resolvedAt = none := by
  simp only [actionFromPayload, bind_eq_ok, exists_unit, Aggregate.requireNotBeforeCreated_eq_ok,
    ensure_eq_ok, pure_eq_ok, Except.ok.injEq] at h
  obtain ⟨hcreated, hresolved, h⟩ := h
  -- the fields of the payload, of which the conclusion says nothing
  iterate 14 obtain ⟨_, -, h⟩ := h
  cases h
  exact ⟨hcreated, hresolved, rfl, rfl, rfl, rfl⟩

theorem assetFromPayload_eq_ok {P : Python} {payload : Dict} {role : MediaRole}
    {asset : MediaAsset} (h : assetFromPayload P payload role = .ok asset) :
    text payload "asset_id" = .ok asset.assetId.val ∧ asset.role = role ∧
      asset.validation = .pending := by
  simp only [assetFromPayload, bind_eq_ok, exists_unit, ensure_eq_ok, pure_eq_ok, field_eq_ok,
    Except.ok.injEq] at h
  obtain ⟨_, -, -, assetId, hid, _, -, ref, href, h⟩ := h
  iterate 6 obtain ⟨_, -, h⟩ := h
  cases h
  exact ⟨href ▸ hid, rfl, rfl⟩

theorem roleForAction_eq_ok {kind : ActionKind} {role : MediaRole}
    (h : roleForAction kind = .ok role) :
    kind = .ratingPlate ∧ role = .ratingPlate ∨
      kind = .targetedRecapture ∧ role = .targetedRecapture := by
  cases kind <;> cases h <;> simp

@[simp] theorem checkActionWindow_eq_ok {action : PendingCustomerAction} {t : Aware} {u : Unit} :
    checkActionWindow action t = .ok u ↔ action.issuedAt.instant ≤ t.instant ∧
      ∀ x ∈ action.expiresAt, t.instant < x.instant := by
  simp [checkActionWindow]

theorem retryAttempt_eq_ok {stage : String} {e : VisualTriageEvent} {count n : ℕ} {fault : Fault}
    (h : retryAttempt stage e count fault = .ok n) : n = count + 1 ∧ n ≤ 3 := by
  simp only [retryAttempt, bind_eq_ok, exists_unit] at h
  obtain ⟨-, v, -, h⟩ := h
  split at h
  · simp only [bind_eq_ok, exists_unit, ensure_eq_ok, pure_eq_ok, Except.ok.injEq] at h
    obtain ⟨⟨-, rfl, hle⟩, rfl⟩ := h
    omega
  · cases h

/-! ## Ways to be accepted -/

/-- What became of the assets when a media action was resolved. -/
inductive Settled (agg : Aggregate) (action : PendingCustomerAction) (role : MediaRole)
    (status : ActionStatus) : Entries Str MediaAsset → Prop
  | fulfilled (assetId : Str) (asset : MediaAsset) (hstatus : status = .fulfilled)
      (hsubmitted : action.status = .submitted)
      (hfind : Entries.find? agg.mediaAssets assetId = some asset) (hrole : asset.role = role)
      (hvalidated : asset.validation = .validated) : Settled agg action role status agg.mediaAssets
  | untouched (hstatus : status ≠ .fulfilled) (hissued : action.status = .issued) :
      Settled agg action role status agg.mediaAssets
  | judged (assetId : Str) (asset : MediaAsset) (hstatus : status ≠ .fulfilled)
      (hsubmitted : action.status = .submitted)
      (hfind : Entries.find? agg.mediaAssets assetId = some asset) (hrole : asset.role = role)
      (hfinal : asset.validation ≠ .pending) : Settled agg action role status agg.mediaAssets
  | givenUp (assetId : Str) (asset : MediaAsset) (hstatus : Aborts status)
      (hfind : Entries.find? agg.mediaAssets assetId = some asset) (hrole : asset.role = role)
      (hpending : action.status = .submitted ∧ asset.validation = .pending ∨
        action.status = .uploading) :
      Settled agg action role status (agg.withValidation asset .unavailable)

theorem settledAssets_eq_ok {agg : Aggregate} {action : PendingCustomerAction} {role : MediaRole}
    {status : ActionStatus} {payload : Dict} {assets : Entries Str MediaAsset}
    (h : settledAssets agg action role status payload = .ok assets) :
    Settled agg action role status assets := by
  unfold settledAssets at h
  split at h
  · rename_i hstatus
    simp only [bind_eq_ok, exists_unit, ensure_eq_ok, pure_eq_ok, Except.ok.injEq] at h
    obtain ⟨hsub, asset, hasset, _, -, -, ⟨hrole, hval⟩, rfl⟩ := h
    obtain ⟨assetId, hfind⟩ := Aggregate.matchingAsset_eq_ok hasset
    exact .fulfilled assetId asset hstatus hsub hfind hrole hval
  · rename_i hstatus
    split at h
    · rename_i hissued
      cases h
      exact .untouched hstatus hissued
    · split at h
      · rename_i hsub
        simp only [bind_eq_ok, exists_unit, ensure_eq_ok] at h
        obtain ⟨asset, hasset, hrole, h⟩ := h
        obtain ⟨assetId, hfind⟩ := Aggregate.matchingAsset_eq_ok hasset
        split at h
        · rename_i hab
          cases h
          exact .givenUp assetId asset hab.1 hfind hrole (.inl ⟨hsub, hab.2⟩)
        · simp only [bind_eq_ok, exists_unit, ensure_eq_ok, pure_eq_ok, Except.ok.injEq] at h
          obtain ⟨validation, -, ⟨hne, heq⟩, rfl⟩ := h
          exact .judged assetId asset hstatus hsub hfind hrole (heq ▸ hne)
      · split at h
        · rename_i hab
          simp only [bind_eq_ok, exists_unit, ensure_eq_ok, pure_eq_ok, Except.ok.injEq] at h
          obtain ⟨asset, hasset, hrole, rfl⟩ := h
          obtain ⟨assetId, hfind⟩ := Aggregate.matchingAsset_eq_ok hasset
          exact .givenUp assetId asset hab.1 hfind hrole (.inr hab.2)
        · cases h

/-- How an event can be accepted: what its handler found in the aggregate, and
the aggregate it left. -/
inductive Did (e : VisualTriageEvent) (agg : Aggregate) : Aggregate → Prop
  | created (scenario : Str) (sourceRef : Option Str) (hkind : e.kind = .caseCreated)
      (hnone : agg.caseId = none) (hscenario : VisualTriageCase.isScenario scenario = true)
      (href : ∀ r ∈ sourceRef, isOpaqueRef r = true) :
      Did e agg { agg with
        caseId := some e.caseId
        contractorId := some e.contractorId
        callSidRef := sourceRef
        supportedScenario := scenario
        createdAt := some e.eventTime }
  | asked (hkind : e.kind = .consentRequested) (hcase : agg.state.case = .created)
      (hconsent : agg.state.consent = .notRequested) :
      Did e agg { agg with state := { agg.state with consent := .awaitingDecision } }
  | granted (hkind : e.kind = .consentGranted) (hdeletion : agg.state.deletion = .notRequested)
      (hcase : agg.state.case = .created) (hconsent : agg.state.consent = .awaitingDecision) :
      Did e agg { agg with state :=
        { agg.state with case := .active, consent := .granted, media := .awaitingRequired } }
  | declined (hkind : e.kind = .consentDeclined) (hdeletion : agg.state.deletion = .notRequested)
      (hcase : agg.state.case = .created) (hcreated : agg.CreatedBy e.eventTime) :
      Did e agg { agg with
        state := { agg.state with case := .cancelled, consent := .declined }
        pending := none
        completedAt := some e.eventTime }
  | withdrawn (hkind : e.kind = .consentWithdrawn) (hopen : agg.Open)
      (hcreated : agg.CreatedBy e.eventTime) (hactive : agg.ActiveBy e.eventTime) :
      Did e agg { agg.finalized with
        state := { agg.finalized.state with case := .cancelled, consent := .withdrawn }
        completedAt := some e.eventTime }
  | plateIssued (action : PendingCustomerAction) (hkind : e.kind = .mediaActionIssued)
      (hopen : agg.Open) (hpending : agg.pending = none) (hdue : PlateDue agg)
      (hnothing : agg.NothingPrepared) (hcreated : agg.CreatedBy e.eventTime)
      (hresolved : agg.ResolvedBy e.eventTime) (haction : action.kind = .ratingPlate)
      (hissued : action.status = .issued) (htime : action.issuedAt = e.eventTime)
      (hunresolved : action.resolvedAt = none) :
      Did e agg ({ agg with ratingPlateCount := agg.ratingPlateCount + 1 }.awaiting action)
  | recaptureIssued (action : PendingCustomerAction) (hkind : e.kind = .mediaActionIssued)
      (hopen : agg.Open) (hpending : agg.pending = none) (hcount : agg.recaptureCount < 1)
      (hmedia : agg.state.media = .rejected) (hnothing : agg.NothingPrepared)
      (hcreated : agg.CreatedBy e.eventTime) (hresolved : agg.ResolvedBy e.eventTime)
      (haction : action.kind = .targetedRecapture) (hissued : action.status = .issued)
      (htime : action.issuedAt = e.eventTime) (hunresolved : action.resolvedAt = none) :
      Did e agg ({ agg with recaptureCount := agg.recaptureCount + 1 }.awaiting action)
  | questionIssued (action : PendingCustomerAction) (hkind : e.kind = .diagnosticQuestionIssued)
      (hopen : agg.Open) (hpending : agg.pending = none) (hconcluded : agg.Concluded)
      (hnothing : agg.NothingPrepared) (hcount : agg.questionCount < 2)
      (hcreated : agg.CreatedBy e.eventTime) (hresolved : agg.ResolvedBy e.eventTime)
      (haction : action.kind = .diagnosticQuestion) (hissued : action.status = .issued)
      (htime : action.issuedAt = e.eventTime) (hunresolved : action.resolvedAt = none) :
      Did e agg ({ agg with questionCount := agg.questionCount + 1 }.awaiting action)
  | questionResolved (action resolved : PendingCustomerAction) (analysis : AnalysisStatus)
      (hkind : e.kind = .customerActionResolved) (hopen : agg.Open)
      (hpending : agg.pending = some action) (haction : action.kind = .diagnosticQuestion)
      (htime : action.issuedAt.instant ≤ e.eventTime.instant)
      (hissuedAt : resolved.issuedAt = action.issuedAt)
      (hresolvedAt : resolved.resolvedAt = some e.eventTime)
      (hanalysis : analysis = .ready ∧ agg.hasValidatedSymptomEvidence = true ∨
        analysis = .abstained) :
      Did e agg { agg.resolve resolved with state := { agg.state with analysis } }
  | videoStarted (asset : MediaAsset) (hkind : e.kind = .uploadStarted) (hopen : agg.Open)
      (hpending : agg.pending = none) (hmedia : agg.state.media = .awaitingRequired)
      (hfresh : Entries.find? agg.mediaAssets asset.assetId.val = none)
      (hrole : asset.role = .symptomVideo) (hvalidation : asset.validation = .pending) :
      Did e agg { agg with
        mediaAssets := Entries.set agg.mediaAssets asset.assetId.val asset
        state := { agg.state with media := .uploadPending } }
  | uploadStarted (action : PendingCustomerAction) (asset : MediaAsset)
      (hkind : e.kind = .uploadStarted) (hopen : agg.Open) (hpending : agg.pending = some action)
      (hissued : action.status = .issued)
      (hfresh : Entries.find? agg.mediaAssets asset.assetId.val = none)
      (hrole : roleForAction action.kind = .ok asset.role)
      (hvalidation : asset.validation = .pending) :
      Did e agg { agg with
        mediaAssets := Entries.set agg.mediaAssets asset.assetId.val asset
        pending := some { action with status := .uploading }
        state := { agg.state with media := .uploadPending } }
  | videoFinalized (hkind : e.kind = .uploadFinalized) (hopen : agg.Open)
      (hpending : agg.pending = none) (hmedia : agg.state.media = .uploadPending) :
      Did e agg { agg with state := { agg.state with media := .uploadedQuarantined } }
  | uploadFinalized (action : PendingCustomerAction) (hkind : e.kind = .uploadFinalized)
      (hopen : agg.Open) (hpending : agg.pending = some action)
      (hmedia : agg.state.media = .uploadPending) (huploading : action.status = .uploading) :
      Did e agg { agg with
        pending := some { action with status := .submitted }
        state := { agg.state with media := .uploadedQuarantined } }
  | mediaValidated (assetId : Str) (asset : MediaAsset) (validation : MediaValidation)
      (final media : MediaStatus) (analysis : AnalysisStatus) (assets : Entries Str MediaAsset)
      (hkind : e.kind = .mediaValidated) (hopen : agg.Open)
      (hfind : Entries.find? agg.mediaAssets assetId = some asset)
      (hmedia : agg.state.media = .uploadedQuarantined) (hjudged : asset.validation = .pending)
      (hfinal : mediaState validation = .ok final)
      (hassets : assets = agg.withValidation asset validation)
      (hmedia' : media = if asset.role ≠ .symptomVideo ∧
        { agg with mediaAssets := assets }.hasValidatedSymptomEvidence then .validated else final)
      (hanalysis : analysis = if agg.pending = none then
          if validation = .validated then .ready else .abstained
        else .awaitingCustomerAction) :
      Did e agg { agg with mediaAssets := assets, state := { agg.state with media, analysis } }
  | actionResolved (action resolved : PendingCustomerAction) (role : MediaRole)
      (status : ActionStatus) (assets : Entries Str MediaAsset) (media : MediaStatus)
      (analysis : AnalysisStatus) (hkind : e.kind = .mediaActionResolved) (hopen : agg.Open)
      (hpending : agg.pending = some action) (hrole : roleForAction action.kind = .ok role)
      (htime : action.issuedAt.instant ≤ e.eventTime.instant)
      (hsettled : Settled agg action role status assets)
      (hissuedAt : resolved.issuedAt = action.issuedAt)
      (hresolvedAt : resolved.resolvedAt = some e.eventTime)
      (hmedia : media = if Aborts status ∧ Aggregate.InFlight agg.state.media then
          if { agg with mediaAssets := assets }.hasValidatedSymptomEvidence then .validated
          else .rejected
        else agg.state.media)
      (hanalysis : analysis = if status = .fulfilled ∨
        { agg with mediaAssets := assets }.hasValidatedSymptomEvidence then .ready
        else .abstained) :
      Did e agg { { agg with mediaAssets := assets }.resolve resolved with
        state := { agg.state with media, analysis } }
  | analysisStarted (hkind : e.kind = .analysisStarted) (hopen : agg.Open)
      (hpending : agg.pending = none) (hanalysis : agg.state.analysis = .ready)
      (hmedia : agg.state.media = .validated) :
      Did e agg { agg with state := { agg.state with analysis := .processing } }
  | retried (hkind : e.kind = .analysisRetryRecorded) (hopen : agg.Open)
      (hanalysis : agg.state.analysis = .failedRetriable) (hcount : agg.analysisRetryCount + 1 ≤ 3) :
      Did e agg { agg with
        analysisRetryCount := agg.analysisRetryCount + 1
        state := { agg.state with analysis := .ready } }
  | analysisEnded (analysis : AnalysisStatus) (hopen : agg.Open)
      (hprocessing : agg.state.analysis = .processing)
      (hkind : e.kind = .analysisCompleted ∧ (analysis = .complete ∨ analysis = .abstained) ∨
        e.kind = .analysisFailed ∧ (analysis = .failedTerminal ∨
          analysis = .failedRetriable ∧ agg.analysisRetryCount < 3)) :
      Did e agg { agg with state := { agg.state with analysis } }
  | packetMoved (packet : PacketStatus) (hopen : agg.Open)
      (hkind : e.kind = .contractorPacketReadyRecorded ∧ agg.pending = none ∧ agg.Concluded ∧
          agg.state.contractorPacket = .notReady ∧ packet = .ready ∨
        e.kind = .contractorPacketDeliveryStarted ∧ agg.state.contractorPacket = .ready ∧
          packet = .deliveryPending ∨
        e.kind = .contractorPacketDeliveryReceiptRecorded ∧
          agg.state.contractorPacket = .deliveryPending ∧
          (packet = .delivered ∨ packet = .deliveryFailed)) :
      Did e agg { agg with state := { agg.state with contractorPacket := packet } }
  | deliveryMoved (delivery : DeliveryStatus) (policyReceiptRef : Option Str) (hopen : agg.Open)
      (hkind : e.kind = .deliveryPolicyReceiptRecorded ∧ agg.pending = none ∧ agg.Concluded ∧
          agg.state.customerDelivery = .notEvaluated ∧ delivery = .policyReceiptRecorded ∨
        e.kind = .customerDeliveryStarted ∧
          agg.state.customerDelivery = .policyReceiptRecorded ∧ delivery = .deliveryPending ∨
        e.kind = .customerDeliveryReceiptRecorded ∧
          agg.state.customerDelivery = .deliveryPending ∧
          (delivery = .delivered ∨ delivery = .deliveryFailed)) :
      Did e agg { agg with
        policyReceiptRef
        state := { agg.state with customerDelivery := delivery } }
  | closed (hkind : e.kind = .caseClosed) (hopen : agg.Open) (hquiescent : agg.Quiescent)
      (hcreated : agg.CreatedBy e.eventTime) (hactive : agg.ActiveBy e.eventTime) :
      Did e agg { agg with
        completedAt := some e.eventTime
        state := { agg.state with case := .closed } }
  | ended (status : CaseStatus) (expiresAt : Option Aware)
      (hkind : e.kind = .caseCancelled ∧ status = .cancelled ∨
        e.kind = .caseExpired ∧ status = .expired)
      (hdeletion : agg.state.deletion = .notRequested)
      (hcase : agg.state.case = .created ∨ agg.state.case = .active)
      (hcreated : agg.CreatedBy e.eventTime) (hactive : agg.ActiveBy e.eventTime) :
      Did e agg { agg.finalized with
        completedAt := some e.eventTime
        expiresAt
        state := { agg.finalized.state with case := status } }
  | deletionRequested (hkind : e.kind = .deletionRequested)
      (hdeletion : agg.state.deletion = .notRequested)
      (hcreated : agg.CreatedBy e.eventTime) (hactive : agg.ActiveBy e.eventTime) :
      Did e agg { agg.finalized with
        deletionRequestedAt := some e.eventTime
        state := { agg.finalized.state with deletion := .pending } }
  | deletionRetried (hkind : e.kind = .deletionRetryRecorded)
      (hdeletion : agg.state.deletion = .pending) (hcount : agg.deletionRetryCount + 1 ≤ 3) :
      Did e agg { agg with deletionRetryCount := agg.deletionRetryCount + 1 }
  | deletionVerified (hkind : e.kind = .deletionVerified)
      (hdeletion : agg.state.deletion = .pending) (hcreated : agg.CreatedBy e.eventTime)
      (hrequested : ∀ t ∈ agg.deletionRequestedAt, t.instant ≤ e.eventTime.instant)
      (hactive : agg.ActiveBy e.eventTime) :
      Did e agg { agg with
        deletedAt := some e.eventTime
        state := { agg.state with deletion := .verified } }

/-! ## Every handler -/

section Handlers

variable {P : Python} {e : VisualTriageEvent} {agg : Aggregate} {r : Aggregate × Code}

/-- What a handler that returns has done: one of the ways above, and it names the event. -/
def Reports (e : VisualTriageEvent) (agg : Aggregate) (r : Aggregate × Code) : Prop :=
  Did e agg r.1 ∧ r.2.val = py e.kind.value

theorem Reports.intro {agg' : Aggregate} {c : Code} {kind : EventKind} (hkind : e.kind = kind)
    (hcode : c.val = py kind.value) (h : Did e agg agg') : Reports e agg (agg', c) :=
  ⟨h, by rw [hkind]; exact hcode⟩

theorem caseCreated_reports (hkind : e.kind = .caseCreated) (h : caseCreated e agg = .ok r) :
    Reports e agg r := by
  simp only [caseCreated, Aggregate.attempt_eq_ok, bind_eq_ok, exists_unit, ensure_eq_ok,
    mapError_eq_ok, pure_eq_ok, Except.ok.injEq] at h
  obtain ⟨hnone, -, scenario, -, hscenario, ref, -, rfl⟩ := h
  refine .intro hkind rfl (.created _ _ hkind hnone hscenario fun t ht => ?_)
  obtain ⟨t', -, rfl⟩ := Option.map_eq_some_iff.mp (Option.mem_def.mp ht)
  exact t'.2

theorem consentRequested_reports (hkind : e.kind = .consentRequested)
    (h : consentRequested e agg = .ok r) : Reports e agg r := by
  simp only [consentRequested, Aggregate.attempt_eq_ok, bind_eq_ok, exists_unit, ensure_eq_ok,
    Aggregate.requireCase_eq_ok, Aggregate.requireNotDeleting_eq_ok,
    Aggregate.requireNoPending_eq_ok, pure_eq_ok, Except.ok.injEq] at h
  obtain ⟨-, -, ⟨hcase, hconsent⟩, -, rfl⟩ := h
  exact .intro hkind rfl (.asked hkind hcase hconsent)

theorem consentGranted_reports (hkind : e.kind = .consentGranted)
    (h : consentGranted e agg = .ok r) : Reports e agg r := by
  simp only [consentGranted, Aggregate.attempt_eq_ok, bind_eq_ok, exists_unit, ensure_eq_ok,
    Aggregate.requireCase_eq_ok, Aggregate.requireNotDeleting_eq_ok, pure_eq_ok,
    Except.ok.injEq] at h
  obtain ⟨-, hdel, ⟨hcase, hconsent⟩, rfl⟩ := h
  exact .intro hkind rfl (.granted hkind hdel hcase hconsent)

theorem consentDeclined_reports (hkind : e.kind = .consentDeclined)
    (h : consentDeclined e agg = .ok r) : Reports e agg r := by
  simp only [consentDeclined, Aggregate.attempt_eq_ok, bind_eq_ok, exists_unit, ensure_eq_ok,
    Aggregate.requireCase_eq_ok, Aggregate.requireNotDeleting_eq_ok,
    Aggregate.requireNotBeforeCreated_eq_ok, pure_eq_ok, Except.ok.injEq] at h
  obtain ⟨-, hdel, ⟨hcase, -⟩, hcreated, rfl⟩ := h
  exact .intro hkind rfl (.declined hkind hdel hcase hcreated)

theorem consentWithdrawn_reports (hkind : e.kind = .consentWithdrawn)
    (h : consentWithdrawn e agg = .ok r) : Reports e agg r := by
  simp only [consentWithdrawn, Aggregate.attempt_eq_ok, bind_eq_ok, exists_unit, ensure_eq_ok,
    Aggregate.requireCase_eq_ok, Aggregate.requireNotDeleting_eq_ok,
    Aggregate.requireNotBeforeCreated_eq_ok, Aggregate.rejectIfPredatesRecordedActivity_eq_ok,
    pure_eq_ok, Except.ok.injEq] at h
  obtain ⟨-, hdel, ⟨hcase, -⟩, hcreated, hactive, rfl⟩ := h
  exact .intro hkind rfl (.withdrawn hkind ⟨hdel, hcase⟩ hcreated hactive)

theorem mediaActionIssued_reports (hkind : e.kind = .mediaActionIssued)
    (h : mediaActionIssued P e agg = .ok r) : Reports e agg r := by
  simp only [mediaActionIssued, Aggregate.attempt_eq_ok, bind_eq_ok, exists_unit, ensure_eq_ok,
    Aggregate.requireOpen_eq_ok, Aggregate.requireNoPending_eq_ok, require_eq_ok, pure_eq_ok,
    Except.ok.injEq] at h
  obtain ⟨_, ⟨⟨-, hopen⟩, hpending, kind, -, bucket, hbucket, _, -, -, _, -, -, hplate, hrecapture,
    hnothing, rfl⟩, action, haction, rfl⟩ := h
  obtain ⟨hcreated, hresolved, hak, has, hat, har⟩ := actionFromPayload_eq_ok haction
  cases kind with
  | diagnosticQuestion => cases hbucket
  | ratingPlate =>
    exact .intro hkind rfl (.plateIssued action hkind hopen hpending (hplate rfl) hnothing hcreated
      hresolved hak has hat har)
  | targetedRecapture =>
    obtain ⟨hcount, hmedia⟩ := hrecapture (by decide)
    exact .intro hkind rfl (.recaptureIssued action hkind hopen hpending hcount hmedia hnothing
      hcreated hresolved hak has hat har)

theorem diagnosticQuestionIssued_reports (hkind : e.kind = .diagnosticQuestionIssued)
    (h : diagnosticQuestionIssued P e agg = .ok r) : Reports e agg r := by
  simp only [diagnosticQuestionIssued, Aggregate.attempt_eq_ok, bind_eq_ok, exists_unit,
    ensure_eq_ok, Aggregate.requireOpen_eq_ok, Aggregate.requireNoPending_eq_ok, mapError_eq_ok,
    pure_eq_ok, Except.ok.injEq] at h
  obtain ⟨⟨⟨-, hopen⟩, hpending, hconcluded, hnothing, -, _, -, -, _, -, -, _, -, -, _, -, _, -, -,
    _, -, _, -, -, hcount⟩, action, haction, rfl⟩ := h
  obtain ⟨hcreated, hresolved, hak, has, hat, har⟩ := actionFromPayload_eq_ok haction
  exact .intro hkind rfl (.questionIssued action hkind hopen hpending hconcluded hnothing hcount
    hcreated hresolved hak has hat har)

theorem customerActionResolved_reports (hkind : e.kind = .customerActionResolved)
    (h : customerActionResolved e agg = .ok r) : Reports e agg r := by
  simp only [customerActionResolved, Aggregate.attempt_eq_ok, bind_eq_ok, exists_unit,
    ensure_eq_ok, Aggregate.requireOpen_eq_ok, require_eq_ok, pure_eq_ok, Except.ok.injEq] at h
  obtain ⟨⟨-, hopen⟩, action, hpending, haction, _, -, -, _, -, -, _, -, -, status, -, -, option, -,
    htime, -, rfl⟩ := h
  refine .intro hkind rfl (.questionResolved action _ _ hkind hopen hpending haction htime rfl rfl ?_)
  split
  · rename_i hready
    exact .inl ⟨rfl, hready.2⟩
  · exact .inr rfl

theorem uploadStarted_reports (hkind : e.kind = .uploadStarted)
    (h : uploadStarted P e agg = .ok r) : Reports e agg r := by
  simp only [uploadStarted, Aggregate.attempt_eq_ok, bind_eq_ok, exists_unit, ensure_eq_ok,
    Aggregate.requireOpen_eq_ok, pure_eq_ok, Except.ok.injEq] at h
  obtain ⟨⟨-, hopen⟩, assetId, hid, hfresh, role, hrole, asset, hasset, rfl⟩ := h
  obtain ⟨hid', har, hav⟩ := assetFromPayload_eq_ok hasset
  obtain rfl : asset.assetId.val = assetId := Except.ok.inj (hid'.symm.trans hid)
  refine .intro hkind rfl ?_
  cases hpending : agg.pending with
  | none =>
    simp only [uploadRole, hpending, bind_eq_ok, exists_unit, ensure_eq_ok, pure_eq_ok,
      Except.ok.injEq] at hrole
    have hdid := Did.videoStarted asset hkind hopen hpending hrole.1 hfresh (har.trans hrole.2.symm)
      hav
    simpa only [hpending, Option.map_none] using hdid
  | some action =>
    simp only [uploadRole, hpending, bind_eq_ok, exists_unit, ensure_eq_ok,
      checkActionWindow_eq_ok] at hrole
    exact .uploadStarted action asset hkind hopen hpending hrole.1.2 hfresh (har ▸ hrole.2.2) hav

theorem uploadFinalized_reports (hkind : e.kind = .uploadFinalized)
    (h : uploadFinalized e agg = .ok r) : Reports e agg r := by
  simp only [uploadFinalized, Aggregate.attempt_eq_ok, bind_eq_ok, exists_unit, ensure_eq_ok,
    Aggregate.requireOpen_eq_ok, pure_eq_ok, Except.ok.injEq] at h
  obtain ⟨⟨-, hopen⟩, asset, -, hmedia, hcheck, rfl⟩ := h
  refine .intro hkind rfl ?_
  cases hpending : agg.pending with
  | none =>
    simpa only [hpending, Option.map_none] using Did.videoFinalized hkind hopen hpending hmedia
  | some action =>
    simp only [checkFinalized, hpending, bind_eq_ok, exists_unit, ensure_eq_ok] at hcheck
    exact .uploadFinalized action hkind hopen hpending hmedia hcheck.1

theorem mediaValidated_reports (hkind : e.kind = .mediaValidated)
    (h : mediaValidated e agg = .ok r) : Reports e agg r := by
  simp only [mediaValidated, Aggregate.attempt_eq_ok, bind_eq_ok, exists_unit, ensure_eq_ok,
    Aggregate.requireOpen_eq_ok, pure_eq_ok, Except.ok.injEq] at h
  obtain ⟨⟨-, hopen⟩, asset, hasset, hmedia, hjudged, validation, -, -, -, final, hfinal, rfl⟩ := h
  obtain ⟨assetId, hfind⟩ := Aggregate.matchingAsset_eq_ok hasset
  exact .intro hkind rfl (.mediaValidated assetId asset validation final _ _ _ hkind hopen hfind
    hmedia hjudged hfinal rfl rfl rfl)

theorem mediaActionResolved_reports (hkind : e.kind = .mediaActionResolved)
    (h : mediaActionResolved e agg = .ok r) : Reports e agg r := by
  simp only [mediaActionResolved, Aggregate.attempt_eq_ok, bind_eq_ok, exists_unit, ensure_eq_ok,
    Aggregate.requireOpen_eq_ok, require_eq_ok, checkMediaWindow, pure_eq_ok,
    Except.ok.injEq] at h
  obtain ⟨⟨-, hopen⟩, action, hpending, -, _, -, -, _, -, -, role, hrole, _, -, -, status, -, -,
    ⟨htime, -⟩, assets, hassets, rfl⟩ := h
  exact .intro hkind rfl (.actionResolved action _ role status assets _ _ hkind hopen hpending hrole
    htime (settledAssets_eq_ok hassets) rfl rfl rfl rfl)

theorem analysisStarted_reports (hkind : e.kind = .analysisStarted)
    (h : analysisStarted e agg = .ok r) : Reports e agg r := by
  simp only [analysisStarted, Aggregate.attempt_eq_ok, bind_eq_ok, exists_unit, ensure_eq_ok,
    Aggregate.requireOpen_eq_ok, Aggregate.requireNoPending_eq_ok, pure_eq_ok,
    Except.ok.injEq] at h
  obtain ⟨⟨-, hopen⟩, hpending, ⟨hanalysis, hmedia, -⟩, rfl⟩ := h
  exact .intro hkind rfl (.analysisStarted hkind hopen hpending hanalysis hmedia)

theorem analysisRetryRecorded_reports (hkind : e.kind = .analysisRetryRecorded)
    (h : analysisRetryRecorded e agg = .ok r) : Reports e agg r := by
  simp only [analysisRetryRecorded, Aggregate.attempt_eq_ok, bind_eq_ok, exists_unit,
    ensure_eq_ok, Aggregate.requireOpen_eq_ok, pure_eq_ok, Except.ok.injEq] at h
  obtain ⟨⟨-, hopen⟩, hanalysis, attempt, hattempt, rfl⟩ := h
  obtain ⟨rfl, hle⟩ := retryAttempt_eq_ok hattempt
  exact .intro hkind rfl (.retried hkind hopen hanalysis hle)

theorem analysisCompleted_reports (hkind : e.kind = .analysisCompleted)
    (h : analysisCompleted e agg = .ok r) : Reports e agg r := by
  simp only [analysisCompleted, Aggregate.attempt_eq_ok, bind_eq_ok, exists_unit, ensure_eq_ok,
    Aggregate.requireOpen_eq_ok, pure_eq_ok, Except.ok.injEq] at h
  obtain ⟨⟨-, hopen⟩, hprocessing, outcome, -, -, rfl⟩ := h
  refine .intro hkind rfl (.analysisEnded _ hopen hprocessing (.inl ⟨hkind, ?_⟩))
  split
  · exact .inl rfl
  · exact .inr rfl

theorem analysisFailed_reports (hkind : e.kind = .analysisFailed)
    (h : analysisFailed e agg = .ok r) : Reports e agg r := by
  simp only [analysisFailed, Aggregate.attempt_eq_ok, bind_eq_ok, exists_unit, ensure_eq_ok,
    Aggregate.requireOpen_eq_ok, require_eq_ok, pure_eq_ok, Except.ok.injEq] at h
  obtain ⟨⟨-, hopen⟩, hprocessing, failure, -, hfailure, hcount, analysis, hanalysis, rfl⟩ := h
  refine .intro hkind rfl (.analysisEnded _ hopen hprocessing (.inr ⟨hkind, ?_⟩))
  simp only [List.mem_cons, List.not_mem_nil, or_false] at hfailure
  obtain rfl | rfl := hfailure
  · obtain rfl : AnalysisStatus.failedRetriable = analysis :=
      Option.some.inj (Eq.trans (by decide) hanalysis)
    exact .inr ⟨rfl, hcount rfl⟩
  · obtain rfl : AnalysisStatus.failedTerminal = analysis :=
      Option.some.inj (Eq.trans (by decide) hanalysis)
    exact .inl rfl

theorem packetReady_reports (hkind : e.kind = .contractorPacketReadyRecorded)
    (h : packetReady e agg = .ok r) : Reports e agg r := by
  simp only [packetReady, Aggregate.attempt_eq_ok, bind_eq_ok, exists_unit, ensure_eq_ok,
    Aggregate.requireOpen_eq_ok, Aggregate.requireNoPending_eq_ok, pure_eq_ok,
    Except.ok.injEq] at h
  obtain ⟨⟨-, hopen⟩, hpending, hpacket, hconcluded, rfl⟩ := h
  exact .intro hkind rfl (.packetMoved _ hopen (.inl ⟨hkind, hpending, hconcluded, hpacket, rfl⟩))

theorem packetDeliveryStarted_reports (hkind : e.kind = .contractorPacketDeliveryStarted)
    (h : packetDeliveryStarted e agg = .ok r) : Reports e agg r := by
  simp only [packetDeliveryStarted, Aggregate.attempt_eq_ok, bind_eq_ok, exists_unit,
    ensure_eq_ok, Aggregate.requireOpen_eq_ok, Aggregate.requireNoPending_eq_ok, pure_eq_ok,
    Except.ok.injEq] at h
  obtain ⟨⟨-, hopen⟩, -, hpacket, rfl⟩ := h
  exact .intro hkind rfl (.packetMoved _ hopen (.inr (.inl ⟨hkind, hpacket, rfl⟩)))

theorem packetDeliveryReceipt_reports (hkind : e.kind = .contractorPacketDeliveryReceiptRecorded)
    (h : packetDeliveryReceipt e agg = .ok r) : Reports e agg r := by
  simp only [packetDeliveryReceipt, Aggregate.attempt_eq_ok, bind_eq_ok, exists_unit,
    ensure_eq_ok, Aggregate.requireOpen_eq_ok, pure_eq_ok, Except.ok.injEq] at h
  obtain ⟨⟨-, hopen⟩, hpacket, ok, -, rfl⟩ := h
  refine .intro hkind rfl (.packetMoved _ hopen (.inr (.inr ⟨hkind, hpacket, ?_⟩)))
  cases ok <;> simp

theorem deliveryPolicyReceipt_reports (hkind : e.kind = .deliveryPolicyReceiptRecorded)
    (h : deliveryPolicyReceipt e agg = .ok r) : Reports e agg r := by
  simp only [deliveryPolicyReceipt, Aggregate.attempt_eq_ok, bind_eq_ok, exists_unit,
    ensure_eq_ok, Aggregate.requireOpen_eq_ok, Aggregate.requireNoPending_eq_ok, pure_eq_ok,
    Except.ok.injEq] at h
  obtain ⟨⟨-, hopen⟩, hpending, hdelivery, hconcluded, _, -, -, rfl⟩ := h
  exact .intro hkind rfl (.deliveryMoved _ _ hopen
    (.inl ⟨hkind, hpending, hconcluded, hdelivery, rfl⟩))

theorem customerDeliveryStarted_reports (hkind : e.kind = .customerDeliveryStarted)
    (h : customerDeliveryStarted e agg = .ok r) : Reports e agg r := by
  simp only [customerDeliveryStarted, Aggregate.attempt_eq_ok, bind_eq_ok, exists_unit,
    ensure_eq_ok, Aggregate.requireOpen_eq_ok, Aggregate.requireNoPending_eq_ok, pure_eq_ok,
    Except.ok.injEq] at h
  obtain ⟨⟨-, hopen⟩, -, hdelivery, _, -, -, rfl⟩ := h
  exact .intro hkind rfl (.deliveryMoved _ agg.policyReceiptRef hopen
    (.inr (.inl ⟨hkind, hdelivery, rfl⟩)))

theorem customerDeliveryReceipt_reports (hkind : e.kind = .customerDeliveryReceiptRecorded)
    (h : customerDeliveryReceipt e agg = .ok r) : Reports e agg r := by
  simp only [customerDeliveryReceipt, Aggregate.attempt_eq_ok, bind_eq_ok, exists_unit,
    ensure_eq_ok, Aggregate.requireOpen_eq_ok, pure_eq_ok, Except.ok.injEq] at h
  obtain ⟨⟨-, hopen⟩, hdelivery, ok, -, rfl⟩ := h
  refine .intro hkind rfl (.deliveryMoved _ agg.policyReceiptRef hopen
    (.inr (.inr ⟨hkind, hdelivery, ?_⟩)))
  cases ok <;> simp

theorem caseClosed_reports (hkind : e.kind = .caseClosed) (h : caseClosed e agg = .ok r) :
    Reports e agg r := by
  simp only [caseClosed, Aggregate.attempt_eq_ok, bind_eq_ok, exists_unit, ensure_eq_ok,
    Aggregate.requireCase_eq_ok, Aggregate.requireNotDeleting_eq_ok,
    Aggregate.requireNotBeforeCreated_eq_ok, Aggregate.rejectIfPredatesRecordedActivity_eq_ok,
    pure_eq_ok, Except.ok.injEq] at h
  obtain ⟨-, hdel, hcase, hquiet, hcreated, hactive, rfl⟩ := h
  exact .intro hkind rfl (.closed hkind ⟨hdel, hcase⟩ hquiet hcreated hactive)

theorem terminalCase_reports {status : CaseStatus} {c : Code} {kind : EventKind}
    (hkind : e.kind = kind) (hcode : c.val = py kind.value)
    (hstatus : kind = .caseCancelled ∧ status = .cancelled ∨
      kind = .caseExpired ∧ status = .expired)
    (h : terminalCase status c e agg = .ok r) : Reports e agg r := by
  simp only [terminalCase, Aggregate.attempt_eq_ok, bind_eq_ok, exists_unit, ensure_eq_ok,
    Aggregate.requireCase_eq_ok, Aggregate.requireNotDeleting_eq_ok,
    Aggregate.requireNotBeforeCreated_eq_ok, Aggregate.rejectIfPredatesRecordedActivity_eq_ok,
    pure_eq_ok, Except.ok.injEq] at h
  obtain ⟨-, hdel, hcase, hcreated, hactive, rfl⟩ := h
  refine .intro hkind hcode (.ended status _ (hkind ▸ hstatus) hdel ?_ hcreated hactive)
  simpa only [List.mem_cons, List.not_mem_nil, or_false] using hcase

theorem deletionRequested_reports (hkind : e.kind = .deletionRequested)
    (h : deletionRequested e agg = .ok r) : Reports e agg r := by
  simp only [deletionRequested, Aggregate.attempt_eq_ok, bind_eq_ok, exists_unit, ensure_eq_ok,
    Aggregate.requireCase_eq_ok, Aggregate.requireNotBeforeCreated_eq_ok,
    Aggregate.rejectIfPredatesRecordedActivity_eq_ok, pure_eq_ok, Except.ok.injEq] at h
  obtain ⟨-, hdel, hcreated, hactive, rfl⟩ := h
  exact .intro hkind rfl (.deletionRequested hkind hdel hcreated hactive)

theorem deletionRetryRecorded_reports (hkind : e.kind = .deletionRetryRecorded)
    (h : deletionRetryRecorded e agg = .ok r) : Reports e agg r := by
  simp only [deletionRetryRecorded, Aggregate.attempt_eq_ok, bind_eq_ok, exists_unit,
    ensure_eq_ok, Aggregate.requireCase_eq_ok, pure_eq_ok, Except.ok.injEq] at h
  obtain ⟨-, hdel, attempt, hattempt, rfl⟩ := h
  obtain ⟨rfl, hle⟩ := retryAttempt_eq_ok hattempt
  exact .intro hkind rfl (.deletionRetried hkind hdel hle)

theorem deletionVerified_reports (hkind : e.kind = .deletionVerified)
    (h : deletionVerified e agg = .ok r) : Reports e agg r := by
  simp only [deletionVerified, Aggregate.attempt_eq_ok, bind_eq_ok, exists_unit, ensure_eq_ok,
    Aggregate.requireCase_eq_ok, Aggregate.requireNotBeforeCreated_eq_ok,
    Aggregate.rejectIfPredatesRecordedActivity_eq_ok, pure_eq_ok, Except.ok.injEq] at h
  obtain ⟨-, hdel, hcreated, hrequested, hactive, rfl⟩ := h
  exact .intro hkind rfl (.deletionVerified hkind hdel hcreated hrequested hactive)

theorem dispatch_reports (h : dispatch P e agg = .ok r) : Reports e agg r := by
  cases hkind : e.kind
  all_goals simp only [dispatch, hkind] at h
  · exact caseCreated_reports hkind h
  · exact consentRequested_reports hkind h
  · exact consentGranted_reports hkind h
  · exact consentDeclined_reports hkind h
  · exact consentWithdrawn_reports hkind h
  · exact mediaActionIssued_reports hkind h
  · exact diagnosticQuestionIssued_reports hkind h
  · exact customerActionResolved_reports hkind h
  · exact uploadStarted_reports hkind h
  · exact uploadFinalized_reports hkind h
  · exact mediaValidated_reports hkind h
  · exact mediaActionResolved_reports hkind h
  · exact analysisStarted_reports hkind h
  · exact analysisRetryRecorded_reports hkind h
  · exact analysisCompleted_reports hkind h
  · exact analysisFailed_reports hkind h
  · exact packetReady_reports hkind h
  · exact packetDeliveryStarted_reports hkind h
  · exact packetDeliveryReceipt_reports hkind h
  · exact deliveryPolicyReceipt_reports hkind h
  · exact customerDeliveryStarted_reports hkind h
  · exact customerDeliveryReceipt_reports hkind h
  · exact caseClosed_reports hkind h
  · exact terminalCase_reports hkind rfl (.inl ⟨rfl, rfl⟩) h
  · exact terminalCase_reports hkind rfl (.inr ⟨rfl, rfl⟩) h
  · exact deletionRequested_reports hkind h
  · exact deletionRetryRecorded_reports hkind h
  · exact deletionVerified_reports hkind h

end Handlers

/-! ## A step of the machine -/

variable {P : Python} {s : State} {e : VisualTriageEvent}

/-- What a new event has passed when its handler runs. -/
structure Admitted (P : Python) (s : State) (e : VisualTriageEvent) : Prop where
  bound : s.caseId.isSome = true → Bound s e
  integrity : e.assertIntegrity P = true
  creation : s.caseId = none → e.kind = .caseCreated
  unseen : Entries.find? s.ledger e.eventId = none
  deleting : s.state.deletion = .pending → e.kind ∈ deletionKinds
  unverified : s.state.deletion ≠ .verified
  control : e.kind ∈ controlKinds → s.controlReceipts.length < controlReceiptCap
  ordinary : e.kind ∉ controlKinds → s.ordinaryReceipts.length < ordinaryReceiptCap

/-- What an event seen before has passed. -/
structure Seen (P : Python) (s : State) (e : VisualTriageEvent) (prior : Receipt) : Prop where
  bound : s.caseId.isSome = true → Bound s e
  integrity : e.assertIntegrity P = true
  creation : s.caseId = none → e.kind = .caseCreated
  seen : Entries.find? s.ledger e.eventId = some prior
  fingerprint : prior.semanticEnvelopeFingerprint.val = e.semanticEnvelopeFingerprint
  verified : s.state.deletion = .verified → e.kind = .deletionVerified

theorem screen_eq_none (h : screen P s e = .ok none) : Admitted P s e := by
  simp only [screen, bind_eq_ok, exists_unit, ensure_eq_ok] at h
  obtain ⟨hbound, hint, hcreation, -, h⟩ := h
  cases hfind : Entries.find? s.ledger e.eventId with
  | some prior => simp [hfind] at h
  | none =>
    simp only [hfind, bind_eq_ok, exists_unit, ensure_eq_ok] at h
    obtain ⟨-, hdeleting, hunverified, -, -, hcontrol, hordinary, -⟩ := h
    exact ⟨hbound, hint, hcreation, hfind, hdeleting, hunverified, hcontrol, hordinary⟩

theorem screen_eq_some {prior : Receipt} :
    screen P s e = .ok (some prior) ↔ Seen P s e prior := by
  simp only [screen, bind_eq_ok, exists_unit, ensure_eq_ok]
  constructor
  · intro h
    obtain ⟨hbound, hint, hcreation, -, h⟩ := h
    cases hfind : Entries.find? s.ledger e.eventId with
    | none => simp [hfind] at h
    | some found =>
      simp only [hfind, bind_eq_ok, exists_unit, ensure_eq_ok, pure_eq_ok, Except.ok.injEq,
        Option.some.injEq] at h
      obtain ⟨hfp, hverified, rfl⟩ := h
      exact ⟨hbound, hint, hcreation, hfind, hfp, hverified⟩
  · intro h
    refine ⟨h.bound, h.integrity, h.creation, h.bound, ?_⟩
    simp only [h.seen, bind_eq_ok, exists_unit, ensure_eq_ok]
    exact ⟨h.fingerprint, h.verified, rfl⟩

/-- The receipt that an accepted event leaves. -/
structure Receipted (s : State) (e : VisualTriageEvent) (r : Receipt) : Prop where
  eventId : r.eventId.val = e.eventId
  kind : r.kind = e.kind
  fingerprint : r.semanticEnvelopeFingerprint.val = e.semanticEnvelopeFingerprint
  decision : r.historicalDecisionCode.val = py e.kind.value
  revision : r.resultingRevision = s.revision + 1

theorem perform_eq_ok {agg : Aggregate} {r : Receipt} (h : perform P s e = .ok (agg, r)) :
    Did e s.toAggregate agg ∧ Receipted s e r := by
  simp only [perform, bind_eq_ok] at h
  obtain ⟨⟨agg', c⟩, hdispatch, h⟩ := h
  simp only [receipt, bind_eq_ok, Aggregate.attempt_eq_ok, field_eq_ok, pure_eq_ok,
    Except.ok.injEq, Prod.mk.injEq] at h
  obtain ⟨_, ⟨eventId, hid, fingerprint, hfp, rfl⟩, rfl, rfl⟩ := h
  obtain ⟨hdid, hcode⟩ := dispatch_reports hdispatch
  exact ⟨hdid, hid, rfl, hfp, hcode, rfl⟩

/-- A step refuses an event, answers one it has seen, or accepts a new one. -/
inductive Stepped (P : Python) (s : State) (e : VisualTriageEvent) :
    State × Except Fault Decision → Prop
  | refused (r : Refusal)
      (hwhy : screen P s e = .error r ∨
        ∃ raised, perform P s e = .error raised ∧ r = raised.fault.refusal) :
      Stepped P s e (s, reject P s r)
  | replayed (prior : Receipt) (hseen : Seen P s e prior) : Stepped P s e (s, replay P s prior)
  | accepted (agg : Aggregate) (r : Receipt) (hadmitted : Admitted P s e)
      (hdid : Did e s.toAggregate agg) (hreceipt : Receipted s e r)
      (hscreen : screen P s e = .ok none) :
      Stepped P s e (s.commit agg r, accept P (s.commit agg r) r.historicalDecisionCode)

theorem apply_stepped (P : Python) (s : State) (e : VisualTriageEvent) :
    Stepped P s e (apply P s e) := by
  unfold apply
  cases hscreen : screen P s e with
  | error r => exact .refused r (.inl hscreen)
  | ok prior =>
    cases prior with
    | some prior => exact .replayed prior (screen_eq_some.mp hscreen)
    | none =>
      cases hperform : perform P s e with
      | error raised => exact .refused _ (.inr ⟨raised, hperform, rfl⟩)
      | ok result =>
        obtain ⟨agg, r⟩ := result
        obtain ⟨hdid, hreceipt⟩ := perform_eq_ok hperform
        exact .accepted agg r (screen_eq_none hscreen) hdid hreceipt hscreen

/-- A property of the aggregate that every accepted event keeps is kept by every step. -/
theorem apply_inv {I : Aggregate → Prop} (s : State) (e : VisualTriageEvent)
    (hs : ∀ agg', Did e s.toAggregate agg' → I agg') (h : I s.toAggregate) :
    I (apply P s e).1.toAggregate := by
  have hstep := apply_stepped P s e
  generalize apply P s e = out at hstep ⊢
  cases hstep with
  | refused => exact h
  | replayed => exact h
  | accepted agg r hadmitted hdid => exact hs agg hdid

end HeyKevin.L8.Triage
