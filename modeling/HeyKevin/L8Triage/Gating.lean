import HeyKevin.L8Triage.Evidence
/-!
# Evidence gating

What the six status dimensions of a case have to do with each other, with its
assets and with its pending action, in every state a run can reach.

* `Gated`: the invariant.
* `gated_of_did`: every accepted event keeps it.
-/
namespace HeyKevin.L8.Triage

open HeyKevin.Core L1 L1.Text L1.Datetime
open Aggregate (InFlight)

/-- Analysis was allowed to begin: it is ready, running, or ended with something
other than an abstention. -/
def Analysed (analysis : AnalysisStatus) : Prop :=
  analysis = .ready ∨ analysis = .processing ∨ analysis = .complete ∨
    analysis = .failedRetriable ∨ analysis = .failedTerminal

/-- Nothing was judged yet. -/
def Unjudged (media : MediaStatus) : Prop :=
  media = .none ∨ media = .awaitingRequired ∨ InFlight media

structure Gated (agg : Aggregate) : Prop where
  keyed : ∀ k a, Entries.find? agg.mediaAssets k = some a → a.assetId.val = k
  fits : Fits (shapeOf agg.mediaAssets) agg.state.media agg.turn
  plateCounted : (∃ v, (.ratingPlate, v) ∈ shapeOf agg.mediaAssets) ∨
    (∃ action ∈ agg.pending, action.kind = .ratingPlate) → 1 ≤ agg.ratingPlateCount
  recaptureCounted : (∃ v, (.targetedRecapture, v) ∈ shapeOf agg.mediaAssets) ∨
    (∃ action ∈ agg.pending, action.kind = .targetedRecapture) → 1 ≤ agg.recaptureCount
  quiet : ¬ agg.Open → agg.pending = none ∧ ¬ InFlight agg.state.media
  awaits : agg.Open →
    (agg.pending.isSome = true ↔ agg.state.analysis = .awaitingCustomerAction)
  analysed : Analysed agg.state.analysis → agg.state.media = .validated
  active : agg.state.case = .active → agg.state.consent = .granted
  consented : Analysed agg.state.analysis → agg.state.consent = .granted ∨
    agg.state.consent = .withdrawn ∧ agg.state.case = .cancelled
  prepared : agg.NothingPrepared ∨ agg.Concluded
  unstarted : agg.state.case = .created → agg.state.media = .none ∧
    agg.state.analysis = .notStarted ∧ agg.resolvedCustomerActions = []
  first : agg.Open → agg.pending = none → Unjudged agg.state.media →
    agg.state.analysis = .notStarted
  resolved : agg.resolvedCustomerActions.length ≤ 4
  questions : agg.questionCount ≤ 2
  plates : agg.ratingPlateCount ≤ 1
  recaptures : agg.recaptureCount ≤ 1
  analysisRetries : agg.analysisRetryCount ≤ 3
  deletionRetries : agg.deletionRetryCount ≤ 3

namespace Gated

theorem initial : Gated Aggregate.initial where
  keyed := by simp [Aggregate.initial]
  fits := .unasked
  plateCounted := by simp [Aggregate.initial, shapeOf]
  recaptureCounted := by simp [Aggregate.initial, shapeOf]
  quiet := fun _ => ⟨rfl, by simp [Aggregate.initial, InFlight]⟩
  awaits := fun h => by simp [Aggregate.Open, Aggregate.initial] at h
  analysed := fun h => by simp [Analysed, Aggregate.initial] at h
  active := fun h => by simp [Aggregate.initial] at h
  consented := fun h => by simp [Analysed, Aggregate.initial] at h
  prepared := .inl ⟨rfl, rfl⟩
  unstarted := fun _ => ⟨rfl, rfl, rfl⟩
  first := fun _ _ _ => rfl
  resolved := by decide
  questions := by decide
  plates := by decide
  recaptures := by decide
  analysisRetries := by decide
  deletionRetries := by decide

variable {agg : Aggregate} {e : VisualTriageEvent}

theorem not_open_of_created (hcase : agg.state.case = .created) : ¬ agg.Open := by
  intro h
  rw [h.2] at hcase
  cases hcase

/-- A concluded analysis of an open case: the first video was judged. -/
theorem judged_of_concluded (h : Gated agg) (hopen : agg.Open) (hpending : agg.pending = none)
    (hc : agg.Concluded) : agg.state.media = .validated ∨ agg.state.media = .rejected ∨
      agg.state.media = .unavailable := by
  have hfirst := h.first hopen hpending
  cases hm : agg.state.media with
  | validated => exact .inl rfl
  | rejected => exact .inr (.inl rfl)
  | unavailable => exact .inr (.inr rfl)
  | _ =>
    have hna := hfirst (by simp [Unjudged, InFlight, hm])
    simp [Aggregate.Concluded, hna] at hc

/-- An output is only prepared once analysis has concluded, so none is while an action is pending. -/
theorem nothing_of_pending (h : Gated agg) (hopen : agg.Open) {action : PendingCustomerAction}
    (hpending : agg.pending = some action) : agg.NothingPrepared := by
  have hawaiting := (h.awaits hopen).mp (by rw [hpending]; rfl)
  refine h.prepared.resolve_right fun hc => ?_
  simp [Aggregate.Concluded, hawaiting] at hc

theorem fits_pending (h : Gated agg) {action : PendingCustomerAction}
    (hpending : agg.pending = some action) :
    Fits (shapeOf agg.mediaAssets) agg.state.media (some (action.kind, action.status)) := by
  simpa only [Aggregate.turn, hpending, Option.map_some] using h.fits

theorem fits_idle (h : Gated agg) (hpending : agg.pending = none) :
    Fits (shapeOf agg.mediaAssets) agg.state.media none := by
  simpa only [Aggregate.turn, hpending, Option.map_none] using h.fits

/-! ## Consent -/

theorem asked (h : Gated agg) (hcase : agg.state.case = .created) :
    Gated { agg with state := { agg.state with consent := .awaitingDecision } } :=
  { h with
    active := fun hc => by simp [hcase] at hc
    consented := fun ha => by simp [(h.unstarted hcase).2.1, Analysed] at ha }

theorem granted (h : Gated agg) (hdeletion : agg.state.deletion = .notRequested)
    (hcase : agg.state.case = .created) :
    Gated { agg with state :=
      { agg.state with case := .active, consent := .granted, media := .awaitingRequired } } := by
  obtain ⟨hmedia, hanalysis, -⟩ := h.unstarted hcase
  obtain ⟨hpending, -⟩ := h.quiet (not_open_of_created hcase)
  have hfits := (hmedia ▸ h.fits).require
  exact { h with
    fits := by simpa only [Aggregate.turn, hpending, Option.map_none] using hfits
    quiet := fun hn => absurd ⟨hdeletion, rfl⟩ hn
    awaits := fun _ => by simp [hpending, hanalysis]
    analysed := fun ha => by simp [hanalysis, Analysed] at ha
    active := fun _ => rfl
    consented := fun _ => .inl rfl
    unstarted := fun hc => by cases hc
    first := fun _ _ _ => hanalysis }

/-! ## Endings -/

/-- Whatever ends the case or asks for its deletion: the pending action is dropped, and
what was in flight is given up. -/
theorem finish (h : Gated agg) (case : CaseStatus) (consent : ConsentStatus)
    (deletion : DeletionStatus) (completedAt expiresAt requestedAt : Option Aware)
    (hshut : ¬ (deletion = .notRequested ∧ case = .active))
    (hactive : case = .active → consent = .granted)
    (hconsented : Analysed agg.state.analysis →
      consent = .granted ∨ consent = .withdrawn ∧ case = .cancelled)
    (hcase : case = .created → agg.state.case = .created) :
    Gated { agg.finalized with
      state := { agg.finalized.state with case := case, consent := consent, deletion := deletion }
      completedAt := completedAt
      expiresAt := expiresAt
      deletionRequestedAt := requestedAt } := by
  obtain ⟨media, assets, hfin, hfits, hidle, hkept, hkeys, hroles⟩ :=
    Aggregate.finalized_spec h.fits
  rw [hfin]
  exact {
    keyed := fun k asset ha => by
      obtain ⟨before, hb, hid⟩ := hkeys k asset ha
      rw [← hid]
      exact h.keyed k before hb
    fits := hfits
    plateCounted := by
      rintro (⟨v, hv⟩ | ⟨action, ha, -⟩)
      · exact h.plateCounted (.inl (hroles _ v hv))
      · cases ha
    recaptureCounted := by
      rintro (⟨v, hv⟩ | ⟨action, ha, -⟩)
      · exact h.recaptureCounted (.inl (hroles _ v hv))
      · cases ha
    quiet := fun _ => ⟨rfl, hidle⟩
    awaits := fun ho => absurd ho hshut
    analysed := fun ha => by
      have hv := h.analysed ha
      exact (hkept (.inl hv)).trans hv
    active := hactive
    consented := hconsented
    prepared := h.prepared
    unstarted := fun hc => by
      obtain ⟨hm, ha, hr⟩ := h.unstarted (hcase hc)
      exact ⟨(hkept (.inr hm)).trans hm, ha, hr⟩
    first := fun ho => absurd ho hshut
    resolved := h.resolved
    questions := h.questions
    plates := h.plates
    recaptures := h.recaptures
    analysisRetries := h.analysisRetries
    deletionRetries := h.deletionRetries }

theorem declined (h : Gated agg) (hcase : agg.state.case = .created) (t : Aware) :
    Gated { agg with
      state := { agg.state with case := .cancelled, consent := .declined }
      pending := none
      completedAt := some t } := by
  obtain ⟨-, hanalysis, -⟩ := h.unstarted hcase
  obtain ⟨hpending, hidle⟩ := h.quiet (not_open_of_created hcase)
  exact { h with
    fits := h.fits_idle hpending
    plateCounted := by simpa only [hpending] using h.plateCounted
    recaptureCounted := by simpa only [hpending] using h.recaptureCounted
    quiet := fun _ => ⟨rfl, hidle⟩
    awaits := fun ho => by cases ho.2
    active := fun hc => by cases hc
    consented := fun ha => by simp [hanalysis, Analysed] at ha
    unstarted := fun hc => by cases hc
    first := fun ho => by cases ho.2 }

theorem closed (h : Gated agg) (hopen : agg.Open) (hquiescent : agg.Quiescent) (t : Aware) :
    Gated { agg with
      completedAt := some t
      state := { agg.state with case := .closed } } :=
  { h with
    quiet := fun _ => ⟨hquiescent.1, hquiescent.2.1⟩
    awaits := fun ho => by cases ho.2
    active := fun hc => by cases hc
    consented := fun ha => .inl (h.active hopen.2)
    unstarted := fun hc => by cases hc
    first := fun ho => by cases ho.2 }

theorem verified (h : Gated agg) (hdeletion : agg.state.deletion = .pending) (t : Aware) :
    Gated { agg with
      deletedAt := some t
      state := { agg.state with deletion := .verified } } :=
  { h with
    quiet := fun _ => h.quiet fun ho => by simp [Aggregate.Open, hdeletion] at ho
    awaits := fun ho => by cases ho.1
    first := fun ho => by cases ho.1 }

/-! ## Actions -/

/-- A new action is pending, paid for from its budget. -/
theorem issue (h : Gated agg) (hopen : agg.Open) (hnothing : agg.NothingPrepared)
    (action : PendingCustomerAction) (questions plates recaptures : ℕ)
    (hfits : Fits (shapeOf agg.mediaAssets) agg.state.media (some (action.kind, action.status)))
    (hquestions : questions ≤ 2)
    (hplates : agg.ratingPlateCount ≤ plates ∧ plates ≤ 1 ∧
      (action.kind = .ratingPlate → 1 ≤ plates))
    (hrecaptures : agg.recaptureCount ≤ recaptures ∧ recaptures ≤ 1 ∧
      (action.kind = .targetedRecapture → 1 ≤ recaptures)) :
    Gated ({ agg with
      questionCount := questions
      ratingPlateCount := plates
      recaptureCount := recaptures }.awaiting action) :=
  { h with
    fits := hfits
    plateCounted := by
      rintro (hv | ⟨_, ha, hk⟩)
      · exact (h.plateCounted (.inl hv)).trans hplates.1
      · cases ha
        exact hplates.2.2 hk
    recaptureCounted := by
      rintro (hv | ⟨_, ha, hk⟩)
      · exact (h.recaptureCounted (.inl hv)).trans hrecaptures.1
      · cases ha
        exact hrecaptures.2.2 hk
    quiet := fun hn => absurd hopen hn
    awaits := fun _ => ⟨fun _ => rfl, fun _ => rfl⟩
    analysed := fun ha => by simp [Aggregate.awaiting, Analysed] at ha
    consented := fun ha => by simp [Aggregate.awaiting, Analysed] at ha
    prepared := .inl hnothing
    unstarted := fun hc => absurd hopen (not_open_of_created hc)
    first := fun _ hp => by cases hp
    questions := hquestions
    plates := hplates.2.1
    recaptures := hrecaptures.2.1 }

/-- The pending action is resolved; nothing is in flight any more. -/
theorem resolve (h : Gated agg) (hopen : agg.Open) {action : PendingCustomerAction}
    (hpending : agg.pending = some action) (resolved : PendingCustomerAction)
    (assets : Entries Str MediaAsset) (media : MediaStatus) (analysis : AnalysisStatus)
    (hkeyed : ∀ k a, Entries.find? assets k = some a → a.assetId.val = k)
    (hroles : ∀ role v, (role, v) ∈ shapeOf assets → ∃ v, (role, v) ∈ shapeOf agg.mediaAssets)
    (hfits : Fits (shapeOf assets) media none)
    (hmedia : media = .validated ∨ media = .rejected ∨ media = .unavailable)
    (hanalysis : analysis = .ready ∧ media = .validated ∨ analysis = .abstained) :
    Gated { { agg with mediaAssets := assets }.resolve resolved with
      state := { agg.state with media, analysis } } :=
  { h with
    keyed := hkeyed
    fits := hfits
    plateCounted := by
      rintro (⟨v, hv⟩ | ⟨_, ha, -⟩)
      · exact h.plateCounted (.inl (hroles _ v hv))
      · cases ha
    recaptureCounted := by
      rintro (⟨v, hv⟩ | ⟨_, ha, -⟩)
      · exact h.recaptureCounted (.inl (hroles _ v hv))
      · cases ha
    quiet := fun hn => absurd hopen hn
    awaits := fun _ => by
      obtain ⟨rfl, -⟩ | rfl := hanalysis <;> simp [Aggregate.resolve]
    analysed := fun ha => by
      obtain ⟨-, hv⟩ | rfl := hanalysis
      · exact hv
      · simp [Analysed] at ha
    consented := fun _ => .inl (h.active hopen.2)
    prepared := .inl (h.nothing_of_pending hopen hpending)
    unstarted := fun hc => absurd hopen (not_open_of_created hc)
    first := fun _ _ hu => by
      obtain rfl | rfl | rfl := hmedia <;> simp [Unjudged, InFlight] at hu
    resolved := by
      simp only [Aggregate.resolve, lastFour, List.length_drop]
      omega }

/-! ## Media -/

/-- While media is being collected, analysis has not begun. -/
theorem not_analysed (h : Gated agg) (hopen : agg.Open)
    (hunjudged : agg.pending = none → Unjudged agg.state.media) :
    ¬ Analysed agg.state.analysis := by
  intro ha
  cases hpending : agg.pending with
  | none => simp [h.first hopen hpending (hunjudged hpending), Analysed] at ha
  | some action =>
    have hawaiting := (h.awaits hopen).mp (by rw [hpending]; rfl)
    simp [hawaiting, Analysed] at ha

/-- An upload starts, or ends. -/
theorem upload (h : Gated agg) (hopen : agg.Open) (assets : Entries Str MediaAsset)
    (pending : Option PendingCustomerAction) (media : MediaStatus)
    (hkeyed : ∀ k a, Entries.find? assets k = some a → a.assetId.val = k)
    (hfits : Fits (shapeOf assets) media (pending.map fun action => (action.kind, action.status)))
    (hsame : pending.map (·.kind) = agg.pending.map (·.kind))
    (hplates : (∃ v, (.ratingPlate, v) ∈ shapeOf assets) → 1 ≤ agg.ratingPlateCount)
    (hrecaptures : (∃ v, (.targetedRecapture, v) ∈ shapeOf assets) → 1 ≤ agg.recaptureCount)
    (hunjudged : agg.pending = none → Unjudged agg.state.media) :
    Gated { agg with
      mediaAssets := assets
      pending := pending
      state := { agg.state with media } } := by
  have hkinds : ∀ kind, (∃ action ∈ pending, action.kind = kind) →
      ∃ action ∈ agg.pending, action.kind = kind := by
    rintro _ ⟨action, ha, rfl⟩
    rw [Option.mem_def.mp ha] at hsame
    obtain ⟨before, hb, hk⟩ := Option.map_eq_some_iff.mp hsame.symm
    exact ⟨before, hb, hk⟩
  have hsome : pending.isSome = agg.pending.isSome := by
    have := congrArg Option.isSome hsame
    simpa only [Option.isSome_map] using this
  have hnot := h.not_analysed hopen hunjudged
  exact { h with
    keyed := hkeyed
    fits := hfits
    plateCounted := by
      rintro (hv | ha)
      · exact hplates hv
      · exact h.plateCounted (.inr (hkinds _ ha))
    recaptureCounted := by
      rintro (hv | ha)
      · exact hrecaptures hv
      · exact h.recaptureCounted (.inr (hkinds _ ha))
    quiet := fun hn => absurd hopen hn
    awaits := fun _ => by
      rw [← h.awaits hopen, hsome]
    analysed := fun ha => absurd ha hnot
    consented := fun ha => absurd ha hnot
    unstarted := fun hc => absurd hopen (not_open_of_created hc)
    first := fun _ hp _ => by
      have hp : agg.pending = none := by
        rw [← Option.not_isSome_iff_eq_none, ← hsome]
        simp [show pending = none from hp]
      exact h.first hopen hp (hunjudged hp) }

theorem keyed_set (h : Gated agg) (asset : MediaAsset) :
    ∀ k a, Entries.find? (Entries.set agg.mediaAssets asset.assetId.val asset) k = some a →
      a.assetId.val = k := by
  intro k a ha
  rw [Entries.find?_set] at ha
  split at ha
  · rename_i hk
    cases ha
    exact hk
  · exact h.keyed k a ha

theorem keyed_withValidation (h : Gated agg) {assetId : Str} {asset : MediaAsset}
    (hfind : Entries.find? agg.mediaAssets assetId = some asset) (v : MediaValidation) :
    Entries.find? agg.mediaAssets asset.assetId.val = some asset ∧
      ∀ k a, Entries.find? (agg.withValidation asset v) k = some a → a.assetId.val = k := by
  refine ⟨by rw [h.keyed _ _ hfind]; exact hfind, ?_⟩
  exact h.keyed_set { asset with validation := v }

/-- An asset is judged. -/
theorem judge (h : Gated agg) (hopen : agg.Open) {assetId : Str} {asset : MediaAsset}
    (hfind : Entries.find? agg.mediaAssets assetId = some asset)
    (hmedia : agg.state.media = .uploadedQuarantined) (hpending : asset.validation = .pending)
    {validation : MediaValidation} {final media : MediaStatus} {analysis : AnalysisStatus}
    {assets : Entries Str MediaAsset} (hfinal : mediaState validation = .ok final)
    (hassets : assets = agg.withValidation asset validation)
    (hmedia' : media = if asset.role ≠ .symptomVideo ∧
      { agg with mediaAssets := assets }.hasValidatedSymptomEvidence then .validated else final)
    (hanalysis : analysis = if agg.pending = none then
        if validation = .validated then .ready else .abstained
      else .awaitingCustomerAction) :
    Gated { agg with mediaAssets := assets, state := { agg.state with media, analysis } } := by
  obtain ⟨hfind, hkeyed⟩ := h.keyed_withValidation hfind validation
  rw [← hassets] at hkeyed
  obtain ⟨l₁, l₂, hshape, hset⟩ := Aggregate.shape_withValidation hfind
  have hset := hassets ▸ hset validation
  have hfits : Fits (shapeOf assets) media agg.turn := by
    have hf := h.fits
    rw [hshape, hmedia, hpending] at hf
    have := hf.validate hfinal
    rw [← hset] at this
    rw [hmedia']
    simpa only [Aggregate.hasValidatedSymptomEvidence_iff] using this
  have hroles : ∀ role v, (role, v) ∈ shapeOf assets →
      ∃ v, (role, v) ∈ shapeOf agg.mediaAssets := by
    intro role v hv
    rw [hset] at hv
    rw [hshape]
    exact role_of_verdict hv
  have hjudged : media = .validated ∨ media = .rejected ∨ media = .unavailable := by
    rw [hmedia']
    split
    · exact .inl rfl
    · cases validation <;> cases hfinal <;> simp
  have hnothing : agg.NothingPrepared := by
    cases hp : agg.pending with
    | none =>
      refine h.prepared.resolve_right fun hc => ?_
      have hna := h.first hopen hp (.inr (.inr (.inr hmedia)))
      simp [Aggregate.Concluded, hna] at hc
    | some action => exact h.nothing_of_pending hopen hp
  exact { h with
    keyed := hkeyed
    fits := hfits
    plateCounted := by
      rintro (⟨v, hv⟩ | ha)
      · exact h.plateCounted (.inl (hroles _ v hv))
      · exact h.plateCounted (.inr ha)
    recaptureCounted := by
      rintro (⟨v, hv⟩ | ha)
      · exact h.recaptureCounted (.inl (hroles _ v hv))
      · exact h.recaptureCounted (.inr ha)
    quiet := fun hn => absurd hopen hn
    awaits := fun _ => by
      rw [hanalysis]
      cases agg.pending with
      | none => by_cases hv : validation = .validated <;> simp [hv]
      | some action => simp
    analysed := fun ha => by
      have hv : validation = .validated := by
        by_contra hv
        rw [hanalysis] at ha
        split at ha <;> simp [Analysed] at ha
      subst hv
      cases hfinal
      simpa using hmedia'
    consented := fun _ => .inl (h.active hopen.2)
    prepared := .inl hnothing
    unstarted := fun hc => absurd hopen (not_open_of_created hc)
    first := fun _ _ hu => by
      obtain rfl | rfl | rfl := hjudged <;> simp [Unjudged, InFlight] at hu }

/-- A media action is resolved. -/
theorem settle (h : Gated agg) (hopen : agg.Open) {action : PendingCustomerAction}
    (hpending : agg.pending = some action) {role : MediaRole} {status : ActionStatus}
    {assets : Entries Str MediaAsset} {media : MediaStatus} {analysis : AnalysisStatus}
    (hrole : roleForAction action.kind = .ok role) (hsettled : Settled agg action role status assets)
    (resolved : PendingCustomerAction)
    (hmedia : media = if Aborts status ∧ InFlight agg.state.media then
        if { agg with mediaAssets := assets }.hasValidatedSymptomEvidence then .validated
        else .rejected
      else agg.state.media)
    (hanalysis : analysis = if status = .fulfilled ∨
      { agg with mediaAssets := assets }.hasValidatedSymptomEvidence then .ready
      else .abstained) :
    Gated { { agg with mediaAssets := assets }.resolve resolved with
      state := { agg.state with media, analysis } } := by
  have hfits := h.fits_pending hpending
  -- the assets stay as they are, and nothing is in flight
  have hstay : ¬ InFlight agg.state.media → (status = .fulfilled → Evidence (shapeOf agg.mediaAssets)) →
      assets = agg.mediaAssets →
      Gated { { agg with mediaAssets := assets }.resolve resolved with
        state := { agg.state with media, analysis } } := by
    rintro hidle hful rfl
    rw [if_neg fun hm => hidle hm.2] at hmedia
    subst hmedia
    refine h.resolve hopen hpending resolved _ _ analysis h.keyed (fun role v hv => ⟨v, hv⟩)
      (hfits.drop hidle) (hfits.judged_of_idle hidle) ?_
    rw [hanalysis]
    split
    · rename_i hready
      refine .inl ⟨rfl, hfits.validated_of_idle hidle ?_⟩
      exact hready.elim hful Aggregate.hasValidatedSymptomEvidence_iff.mp
    · exact .inr rfl
  cases hsettled with
  | fulfilled assetId asset hstatus hsubmitted hfind hassetRole hvalidated =>
    have hmem := Aggregate.mem_shape_of_find? hfind
    rw [hassetRole, hvalidated] at hmem
    exact hstay (hfits.idle_of_settled hrole (.inr ⟨hsubmitted, hmem, by decide⟩))
      (fun _ => (hsubmitted ▸ hfits).evidence_of_fulfilled hrole hmem) rfl
  | untouched hstatus hissued =>
    exact hstay (hfits.idle_of_settled (v := .pending) hrole (.inl hissued))
      (fun hf => absurd hf hstatus) rfl
  | judged assetId asset hstatus hsubmitted hfind hassetRole hfinal =>
    have hmem := Aggregate.mem_shape_of_find? hfind
    rw [hassetRole] at hmem
    exact hstay (hfits.idle_of_settled hrole (.inr ⟨hsubmitted, hmem, hfinal⟩))
      (fun hf => absurd hf hstatus) rfl
  | givenUp assetId asset hstatus hfind hassetRole hgiven =>
    obtain ⟨hfind, hkeyed⟩ := h.keyed_withValidation hfind .unavailable
    obtain ⟨l₁, l₂, hshape, hset⟩ := Aggregate.shape_withValidation hfind
    have hset := hset .unavailable
    rw [hassetRole] at hshape hset
    obtain ⟨hflight, hfits⟩ := (hshape ▸ hfits).abort hrole hgiven
    rw [← hset] at hfits
    have hnf : status ≠ .fulfilled := by
      obtain rfl | rfl := hstatus <;> decide
    simp only [if_pos (And.intro hstatus hflight), hnf, false_or,
      Aggregate.hasValidatedSymptomEvidence_iff] at hmedia hanalysis
    rw [← hmedia] at hfits
    refine h.resolve hopen hpending resolved _ media analysis hkeyed ?_ hfits ?_ ?_
    · intro role' v hv
      rw [hset] at hv
      rw [hshape]
      exact role_of_verdict hv
    · rw [hmedia]
      split <;> simp
    · rw [hmedia, hanalysis]
      split <;> simp

/-! ## Analysis and outputs -/

/-- Analysis moves on, from a status that media was validated for. -/
theorem analyse (h : Gated agg) (hopen : agg.Open) (hfrom : Analysed agg.state.analysis)
    (hnot : ¬ agg.Concluded ∨ agg.NothingPrepared) (analysis : AnalysisStatus) (retries : ℕ)
    (hto : Analysed analysis ∨ analysis = .abstained) (hretries : retries ≤ 3) :
    Gated { agg with
      analysisRetryCount := retries
      state := { agg.state with analysis } } := by
  have hmedia := h.analysed hfrom
  have hne : analysis ≠ .awaitingCustomerAction := by
    rintro rfl
    simp [Analysed] at hto
  exact { h with
    quiet := fun hn => absurd hopen hn
    awaits := fun _ => by
      have hpending : agg.pending = none := by
        rw [← Option.not_isSome_iff_eq_none, h.awaits hopen]
        intro ha
        simp [ha, Analysed] at hfrom
      simp [hpending, hne]
    analysed := fun _ => hmedia
    consented := fun _ => .inl (h.active hopen.2)
    prepared := .inl (hnot.elim h.prepared.resolve_right id)
    unstarted := fun hc => absurd hopen (not_open_of_created hc)
    first := fun _ _ hu => by
      simp [Unjudged, InFlight, hmedia] at hu
    analysisRetries := hretries }

/-- An output moves on; analysis has concluded. -/
theorem output (h : Gated agg) (hconcluded : agg.Concluded) (packet : PacketStatus)
    (delivery : DeliveryStatus) (policyReceiptRef : Option Str) :
    Gated { agg with
      policyReceiptRef := policyReceiptRef
      state := { agg.state with contractorPacket := packet, customerDelivery := delivery } } :=
  { h with
    prepared := .inr hconcluded }

end Gated

/-- **Every accepted event keeps the invariant.** -/
theorem gated_of_did {agg agg' : Aggregate} {e : VisualTriageEvent} (h : Gated agg)
    (hd : Did e agg agg') : Gated agg' := by
  cases hd with
  | created => exact { h with }
  | asked hkind hcase hconsent => exact h.asked hcase
  | granted hkind hdeletion hcase hconsent => exact h.granted hdeletion hcase
  | declined hkind hdeletion hcase hcreated => exact h.declined hcase e.eventTime
  | withdrawn hkind hopen hcreated hactive =>
    exact h.finish .cancelled .withdrawn _ _ _ _ (by simp) (by simp) (by simp) (by simp)
  | plateIssued action hkind hopen hpending hdue hnothing hcreated hresolved haction hissued =>
    obtain ⟨hcount, hmedia, -, hvideo⟩ := hdue
    rw [Aggregate.hasValidatedRole_iff] at hvideo
    refine h.issue hopen hnothing action _ _ _ ?_ h.questions (by omega)
      ⟨le_rfl, h.recaptures, by simp [haction]⟩
    rw [haction, hissued, hmedia]
    refine (hmedia ▸ h.fits_idle hpending).askPlate hvideo fun v hv => ?_
    have := h.plateCounted (.inl ⟨v, hv⟩)
    omega
  | recaptureIssued action hkind hopen hpending hcount hmedia hnothing hcreated hresolved haction
      hissued =>
    refine h.issue hopen hnothing action _ _ _ ?_ h.questions
      ⟨le_rfl, h.plates, by simp [haction]⟩ (by omega)
    rw [haction, hissued, hmedia]
    refine (hmedia ▸ h.fits_idle hpending).askRecapture fun v hv => ?_
    have := h.recaptureCounted (.inl ⟨v, hv⟩)
    omega
  | questionIssued action hkind hopen hpending hconcluded hnothing hcount hcreated hresolved haction
      hissued =>
    refine h.issue hopen hnothing action _ _ _ ?_ (by omega)
      ⟨le_rfl, h.plates, by simp [haction]⟩ ⟨le_rfl, h.recaptures, by simp [haction]⟩
    rw [haction, hissued]
    exact (h.fits_idle hpending).askQuestion (h.judged_of_concluded hopen hpending hconcluded)
  | questionResolved action resolved analysis hkind hopen hpending haction htime hissuedAt
      hresolvedAt hanalysis =>
    have hfits := h.fits_pending hpending
    have hidle := (haction ▸ hfits).idle_of_question
    refine h.resolve hopen hpending resolved agg.mediaAssets agg.state.media analysis h.keyed
      (fun role v hv => ⟨v, hv⟩) (hfits.drop hidle) (hfits.judged_of_idle hidle) ?_
    refine hanalysis.imp_left fun ⟨hready, he⟩ => ⟨hready, ?_⟩
    rw [Aggregate.hasValidatedSymptomEvidence_iff] at he
    exact hfits.validated_of_idle hidle he
  | videoStarted asset hkind hopen hpending hmedia hfresh hrole hvalidation =>
    have hshape := Aggregate.shape_upload hfresh
    rw [hrole, hvalidation] at hshape
    refine h.upload hopen _ agg.pending .uploadPending (h.keyed_set asset) ?_ rfl ?_ ?_
      fun _ => .inr (.inl hmedia)
    · rw [hshape, hpending]
      exact (hmedia ▸ h.fits_idle hpending).startVideo
    · rw [hshape]
      rintro ⟨v, hv⟩
      exact h.plateCounted (.inl ⟨v, by simpa using hv⟩)
    · rw [hshape]
      rintro ⟨v, hv⟩
      exact h.recaptureCounted (.inl ⟨v, by simpa using hv⟩)
  | uploadStarted action asset hkind hopen hpending hissued hfresh hrole hvalidation =>
    have hshape := Aggregate.shape_upload hfresh
    rw [hvalidation] at hshape
    have hkind := roleForAction_eq_ok hrole
    refine h.upload hopen _ (some { action with status := .uploading }) .uploadPending
      (h.keyed_set asset) ?_ (by rw [hpending]; rfl) ?_ ?_ (by simp [hpending])
    · rw [hshape]
      exact (hissued ▸ h.fits_pending hpending).startUpload hrole
    · rw [hshape]
      rintro ⟨v, hv⟩
      refine h.plateCounted ?_
      obtain hv | hv := List.mem_append.mp hv
      · exact .inl ⟨v, hv⟩
      · simp only [List.mem_singleton, Prod.mk.injEq] at hv
        obtain ⟨hk, -⟩ | ⟨-, hr⟩ := hkind
        · exact .inr ⟨action, hpending, hk⟩
        · exact absurd (hv.1.trans hr) (by decide)
    · rw [hshape]
      rintro ⟨v, hv⟩
      refine h.recaptureCounted ?_
      obtain hv | hv := List.mem_append.mp hv
      · exact .inl ⟨v, hv⟩
      · simp only [List.mem_singleton, Prod.mk.injEq] at hv
        obtain ⟨-, hr⟩ | ⟨hk, -⟩ := hkind
        · exact absurd (hv.1.trans hr) (by decide)
        · exact .inr ⟨action, hpending, hk⟩
  | videoFinalized hkind hopen hpending hmedia =>
    refine h.upload hopen agg.mediaAssets agg.pending .uploadedQuarantined h.keyed ?_ rfl
      (fun hv => h.plateCounted (.inl hv)) (fun hv => h.recaptureCounted (.inl hv))
      fun _ => .inr (.inr (.inl hmedia))
    rw [hpending]
    exact (hmedia ▸ h.fits_idle hpending).finalizeVideo
  | uploadFinalized action hkind hopen hpending hmedia huploading =>
    exact h.upload hopen agg.mediaAssets (some { action with status := .submitted })
      .uploadedQuarantined h.keyed (hmedia ▸ huploading ▸ h.fits_pending hpending).finalizeUpload
      (by rw [hpending]; rfl) (fun hv => h.plateCounted (.inl hv))
      (fun hv => h.recaptureCounted (.inl hv)) (by simp [hpending])
  | mediaValidated assetId asset validation final media analysis assets hkind hopen hfind hmedia
      hjudged hfinal hassets hmedia' hanalysis =>
    exact h.judge hopen hfind hmedia hjudged hfinal hassets hmedia' hanalysis
  | actionResolved action resolved role status assets media analysis hkind hopen hpending hrole htime
      hsettled hissuedAt hresolvedAt hmedia hanalysis =>
    exact h.settle hopen hpending hrole hsettled resolved hmedia hanalysis
  | analysisStarted hkind hopen hpending hanalysis hmedia =>
    exact h.analyse hopen (.inl hanalysis) (.inl (by simp [Aggregate.Concluded, hanalysis]))
      .processing agg.analysisRetryCount (.inl (.inr (.inl rfl))) h.analysisRetries
  | retried hkind hopen hanalysis hcount =>
    exact h.analyse hopen (by simp [Analysed, hanalysis])
      (.inl (by simp [Aggregate.Concluded, hanalysis])) .ready _ (.inl (.inl rfl)) hcount
  | analysisEnded analysis hopen hprocessing hkind =>
    refine h.analyse hopen (.inr (.inl hprocessing))
      (.inl (by simp [Aggregate.Concluded, hprocessing])) analysis agg.analysisRetryCount ?_
      h.analysisRetries
    obtain ⟨-, rfl | rfl⟩ | ⟨-, rfl | ⟨rfl, -⟩⟩ := hkind <;> simp [Analysed]
  | packetMoved packet hopen hkind =>
    refine h.output ?_ packet agg.state.customerDelivery agg.policyReceiptRef
    obtain ⟨-, -, hc, -⟩ | ⟨-, hp, -⟩ | ⟨-, hp, -⟩ := hkind
    · exact hc
    · exact h.prepared.resolve_left (by simp [Aggregate.NothingPrepared, hp])
    · exact h.prepared.resolve_left (by simp [Aggregate.NothingPrepared, hp])
  | deliveryMoved delivery policyReceiptRef hopen hkind =>
    refine h.output ?_ agg.state.contractorPacket delivery policyReceiptRef
    obtain ⟨-, -, hc, -⟩ | ⟨-, hp, -⟩ | ⟨-, hp, -⟩ := hkind
    · exact hc
    · exact h.prepared.resolve_left (by simp [Aggregate.NothingPrepared, hp])
    · exact h.prepared.resolve_left (by simp [Aggregate.NothingPrepared, hp])
  | closed hkind hopen hquiescent hcreated hactive => exact h.closed hopen hquiescent e.eventTime
  | ended status expiresAt hkind hdeletion hcase hcreated hactive =>
    have hne : status ≠ .active ∧ status ≠ .created := by
      obtain ⟨-, rfl⟩ | ⟨-, rfl⟩ := hkind <;> simp
    refine h.finish status _ _ _ _ _ (by simp [hne]) (by simp [hne]) (fun ha => ?_) (by simp [hne])
    rw [Aggregate.finalized_state]
    obtain hc | hc := hcase
    · simp [(h.unstarted hc).2.1, Analysed] at ha
    · exact .inl (h.active hc)
  | deletionRequested hkind hdeletion hcreated hactive =>
    refine h.finish _ _ .pending _ _ _ (by simp) ?_ ?_ ?_
    all_goals rw [Aggregate.finalized_state]
    · exact h.active
    · exact h.consented
    · exact id
  | deletionRetried hkind hdeletion hcount => exact { h with deletionRetries := hcount }
  | deletionVerified hkind hdeletion hcreated hrequested hactive =>
    exact h.verified hdeletion e.eventTime

end HeyKevin.L8.Triage
