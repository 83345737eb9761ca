import HeyKevin.L8Triage.Gating
/-!
# How many events a case can accept

Two potentials bound the receipts of a case. `remaining` counts the ordinary
events that can still be accepted: what is left of the present stage, four for
each question, seven for each media action (five to carry it out, two to
analyse again), three for each retry, and three for each output. `endings`
counts the control events.

* `remaining_step`, `endings_step`: every accepted event takes its own lane's
  potential down and leaves the other's alone.
-/
namespace HeyKevin.L8.Triage

open HeyKevin.Core L1 L1.Text L1.Datetime
open Aggregate (InFlight)

namespace Aggregate

/-- What is left of the pending action. -/
def actionCost (agg : Aggregate) : ℕ :=
  match agg.pending with
  | none => 0
  | some action =>
    match action.kind, action.status with
    | .diagnosticQuestion, _ => 3
    | _, .issued => 6
    | _, .uploading => 5
    | _, _ => if agg.state.media = .uploadedQuarantined then 4 else 3

/-- What is left of the first upload. -/
def uploadCost : MediaStatus → ℕ
  | .awaitingRequired => 5
  | .uploadPending => 4
  | .uploadedQuarantined => 3
  | _ => 0

def analysisCost (agg : Aggregate) : ℕ :=
  match agg.state.analysis with
  | .notStarted => uploadCost agg.state.media
  | .ready => 2
  | .processing => 1
  | .awaitingCustomerAction => agg.actionCost
  | _ => 0

/-- What is left of the stage the case is in. -/
def stageCost (agg : Aggregate) : ℕ :=
  match agg.state.case with
  | .created =>
    if agg.caseId = none then 8 else if agg.state.consent = .notRequested then 7 else 6
  | .active => agg.analysisCost
  | _ => 0

def budgetCost (agg : Aggregate) : ℕ :=
  4 * (2 - agg.questionCount) + 7 * (1 - agg.ratingPlateCount) + 7 * (1 - agg.recaptureCount) +
    3 * (3 - agg.analysisRetryCount)

def packetCost : PacketStatus → ℕ
  | .notReady => 3
  | .ready => 2
  | .deliveryPending => 1
  | _ => 0

def deliveryCost : DeliveryStatus → ℕ
  | .notEvaluated => 3
  | .policyReceiptRecorded => 2
  | .deliveryPending => 1
  | _ => 0

/-- The ordinary events that can still be accepted. -/
def remaining (agg : Aggregate) : ℕ :=
  agg.stageCost + agg.budgetCost + packetCost agg.state.contractorPacket +
    deliveryCost agg.state.customerDelivery

def deletionCost (agg : Aggregate) : ℕ :=
  match agg.state.deletion with
  | .notRequested => 2 + (3 - agg.deletionRetryCount)
  | .pending => 1 + (3 - agg.deletionRetryCount)
  | .verified => 0

/-- The control events that can still be accepted. -/
def endings (agg : Aggregate) : ℕ :=
  (if agg.state.case = .created ∨ agg.state.case = .active then 1 else 0) + agg.deletionCost

end Aggregate

open Aggregate

theorem remaining_initial : Aggregate.initial.remaining = 45 := by decide

theorem endings_initial : Aggregate.initial.endings = 6 := by decide

variable {agg agg' : Aggregate} {e : VisualTriageEvent}

/-- Control events are accepted as long as a deletion was not verified. -/
theorem endings_pos (h : agg.state.deletion ≠ .verified) : 1 ≤ agg.endings := by
  unfold endings deletionCost
  cases hd : agg.state.deletion with
  | verified => exact absurd hd h
  | _ => simp only; omega

/-! ## Lanes -/

theorem ordinary_of {k : EventKind} {n m : ℕ} (hkind : e.kind = k) (hk : k ∉ controlKinds)
    (h : n + 1 ≤ m) : n + (if e.kind ∈ controlKinds then 0 else 1) ≤ m := by
  rwa [hkind, if_neg hk]

theorem control_of {k : EventKind} {n m : ℕ} (hkind : e.kind = k) (hk : k ∈ controlKinds)
    (h : n ≤ m) : n + (if e.kind ∈ controlKinds then 0 else 1) ≤ m := by
  rwa [hkind, if_pos hk]

/-- Every control event takes one of the endings, and no other event does. -/
theorem endings_step (hd : Did e agg agg') :
    agg'.endings + (if e.kind ∈ controlKinds then 1 else 0) ≤ agg.endings := by
  have hordinary : ∀ k, e.kind = k → k ∉ controlKinds → agg'.endings ≤ agg.endings →
      agg'.endings + (if e.kind ∈ controlKinds then 1 else 0) ≤ agg.endings := by
    intro k hkind hk h
    rwa [hkind, if_neg hk]
  have hcontrol : ∀ k, e.kind = k → k ∈ controlKinds → agg'.endings + 1 ≤ agg.endings →
      agg'.endings + (if e.kind ∈ controlKinds then 1 else 0) ≤ agg.endings := by
    intro k hkind hk h
    rwa [hkind, if_pos hk]
  cases hd with
  | created scenario sourceRef hkind => exact hordinary _ hkind (by decide) le_rfl
  | asked hkind => exact hordinary _ hkind (by decide) le_rfl
  | granted hkind hdeletion hcase =>
    exact hordinary _ hkind (by decide) (by simp [endings, deletionCost, hcase])
  | declined hkind hdeletion hcase =>
    exact hcontrol _ hkind (by decide) (by simp [endings, deletionCost, hcase, Nat.add_comm])
  | withdrawn hkind hopen =>
    obtain ⟨media, assets, hfin, -⟩ := finalized_eq agg
    refine hcontrol _ hkind (by decide) ?_
    simp [hfin, endings, deletionCost, hopen.2, Nat.add_comm]
  | plateIssued action hkind => exact hordinary _ hkind (by decide) le_rfl
  | recaptureIssued action hkind => exact hordinary _ hkind (by decide) le_rfl
  | questionIssued action hkind => exact hordinary _ hkind (by decide) le_rfl
  | questionResolved action resolved analysis hkind => exact hordinary _ hkind (by decide) le_rfl
  | videoStarted asset hkind => exact hordinary _ hkind (by decide) le_rfl
  | uploadStarted action asset hkind => exact hordinary _ hkind (by decide) le_rfl
  | videoFinalized hkind => exact hordinary _ hkind (by decide) le_rfl
  | uploadFinalized action hkind => exact hordinary _ hkind (by decide) le_rfl
  | mediaValidated assetId asset validation final media analysis assets hkind =>
    exact hordinary _ hkind (by decide) le_rfl
  | actionResolved action resolved role status assets media analysis hkind =>
    exact hordinary _ hkind (by decide) le_rfl
  | analysisStarted hkind => exact hordinary _ hkind (by decide) le_rfl
  | retried hkind => exact hordinary _ hkind (by decide) le_rfl
  | analysisEnded analysis hopen hprocessing hkind =>
    obtain ⟨hkind, -⟩ | ⟨hkind, -⟩ := hkind <;> exact hordinary _ hkind (by decide) le_rfl
  | packetMoved packet hopen hkind =>
    obtain ⟨hkind, -⟩ | ⟨hkind, -⟩ | ⟨hkind, -⟩ := hkind <;>
      exact hordinary _ hkind (by decide) le_rfl
  | deliveryMoved delivery policyReceiptRef hopen hkind =>
    obtain ⟨hkind, -⟩ | ⟨hkind, -⟩ | ⟨hkind, -⟩ := hkind <;>
      exact hordinary _ hkind (by decide) le_rfl
  | closed hkind hopen =>
    exact hcontrol _ hkind (by decide) (by simp [endings, deletionCost, hopen.2, Nat.add_comm])
  | ended status expiresAt hkind hdeletion hcase =>
    obtain ⟨media, assets, hfin, -⟩ := finalized_eq agg
    obtain ⟨hkind, rfl⟩ | ⟨hkind, rfl⟩ := hkind <;>
      exact hcontrol _ hkind (by decide) (by
        simp [hfin, endings, deletionCost, hcase, Nat.add_comm])
  | deletionRequested hkind hdeletion =>
    obtain ⟨media, assets, hfin, -⟩ := finalized_eq agg
    refine hcontrol _ hkind (by decide) ?_
    simp only [hfin, endings, deletionCost, hdeletion]
    omega
  | deletionRetried hkind hdeletion hcount =>
    refine hcontrol _ hkind (by decide) ?_
    simp only [endings, deletionCost, hdeletion]
    omega
  | deletionVerified hkind hdeletion =>
    refine hcontrol _ hkind (by decide) ?_
    simp only [endings, deletionCost, hdeletion]
    omega

/-! ## Stages -/

/-- Ending the case or asking for its deletion starts nothing. -/
theorem analysisCost_finalized (agg : Aggregate) : agg.finalized.analysisCost ≤ agg.analysisCost := by
  obtain ⟨media, assets, hfin, hmedia⟩ := finalized_eq agg
  rw [hfin]
  unfold analysisCost
  cases ha : agg.state.analysis with
  | notStarted =>
    obtain rfl | rfl | rfl := hmedia
    · exact le_rfl
    · exact Nat.zero_le _
    · exact Nat.zero_le _
  | awaitingCustomerAction => exact Nat.zero_le _
  | _ => exact le_rfl

theorem stageCost_pending (h : Gated agg) (hopen : agg.Open) {action : PendingCustomerAction}
    (hpending : agg.pending = some action) : agg.stageCost = agg.actionCost := by
  have hawaiting := (h.awaits hopen).mp (by rw [hpending]; rfl)
  simp only [stageCost, hopen.2, analysisCost, hawaiting]

theorem stageCost_first (h : Gated agg) (hopen : agg.Open) (hpending : agg.pending = none)
    (hu : Unjudged agg.state.media) : agg.stageCost = uploadCost agg.state.media := by
  simp only [stageCost, hopen.2, analysisCost, h.first hopen hpending hu]

/-- Every ordinary event takes one of those that remain, and no control event adds any. -/
theorem remaining_step (h : Gated agg)
    (hfresh : agg.caseId = none → e.kind = .caseCreated ∧ agg.state = Aggregate.initial.state)
    (hd : Did e agg agg') :
    agg'.remaining + (if e.kind ∈ controlKinds then 0 else 1) ≤ agg.remaining := by
  cases hd with
  | created scenario sourceRef hkind hnone =>
    refine ordinary_of hkind (by decide) ?_
    simp only [remaining, stageCost, budgetCost, hnone, (hfresh hnone).2, Aggregate.initial,
      if_true, if_false, reduceCtorEq]
    omega
  | asked hkind hcase hconsent =>
    have hsome : agg.caseId ≠ none := fun hn => by simp [(hfresh hn).1] at hkind
    refine ordinary_of hkind (by decide) ?_
    simp only [remaining, stageCost, hcase, hconsent, hsome, budgetCost, if_true, if_false,
      reduceCtorEq]
    omega
  | granted hkind hdeletion hcase hconsent =>
    have hsome : agg.caseId ≠ none := fun hn => by simp [(hfresh hn).1] at hkind
    refine ordinary_of hkind (by decide) ?_
    simp only [remaining, stageCost, hcase, hconsent, hsome, budgetCost, analysisCost,
      (h.unstarted hcase).2.1, uploadCost, if_false, reduceCtorEq]
    omega
  | declined hkind =>
    refine control_of hkind (by decide) ?_
    simp only [remaining, stageCost, budgetCost]
    omega
  | withdrawn hkind =>
    obtain ⟨media, assets, hfin, -⟩ := finalized_eq agg
    refine control_of hkind (by decide) ?_
    simp only [hfin, remaining, stageCost, budgetCost]
    omega
  | plateIssued action hkind hopen hpending hdue hnothing hcreated hresolved haction hissued =>
    have hcount := hdue.1
    refine ordinary_of hkind (by decide) ?_
    simp only [remaining, stageCost, budgetCost, awaiting, hopen.2, analysisCost, actionCost,
      haction, hissued]
    omega
  | recaptureIssued action hkind hopen hpending hcount hmedia hnothing hcreated hresolved haction
      hissued =>
    refine ordinary_of hkind (by decide) ?_
    simp only [remaining, stageCost, budgetCost, awaiting, hopen.2, analysisCost, actionCost,
      haction, hissued]
    omega
  | questionIssued action hkind hopen hpending hconcluded hnothing hcount hcreated hresolved
      haction =>
    refine ordinary_of hkind (by decide) ?_
    simp only [remaining, stageCost, budgetCost, awaiting, hopen.2, analysisCost, actionCost,
      haction]
    omega
  | questionResolved action resolved analysis hkind hopen hpending haction htime hissuedAt
      hresolvedAt hanalysis =>
    have hstage := stageCost_pending h hopen hpending
    simp only [actionCost, hpending, haction] at hstage
    refine ordinary_of hkind (by decide) ?_
    rw [remaining, remaining, hstage]
    obtain ⟨rfl, -⟩ | rfl := hanalysis <;>
      simp only [stageCost, budgetCost, resolve, hopen.2, analysisCost] <;> omega
  | videoStarted asset hkind hopen hpending hmedia =>
    have hstage := stageCost_first h hopen hpending (.inr (.inl hmedia))
    have hna := h.first hopen hpending (.inr (.inl hmedia))
    refine ordinary_of hkind (by decide) ?_
    rw [remaining, remaining, hstage, hmedia]
    simp only [stageCost, budgetCost, hopen.2, analysisCost, hna, uploadCost]
    omega
  | uploadStarted action asset hkind hopen hpending hissued hfresh' hrole =>
    have hstage := stageCost_pending h hopen hpending
    have hawaiting := (h.awaits hopen).mp (by rw [hpending]; rfl)
    refine ordinary_of hkind (by decide) ?_
    rw [remaining, remaining, hstage]
    obtain ⟨hk, -⟩ | ⟨hk, -⟩ := roleForAction_eq_ok hrole <;>
      simp only [stageCost, budgetCost, hopen.2, analysisCost, hawaiting, actionCost, hpending, hk,
        hissued] <;> omega
  | videoFinalized hkind hopen hpending hmedia =>
    have hu : Unjudged agg.state.media := .inr (.inr (.inl hmedia))
    have hstage := stageCost_first h hopen hpending hu
    refine ordinary_of hkind (by decide) ?_
    rw [remaining, remaining, hstage, hmedia]
    simp only [stageCost, budgetCost, hopen.2, analysisCost, h.first hopen hpending hu, uploadCost]
    omega
  | uploadFinalized action hkind hopen hpending hmedia huploading =>
    have hstage := stageCost_pending h hopen hpending
    have hawaiting := (h.awaits hopen).mp (by rw [hpending]; rfl)
    have hk := ((hmedia ▸ huploading ▸ h.fits_pending hpending).finalizeUpload).submitted_of_quarantined.1
    refine ordinary_of hkind (by decide) ?_
    rw [remaining, remaining, hstage]
    cases hak : action.kind with
    | diagnosticQuestion => exact absurd hak hk
    | _ =>
      simp only [stageCost, budgetCost, hopen.2, analysisCost, hawaiting, actionCost, hpending, hak,
        huploading, if_true]
      omega
  | mediaValidated assetId asset validation final media analysis assets hkind hopen hfind hmedia
      hjudged hfinal hassets hmedia' hanalysis =>
    have hne : media ≠ .uploadedQuarantined := by
      rw [hmedia']
      split
      · decide
      · cases validation <;> cases hfinal <;> decide
    refine ordinary_of hkind (by decide) ?_
    cases hpending : agg.pending with
    | none =>
      have hstage := stageCost_first h hopen hpending (.inr (.inr (.inr hmedia)))
      rw [remaining, remaining, hstage, hmedia, hanalysis, if_pos hpending]
      split <;> simp only [stageCost, budgetCost, hopen.2, analysisCost, uploadCost] <;> omega
    | some action =>
      obtain ⟨hk, hs⟩ := (hmedia ▸ h.fits_pending hpending).submitted_of_quarantined
      have hstage := stageCost_pending h hopen hpending
      rw [remaining, remaining, hstage, hanalysis, if_neg (by simp [hpending])]
      cases hak : action.kind with
      | diagnosticQuestion => exact absurd hak hk
      | _ =>
        simp only [stageCost, budgetCost, hopen.2, analysisCost, actionCost, hpending, hak, hs,
          hmedia, hne, if_true, if_false]
        omega
  | actionResolved action resolved role status assets media analysis hkind hopen hpending hrole htime
      hsettled hissuedAt hresolvedAt hmedia hanalysis =>
    have hstage := stageCost_pending h hopen hpending
    have hcost : 3 ≤ agg.actionCost := by
      simp only [actionCost, hpending]
      split <;> (try split) <;> omega
    have hafter : ∀ a : AnalysisStatus, a = .ready ∨ a = .abstained →
        ({ { agg with mediaAssets := assets }.resolve resolved with
          state := { agg.state with media, analysis := a } } : Aggregate).stageCost ≤ 2 := by
      rintro a (rfl | rfl) <;> simp [stageCost, hopen.2, analysisCost]
    have hle := hafter analysis (by rw [hanalysis]; split <;> simp)
    refine ordinary_of hkind (by decide) ?_
    rw [remaining, remaining, hstage]
    simp only [budgetCost, resolve] at hle ⊢
    omega
  | analysisStarted hkind hopen hpending hanalysis =>
    refine ordinary_of hkind (by decide) ?_
    simp only [remaining, stageCost, budgetCost, hopen.2, analysisCost, hanalysis]
    omega
  | retried hkind hopen hanalysis hcount =>
    refine ordinary_of hkind (by decide) ?_
    simp only [remaining, stageCost, budgetCost, hopen.2, analysisCost, hanalysis]
    omega
  | analysisEnded analysis hopen hprocessing hkind =>
    obtain ⟨hkind, rfl | rfl⟩ | ⟨hkind, rfl | ⟨rfl, -⟩⟩ := hkind <;>
      refine ordinary_of hkind (by decide) ?_ <;>
      simp only [remaining, stageCost, budgetCost, hopen.2, analysisCost, hprocessing] <;> omega
  | packetMoved packet hopen hkind =>
    have hstage : ∀ p, ({ agg with state := { agg.state with contractorPacket := p } } :
        Aggregate).stageCost = agg.stageCost := fun _ => rfl
    obtain ⟨hkind, -, -, hp, rfl⟩ | ⟨hkind, hp, rfl⟩ | ⟨hkind, hp, rfl | rfl⟩ := hkind <;>
      refine ordinary_of hkind (by decide) ?_ <;>
      simp only [remaining, hstage, budgetCost, hp, packetCost] <;> omega
  | deliveryMoved delivery policyReceiptRef hopen hkind =>
    have hstage : ∀ d, ({ agg with
        policyReceiptRef := policyReceiptRef
        state := { agg.state with customerDelivery := d } } : Aggregate).stageCost =
          agg.stageCost := fun _ => rfl
    obtain ⟨hkind, -, -, hp, rfl⟩ | ⟨hkind, hp, rfl⟩ | ⟨hkind, hp, rfl | rfl⟩ := hkind <;>
      refine ordinary_of hkind (by decide) ?_ <;>
      simp only [remaining, hstage, budgetCost, hp, deliveryCost] <;> omega
  | closed hkind =>
    refine control_of hkind (by decide) ?_
    simp only [remaining, stageCost, budgetCost]
    omega
  | ended status expiresAt hkind =>
    obtain ⟨media, assets, hfin, -⟩ := finalized_eq agg
    obtain ⟨hkind, rfl⟩ | ⟨hkind, rfl⟩ := hkind <;>
      refine control_of hkind (by decide) ?_ <;>
      simp only [hfin, remaining, stageCost, budgetCost] <;> omega
  | deletionRequested hkind =>
    have hcost := analysisCost_finalized agg
    obtain ⟨media, assets, hfin, -⟩ := finalized_eq agg
    refine control_of hkind (by decide) ?_
    rw [hfin] at hcost ⊢
    simp only [remaining, stageCost, budgetCost]
    cases agg.state.case with
    | active => exact Nat.add_le_add_right (Nat.add_le_add_right (Nat.add_le_add_right hcost _) _) _
    | _ => exact le_rfl
  | deletionRetried hkind => exact control_of hkind (by decide) le_rfl
  | deletionVerified hkind => exact control_of hkind (by decide) le_rfl

end HeyKevin.L8.Triage
