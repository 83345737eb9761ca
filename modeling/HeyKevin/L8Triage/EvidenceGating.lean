import HeyKevin.L8Triage.Filing
/-!
# Evidence gating over whole runs

What `Gated` means for the customer, the analysis and the outputs, and what it
takes a run to say: how many actions were issued, and that none is once an
output was prepared.

* `EvidenceGated`: of every state.
* `issued_le`: of the number of actions of each kind.
* `evidence_gating`: both, and that nothing is asked after an output.
-/
namespace HeyKevin.L8.Triage

open HeyKevin.Core L1 L1.Text L1.Datetime
open Aggregate (InFlight)

def Aggregate.Shut (agg : Aggregate) : Prop :=
  agg.state.case ∈ [CaseStatus.closed, .cancelled, .expired] ∨
    agg.state.deletion ≠ .notRequested

structure EvidenceGated (agg : Aggregate) : Prop where
  awaits : agg.state.case = .active → agg.state.deletion = .notRequested →
    (agg.pending.isSome = true ↔ agg.state.analysis = .awaitingCustomerAction)
  /-- Consent may have been withdrawn since, which cancels the case. -/
  consented : Analysed agg.state.analysis → agg.state.consent = .granted ∨
    agg.state.consent = .withdrawn ∧ agg.state.case = .cancelled
  evidence : Analysed agg.state.analysis → ∃ e ∈ agg.mediaAssets,
    (e.2.role = .symptomVideo ∨ e.2.role = .targetedRecapture) ∧ e.2.validation = .validated
  validated : agg.state.analysis = .ready ∨ agg.state.analysis = .processing →
    agg.state.media = .validated
  prepared : agg.state.contractorPacket ≠ .notReady ∨ agg.state.customerDelivery ≠ .notEvaluated →
    agg.state.analysis = .complete ∨ agg.state.analysis = .abstained
  shut : agg.Shut → agg.pending = none ∧ (∀ e ∈ agg.mediaAssets, e.2.validation ≠ .pending) ∧
    agg.state.media ≠ .uploadPending ∧ agg.state.media ≠ .uploadedQuarantined

theorem Gated.evidenceGated {agg : Aggregate} (h : Gated agg) : EvidenceGated agg where
  awaits := fun hcase hdeletion => h.awaits ⟨hdeletion, hcase⟩
  consented := h.consented
  evidence := fun ha => by
    have he := (h.analysed ha ▸ h.fits).evidence
    simp only [Evidence, shapeOf, List.mem_map, Prod.mk.injEq] at he
    obtain ⟨e, he, hrole, hv⟩ | ⟨e, he, hrole, hv⟩ := he
    · exact ⟨e, he, .inl hrole, hv⟩
    · exact ⟨e, he, .inr hrole, hv⟩
  validated := fun ha => h.analysed (by
    obtain ha | ha := ha
    · exact .inl ha
    · exact .inr (.inl ha))
  prepared := fun hp => h.prepared.resolve_left fun hn => by
    obtain hp | hp := hp
    · exact hp hn.1
    · exact hp hn.2
  shut := fun hs => by
    have hnot : ¬ agg.Open := by
      rintro ⟨hdeletion, hcase⟩
      obtain hc | hd := hs
      · simp [hcase] at hc
      · exact hd hdeletion
    obtain ⟨hpending, hidle⟩ := h.quiet hnot
    refine ⟨hpending, fun e he => ?_, fun hm => hidle (.inl hm), fun hm => hidle (.inr hm)⟩
    exact h.fits.settled hidle _ (List.mem_map_of_mem he)

theorem gated_run (P : Python) (events : List VisualTriageEvent) :
    Gated ((apply P).run State.fresh events).toAggregate :=
  (apply P).reachable_inv (I := fun s => Gated s.toAggregate) .initial
    (fun s e h => apply_inv s e (fun _ => gated_of_did h) h) ⟨events, rfl⟩

/-! ## Issued actions -/

/-- The kinds of event that ask something of the customer. -/
def issueKinds : List EventKind := [.mediaActionIssued, .diagnosticQuestionIssued]

/-- The kind of action that an event issued. -/
def issuedKind (a : LogEvent) : Option ActionKind :=
  if accepted a ∧ a.call.kind ∈ issueKinds then a.post.pending.map (·.kind) else none

def ActionKind.budget : ActionKind → ℕ
  | .diagnosticQuestion => 2
  | .ratingPlate => 1
  | .targetedRecapture => 1

def Aggregate.issuedCount (agg : Aggregate) : ActionKind → ℕ
  | .diagnosticQuestion => agg.questionCount
  | .ratingPlate => agg.ratingPlateCount
  | .targetedRecapture => agg.recaptureCount

theorem Gated.issuedCount_le {agg : Aggregate} (h : Gated agg) (k : ActionKind) :
    agg.issuedCount k ≤ k.budget := by
  cases k with
  | diagnosticQuestion => exact h.questions
  | ratingPlate => exact h.plates
  | targetedRecapture => exact h.recaptures

/-- An issuing event leaves an action pending, counted under its kind; it finds
the case open and nothing prepared. Any other event leaves the counts alone. -/
theorem issued_of_did {e : VisualTriageEvent} {agg agg' : Aggregate} (hd : Did e agg agg') :
    (e.kind ∈ issueKinds → agg.NothingPrepared ∧ ∃ action, agg'.pending = some action ∧
      ∀ k, agg'.issuedCount k = agg.issuedCount k + if action.kind = k then 1 else 0) ∧
    (e.kind ∉ issueKinds → agg'.issuedCount = agg.issuedCount) := by
  obtain ⟨media, assets, hfin, -⟩ := Aggregate.finalized_eq agg
  cases hd with
  | plateIssued action hkind hopen hpending hdue hnothing hcreated hresolved haction =>
    refine ⟨fun _ => ⟨hnothing, action, rfl, fun k => ?_⟩, by simp [issueKinds, hkind]⟩
    rw [haction]
    cases k <;> rfl
  | recaptureIssued action hkind hopen hpending hcount hmedia hnothing hcreated hresolved haction =>
    refine ⟨fun _ => ⟨hnothing, action, rfl, fun k => ?_⟩, by simp [issueKinds, hkind]⟩
    rw [haction]
    cases k <;> rfl
  | questionIssued action hkind hopen hpending hconcluded hnothing hcount hcreated hresolved
      haction =>
    refine ⟨fun _ => ⟨hnothing, action, rfl, fun k => ?_⟩, by simp [issueKinds, hkind]⟩
    rw [haction]
    cases k <;> rfl
  | withdrawn hkind => exact ⟨by simp [issueKinds, hkind], fun _ => by rw [hfin]; rfl⟩
  | ended status expiresAt hkind =>
    refine ⟨?_, fun _ => by rw [hfin]; rfl⟩
    obtain ⟨hk, -⟩ | ⟨hk, -⟩ := hkind <;> simp [issueKinds, hk]
  | deletionRequested hkind => exact ⟨by simp [issueKinds, hkind], fun _ => by rw [hfin]; rfl⟩
  | analysisEnded analysis hopen hprocessing hkind =>
    refine ⟨?_, fun _ => rfl⟩
    obtain ⟨hk, -⟩ | ⟨hk, -⟩ := hkind <;> simp [issueKinds, hk]
  | packetMoved packet hopen hkind =>
    refine ⟨?_, fun _ => rfl⟩
    obtain ⟨hk, -⟩ | ⟨hk, -⟩ | ⟨hk, -⟩ := hkind <;> simp [issueKinds, hk]
  | deliveryMoved delivery policyReceiptRef hopen hkind =>
    refine ⟨?_, fun _ => rfl⟩
    obtain ⟨hk, -⟩ | ⟨hk, -⟩ | ⟨hk, -⟩ := hkind <;> simp [issueKinds, hk]
  | _ => exact ⟨by simp_all [issueKinds], fun _ => rfl⟩

theorem prepared_of_did {e : VisualTriageEvent} {agg agg' : Aggregate} (hd : Did e agg agg')
    (h : ¬ agg.NothingPrepared) : ¬ agg'.NothingPrepared := by
  obtain ⟨media, assets, hfin, -⟩ := Aggregate.finalized_eq agg
  cases hd with
  | withdrawn => rw [hfin]; exact h
  | ended => rw [hfin]; exact h
  | deletionRequested => rw [hfin]; exact h
  | packetMoved packet hopen hkind =>
    rintro ⟨hp, -⟩
    obtain ⟨-, -, -, -, rfl⟩ | ⟨-, -, rfl⟩ | ⟨-, -, rfl | rfl⟩ := hkind <;> cases hp
  | deliveryMoved delivery policyReceiptRef hopen hkind =>
    rintro ⟨-, hp⟩
    obtain ⟨-, -, -, -, rfl⟩ | ⟨-, -, rfl⟩ | ⟨-, -, rfl | rfl⟩ := hkind <;> cases hp
  | _ => exact h

/-! ## Runs -/

theorem reject_refuses {P : Python} {s : State} {r : Refusal} {d : Decision}
    (h : reject P s r = .ok d) : d.accepted = false := by
  simp only [reject] at h
  obtain ⟨projection, -, rfl⟩ := map_eq_ok.mp h
  rfl

theorem replay_replays {P : Python} {s : State} {r : Receipt} {d : Decision}
    (h : replay P s r = .ok d) : d.replayed = true := by
  simp only [replay, bind_eq_ok, pure_eq_ok, Except.ok.injEq] at h
  obtain ⟨p, -, rfl⟩ := h
  rfl

theorem did_of_accepted {P : Python} {s : State} {e : VisualTriageEvent}
    (h : accepted ((apply P).event s e) = true) :
    Did e s.toAggregate (apply P s e).1.toAggregate := by
  have hstep := apply_stepped P s e
  rw [accepted, Machine.event_resp] at h
  generalize apply P s e = out at hstep h ⊢
  cases hstep with
  | refused r hwhy =>
    cases hr : reject P s r with
    | error => simp [hr] at h
    | ok d => simp [hr, reject_refuses hr] at h
  | replayed prior hseen =>
    cases hr : replay P s prior with
    | error => simp [hr] at h
    | ok d => simp [hr, replay_replays hr] at h
  | accepted agg r hadmitted hdid => exact hdid

theorem issued_step {P : Python} {s : State} {e : VisualTriageEvent} {n : ℕ} (k : ActionKind)
    (h : n ≤ s.issuedCount k) :
    n + (if issuedKind ((apply P).event s e) = some k then 1 else 0) ≤
      (apply P s e).1.issuedCount k := by
  have hle : s.issuedCount k ≤ (apply P s e).1.issuedCount k :=
    apply_inv (I := fun agg => s.issuedCount k ≤ agg.issuedCount k) s e (fun agg' hd => by
      obtain ⟨hissue, hother⟩ := issued_of_did hd
      by_cases hk : e.kind ∈ issueKinds
      · obtain ⟨-, action, -, hcount⟩ := hissue hk
        rw [hcount]
        omega
      · rw [hother hk]) (le_refl _)
  split
  · rename_i hissued
    rw [issuedKind] at hissued
    split at hissued
    · rename_i hacc
      obtain ⟨-, action, hpending, hcount⟩ := (issued_of_did (did_of_accepted hacc.1)).1 hacc.2
      rw [Machine.event_post, hpending, Option.map_some, Option.some.injEq] at hissued
      rw [hcount, if_pos hissued]
      omega
    · cases hissued
  · omega

theorem issued_le (P : Python) (events : List VisualTriageEvent) (k : ActionKind) :
    (((apply P).log State.fresh events).filter fun a => issuedKind a = some k).length ≤
      k.budget := by
  refine le_trans ?_ ((gated_run P events).issuedCount_le k)
  refine (apply P).log_inv (G := fun _ => True)
    (I := fun es s => (es.filter fun a => issuedKind a = some k).length ≤ s.issuedCount k)
    (Nat.zero_le _) (fun es s e h _ => ?_) events fun _ _ => trivial
  have := issued_step (P := P) (e := e) k h
  rw [List.filter_append, List.length_append]
  by_cases hk : issuedKind ((apply P).event s e) = some k
  · rw [if_pos hk] at this
    simpa [hk] using this
  · rw [if_neg hk] at this
    simpa [hk] using this

/-- **Evidence gates everything.** After any run: the six dimensions fit together; at most two
questions, one rating plate and one recapture were ever issued; and once an output was
prepared nothing more is asked of the customer. -/
theorem evidence_gating (P : Python) (events : List VisualTriageEvent) :
    EvidenceGated ((apply P).run State.fresh events).toAggregate ∧
    (∀ a ∈ (apply P).log State.fresh events, accepted a = true → a.call.kind ∈ issueKinds →
      (issuedKind a).isSome = true) ∧
    (∀ k, (((apply P).log State.fresh events).filter fun a => issuedKind a = some k).length ≤
      k.budget) ∧
    ∀ l₁ a l₂ f l₃, (apply P).log State.fresh events = l₁ ++ a :: l₂ ++ f :: l₃ →
      ¬ a.post.NothingPrepared → accepted f = true → f.call.kind ∉ issueKinds := by
  refine ⟨(gated_run P events).evidenceGated, fun a ha hacc hkind => ?_, issued_le P events,
    fun l₁ a l₂ f l₃ hlog hprepared hacc hkind => ?_⟩
  · obtain ⟨cs, e, -, -, rfl⟩ := (apply P).mem_log ha
    obtain ⟨-, action, hpending, -⟩ := (issued_of_did (did_of_accepted hacc)).1 hkind
    rw [issuedKind, if_pos ⟨hacc, hkind⟩, Machine.event_post, hpending]
    rfl
  · have hpre : ¬ f.pre.NothingPrepared :=
      (apply P).log_between (G := fun _ => True) (I := fun s => ¬ s.NothingPrepared)
        (fun s e h _ => apply_inv s e (fun _ hd => prepared_of_did hd h) h) hlog hprepared
        fun _ _ => trivial
    have hf : f ∈ (apply P).log State.fresh events := by
      rw [hlog]
      simp
    obtain ⟨cs, e, -, -, rfl⟩ := (apply P).mem_log hf
    exact hpre ((issued_of_did (did_of_accepted hacc)).1 hkind).1

/-- A validated video, and then consent is withdrawn. -/
def withdrawnSteps : List (EventKind × Dict × ℕ) :=
  [(.caseCreated, [], 0), (.consentRequested, [], 1), (.consentGranted, [], 2),
    (.uploadStarted, [("asset_id", .text "asset-1"), ("media_type", .text "video/mp4"),
      ("digest", .str (List.replicate 64 48))], 3),
    (.uploadFinalized, [("asset_id", .text "asset-1")], 4),
    (.mediaValidated, [("asset_id", .text "asset-1"), ("validation", .text "validated")], 5),
    (.consentWithdrawn, [], 6)]

/-- The analysis is still ready, and consent is no longer granted. -/
theorem withdrawnCase_still_ready :
    ¬ (Analysed ((apply asciiPython).run State.fresh (syntheticCase withdrawnSteps)).state.analysis →
      ((apply asciiPython).run State.fresh (syntheticCase withdrawnSteps)).state.consent =
        .granted) := by
  have h := syntheticCase_run withdrawnSteps (fun agg => (agg.state.analysis, agg.state.consent))
    (.ready, .withdrawn) (by decide +kernel)
  simp only [Prod.mk.injEq] at h
  rw [h.1, h.2]
  intro hc
  cases hc (.inl rfl)

end HeyKevin.L8.Triage
