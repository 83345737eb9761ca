import HeyKevin.L1Encoding.Sha256
import HeyKevin.L8Triage.Capacity
/-!
# The event log

A run of the machine from its fresh state, whatever the events: nothing ever
raises, the receipts are the accepted events in order, an accepted event is
answered from its receipt for ever after, and no lane fills up.

* `projection_ok`, `snapshot_ok`: the two constructors outside the handlers
  never fail.
* `Logged`: the receipts, the ledger and the potentials, against the log.
* `event_log_sound`: the log of every run.
-/
namespace HeyKevin.L8.Triage

open HeyKevin.Core L1 L1.Text L1.Datetime

/-! ## Projections -/

/-- A code without a forbidden term standing alone in it. -/
def Presentable (s : Str) : Prop :=
  forbiddenPayloadTerms.any (standsAlone · s) = false ∧ isCode s = true

instance (s : Str) : Decidable (Presentable s) := inferInstanceAs (Decidable (_ ∧ _))

theorem mem_of_fullmatch {head tail : CodePoint → Bool} {n : ℕ} {s : Str}
    (h : fullmatch head tail n s = true) : ∀ c ∈ s, head c = true ∨ tail c = true := by
  cases s with
  | nil => cases h
  | cons c s =>
    simp only [fullmatch, Bool.and_eq_true, List.all_eq_true] at h
    intro d hd
    rcases List.mem_cons.mp hd with rfl | hd
    · exact .inl h.1.1
    · exact .inr (h.1.2 d hd)

theorem casefold_code {P : Python} (hP : P.CasefoldAscii) {s : Str} (h : isCode s = true) :
    P.casefold s = s := by
  refine hP s fun c hc => ?_
  have hpunct : ((py "_.:-").all fun c => c.val < 128 && !(65 ≤ c.val && c.val ≤ 90)) = true := by
    decide
  have hc := mem_of_fullmatch h c hc
  simp only [isLower, isDecimal, Bool.or_eq_true, Bool.and_eq_true, decide_eq_true_eq,
    List.contains_iff_mem] at hc
  rcases hc with hc | (hc | hc) | hc
  · omega
  · omega
  · omega
  · have := List.all_eq_true.mp hpunct c hc
    simp only [Bool.and_eq_true, decide_eq_true_eq, Bool.not_eq_true', Bool.and_eq_false_iff,
      decide_eq_false_iff_not] at this
    omega

theorem validCode_of_presentable {P : Python} (hP : P.CasefoldAscii) {s : Str}
    (h : Presentable s) : Projection.validCode P s = true := by
  rw [Projection.validCode, casefold_code hP h.2, h.1, h.2]
  rfl

theorem presentable_ofList {cs : List Char} (h : Presentable (cs.map ofChar)) :
    Presentable (py (String.ofList cs)) := by
  rwa [py, String.toList_ofList]

theorem presentable_kind (k : EventKind) : Presentable (py k.value) := by
  cases k <;> exact presentable_ofList (by decide)

theorem presentable_reason : ∀ s ∈ projectionReasonCodes, Presentable s := by
  rw [projectionReasonCodes, List.forall_mem_map]
  simp only [List.forall_mem_cons, List.not_mem_nil, false_implies, implies_true, and_true]
  refine ⟨?_, ?_, ?_, ?_, ?_, ?_, ?_, ?_⟩ <;> exact presentable_ofList (by decide)

theorem presentable_nextAction : ∀ s ∈ projectionNextActions, Presentable s := by
  rw [projectionNextActions, List.forall_mem_map]
  simp only [List.forall_mem_cons, List.not_mem_nil, false_implies, implies_true, and_true]
  refine ⟨?_, ?_, ?_, ?_⟩ <;> exact presentable_ofList (by decide)

/-- The reason and the next action of every state are in the closed lists, and
a deletion hides the next action. -/
theorem reason_spec (s : State) : s.reason.1 ∈ projectionReasonCodes ∧
    (∀ a ∈ s.reason.2, a ∈ projectionNextActions) ∧
    (s.state.deletion ≠ .notRequested → s.reason.2 = none ∧
      s.reason.1 ∈ [py "deletion_pending", py "verified_deleted"]) := by
  unfold State.reason
  split
  · exact ⟨by decide, by simp, fun _ => by simp⟩
  · split
    · exact ⟨by decide, by simp, fun _ => by simp⟩
    · rename_i hpending hverified
      have hnot : s.state.deletion = .notRequested := by
        cases hd : s.state.deletion with
        | notRequested => rfl
        | pending => exact absurd hd hpending
        | verified => exact absurd hd hverified
      refine and_assoc.mp ⟨?_, fun hne => absurd hnot hne⟩
      repeat' split
      all_goals exact ⟨by decide, by decide⟩

theorem nextActionFor_spec (role : ProjectionRole) (a : Option Str) :
    State.nextActionFor role a = none ∨ State.nextActionFor role a = a :=
  ite_eq_or_eq _ _ _

/-- **A projection never fails to build.** -/
theorem projection_ok {P : Python} (hP : P.CasefoldAscii) (s : State) (role : ProjectionRole)
    (historical : Option (ℕ × Code)) (hh : ∀ h ∈ historical, Presentable h.2.val) :
    ∃ p, s.projection P role historical = .ok p := by
  obtain ⟨hreason, hnext, hdeletion⟩ := reason_spec s
  have hactions : ∀ a ∈ State.nextActionFor role s.reason.2, a ∈ projectionNextActions := by
    intro a ha
    rcases nextActionFor_spec role s.reason.2 with hn | hn
    · rw [hn] at ha
      cases ha
    · exact hnext a (hn ▸ ha)
  have hcode : ∀ c : Str, Presentable c → (c.length ≤ 64 ∧ Projection.validCode P c = true) :=
    fun c hc => ⟨Code.length_le ⟨c, hc.2⟩, validCode_of_presentable hP hc⟩
  have hr := hcode _ (presentable_reason _ hreason)
  refine ⟨_, if_pos ?_⟩
  simp only [Projection.valid, Bool.and_eq_true, Bool.or_eq_true, Option.all_eq_true,
    decide_eq_true_eq, List.contains_iff_mem, and_assoc, Option.isNone_iff_eq_none]
  refine ⟨?_, fun a ha => hcode a (presentable_nextAction a (hactions a ha)), hr.1, hr.2, ?_, ?_, ?_,
    ?_, ?_, ?_, ?_, ?_, hreason, hactions⟩
  · intro a ha
    obtain ⟨h, hmem, rfl⟩ := Option.mem_map.mp ha
    exact hcode _ (hh h hmem)
  · intro x hx
    obtain ⟨action, -, rfl⟩ := Option.mem_map.mp hx
    exact OpaqueRef.length_le _
  · intro x hx
    obtain ⟨action, -, rfl⟩ := Option.mem_map.mp hx
    exact Locale.length_le _
  · intro x hx
    obtain ⟨action, -, hx⟩ := Option.bind_eq_some_iff.mp hx
    obtain ⟨ref, -, rfl⟩ := Option.map_eq_some_iff.mp hx
    exact OpaqueRef.length_le _
  · intro x hx
    obtain ⟨action, -, rfl⟩ := Option.mem_map.mp hx
    exact Code.length_le _
  · intro x hx
    obtain ⟨action, -, rfl⟩ := Option.mem_map.mp hx
    exact action.optionality.2.2
  · intro x hx
    obtain ⟨action, -, hx⟩ := Option.bind_eq_some_iff.mp hx
    obtain ⟨c, -, rfl⟩ := Option.map_eq_some_iff.mp hx
    exact Code.length_le _
  · cases s.pending.filter fun _ => decide (role ≠ .contractor) with
    | none => simp
    | some action => exact action.responseOptionCodes.2
  · by_cases hd : s.state.deletion = .notRequested
    · exact .inl hd
    · obtain ⟨hnone, hmem⟩ := hdeletion hd
      refine .inr ⟨?_, hmem⟩
      rcases nextActionFor_spec role s.reason.2 with hn | hn
      · exact hn
      · exact hn.trans hnone

theorem reject_ok {P : Python} (hP : P.CasefoldAscii) (s : State) (r : Refusal) :
    ∃ d, reject P s r = .ok d ∧ d.accepted = false := by
  obtain ⟨p, hp⟩ := projection_ok hP s .internal none (by simp)
  unfold reject
  simp only [hp]
  by_cases hshown : (r.reveal && s.caseId.any (!·.isEmpty)) = true
  · rw [if_pos hshown]
    exact ⟨_, rfl, rfl⟩
  · rw [if_neg hshown]
    exact ⟨_, rfl, rfl⟩

theorem replay_ok {P : Python} (hP : P.CasefoldAscii) (s : State) (prior : Receipt)
    (hprior : Presentable prior.historicalDecisionCode.val) :
    ∃ d, replay P s prior = .ok d ∧ d.accepted = true ∧ d.replayed = true ∧
      d.historicalDecisionCode = some prior.historicalDecisionCode ∧
      d.historicalRevision = some prior.resultingRevision := by
  obtain ⟨p, hp⟩ := projection_ok hP s .internal
    (some (prior.resultingRevision, prior.historicalDecisionCode)) (by simpa using hprior)
  rw [replay, hp]
  exact ⟨_, rfl, rfl, rfl, rfl, rfl⟩

theorem accept_ok {P : Python} (hP : P.CasefoldAscii) (s : State) (c : Code) :
    ∃ d, accept P s c = .ok d ∧ d.accepted = true ∧ d.replayed = false ∧ d.decisionCode = c ∧
      d.currentRevision = s.revision := by
  obtain ⟨p, hp⟩ := projection_ok hP s .internal none (by simp)
  rw [accept, hp]
  exact ⟨_, rfl, rfl, rfl, rfl, rfl⟩

/-! ## Snapshots -/

/-- Who the case is about. -/
structure Identified (agg : Aggregate) : Prop where
  absent : agg.caseId = none → agg.contractorId = none ∧ agg.state = Aggregate.initial.state
  present : agg.caseId.isSome = true → agg.contractorId.isSome = true
  caseRef : ∀ c ∈ agg.caseId, isOpaqueRef c = true
  contractorRef : ∀ c ∈ agg.contractorId, isOpaqueRef c = true
  callRef : ∀ c ∈ agg.callSidRef, isOpaqueRef c = true
  scenario : VisualTriageCase.isScenario agg.supportedScenario = true

theorem identified_initial : Identified Aggregate.initial where
  absent := fun _ => ⟨rfl, rfl⟩
  present := fun h => by cases h
  caseRef := by simp [Aggregate.initial]
  contractorRef := by simp [Aggregate.initial]
  callRef := by simp [Aggregate.initial]
  scenario := by decide

theorem identity_of_did {agg agg' : Aggregate} {e : VisualTriageEvent} (hd : Did e agg agg') :
    (agg'.caseId = agg.caseId ∧ agg'.contractorId = agg.contractorId ∧
        agg'.callSidRef = agg.callSidRef ∧ agg'.supportedScenario = agg.supportedScenario) ∨
      e.kind = .caseCreated ∧ agg.caseId = none ∧ agg'.caseId = some e.caseId ∧
        agg'.contractorId = some e.contractorId ∧
        (∀ r ∈ agg'.callSidRef, isOpaqueRef r = true) ∧
        VisualTriageCase.isScenario agg'.supportedScenario = true := by
  obtain ⟨media, assets, hfin, -⟩ := Aggregate.finalized_eq agg
  cases hd with
  | created scenario sourceRef hkind hnone hscenario href =>
    exact .inr ⟨hkind, hnone, rfl, rfl, href, hscenario⟩
  | _ =>
    refine .inl ?_
    simp [hfin, Aggregate.awaiting, Aggregate.resolve]

theorem caseId_of_creation {agg agg' : Aggregate} {e : VisualTriageEvent} (hd : Did e agg agg')
    (hkind : e.kind = .caseCreated) : agg'.caseId = some e.caseId := by
  cases hd with
  | created => rfl
  | _ => simp_all

theorem identified_of_did {P : Python} {s : State} {agg : Aggregate} {e : VisualTriageEvent}
    (h : Identified s.toAggregate) (ha : Admitted P s e) (hd : Did e s.toAggregate agg) :
    Identified agg := by
  have hids := ha.integrity
  simp only [VisualTriageEvent.assertIntegrity, List.all_cons, Bool.and_eq_true] at hids
  rcases identity_of_did hd with ⟨hcase, hcontractor, hcall, hscenario⟩ |
    ⟨hkind, -, hcase, hcontractor, hcall, hscenario⟩
  · exact {
      absent := fun hn => by
        rw [caseId_of_creation hd (ha.creation (hcase ▸ hn))] at hn
        cases hn
      present := by
        rw [hcase, hcontractor]
        exact h.present
      caseRef := hcase ▸ h.caseRef
      contractorRef := hcontractor ▸ h.contractorRef
      callRef := hcall ▸ h.callRef
      scenario := hscenario ▸ h.scenario }
  · exact {
      absent := fun hn => by simp [hcase] at hn
      present := fun _ => by simp [hcontractor]
      caseRef := by simp [hcase, hids]
      contractorRef := by simp [hcontractor, hids]
      callRef := hcall
      scenario := hscenario }

/-- **A snapshot never fails to build**, as long as neither lane is over its cap. -/
theorem snapshot_ok {s : State} (hg : Gated s.toAggregate) (hi : Identified s.toAggregate)
    (hordinary : s.ordinaryReceipts.length ≤ ordinaryReceiptCap)
    (hcontrol : s.controlReceipts.length ≤ controlReceiptCap) : ∃ snap, s.snapshot = .ok snap := by
  unfold State.snapshot
  split
  · rename_i caseId contractorId hcase hcontractor
    have hassets : s.mediaAssets.length ≤ 2 := by
      simpa [shapeOf] using hg.fits.length_le
    have hscenario : s.supportedScenario.length ≤ 64 := by
      simpa using Code.length_le ⟨_, hi.scenario⟩
    refine ⟨_, (congrArg _ (if_pos ?_)).trans rfl⟩
    simp only [VisualTriageCase.valid, Bool.and_eq_true, decide_eq_true_eq, Option.all_eq_true,
      and_assoc, List.length_map]
    exact ⟨hi.caseRef _ hcase, hi.contractorRef _ hcontractor, hi.callRef, by omega, hi.scenario,
      hg.resolved, hg.questions, hg.plates, hg.recaptures, by omega, hordinary, hcontrol,
      hg.deletionRetries⟩
  · exact ⟨_, rfl⟩

/-! ## The log and the receipts -/

abbrev LogEvent := Event State VisualTriageEvent (Except Fault Decision)

/-- A new event was accepted. -/
def accepted (a : LogEvent) : Bool :=
  match a.resp with
  | .ok d => d.accepted && !d.replayed
  | .error _ => false

theorem accepted_eq {a : LogEvent} {d : Decision} (h : a.resp = .ok d) :
    accepted a = (d.accepted && !d.replayed) := by
  rw [accepted, h]

/-- The receipt records the event, its decision and its revision. -/
structure Records (a : LogEvent) (r : Receipt) : Prop where
  eventId : r.eventId.val = a.call.eventId
  kind : r.kind = a.call.kind
  fingerprint : r.semanticEnvelopeFingerprint.val = a.call.semanticEnvelopeFingerprint
  decision : ∃ d, a.resp = .ok d ∧ r.historicalDecisionCode = d.decisionCode
  revision : r.resultingRevision = a.post.revision

/-- The receipts of a state against the log that led to it: `receipts` is one
for each accepted event, in order. -/
structure Logged (P : Python) (es : List LogEvent) (receipts : List Receipt) (s : State) :
    Prop where
  gated : Gated s.toAggregate
  identified : Identified s.toAggregate
  records : List.Forall₂ Records (es.filter accepted) receipts
  revisions : receipts.map (·.resultingRevision) = List.range' 1 receipts.length
  revision : s.revision = receipts.length
  control : s.controlReceipts = receipts.filter (·.kind ∈ controlKinds)
  ordinary : s.ordinaryReceipts = receipts.filter (·.kind ∉ controlKinds)
  ledger : ∀ a ∈ es, accepted a = true →
    ∃ r, Entries.find? s.ledger a.call.eventId = some r ∧ Records a r
  named : ∀ k r, Entries.find? s.ledger k = some r → r.historicalDecisionCode.val = py r.kind.value
  bound : ∀ a ∈ es, accepted a = true → Bound s a.call
  intact : ∀ a ∈ es, accepted a = true → a.call.assertIntegrity P = true
  endings : s.controlReceipts.length + s.endings ≤ 6
  remaining : s.ordinaryReceipts.length + s.remaining ≤ 45

theorem logged_fresh (P : Python) : Logged P [] [] State.fresh where
  gated := .initial
  identified := identified_initial
  records := .nil
  revisions := rfl
  revision := rfl
  control := rfl
  ordinary := rfl
  ledger := by simp
  named := by simp [State.fresh]
  bound := by simp
  intact := by simp
  endings := by
    have := endings_initial
    simp only [State.fresh, List.length_nil]
    omega
  remaining := by
    have := remaining_initial
    simp only [State.fresh, List.length_nil]
    omega

variable {P : Python} {es : List LogEvent} {receipts : List Receipt} {s : State}
  {e : VisualTriageEvent}

theorem Logged.skip (h : Logged P es receipts s) {a : LogEvent} (ha : accepted a = false) :
    Logged P (es ++ [a]) receipts s :=
  { h with
    records := by simpa [List.filter_append, ha] using h.records
    ledger := fun b hb hacc => by
      rcases List.mem_append.mp hb with hb | hb
      · exact h.ledger b hb hacc
      · rw [List.mem_singleton.mp hb, ha] at hacc
        cases hacc
    bound := fun b hb hacc => by
      rcases List.mem_append.mp hb with hb | hb
      · exact h.bound b hb hacc
      · rw [List.mem_singleton.mp hb, ha] at hacc
        cases hacc
    intact := fun b hb hacc => by
      rcases List.mem_append.mp hb with hb | hb
      · exact h.intact b hb hacc
      · rw [List.mem_singleton.mp hb, ha] at hacc
        cases hacc }

theorem bound_commit {agg : Aggregate} {r : Receipt} (ha : Admitted P s e)
    (hd : Did e s.toAggregate agg) : Bound (s.commit agg r) e := by
  rcases identity_of_did hd with ⟨hcase, hcontractor, -⟩ | ⟨-, -, hcase, hcontractor, -⟩
  · have hsome : s.caseId.isSome = true := by
      by_contra hn
      rw [Option.not_isSome_iff_eq_none] at hn
      rw [hn, caseId_of_creation hd (ha.creation hn)] at hcase
      cases hcase
    exact ⟨hcase.trans (ha.bound hsome).1, hcontractor.trans (ha.bound hsome).2⟩
  · exact ⟨hcase, hcontractor⟩

theorem Bound.commit {agg : Aggregate} {r : Receipt} {f : VisualTriageEvent} (h : Bound s f)
    (hd : Did e s.toAggregate agg) : Bound (s.commit agg r) f := by
  rcases identity_of_did hd with ⟨hcase, hcontractor, -⟩ | ⟨-, hnone, -⟩
  · exact ⟨hcase.trans h.1, hcontractor.trans h.2⟩
  · rw [h.1] at hnone
    cases hnone

theorem Logged.commit (h : Logged P es receipts s) {agg : Aggregate} {r : Receipt}
    (ha : Admitted P s e) (hd : Did e s.toAggregate agg) (hr : Receipted s e r) {a : LogEvent}
    (hcall : a.call = e) (hpost : a.post = s.commit agg r) {d : Decision} (hresp : a.resp = .ok d)
    (hacc : d.accepted = true ∧ d.replayed = false ∧ d.decisionCode = r.historicalDecisionCode) :
    Logged P (es ++ [a]) (receipts ++ [r]) (s.commit agg r) := by
  have hacca : accepted a = true := by rw [accepted_eq hresp, hacc.1, hacc.2.1]; rfl
  have hrec : Records a r :=
    ⟨hcall ▸ hr.eventId, hcall ▸ hr.kind, hcall ▸ hr.fingerprint, ⟨d, hresp, hacc.2.2.symm⟩,
      by rw [hpost, hr.revision]; rfl⟩
  have hfresh : s.caseId = none → e.kind = .caseCreated ∧ s.state = Aggregate.initial.state :=
    fun hn => ⟨ha.creation hn, (h.identified.absent hn).2⟩
  have hend := endings_step hd
  have hrem := remaining_step h.gated hfresh hd
  have hend0 := h.endings
  have hrem0 := h.remaining
  rw [← hr.kind] at hend hrem
  exact {
    gated := gated_of_did h.gated hd
    identified := identified_of_did h.identified ha hd
    records := by
      rw [List.filter_append, List.filter_cons_of_pos hacca, List.filter_nil]
      exact List.rel_append h.records (.cons hrec .nil)
    revisions := by
      rw [List.map_append, h.revisions, List.length_append, List.length_singleton,
        List.range'_1_concat, List.map_singleton, hr.revision, h.revision, Nat.add_comm 1]
    revision := by
      rw [List.length_append, List.length_singleton, ← h.revision]
      rfl
    control := by
      rw [List.filter_append, ← h.control]
      by_cases hk : r.kind ∈ controlKinds <;> simp [State.commit, hk]
    ordinary := by
      rw [List.filter_append, ← h.ordinary]
      by_cases hk : r.kind ∈ controlKinds <;> simp [State.commit, hk]
    ledger := fun b hb hbacc => by
      simp only [State.commit, Entries.find?_set]
      rcases List.mem_append.mp hb with hb | hb
      · obtain ⟨r', hfind, hrec'⟩ := h.ledger b hb hbacc
        have hne : r.eventId.val ≠ b.call.eventId := by
          intro heq
          rw [← heq, hr.eventId, ha.unseen] at hfind
          cases hfind
        exact ⟨r', by rw [if_neg hne, hfind], hrec'⟩
      · obtain rfl := List.mem_singleton.mp hb
        exact ⟨r, if_pos (by rw [hcall, hr.eventId]), hrec⟩
    named := fun k r' hfind => by
      simp only [State.commit, Entries.find?_set] at hfind
      split at hfind
      · cases hfind
        rw [hr.decision, hr.kind]
      · exact h.named k r' hfind
    bound := fun b hb hbacc => by
      rcases List.mem_append.mp hb with hb | hb
      · exact (h.bound b hb hbacc).commit hd
      · rw [List.mem_singleton.mp hb, hcall]
        exact bound_commit ha hd
    intact := fun b hb hbacc => by
      rcases List.mem_append.mp hb with hb | hb
      · exact h.intact b hb hbacc
      · rw [List.mem_singleton.mp hb, hcall]
        exact ha.integrity
    endings := by
      by_cases hk : r.kind ∈ controlKinds
      · simp only [State.commit, hk, if_true, List.length_append, List.length_singleton] at hend ⊢
        omega
      · simp only [State.commit, hk, if_false] at hend ⊢
        omega
    remaining := by
      by_cases hk : r.kind ∈ controlKinds
      · simp only [State.commit, hk, if_true] at hrem ⊢
        omega
      · simp only [State.commit, hk, if_false, List.length_append, List.length_singleton] at hrem ⊢
        omega }

/-! ## Steps and runs -/

theorem Logged.lengths (h : Logged P es receipts s) :
    s.controlReceipts.length ≤ controlReceiptCap ∧
      s.ordinaryReceipts.length ≤ ordinaryReceiptCap := by
  have h₁ := h.endings
  have h₂ := h.remaining
  simp only [controlReceiptCap, ordinaryReceiptCap]
  omega

theorem Logged.step (hP : P.CasefoldAscii) (h : Logged P es receipts s) (e : VisualTriageEvent) :
    ∃ receipts, Logged P (es ++ [(apply P).event s e]) receipts (apply P s e).1 := by
  generalize ha : (apply P).event s e = a
  have hpost : a.post = (apply P s e).1 := by rw [← ha]; rfl
  have hresp : a.resp = (apply P s e).2 := by rw [← ha]; rfl
  have hcall : a.call = e := by rw [← ha]; rfl
  have hstep := apply_stepped P s e
  generalize apply P s e = out at hpost hresp hstep
  cases hstep with
  | refused r =>
    obtain ⟨d, hd, hacc⟩ := reject_ok hP s r
    exact ⟨receipts, h.skip (by rw [accepted_eq (hresp.trans hd), hacc]; rfl)⟩
  | replayed prior hseen =>
    have hprior := h.named _ _ hseen.seen
    obtain ⟨d, hd, -, hrep, -⟩ := replay_ok hP s prior (hprior ▸ presentable_kind _)
    exact ⟨receipts, h.skip (by rw [accepted_eq (hresp.trans hd), hrep, Bool.not_true,
      Bool.and_false])⟩
  | accepted agg r hadmitted hdid hreceipt =>
    obtain ⟨d, hd, hacc, hrep, hcode, -⟩ := accept_ok hP (s.commit agg r) r.historicalDecisionCode
    exact ⟨_, h.commit hadmitted hdid hreceipt hcall hpost (hresp.trans hd) ⟨hacc, hrep, hcode⟩⟩

/-- What a step of a run may do. -/
structure SoundStep (P : Python) (a : LogEvent) : Prop where
  /-- `apply` returns a decision. -/
  returns : ∃ d, a.resp = .ok d
  /-- The snapshot after it can be taken. -/
  snapshot : ∃ snap, a.post.snapshot = .ok snap
  /-- A rejection, and an answer to an event seen before, change nothing. -/
  unchanged : accepted a = false → a.post = a.pre
  /-- A new event adds one to the revision and one receipt to one lane. -/
  appended : accepted a = true → a.post.revision = a.pre.revision + 1 ∧ ∃ r, Records a r ∧
    (a.post.controlReceipts = a.pre.controlReceipts ++ [r] ∧
        a.post.ordinaryReceipts = a.pre.ordinaryReceipts ∨
      a.post.controlReceipts = a.pre.controlReceipts ∧
        a.post.ordinaryReceipts = a.pre.ordinaryReceipts ++ [r])
  /-- No lane is ever the reason of a rejection. -/
  lanes : screen P a.pre a.call ≠ .error (refusal "control_lane_capacity") ∧
    screen P a.pre a.call ≠ .error (refusal "ordinary_lane_capacity")

theorem full_of_lane {r : Refusal} (h : screen P s e = .error r) :
    (r = refusal "control_lane_capacity" →
      s.state.deletion ≠ .verified ∧ controlReceiptCap ≤ s.controlReceipts.length) ∧
    (r = refusal "ordinary_lane_capacity" → ordinaryReceiptCap ≤ s.ordinaryReceipts.length) := by
  cases hfind : Entries.find? s.ledger e.eventId with
  | some prior =>
    simp only [screen, hfind, bind_eq_error, ensure_eq_error, exists_unit, ensure_eq_ok,
      pure_eq_ok, reduceCtorEq, and_false, or_false] at h
    rcases h with ⟨-, rfl⟩ | ⟨-, ⟨-, rfl⟩ | ⟨-, ⟨-, rfl⟩ | ⟨-, ⟨-, rfl⟩ | ⟨-, ⟨-, rfl⟩ |
      ⟨-, -, rfl⟩⟩⟩⟩⟩
    all_goals simp [hidden, refusal, code]
  | none =>
    simp only [screen, hfind, bind_eq_error, ensure_eq_error, exists_unit, ensure_eq_ok,
      pure_eq_ok, reduceCtorEq, and_false, or_false] at h
    rcases h with ⟨-, rfl⟩ | ⟨-, ⟨-, rfl⟩ | ⟨-, ⟨-, rfl⟩ | ⟨-, ⟨-, rfl⟩ | ⟨-, ⟨-, rfl⟩ |
      ⟨-, ⟨-, rfl⟩ | ⟨-, ⟨-, rfl⟩ | ⟨hnot, ⟨-, rfl⟩ | ⟨-, ⟨-, rfl⟩ | ⟨-, ⟨hcontrol, rfl⟩ |
      ⟨-, hordinary, rfl⟩⟩⟩⟩⟩⟩⟩⟩⟩⟩
    iterate 9 (· simp [hidden, refusal, code])
    · refine ⟨fun _ => ⟨hnot, ?_⟩, by simp [refusal, code]⟩
      exact Nat.not_lt.mp (Classical.not_imp.mp hcontrol).2
    · refine ⟨by simp [refusal, code], fun _ => ?_⟩
      exact Nat.not_lt.mp (Classical.not_imp.mp hordinary).2

theorem Logged.soundStep (hP : P.CasefoldAscii) (h : Logged P es receipts s)
    (e : VisualTriageEvent) : SoundStep P ((apply P).event s e) := by
  obtain ⟨receipts', h'⟩ := h.step hP e
  obtain ⟨hcontrol, hordinary⟩ := h'.lengths
  have hsnap := snapshot_ok h'.gated h'.identified hordinary hcontrol
  have hlanes : screen P s e ≠ .error (refusal "control_lane_capacity") ∧
      screen P s e ≠ .error (refusal "ordinary_lane_capacity") := by
    have hend := h.endings
    have hrem := h.remaining
    constructor
    · intro hscreen
      obtain ⟨hunverified, hfull⟩ := (full_of_lane hscreen).1 rfl
      have := endings_pos hunverified
      simp only [controlReceiptCap] at hfull
      omega
    · intro hscreen
      have hfull := (full_of_lane hscreen).2 rfl
      simp only [ordinaryReceiptCap] at hfull
      omega
  generalize ha : (apply P).event s e = a at h'
  have hpre : a.pre = s := by rw [← ha]; rfl
  have hpost : a.post = (apply P s e).1 := by rw [← ha]; rfl
  have hresp : a.resp = (apply P s e).2 := by rw [← ha]; rfl
  have hcall : a.call = e := by rw [← ha]; rfl
  have hstep := apply_stepped P s e
  rw [← hpost] at hsnap
  rw [← hpre, ← hcall] at hlanes
  generalize apply P s e = out at hpost hresp hstep
  cases hstep with
  | refused r =>
    obtain ⟨d, hd, hacc⟩ := reject_ok hP s r
    have hnot : accepted a = false := by rw [accepted_eq (hresp.trans hd), hacc]; rfl
    exact ⟨⟨d, hresp.trans hd⟩, hsnap, fun _ => hpost.trans hpre.symm,
      fun h => (Bool.eq_false_iff.mp hnot h).elim, hlanes⟩
  | replayed prior hseen =>
    have hprior := h.named _ _ hseen.seen
    obtain ⟨d, hd, -, hrep, -⟩ := replay_ok hP s prior (hprior ▸ presentable_kind _)
    have hnot : accepted a = false := by
      rw [accepted_eq (hresp.trans hd), hrep, Bool.not_true, Bool.and_false]
    exact ⟨⟨d, hresp.trans hd⟩, hsnap, fun _ => hpost.trans hpre.symm,
      fun h => (Bool.eq_false_iff.mp hnot h).elim, hlanes⟩
  | accepted agg r hadmitted hdid hr =>
    obtain ⟨d, hd, hacc, hrep, hcode, -⟩ := accept_ok hP (s.commit agg r) r.historicalDecisionCode
    have hyes : accepted a = true := by rw [accepted_eq (hresp.trans hd), hacc, hrep]; rfl
    have hrec : Records a r :=
      ⟨hcall ▸ hr.eventId, hcall ▸ hr.kind, hcall ▸ hr.fingerprint,
        ⟨d, hresp.trans hd, hcode.symm⟩, by rw [hpost, hr.revision]; rfl⟩
    refine ⟨⟨d, hresp.trans hd⟩, hsnap, fun h => (Bool.eq_false_iff.mp h hyes).elim, fun _ => ?_,
      hlanes⟩
    rw [hpost, hpre]
    refine ⟨rfl, r, hrec, ?_⟩
    by_cases hk : r.kind ∈ controlKinds
    · exact .inl ⟨if_pos hk, if_pos hk⟩
    · exact .inr ⟨if_neg hk, if_neg hk⟩

theorem length_lanes (receipts : List Receipt) :
    receipts.length = (receipts.filter (·.kind ∈ controlKinds)).length +
      (receipts.filter (·.kind ∉ controlKinds)).length := by
  simpa using List.length_eq_length_filter_add (l := receipts) fun r => decide (r.kind ∈ controlKinds)

theorem Logged.replays (hP : P.CasefoldAscii) (h : Logged P es receipts s) {a : LogEvent}
    (ha : a ∈ es) (hacc : accepted a = true)
    (hverified : s.state.deletion = .verified → a.call.kind = .deletionVerified) :
    ∃ d, apply P s a.call = (s, .ok d) ∧ d.accepted = true ∧ d.replayed = true ∧
      (∃ before, a.resp = .ok before ∧ d.historicalDecisionCode = some before.decisionCode) ∧
      d.historicalRevision = some a.post.revision := by
  obtain ⟨r, hfind, hrec⟩ := h.ledger a ha hacc
  have hbound := h.bound a ha hacc
  have hseen : Seen P s a.call r := {
    bound := fun _ => hbound
    integrity := h.intact a ha hacc
    creation := fun hn => by
      rw [hbound.1] at hn
      cases hn
    seen := hfind
    fingerprint := hrec.fingerprint
    verified := hverified }
  obtain ⟨before, hbefore, hcode⟩ := hrec.decision
  have hnamed := h.named _ _ hfind
  obtain ⟨d, hd, hdacc, hdrep, hdcode, hdrev⟩ := replay_ok hP s r (hnamed ▸ presentable_kind _)
  refine ⟨d, ?_, hdacc, hdrep, ⟨before, hbefore, hdcode.trans (congrArg _ hcode)⟩,
    hdrev.trans (congrArg _ hrec.revision)⟩
  rw [apply, screen_eq_some.mpr hseen]
  exact congrArg _ hd

/-- **The event log is sound.** In the run of any list of events: every step is sound; the
receipts of the two lanes are those of the accepted events, in order, with the revisions
1 to n; a lane never holds more than its cap; and an accepted event is answered with the
decision and the revision it had, unless deletion was verified since. -/
theorem event_log_sound (P : Python) (hP : P.CasefoldAscii) (events : List VisualTriageEvent) :
    let log := (apply P).log State.fresh events
    let s := (apply P).run State.fresh events
    (∀ a ∈ log, SoundStep P a) ∧
    (∃ receipts, List.Forall₂ Records (log.filter accepted) receipts ∧
      receipts.map (·.resultingRevision) = List.range' 1 s.revision ∧
      s.controlReceipts = receipts.filter (·.kind ∈ controlKinds) ∧
      s.ordinaryReceipts = receipts.filter (·.kind ∉ controlKinds)) ∧
    s.revision = s.controlReceipts.length + s.ordinaryReceipts.length ∧
    s.controlReceipts.length ≤ 6 ∧ s.ordinaryReceipts.length ≤ 64 ∧
    ∀ a ∈ log, accepted a = true →
      (s.state.deletion = .verified → a.call.kind = .deletionVerified) →
      ∃ d, apply P s a.call = (s, .ok d) ∧ d.accepted = true ∧ d.replayed = true ∧
        (∃ before, a.resp = .ok before ∧ d.historicalDecisionCode = some before.decisionCode) ∧
        d.historicalRevision = some a.post.revision := by
  intro log s
  have hlogged : ∀ events, ∃ receipts, Logged P ((apply P).log State.fresh events) receipts
      ((apply P).run State.fresh events) := by
    intro events
    refine (apply P).log_inv (G := fun _ => True)
      (I := fun es s => ∃ receipts, Logged P es receipts s) ⟨[], logged_fresh P⟩ ?_ events
      fun _ _ => trivial
    rintro es s e ⟨receipts, h⟩ -
    exact h.step hP e
  obtain ⟨receipts, h⟩ := hlogged events
  have hrevision : s.revision = s.controlReceipts.length + s.ordinaryReceipts.length := by
    rw [h.control, h.ordinary, h.revision]
    exact length_lanes receipts
  refine ⟨fun a ha => ?_, ⟨receipts, h.records, ?_, h.control, h.ordinary⟩, hrevision,
    h.lengths.1, h.lengths.2, fun a ha hacc hverified => ?_⟩
  · obtain ⟨cs, e, -, -, rfl⟩ := (apply P).mem_log ha
    obtain ⟨receipts, h⟩ := hlogged cs
    exact h.soundStep hP e
  · rw [h.revision, h.revisions]
  · exact h.replays hP ha hacc hverified

/-- The `n`th event of a synthetic case, `minutes` into it. -/
def syntheticEvent (n : ℕ) (kind : EventKind) (payload : Dict) (minutes : ℕ) :
    Option VisualTriageEvent :=
  VisualTriageEvent.build asciiPython (py "case-1") (py "contractor-1") (py "event-" ++ decimal n)
    kind payload n .synthetic ⟨.ofMinutes minutes, rfl⟩ none none

/-- A synthetic case, of the kind, the payload and the minute of each event. -/
def syntheticCase (steps : List (EventKind × Dict × ℕ)) : List VisualTriageEvent :=
  steps.zipIdx.filterMap fun step => syntheticEvent step.2 step.1.1 step.1.2.1 step.1.2.2

/-- Created at minute 10, cancelled at minute 20. -/
def cancelledCase : List VisualTriageEvent :=
  syntheticCase [(.caseCreated, [], 10), (.caseCancelled, [], 20)]

theorem event_log_sound_cancelledCase :
    ((apply asciiPython).run State.fresh cancelledCase).controlReceipts.length ≤ 6 ∧
    ((apply asciiPython).run State.fresh cancelledCase).revision =
      ((apply asciiPython).run State.fresh cancelledCase).controlReceipts.length +
        ((apply asciiPython).run State.fresh cancelledCase).ordinaryReceipts.length := by
  have h := event_log_sound asciiPython asciiPython_casefoldAscii cancelledCase
  exact ⟨h.2.2.2.1, h.2.2.1⟩

end HeyKevin.L8.Triage
