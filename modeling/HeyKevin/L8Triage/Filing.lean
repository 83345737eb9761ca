import HeyKevin.L8Triage.EventLog
/-!
# Filing a case

The events of one case, each with its own identifier and the revision it was
built for, are all accepted when their handlers accept them one after the other:
nothing else in the way of an honest event depends on its digests, so a run of
such events is the walk of its handlers.

* `assertIntegrity_of_build`: what `build` returns has the right digests.
* `run_of_follow`: the run is the walk.
-/
namespace HeyKevin.L8.Triage

open HeyKevin.Core L1 L1.Text L1.Datetime

/-- The references, the payload and its keys are as they should be. -/
def VisualTriageEvent.wellFormed (P : Python) (e : VisualTriageEvent) : Bool :=
  [e.eventId, e.caseId, e.contractorId].all isOpaqueRef &&
    validateStructuralValue P 0 (.dict e.payload) &&
    e.payload.keys.all (e.kind.payloadKeys.contains ·)

/-- **What is built passes the check of its digests.** -/
theorem assertIntegrity_of_build {P : Python} {caseId contractorId eventId : Str}
    {kind : EventKind} {payload : Dict} {revision : ℤ} {source : EventSource} {t : Aware}
    {stage : Option Str} {attempt : Option ℤ} {e : VisualTriageEvent}
    (h : VisualTriageEvent.build P caseId contractorId eventId kind payload revision source t stage
      attempt = some e) : e.assertIntegrity P = e.wellFormed P := by
  simp only [VisualTriageEvent.build, Option.bind_eq_bind, Option.bind_eq_some_iff,
    Option.pure_def, Option.some.injEq] at h
  obtain ⟨digest, hdigest, fingerprint, hfingerprint, rfl⟩ := h
  have henvelope : sha256 P (VisualTriageEvent.envelope
      { schemaVersion := VisualTriageEvent.schema, caseId, contractorId, eventId, kind, payload,
        canonicalPayloadDigest := digest, semanticEnvelopeFingerprint := fingerprint,
        expectedRevision := revision, sourceKind := source, eventTime := t, retryStage := stage,
        retryAttempt := attempt, evidenceScope := VisualTriageEvent.syntheticScope }) =
      some fingerprint := hfingerprint
  simp only [VisualTriageEvent.assertIntegrity, VisualTriageEvent.wellFormed, henvelope, hdigest,
    BEq.rfl, Bool.and_true]

/-- The handlers, one after the other, over well-formed events of one case that are
numbered from `n` on and whose identifiers are not among those seen before. -/
def follow (P : Python) (caseId contractorId : Str) :
    ℕ → List Str → Aggregate → List VisualTriageEvent → Option Aggregate
  | _, _, agg, [] => some agg
  | n, seen, agg, e :: es =>
    if e.caseId = caseId ∧ e.contractorId = contractorId ∧ e.eventId ∉ seen ∧
        e.sourceKind = .synthetic ∧ e.expectedRevision = n ∧
        (agg.caseId = none → e.kind = .caseCreated) ∧
        (agg.state.deletion = .pending → e.kind ∈ deletionKinds) ∧
        agg.state.deletion ≠ .verified ∧ e.wellFormed P = true then
      match dispatch P e agg with
      | .ok (agg, _) => follow P caseId contractorId (n + 1) (e.eventId :: seen) agg es
      | .error _ => none
    else none

theorem receipt_eq_ok {P : Python} (hex : P.HexDigest) {e : VisualTriageEvent} (c : Code) (n : ℕ)
    (h : e.assertIntegrity P = true) : ∃ r, receipt e c n = .ok r := by
  simp only [VisualTriageEvent.assertIntegrity, List.all_cons, Bool.and_eq_true, beq_iff_eq,
    sha256, Option.map_eq_some_iff] at h
  obtain ⟨⟨⟨⟨⟨⟨⟨hid, -⟩, -⟩, -⟩, -⟩, bs, -, hfp⟩, -⟩, -⟩ := h
  have hdigest : Python.isDigest e.semanticEnvelopeFingerprint = true := hfp ▸ hex bs
  simp only [receipt, bind_eq_ok, field_eq_ok, pure_eq_ok, Except.ok.injEq]
  exact ⟨_, ⟨e.eventId, hid⟩, rfl, ⟨_, hdigest⟩, rfl, rfl⟩

theorem perform_of_dispatch {P : Python} {s : State} {e : VisualTriageEvent} {agg : Aggregate}
    {c : Code} {r : Receipt} (hdispatch : dispatch P e s.toAggregate = .ok (agg, c))
    (hr : receipt e c (s.revision + 1) = .ok r) : perform P s e = .ok (agg, r) := by
  rw [perform, hdispatch]
  simp only [bind_eq_ok, Aggregate.attempt_eq_ok, pure_eq_ok]
  exact ⟨_, rfl, r, hr, rfl⟩

variable {P : Python} {caseId contractorId : Str}

theorem Logged.empty {es : List LogEvent} {receipts : List Receipt} {s : State}
    (h : Logged P es receipts s) (hn : s.caseId = none) : receipts = [] := by
  have hnone : es.filter accepted = [] := by
    refine List.filter_eq_nil_iff.mpr fun a ha hacc => ?_
    have := (h.bound a ha hacc).1
    rw [hn] at this
    cases this
  have hrecords := h.records
  rw [hnone] at hrecords
  cases hrecords
  rfl

/-- A state whose case, if any, is this one, and which has seen these identifiers. -/
structure Files (caseId contractorId : Str) (n : ℕ) (seen : List Str) (s : State) : Prop where
  revision : s.revision = n
  ids : ∀ c ∈ s.caseId, c = caseId ∧ s.contractorId = some contractorId
  ledger : ∀ k r, Entries.find? s.ledger k = some r → k ∈ seen

theorem Files.screen_eq_none {es : List LogEvent} {receipts : List Receipt} {s : State} {n : ℕ}
    {seen : List Str} {e : VisualTriageEvent} (h : Logged P es receipts s)
    (hf : Files caseId contractorId n seen s) (hint : e.assertIntegrity P = true)
    (hcase : e.caseId = caseId) (hcontractor : e.contractorId = contractorId)
    (hunseen : e.eventId ∉ seen) (hsource : e.sourceKind = .synthetic)
    (hrevision : e.expectedRevision = n) (hcreation : s.caseId = none → e.kind = .caseCreated)
    (hdeleting : s.state.deletion = .pending → e.kind ∈ deletionKinds)
    (hunverified : s.state.deletion ≠ .verified) : screen P s e = .ok none := by
  have hbound : s.caseId.isSome = true → Bound s e := by
    intro hsome
    obtain ⟨c, hc⟩ := Option.isSome_iff_exists.mp hsome
    obtain ⟨rfl, hk⟩ := hf.ids c hc
    exact ⟨by rw [hc, hcase], by rw [hk, hcontractor]⟩
  have hfind : Entries.find? s.ledger e.eventId = none := by
    cases hr : Entries.find? s.ledger e.eventId with
    | none => rfl
    | some r => exact absurd (hf.ledger _ r hr) hunseen
  have hzero : s.caseId = none → e.expectedRevision = 0 := by
    intro hn
    rw [hrevision, ← hf.revision, h.revision, h.empty hn]
    rfl
  have hend := h.endings
  have hrem := h.remaining
  have hpos := endings_pos hunverified
  simp only [screen, hfind, bind_eq_ok, exists_unit, ensure_eq_ok, pure_eq_ok, and_true]
  refine ⟨hbound, hint, hcreation, hbound, hsource, hdeleting, hunverified, fun _ => ?_, hzero,
    fun _ => ?_, fun _ => ?_⟩
  · rw [hrevision, hf.revision]
  · simp only [controlReceiptCap]
    omega
  · simp only [ordinaryReceiptCap]
    omega

/-- **A case in order is accepted in full**: its run is the walk of its handlers. -/
theorem run_of_follow (hP : P.CasefoldAscii) (hex : P.HexDigest) {events : List VisualTriageEvent}
    (hint : ∀ e ∈ events, e.assertIntegrity P = e.wellFormed P) {es : List LogEvent}
    {receipts : List Receipt} {s : State} {n : ℕ} {seen : List Str} {agg : Aggregate}
    (h : Logged P es receipts s) (hf : Files caseId contractorId n seen s)
    (hfollow : follow P caseId contractorId n seen s.toAggregate events = some agg) :
    ((apply P).run s events).toAggregate = agg := by
  induction events generalizing es receipts s n seen with
  | nil => exact Option.some.inj hfollow
  | cons e events ih =>
    rw [follow] at hfollow
    split at hfollow
    · rename_i hnext
      obtain ⟨hcase, hcontractor, hunseen, hsource, hrevision, hcreation, hdeleting, hunverified,
        hwell⟩ := hnext
      have hintact := (hint e List.mem_cons_self).trans hwell
      have hscreen := hf.screen_eq_none h hintact hcase hcontractor hunseen hsource hrevision
        hcreation hdeleting hunverified
      split at hfollow
      · rename_i agg' c hdispatch
        obtain ⟨r, hr⟩ := receipt_eq_ok hex c (s.revision + 1) hintact
        have hperform := perform_of_dispatch hdispatch hr
        obtain ⟨hdid, hreceipt⟩ := perform_eq_ok hperform
        have hadmitted := Triage.screen_eq_none hscreen
        have hpost : (apply P s e).1 = s.commit agg' r := by
          rw [Triage.apply, hscreen]
          simp only [hperform]
        obtain ⟨receipts', h'⟩ := h.step hP e
        rw [hpost] at h'
        rw [Machine.run_cons, hpost]
        refine ih (fun f hf => hint f (List.mem_cons_of_mem _ hf)) h' ⟨?_, ?_, ?_⟩ hfollow
        · rw [← hf.revision]
          rfl
        · intro c hc
          obtain ⟨hc', hk'⟩ := bound_commit (r := r) hadmitted hdid
          rw [hc', Option.mem_some_iff] at hc
          exact ⟨hc.symm.trans hcase, hk'.trans (congrArg some hcontractor)⟩
        · intro k r' hfind
          simp only [State.commit, Entries.find?_set] at hfind
          split at hfind
          · rename_i hk
            rw [← hk, hreceipt.eventId]
            exact List.mem_cons_self
          · exact List.mem_cons_of_mem _ (hf.ledger k r' hfind)
      · cases hfollow
    · cases hfollow

theorem files_fresh (caseId contractorId : Str) : Files caseId contractorId 0 [] State.fresh where
  revision := rfl
  ids := by simp [State.fresh, Aggregate.initial]
  ledger := by simp [State.fresh]

theorem syntheticCase_run {α : Type} (steps : List (EventKind × Dict × ℕ)) (f : Aggregate → α)
    (a : α) (hfollow : (follow asciiPython (py "case-1") (py "contractor-1") 0 [] Aggregate.initial
      (syntheticCase steps)).map f = some a) :
    f ((apply asciiPython).run State.fresh (syntheticCase steps)).toAggregate = a := by
  obtain ⟨agg, hagg, rfl⟩ := Option.map_eq_some_iff.mp hfollow
  refine congrArg f (run_of_follow asciiPython_casefoldAscii asciiPython_hexDigest (fun e he => ?_)
    (logged_fresh asciiPython) (files_fresh _ _) hagg)
  obtain ⟨step, -, hbuilt⟩ := List.mem_filterMap.mp he
  exact assertIntegrity_of_build hbuilt

end HeyKevin.L8.Triage
