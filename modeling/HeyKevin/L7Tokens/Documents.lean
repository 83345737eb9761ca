import HeyKevin.L7Tokens.Steps
/-!
# The documents of a generation

Every generation that a disconnect begins has an audit and an outbox document
under one id. Four transactions touch them: the disconnect creates both (or
completes what an older release left), the outcome is recorded on the outbox,
and the finalization copies it to the audit.

* `PairAt`: two documents that the pair validator accepts, and what they spell.
* `DocStep`: what a committed call did to the documents of one generation.
* `docStep_of_body`: every committed call, in five cases.
-/
namespace HeyKevin.L7.Tokens

open HeyKevin.Core Binary64 L1 L1.Text L1.Datetime

variable {contractorId : Str}

/-! ## Document ids -/

/-- An id determines the generation and the action. -/
theorem formatAuditDocId_inj {p : Provider} {g g' : ℤ} {action action' : String}
    (h : formatAuditDocId contractorId p g action = formatAuditDocId contractorId p g' action') :
    g = g' ∧ py action = py action' := by
  have hu : ∀ x : Str, py "_" ++ x = 95 :: x := fun x => rfl
  simp only [formatAuditDocId, List.append_assoc, hu, List.cons_append, List.append_cancel_left_eq,
    List.cons.injEq, true_and] at h
  obtain ⟨hg, hrest⟩ := decimal_append_inj (by decide) (by decide) h
  exact ⟨hg, (List.cons.inj hrest).2⟩

theorem formatOutboxDocId_inj {g g' : ℤ}
    (h : formatOutboxDocId contractorId .googleCalendar g =
      formatOutboxDocId contractorId .googleCalendar g') : g = g' :=
  (formatAuditDocId_inj h).1

/-- A connect's audit is under another id. -/
theorem connectAction_ne {r : Record} {l : Lifecycle} {g g' : ℤ} :
    formatAuditDocId contractorId .googleCalendar g (connectAction r l) ≠
      formatOutboxDocId contractorId .googleCalendar g' := by
  intro h
  have ha := (formatAuditDocId_inj h).2
  unfold connectAction at ha
  split at ha <;> exact absurd ha (by decide)

section

variable (contractorId)

/-- The audit document of a generation. -/
def auditAt (s : Store) (g : ℤ) : Option Dict :=
  s.audits (formatOutboxDocId contractorId .googleCalendar g)

def outboxAt (s : Store) (g : ℤ) : Option Dict :=
  s.outboxes (formatOutboxDocId contractorId .googleCalendar g)

/-- The validator accepts the documents as the pair of the generation, and
reads `a` and `o` off them. -/
def PairAt (g : ℤ) (d x : Dict) (a : Audit) (o : Outbox) : Prop :=
  ∃ epoch, validateDisconnectLifecyclePair (expectedPair contractorId g epoch) d x = .ok (a, o)

/-- The pair of the generation is absent or accepted. -/
def Sound (s : Store) (g : ℤ) : Prop :=
  (auditAt contractorId s g = none ∧ outboxAt contractorId s g = none) ∨
    ∃ d x a o, auditAt contractorId s g = some d ∧ outboxAt contractorId s g = some x ∧
      PairAt contractorId g d x a o

end

theorem put_same {docs : Str → Option Dict} {id : Str} {d : Dict} : put docs id d id = some d :=
  Function.update_self ..

theorem put_other {docs : Str → Option Dict} {id id' : Str} {d : Dict} (h : id' ≠ id) :
    put docs id d id' = docs id' := Function.update_of_ne h ..

/-! ## Accepted pairs -/

theorem pairAt_iff {g : ℤ} {d x : Dict} {a : Audit} {o : Outbox} :
    PairAt contractorId g d x a o ↔
      (Dict.Same d (buildDisconnectAuditEvent a) ∧ a.Valid) ∧
      (Dict.Same x (buildDisconnectOutboxRecord o) ∧ o.Valid) ∧ Paired a o ∧
        o.contractorId = contractorId ∧ o.provider = .googleCalendar ∧ o.generation = g := by
  simp only [PairAt, validateDisconnectLifecyclePair_eq_ok]
  constructor
  · rintro ⟨epoch, ⟨hd, ha, -⟩, ⟨hx, ho, hm⟩, hp⟩
    exact ⟨⟨hd, ha⟩, ⟨hx, ho⟩, hp, hm.contractorId _ rfl, hm.provider _ rfl, hm.generation _ rfl⟩
  · rintro ⟨⟨hd, ha⟩, ⟨hx, ho⟩, hp, hc, hpr, hg⟩
    have hmeets : ∀ c : Context, c = o.context →
        c.Meets (expectedPair contractorId g o.lifecycleEpoch)
          (some (formatOutboxDocId contractorId .googleCalendar g)) := by
      rintro c rfl
      subst hc hg
      simp only [Outbox.context, hpr]
      exact ⟨by simp [expectedPair], by simp [expectedPair], by simp [expectedPair], by simp,
        by simp [expectedPair]⟩
    exact ⟨o.lifecycleEpoch, ⟨hd, ha, hmeets _ hp.context⟩, ⟨hx, ho, hmeets _ rfl⟩, hp⟩

/-- Two documents spell one pair. -/
theorem PairAt.unique {g : ℤ} {d x : Dict} {a a' : Audit} {o o' : Outbox}
    (h : PairAt contractorId g d x a o) (h' : PairAt contractorId g d x a' o') :
    a = a' ∧ o = o' := by
  have epoch : ∀ {e a o}, validateDisconnectLifecyclePair (expectedPair contractorId g e) d x =
      .ok (a, o) → x.get "lifecycle_epoch" = .int e := by
    intro e a o hv
    obtain ⟨-, ⟨hx, -, hm⟩, -⟩ := validateDisconnectLifecyclePair_eq_ok.mp hv
    have he : o.lifecycleEpoch = e := hm.lifecycleEpoch e rfl
    rw [hx.get, ← he]
    simp [buildDisconnectOutboxRecord]
  obtain ⟨e, he⟩ := h
  obtain ⟨e', he'⟩ := h'
  have hee : e = e' := by
    have := (epoch he).symm.trans (epoch he')
    simpa [Value.int] using this
  subst hee
  have := he.symm.trans he'
  simpa using this

/-- What a finalized pair says. -/
theorem PairAt.finalized {g : ℤ} {d x : Dict} {a : Audit} {o : Outbox}
    (h : PairAt contractorId g d x a o) (hf : o.auditFinalized = true) :
    o.status.IsTerminal ∧ a.revocationStatus = o.status ∧
      a.revocationCompletedAt = some o.updatedAt := by
  obtain ⟨-, -, hp, -⟩ := pairAt_iff.mp h
  have hc := hp.coherent
  unfold Coherent at hc
  by_cases hs : o.status = .requestStarted
  · rw [if_pos hs, hf] at hc
    exact absurd hc.1 (by decide)
  · rw [if_neg hs, if_neg (by simp [hf])] at hc
    exact ⟨hs, hc.1, hc.2.1⟩

/-- A pair that is not yet finalized. -/
theorem PairAt.open {g : ℤ} {d x : Dict} {a : Audit} {o : Outbox}
    (h : PairAt contractorId g d x a o) (hf : o.auditFinalized = false) :
    a.revocationStatus = .requestStarted ∧ a.revocationCompletedAt = none ∧
      o.auditFinalizedAt = none := by
  obtain ⟨-, ⟨-, ho⟩, hp, -⟩ := pairAt_iff.mp h
  have hc := hp.coherent
  have hst := ho.status
  have hfin : o.auditFinalizedAt = none := by
    cases ht : o.auditFinalizedAt with
    | none => rfl
    | some t =>
      unfold StatusRule FinalizedAtRule at hst
      split at hst <;> simp [hf, ht] at hst
  unfold Coherent at hc
  by_cases hs : o.status = .requestStarted
  · rw [if_pos hs] at hc
    exact ⟨hc.2.1, hc.2.2, hfin⟩
  · rw [if_neg hs, if_pos hf] at hc
    exact ⟨hc.1, hc.2, hfin⟩

/-! ## What a committed call did -/

/-- The update of an outbox when an outcome is recorded. -/
def recordedOutbox (x : Dict) (status : RevocationStatus) (t : Double) : Dict :=
  Dict.update x [("status", .text status.text), ("updated_at", .number (.float t))]

def finalizedOutbox (x : Dict) (t : Double) : Dict :=
  Dict.update x [("audit_finalized", .bool true), ("audit_finalized_at", .number (.float t))]

def finalizedAudit (d : Dict) (o : Outbox) : Dict :=
  Dict.update d [("revocation_status", .text o.status.text),
    ("revocation_completed_at", .number (.float o.updatedAt))]

inductive DocStep (contractorId : Str) (call : Call) (s t : Store) (g : ℤ) : Prop
  | kept (audit : auditAt contractorId t g = auditAt contractorId s g)
      (outbox : outboxAt contractorId t g = outboxAt contractorId s g) :
      DocStep contractorId call s t g
  | created (d x : Dict) (a : Audit) (o : Outbox) (noAudit : auditAt contractorId s g = none)
      (noOutbox : outboxAt contractorId s g = none) (audit : auditAt contractorId t g = some d)
      (outbox : outboxAt contractorId t g = some x) (pair : PairAt contractorId g d x a o) :
      DocStep contractorId call s t g
  | completed (x : Dict) (noAudit : auditAt contractorId s g = none)
      (hadOutbox : outboxAt contractorId s g = some x)
      (outbox : outboxAt contractorId t g = some x) : DocStep contractorId call s t g
  | recorded (c : RecordOutcome) (d x : Dict) (a : Audit) (o : Outbox) (now : Double)
      (call_eq : call = .recordOutcome c) (hadAudit : auditAt contractorId s g = some d)
      (hadOutbox : outboxAt contractorId s g = some x) (pair : PairAt contractorId g d x a o)
      (claim : o.claimId = some c.claimId) (started : o.status = .requestStarted)
      (terminal : c.outcomeStatus.IsTerminal) (audit : auditAt contractorId t g = some d)
      (outbox : outboxAt contractorId t g =
        some (recordedOutbox x c.outcomeStatus (later now o.createdAt))) :
      DocStep contractorId call s t g
  | finalized (d x : Dict) (a : Audit) (o : Outbox) (now : Double)
      (hadAudit : auditAt contractorId s g = some d)
      (hadOutbox : outboxAt contractorId s g = some x) (pair : PairAt contractorId g d x a o)
      (terminal : o.status.IsTerminal) (unfinalized : o.auditFinalized = false)
      (audit : auditAt contractorId t g = some (finalizedAudit d o))
      (outbox : outboxAt contractorId t g = some (finalizedOutbox x (later now o.updatedAt))) :
      DocStep contractorId call s t g

theorem readPair_eq_ok {outboxId : Str} {g epoch : ℤ} {m : String} {s : Store} {a : Audit}
    {o : Outbox} {d x : Dict} (h : readPair contractorId outboxId g epoch m s = .ok ((a, o), d, x)) :
    outboxId = formatOutboxDocId contractorId .googleCalendar g ∧
      auditAt contractorId s g = some d ∧ outboxAt contractorId s g = some x ∧
      PairAt contractorId g d x a o := by
  simp only [readPair, bind_eq_ok, require_eq_ok, mapError_eq_ok, pure_eq_ok, Except.ok.injEq,
    Prod.mk.injEq] at h
  obtain ⟨x, hx, d, hd, p, hp, rfl, rfl, rfl⟩ := h
  obtain ⟨ha, ⟨hs, ho, hm⟩, hpair⟩ := validateDisconnectLifecyclePair_eq_ok.mp hp
  have hc : o.contractorId = contractorId := hm.contractorId _ rfl
  have hpr : o.provider = .googleCalendar := hm.provider _ rfl
  have hg : o.generation = g := hm.generation _ rfl
  have hid : outboxId = formatOutboxDocId contractorId .googleCalendar g := by
    have := hm.id outboxId rfl
    simp only [Outbox.context, hc, hpr, hg] at this
    exact this.symm
  subst hid
  exact ⟨rfl, hd, hx, epoch, hp⟩

theorem recordOutcome_docStep {c : RecordOutcome} {s t : Store}
    (h : recordOutcome contractorId c s = .ok t) (g : ℤ) :
    DocStep contractorId (.recordOutcome c) s t g := by
  simp only [recordOutcome, bind_eq_ok, ensure_eq_ok, exists_unit, Prod.exists] at h
  obtain ⟨-, -, hterm, -, -, a, o, d, x, hread, hclaim, h⟩ := h
  obtain ⟨hid, hd, hx, hpair⟩ := readPair_eq_ok hread
  split at h
  · cases h
    exact .kept rfl rfl
  · simp only [bind_eq_ok, ensure_eq_ok, exists_unit, pure_eq_ok, Except.ok.injEq] at h
    obtain ⟨hstart, now, -, rfl⟩ := h
    by_cases hg : g = c.expectedGeneration
    · subst hg
      refine .recorded c d x a o now rfl hd hx hpair hclaim hstart hterm hd ?_
      rw [hid]
      exact put_same
    · refine .kept rfl ?_
      rw [hid]
      exact put_other fun he => hg (formatOutboxDocId_inj he)

theorem finalize_docStep {c : Finalize} {s t : Store} (h : finalize contractorId c s = .ok t)
    (g : ℤ) : DocStep contractorId (.finalize c) s t g := by
  simp only [finalize, bind_eq_ok, ensure_eq_ok, exists_unit, Prod.exists] at h
  obtain ⟨-, -, -, a, o, d, x, hread, hterm, h⟩ := h
  obtain ⟨hid, hd, hx, hpair⟩ := readPair_eq_ok hread
  split at h
  · cases h
    exact .kept rfl rfl
  · rename_i hfin
    simp only [bind_eq_ok, pure_eq_ok, Except.ok.injEq] at h
    obtain ⟨now, -, rfl⟩ := h
    rw [hid]
    by_cases hg : g = c.expectedGeneration
    · subst hg
      exact .finalized d x a o now hd hx hpair hterm (by simpa using hfin) put_same put_same
    · exact .kept (put_other fun he => hg (formatOutboxDocId_inj he))
        (put_other fun he => hg (formatOutboxDocId_inj he))

/-- The documents that a disconnect has validated, for the generation they name. -/
theorem pairAt_of_built {a : Audit} {o : Outbox} {x : Audit × Outbox} {g : ℤ}
    (h : validateDisconnectLifecyclePair .anything (buildDisconnectAuditEvent a)
      (buildDisconnectOutboxRecord o) = .ok x) (hc : o.contractorId = contractorId)
    (hp : o.provider = .googleCalendar) (hg : o.generation = g) :
    PairAt contractorId g (buildDisconnectAuditEvent a) (buildDisconnectOutboxRecord o)
      x.1 x.2 := by
  obtain ⟨⟨hd, ha, -⟩, ⟨hx, ho, -⟩, hpair⟩ := validateDisconnectLifecyclePair_eq_ok.mp h
  have hcid := hx.get "contractor_id"
  have hpro := hx.get "provider"
  have hgen := hx.get "generation"
  simp [buildDisconnectOutboxRecord, Value.int, Value.text] at hcid hpro hgen
  exact pairAt_iff.mpr ⟨⟨hd, ha⟩, ⟨hx, ho⟩, hpair, hcid.symm.trans hc,
    (Provider.text_injective hpro).symm.trans hp, hgen.symm.trans hg⟩

theorem disconnectTombstone_docStep {d : Disconnect} {now : Double} {l : Lifecycle} {s : Store}
    {y : Store × DisconnectResult} (h : disconnectTombstone contractorId d now l s = .ok y) (g : ℤ) :
    DocStep contractorId (.disconnect d) s y.1 g := by
  simp only [disconnectTombstone] at h
  split at h
  · simp only [bind_eq_ok, mapError_eq_ok, pure_eq_ok, Except.ok.injEq] at h
    obtain ⟨-, -, rfl⟩ := h
    exact .kept rfl rfl
  · rename_i hx hd
    simp only [bind_eq_ok, pure_eq_ok, Except.ok.injEq] at h
    obtain ⟨actor, -, reason, -, p, hp, rfl⟩ := h
    by_cases hg : g = l.generation
    · subst hg
      have hpair := pairAt_of_built hp rfl rfl rfl
      exact .created _ _ p.1 p.2 hd hx put_same put_same hpair
    · exact .kept (put_other fun he => hg (formatOutboxDocId_inj he))
        (put_other fun he => hg (formatOutboxDocId_inj he))
  · rename_i x hx hd
    simp only [bind_eq_ok, mapError_eq_ok, ensure_eq_ok, exists_unit, pure_eq_ok,
      Except.ok.injEq] at h
    obtain ⟨o, -, -, actor, -, reason, -, p, -, rfl⟩ := h
    by_cases hg : g = l.generation
    · subst hg
      exact .completed x hd hx hx
    · exact .kept (put_other fun he => hg (formatOutboxDocId_inj he)) rfl
  · cases h

theorem disconnectMutation_docStep {d : Disconnect} {now : Double} {l : Lifecycle} {s : Store}
    {y : Store × DisconnectResult} (h : disconnectMutation contractorId d now l s = .ok y) (g : ℤ) :
    DocStep contractorId (.disconnect d) s y.1 g := by
  simp only [disconnectMutation, bind_eq_ok, ensure_eq_ok, exists_unit, pure_eq_ok,
    Except.ok.injEq, Option.isNone_iff_eq_none] at h
  obtain ⟨-, -, habs, actor, -, reason, -, p, hp, rfl⟩ := h
  by_cases hg : g = l.generation + 1
  · subst hg
    have hpair := pairAt_of_built hp rfl rfl rfl
    exact .created _ _ p.1 p.2 habs.1 habs.2 put_same put_same hpair
  · exact .kept (put_other fun he => hg (formatOutboxDocId_inj he))
      (put_other fun he => hg (formatOutboxDocId_inj he))

theorem disconnect_docStep {d : Disconnect} {s : Store} {y : Store × DisconnectResult}
    (h : disconnect contractorId d s = .ok y) (g : ℤ) :
    DocStep contractorId (.disconnect d) s y.1 g := by
  simp only [disconnect, disconnectTxn, bind_eq_ok, ensure_eq_ok, exists_unit, mapError_eq_ok] at h
  obtain ⟨-, -, now, -, l, -, h⟩ := h
  split at h
  · exact disconnectTombstone_docStep h g
  · exact disconnectMutation_docStep h g

theorem docStep_of_body {s t : Store} {call : Call} {res : Result}
    (h : body contractorId s call = .ok (t, res)) (g : ℤ) : DocStep contractorId call s t g := by
  cases call with
  | acquire a =>
    simp only [body, bind_eq_ok, pure_eq_ok, Except.ok.injEq] at h
    obtain ⟨x, -, h⟩ := h
    cases h
    exact .kept rfl rfl
  | transition t =>
    simp only [body, bind_eq_ok, pure_eq_ok, Except.ok.injEq] at h
    obtain ⟨x, -, h⟩ := h
    cases h
    exact .kept rfl rfl
  | persist p =>
    simp only [body, bind_eq_ok, pure_eq_ok, Except.ok.injEq] at h
    obtain ⟨x, -, h⟩ := h
    cases h
    exact .kept rfl rfl
  | connect c =>
    simp only [body, bind_eq_ok, pure_eq_ok, Except.ok.injEq] at h
    obtain ⟨⟨r, i, d⟩, hr, h⟩ := h
    cases h
    obtain ⟨now, l, st, format, access, refresh, expiry, -, -, -, -, -, -, rfl, -, -⟩ :=
      connect_spec hr
    exact .kept (put_other connectAction_ne.symm) rfl
  | consume c =>
    simp only [body, Except.ok.injEq] at h
    cases h
    exact .kept rfl rfl
  | disconnect d =>
    simp only [body, bind_eq_ok, pure_eq_ok, Except.ok.injEq] at h
    obtain ⟨x, hx, h⟩ := h
    cases h
    exact disconnect_docStep hx g
  | recordOutcome c =>
    simp only [body, bind_eq_ok, pure_eq_ok, Except.ok.injEq] at h
    obtain ⟨x, hx, h⟩ := h
    cases h
    exact recordOutcome_docStep hx g
  | finalize c =>
    simp only [body, bind_eq_ok, pure_eq_ok, Except.ok.injEq] at h
    obtain ⟨x, hx, h⟩ := h
    cases h
    exact finalize_docStep hx g

/-! ## Which steps keep a pair accepted -/

theorem le_later (a b : Double) : b.val ≤ (later a b).val := by
  unfold later
  split
  · exact le_refl _
  · rename_i h
    exact not_lt.mp h

theorem same_recordedOutbox {x : Dict} {o : Outbox} (h : Dict.Same x (buildDisconnectOutboxRecord o))
    (status : RevocationStatus) (t : Double) :
    Dict.Same (recordedOutbox x status t)
      (buildDisconnectOutboxRecord { o with status := status, updatedAt := t }) := by
  have hb : recordedOutbox (buildDisconnectOutboxRecord o) status t =
      buildDisconnectOutboxRecord { o with status := status, updatedAt := t } := by
    simp [recordedOutbox, buildDisconnectOutboxRecord, Entries.set]
  rw [← hb]
  exact (h.set _ _).set _ _

theorem same_finalizedOutbox {x : Dict} {o : Outbox}
    (h : Dict.Same x (buildDisconnectOutboxRecord o)) (t : Double) :
    Dict.Same (finalizedOutbox x t)
      (buildDisconnectOutboxRecord { o with auditFinalized := true, auditFinalizedAt := some t }) := by
  have hb : finalizedOutbox (buildDisconnectOutboxRecord o) t =
      buildDisconnectOutboxRecord { o with auditFinalized := true, auditFinalizedAt := some t } := by
    simp [finalizedOutbox, buildDisconnectOutboxRecord, Entries.set, optFloat]
  rw [← hb]
  exact (h.set _ _).set _ _

theorem same_finalizedAudit {d : Dict} {a : Audit} (h : Dict.Same d (buildDisconnectAuditEvent a))
    (o : Outbox) :
    Dict.Same (finalizedAudit d o) (buildDisconnectAuditEvent
      { a with revocationStatus := o.status, revocationCompletedAt := some o.updatedAt }) := by
  have hb : finalizedAudit (buildDisconnectAuditEvent a) o = buildDisconnectAuditEvent
      { a with revocationStatus := o.status, revocationCompletedAt := some o.updatedAt } := by
    simp [finalizedAudit, buildDisconnectAuditEvent, Entries.set, optFloat]
  rw [← hb]
  exact (h.set _ _).set _ _

/-- An outcome other than the one that only the disconnect itself may record. -/
theorem PairAt.record {g : ℤ} {d x : Dict} {a : Audit} {o : Outbox} {status : RevocationStatus}
    (h : PairAt contractorId g d x a o) (started : o.status = .requestStarted)
    (terminal : status.IsTerminal) (hne : status ≠ .notAttemptedUnavailable) (now : Double) :
    PairAt contractorId g d (recordedOutbox x status (later now o.createdAt)) a
      { o with status := status, updatedAt := later now o.createdAt } := by
  obtain ⟨hd, ⟨hx, ho⟩, hp, hids⟩ := pairAt_iff.mp h
  have hst := ho.status
  rw [StatusRule, started] at hst
  obtain ⟨hclaim, hfin, hfinAt, -⟩ := hst
  have hopen := h.open hfin
  refine pairAt_iff.mpr ⟨hd, ⟨same_recordedOutbox hx _ _, ?_⟩, ?_, hids⟩
  · refine ⟨ho.context, ho.createdAt, le_later _ _, ho.claimId, ho.finalizedAt, ?_⟩
    cases status <;> first
      | exact absurd rfl terminal
      | exact absurd rfl hne
      | exact ⟨hclaim, by simp [FinalizedAtRule, hfin, hfinAt]⟩
  · refine ⟨hp.context, hp.disposition, hp.createdAt, ?_⟩
    rw [Coherent, if_neg terminal, if_pos hfin]
    exact ⟨hopen.1, hopen.2.1⟩

/-- No pair is accepted whose claim reports that nothing was attempted. -/
theorem not_pairAt_misreported {g : ℤ} {d x d' : Dict} {a a' : Audit} {o o' : Outbox} {k : Str}
    {t : Double} (h : PairAt contractorId g d x a o) (claim : o.claimId = some k) :
    ¬ PairAt contractorId g d' (recordedOutbox x .notAttemptedUnavailable t) a' o' := by
  intro h'
  obtain ⟨-, ⟨hx, -⟩, -⟩ := pairAt_iff.mp h
  obtain ⟨-, ⟨hx', ho'⟩, -⟩ := pairAt_iff.mp h'
  have hsame := (same_recordedOutbox hx .notAttemptedUnavailable t)
  have hstatus := (hx'.get "status").symm.trans (hsame.get "status")
  have hclaim := (hx'.get "claim_id").symm.trans (hsame.get "claim_id")
  simp only [buildDisconnectOutboxRecord, Dict.get_cons, String.reduceEq, if_true, if_false,
    claim] at hstatus hclaim
  have hs : o'.status = .notAttemptedUnavailable :=
    RevocationStatus.text_injective (by simpa [Value.text] using hstatus)
  have hrule := ho'.status
  rw [StatusRule, hs] at hrule
  rw [hrule.1] at hclaim
  cases hclaim

theorem PairAt.finalize {g : ℤ} {d x : Dict} {a : Audit} {o : Outbox}
    (h : PairAt contractorId g d x a o) (terminal : o.status.IsTerminal) (now : Double) :
    PairAt contractorId g (finalizedAudit d o) (finalizedOutbox x (later now o.updatedAt))
      { a with revocationStatus := o.status, revocationCompletedAt := some o.updatedAt }
      { o with auditFinalized := true, auditFinalizedAt := some (later now o.updatedAt) } := by
  obtain ⟨⟨hd, ha⟩, ⟨hx, ho⟩, hp, hids⟩ := pairAt_iff.mp h
  have hpos : 0 < o.updatedAt.val := ho.createdAt.trans_le ho.updatedAt
  have hlater := le_later now o.updatedAt
  refine pairAt_iff.mpr ⟨⟨same_finalizedAudit hd o, ?_⟩, ⟨same_finalizedOutbox hx _, ?_⟩, ?_, hids⟩
  · refine ⟨ha.context, ha.createdAt, by simpa using hpos, ?_⟩
    have hle : a.createdAt.val ≤ o.updatedAt.val := hp.createdAt ▸ ho.updatedAt
    cases hs : o.status <;> first
      | exact absurd hs terminal
      | simp [CompletedAtRule, hpos, hle]
  · refine ⟨ho.context, ho.createdAt, ho.updatedAt, ho.claimId,
      by simpa using hpos.trans_le hlater, ?_⟩
    have hst := ho.status
    have hrule : FinalizedAtRule { o with
        auditFinalized := true, auditFinalizedAt := some (later now o.updatedAt) } :=
      ⟨hpos.trans_le hlater, hlater⟩
    cases hs : o.status <;> rw [StatusRule, hs] at hst
    · exact absurd hs terminal
    all_goals
      simp only [StatusRule]
      exact ⟨hst.1, hrule⟩
  · refine ⟨hp.context, hp.disposition, hp.createdAt, ?_⟩
    rw [Coherent, if_neg terminal, if_neg (by simp)]
    exact ⟨rfl, rfl, _, rfl, hlater⟩

/-- The call reports, as the outcome of a request, that none was made. -/
def Misreports : Call → Prop
  | .recordOutcome c => c.outcomeStatus = .notAttemptedUnavailable
  | _ => False

theorem DocStep.sound {call : Call} {s t : Store} {g : ℤ} (h : DocStep contractorId call s t g)
    (hs : Sound contractorId s g) (hok : ¬ Misreports call) : Sound contractorId t g := by
  cases h with
  | kept audit outbox =>
    rw [Sound, audit, outbox]
    exact hs
  | created d x a o noAudit noOutbox audit outbox pair => exact .inr ⟨d, x, a, o, audit, outbox, pair⟩
  | completed x noAudit hadOutbox outbox =>
    rcases hs with ⟨-, hn⟩ | ⟨d, y, a, o, hd, -⟩
    · rw [hadOutbox] at hn
      cases hn
    · rw [noAudit] at hd
      cases hd
  | recorded c d x a o now call_eq hadAudit hadOutbox pair claim started terminal audit outbox =>
    subst call_eq
    exact .inr ⟨d, _, a, _, audit, outbox, pair.record started terminal hok now⟩
  | finalized d x a o now hadAudit hadOutbox pair terminal unfinalized audit outbox =>
    exact .inr ⟨_, _, _, _, audit, outbox, pair.finalize terminal now⟩

/-- A misreport that commits ruins the pair. -/
theorem recordOutcome_unsound {c : RecordOutcome} {s t : Store}
    (h : recordOutcome contractorId c s = .ok t)
    (hc : c.outcomeStatus = .notAttemptedUnavailable) : ∃ g, ¬ Sound contractorId t g := by
  simp only [recordOutcome, bind_eq_ok, ensure_eq_ok, exists_unit, Prod.exists] at h
  obtain ⟨-, -, -, -, -, a, o, d, x, hread, hclaim, h⟩ := h
  obtain ⟨hid, hd, hx, hpair⟩ := readPair_eq_ok hread
  split at h
  · -- the outbox says so already, and then no claim is stored
    rename_i hs
    have hrule := (pairAt_iff.mp hpair).2.1.2.status
    rw [StatusRule, hs, hc] at hrule
    rw [hrule.1] at hclaim
    cases hclaim
  · simp only [bind_eq_ok, ensure_eq_ok, exists_unit, pure_eq_ok, Except.ok.injEq] at h
    obtain ⟨hstart, now, -, rfl⟩ := h
    refine ⟨c.expectedGeneration, ?_⟩
    set y := recordedOutbox x c.outcomeStatus (later now o.createdAt) with hy
    have hout : put s.outboxes c.outboxId y
        (formatOutboxDocId contractorId .googleCalendar c.expectedGeneration) =
        some (recordedOutbox x .notAttemptedUnavailable (later now o.createdAt)) := by
      rw [hid, put_same, hy, hc]
    rintro (⟨-, hn⟩ | ⟨d', x', a', o', -, hx', hp'⟩)
    · cases hn.symm.trans hout
    · cases hx'.symm.trans hout
      exact not_pairAt_misreported hpair hclaim hp'

end HeyKevin.L7.Tokens
