import HeyKevin.L10Bakeoff.ControlRefinement
/-!
# Execution control is single-use, exclusive and revocable

Over every run of the transactional control store, whatever the port does with
each transaction. A transaction that was written counts, whether or not its
answer arrived.

* `History`: what the transactions written so far say about each reservation.
* `history_step`, `tracked_run`: it holds at every point of a run.
* `SingleUse`, `control_single_use`: what callers get.

Clocks may go back and references may repeat: an admission whose reference
exists aborts, and an expiry is never taken back. Only two acknowledgements of
a run with one digest would be confused.
-/
namespace HeyKevin.L10.Control

open HeyKevin.Core L1 L1.Text

/-- A call and what it answered. -/
abbrev Done := ControlCall × Answer

section

variable (A : Authorities)

/-! ## One step of one reservation -/

theorem ledger_update_cases (l : MemoryStore) (call : ControlCall)
    (hother : ∀ approval nowMs ttlMs draw, call ≠ .admitApproval approval nowMs ttlMs draw) :
    ledger A l call = (l, call.refusal) ∨
    ∃ ref r, 1 ≤ call.nowMs ∧ call.target A = some ref ∧ l.records.find? ref = some r ∧
      ledger A l call = (l.setRecord (call.onRecord A (r.expired call.nowMs)).1,
        (call.onRecord A (r.expired call.nowMs)).2) := by
  unfold ledger
  split
  · exact .inl rfl
  rename_i hguard
  rcases memory_cases A l call with ⟨_, _, _, _, hcall⟩ | ⟨-, he⟩ | ⟨ref, r, htarget, hr, he⟩
  · exact absurd hcall (hother _ _ _ _)
  · exact .inl he
  · exact .inr ⟨ref, r, by omega, htarget, hr, he⟩

theorem finalizeRecord_proof {r : ControlRecord} {ack : PreAuthActivationAcknowledgement}
    {nowMs : ℤ} {p : ControlActivationProof} (h : (finalizeRecord A r ack nowMs).2 = some p) :
    (r.state = .active ∧ acknowledgementMatches A r ack = true ∧
      (finalizeRecord A r ack nowMs).1 = r ∧
      ∃ t, r.activatedAtMs = some t ∧ p = activationProof A r ack t) ∨
    acknowledges A r ack nowMs = true ∧
      (finalizeRecord A r ack nowMs).1 = r.activate ack (A.acknowledgementDigest ack) nowMs ∧
      p = activationProof A (r.activate ack (A.acknowledgementDigest ack) nowMs) ack nowMs := by
  unfold finalizeRecord at h ⊢
  split at h
  · rename_i hactive
    rw [if_pos hactive]
    split at h
    · rename_i hmatch
      obtain ⟨t, ht, hp⟩ := Option.map_eq_some_iff.mp h
      exact .inl ⟨hactive, hmatch, rfl, t, ht, hp.symm⟩
    · cases h
  · rename_i hactive
    rw [if_neg hactive]
    split at h
    · rename_i hack
      rw [if_pos hack]
      exact .inr ⟨hack, rfl, (Option.some.inj h).symm⟩
    · cases h

/-- An unexpired state was stored so. -/
theorem ControlRecord.expired_eq {r : ControlRecord} {t : ℤ} (h : (r.expired t).state ≠ .expired) :
    r.expired t = r := by
  rcases r.expired_cases t with he | ⟨-, he⟩
  · exact he
  · rw [he] at h
    exact absurd rfl h

theorem ControlRecord.lt_expiresAtMs {r : ControlRecord} {t : ℤ} (hactive : r.state = .active)
    (h : r.expired t = r) : t < r.expiresAtMs := by
  by_contra hlate
  have hstate : (r.expired t).state = .expired := by
    unfold ControlRecord.expired
    rw [if_neg (by simp [hactive]), if_pos ⟨hactive, by omega⟩]
  rw [h, hactive] at hstate
  cases hstate

theorem ledger_finalize_answer (l : MemoryStore) (ack : PreAuthActivationAcknowledgement)
    (nowMs : ℤ) : ∃ x, (ledger A l (.finalize ack nowMs)).2 = .proof x := by
  rcases ledger_update_cases A l (.finalize ack nowMs) (fun _ _ _ _ h => by cases h) with
    he | ⟨_, _, -, -, -, he⟩ <;> rw [he] <;> exact ⟨_, rfl⟩

theorem ledger_authorizes_answer (l : MemoryStore)
    (controlRef preauthRef bindingDigest tokenDigest : Str) (nowMs : ℤ) :
    ∃ x, (ledger A l (.authorizesSession controlRef preauthRef bindingDigest tokenDigest
      nowMs)).2 = .bool x := by
  rcases ledger_update_cases A l (.authorizesSession controlRef preauthRef bindingDigest
    tokenDigest nowMs) (fun _ _ _ _ h => by cases h) with he | ⟨_, _, -, -, -, he⟩ <;> rw [he] <;> exact ⟨_, rfl⟩

namespace RecordStep

variable {A} {call : ControlCall} {r r' : ControlRecord}

theorem of_active (h : RecordStep A call r r') (hactive : r'.state = .active) :
    r' = r ∨ ∃ ack nowMs, call = .finalize ack nowMs ∧ A.verifyAcknowledgement ack = true ∧
      ack.controlRef.val = r.controlRef ∧ acknowledges A r ack nowMs = true ∧
      r' = r.activate ack (A.acknowledgementDigest ack) nowMs := by
  cases h with
  | same => exact .inl rfl
  | expired =>
    exact .inl (ControlRecord.expired_eq (by rw [hactive]; decide))
  | update htarget =>
    rcases onRecord_cases A call (r.expired call.nowMs) with he | ⟨ack, nowMs, rfl, hack, he⟩ |
      ⟨_, _, _, -, he⟩
    · rw [he] at hactive ⊢
      exact .inl (ControlRecord.expired_eq (by rw [hactive]; decide))
    · have hsame : r.expired nowMs = r := by
        apply ControlRecord.expired_eq
        simp only [acknowledges, Bool.and_eq_true, decide_eq_true_eq] at hack
        have hpending := hack.1.1.1.1.1.1.1
        rw [show (r.expired nowMs).state = .pendingPreauth from hpending]
        decide
      simp only [ControlCall.target] at htarget
      split at htarget
      · rename_i hverify
        refine .inr ⟨ack, nowMs, rfl, hverify, Option.some.inj htarget, ?_, ?_⟩
        · rw [← hsame]
          exact hack
        · rw [he, show r.expired (ControlCall.finalize ack nowMs).nowMs = r from hsame]
      · cases htarget
    · rw [he] at hactive
      cases hactive

/-- What was revoked stays so. -/
theorem revoked (h : RecordStep A call r r') (hr : r.state = .revoked) : r'.state = .revoked := by
  have hexp : ∀ t, r.expired t = r := fun t =>
    ControlRecord.expired_of_not_isLive (by simp [ControlRecord.isLive, hr]) t
  cases h with
  | same => exact hr
  | expired => rw [hexp, hr]
  | update =>
    rw [hexp]
    rcases onRecord_cases A call r with he | ⟨ack, _, -, hack, -⟩ | ⟨_, _, _, -, he⟩
    · rw [he, hr]
    · simp [acknowledges, hr] at hack
    · rw [he]
      rfl

/-- What is no longer pending never is again. -/
theorem not_pending (h : RecordStep A call r r') (hr : r.state ≠ .pendingPreauth) :
    r'.state ≠ .pendingPreauth := by
  have hexp : ∀ t, (r.expired t).state ≠ .pendingPreauth := by
    intro t
    rcases r.expired_cases t with he | ⟨-, he⟩ <;> rw [he]
    · exact hr
    · intro h
      cases h
  cases h with
  | same => exact hr
  | expired => exact hexp _
  | update =>
    rcases onRecord_cases A call (r.expired call.nowMs) with he | ⟨_, _, -, -, he⟩ |
      ⟨_, _, _, -, he⟩ <;> rw [he]
    · exact hexp _
    · intro h
      cases h
    · intro h
      cases h

end RecordStep

/-! ## What was written -/

/-- The reservation is active by this acknowledgement, which was answered with this proof. -/
structure ControlRecord.ActivatedBy (r : ControlRecord) (ack : PreAuthActivationAcknowledgement)
    (p : ControlActivationProof) : Prop where
  verified : A.verifyAcknowledgement ack = true
  agrees : acknowledgementMatches A r ack = true
  inTime : ack.acknowledgedAtMs < r.activationDeadlineMs
  proof : ∃ t, r.activatedAtMs = some t ∧ p = activationProof A r ack t

theorem activatedBy_activate {r : ControlRecord} {ack : PreAuthActivationAcknowledgement}
    {nowMs : ℤ} (hverify : A.verifyAcknowledgement ack = true)
    (href : ack.controlRef.val = r.controlRef) (hack : acknowledges A r ack nowMs = true) :
    (r.activate ack (A.acknowledgementDigest ack) nowMs).ActivatedBy A ack
      (activationProof A (r.activate ack (A.acknowledgementDigest ack) nowMs) ack nowMs) where
  verified := hverify
  agrees := by
    simp only [acknowledges, Bool.and_eq_true, decide_eq_true_eq] at hack
    simp [acknowledgementMatches, ControlRecord.activate, href, hack]
  inTime := by
    simp only [acknowledges, Bool.and_eq_true, decide_eq_true_eq] at hack
    exact hack.2
  proof := ⟨nowMs, rfl, rfl⟩

/-- The reservation of a bundle: what the admission wrote for good is still there. -/
structure ControlRecord.ReservedBy (r : ControlRecord) (b : AdmissionBundle) : Prop where
  controlRef : r.controlRef = b.receipt.controlRef.val
  bindingDigest : r.bindingDigest = b.receipt.bindingDigest
  deadline : r.activationDeadlineMs = b.receipt.activationDeadlineMs
  expiresAtMs : r.expiresAtMs = b.receipt.expiresAtMs
  grant : r.grantIdDigest = b.grant.grantIdDigest
  receipt : r.receiptDigest = A.receiptDigest b.receipt

structure History (done : List Done) (l : MemoryStore) : Prop where
  /-- A reservation is the one that an admission returned. -/
  reserved : ∀ ref r, l.records.find? ref = some r → ∃ approval nowMs ttlMs draw b,
    (.admitApproval approval nowMs ttlMs draw, .bundle (some b)) ∈ done ∧ r.ReservedBy A b
  /-- An active one was acknowledged. -/
  active : ∀ ref r, l.records.find? ref = some r → r.state = .active → ∃ ack nowMs p,
    (.finalize ack nowMs, .proof (some p)) ∈ done ∧ r.ActivatedBy A ack p
  /-- A reservation with a proof is no longer pending, and active by that acknowledgement only. -/
  finalized : ∀ ack nowMs p, (ControlCall.finalize ack nowMs, Answer.proof (some p)) ∈ done →
    1 ≤ nowMs ∧ ∃ r, l.records.find? ack.controlRef.val = some r ∧
      r.state ≠ .pendingPreauth ∧ (r.state = .active → r.ActivatedBy A ack p)
  revoked : ∀ ref reason nowMs, (ControlCall.revoke ref reason nowMs, Answer.bool true) ∈ done →
    ∃ r, l.records.find? ref = some r ∧ r.state = .revoked
  consumed : ∀ approval nowMs ttlMs draw b,
    (ControlCall.admitApproval approval nowMs ttlMs draw, Answer.bundle (some b)) ∈ done →
    approval.nonceDigest ∈ l.consumedNonces ∧ approval.approvalIdDigest ∈ l.consumedApprovalIds

/-- No two acknowledgements of these calls have one digest. -/
def CollisionFree (calls : List ControlCall) : Prop :=
  ∀ a b t u, ControlCall.finalize a t ∈ calls → ControlCall.finalize b u ∈ calls →
    A.acknowledgementDigest a = A.acknowledgementDigest b → a = b

theorem history_empty : History A [] .empty := by
  constructor
  · intro ref r h
    cases h
  · intro ref r h
    cases h
  · intro ack nowMs p h
    cases h
  · intro ref reason nowMs h
    cases h
  · intro approval nowMs ttlMs draw b h
    cases h

theorem ledger_bundle {l : MemoryStore} {approval : VerifiedApproval} {nowMs ttlMs : ℤ}
    {draw : Draw} {b : AdmissionBundle}
    (h : (ledger A l (.admitApproval approval nowMs ttlMs draw)).2 = .bundle (some b)) :
    (approval.nonceDigest ∉ l.consumedNonces ∧
      approval.approvalIdDigest ∉ l.consumedApprovalIds) ∧
    approval.nonceDigest ∈
      (ledger A l (.admitApproval approval nowMs ttlMs draw)).1.consumedNonces ∧
    approval.approvalIdDigest ∈
      (ledger A l (.admitApproval approval nowMs ttlMs draw)).1.consumedApprovalIds := by
  rcases ledger_admit_cases A l approval nowMs ttlMs draw with he | ⟨-, he⟩ |
    ⟨-, -, -, hspent, he⟩
  · rw [he] at h
    cases h
  · rw [he] at h
    cases h
  · simp only [MemoryStore.hasSpent, Bool.or_eq_false_iff, decide_eq_false_iff_not] at hspent
    rw [he]
    exact ⟨hspent.1, List.mem_cons_self, List.mem_cons_self⟩

/-- Nothing gives a nonce or an approval id back. -/
theorem ledger_consumed (l : MemoryStore) (call : ControlCall) :
    (∀ d ∈ l.consumedNonces, d ∈ (ledger A l call).1.consumedNonces) ∧
      ∀ d ∈ l.consumedApprovalIds, d ∈ (ledger A l call).1.consumedApprovalIds := by
  by_cases hother : ∃ approval nowMs ttlMs draw, call = .admitApproval approval nowMs ttlMs draw
  · obtain ⟨approval, nowMs, ttlMs, draw, rfl⟩ := hother
    rcases ledger_admit_cases A l approval nowMs ttlMs draw with he | ⟨-, he⟩ |
      ⟨-, -, -, -, he⟩ <;> rw [he]
    · exact ⟨fun _ hd => hd, fun _ hd => hd⟩
    · simp
    · simp only [MemoryStore.reserve, MemoryStore.expireOwner_consumedNonces,
        MemoryStore.expireOwner_consumedApprovalIds]
      exact ⟨fun _ hd => List.mem_cons_of_mem _ hd, fun _ hd => List.mem_cons_of_mem _ hd⟩
  · rcases ledger_update_cases A l _ fun _ _ _ _ hcall => hother ⟨_, _, _, _, hcall⟩ with
      he | ⟨_, _, -, -, -, he⟩ <;> rw [he]
    · exact ⟨fun _ hd => hd, fun _ hd => hd⟩
    · exact ⟨fun _ hd => hd, fun _ hd => hd⟩

theorem ledger_proof {l : MemoryStore} (hl : l.Inv) {ack : PreAuthActivationAcknowledgement}
    {nowMs : ℤ} {p : ControlActivationProof}
    (h : (ledger A l (.finalize ack nowMs)).2 = .proof (some p)) :
    1 ≤ nowMs ∧ A.verifyAcknowledgement ack = true ∧
      ∃ r r', l.records.find? ack.controlRef.val = some r ∧ (ledger A l (.finalize ack nowMs)).1.records.find? ack.controlRef.val = some r' ∧
      (r' = r ∧ r.state = .active ∧ acknowledgementMatches A r ack = true ∧
          (∃ t, r.activatedAtMs = some t ∧ p = activationProof A r ack t) ∨
        acknowledges A r ack nowMs = true ∧
          r' = r.activate ack (A.acknowledgementDigest ack) nowMs ∧
          p = activationProof A r' ack nowMs) := by
  rcases ledger_update_cases A l (.finalize ack nowMs) (fun _ _ _ _ h => by cases h) with
    he | ⟨ref, r, hnow, htarget, hr, he⟩
  · rw [he] at h
    cases h
  simp only [ControlCall.target] at htarget
  split at htarget
  · rename_i hverify
    cases htarget
    rw [he] at h ⊢
    simp only [ControlCall.onRecord, ControlCall.nowMs, Answer.proof.injEq] at h ⊢
    have hcases := finalizeRecord_proof A h
    have hstate : (r.expired nowMs).state ≠ .expired := by
      rcases hcases with ⟨hactive, -⟩ | ⟨hack, -⟩
      · rw [hactive]
        intro h
        cases h
      · simp only [acknowledges, Bool.and_eq_true, decide_eq_true_eq] at hack
        rw [hack.1.1.1.1.1.1.1]
        intro h
        cases h
    rw [ControlRecord.expired_eq hstate] at hcases ⊢
    have href := hl.ref _ _ hr
    refine ⟨hnow, hverify, r, (finalizeRecord A r ack nowMs).1, hr, ?_, ?_⟩
    · rw [MemoryStore.find?_setRecord]
      refine if_pos ?_
      rcases hcases with ⟨-, -, hx, -⟩ | ⟨-, hx, -⟩ <;> rw [hx] <;> exact href
    · rcases hcases with ⟨hactive, hmatch, hx, ht⟩ | ⟨hack, hx, hp⟩
      · exact .inl ⟨hx, hactive, hmatch, ht⟩
      · exact .inr ⟨hack, hx, hx ▸ hp⟩
  · cases htarget

theorem ledger_revoked {l : MemoryStore} (hl : l.Inv) {ref : Str} {reason : RevocationReason}
    {nowMs : ℤ} (h : (ledger A l (.revoke ref reason nowMs)).2 = .bool true) :
    ∃ r', (ledger A l (.revoke ref reason nowMs)).1.records.find? ref = some r' ∧
      r'.state = .revoked := by
  rcases ledger_update_cases A l (.revoke ref reason nowMs) (fun _ _ _ _ h => by cases h) with
    he | ⟨ref', r, -, htarget, hr, he⟩
  · rw [he] at h
    cases h
  cases htarget
  have href := hl.ref _ _ hr
  rw [he]
  simp only [ControlCall.onRecord, MemoryStore.find?_setRecord]
  split
  · rename_i hrevoked
    exact ⟨_, if_pos (by simpa using href), hrevoked⟩
  · exact ⟨_, if_pos (by simpa [ControlRecord.revoke] using href), rfl⟩

theorem ledger_activated {l : MemoryStore} (hl : l.Inv) {ack : PreAuthActivationAcknowledgement}
    {nowMs : ℤ} {ref : Str} {r r' : ControlRecord} (hr : l.records.find? ref = some r)
    (hr' : (ledger A l (.finalize ack nowMs)).1.records.find? ref = some r')
    (hack : acknowledges A r ack nowMs = true)
    (hactive : r' = r.activate ack (A.acknowledgementDigest ack) nowMs) :
    (ledger A l (.finalize ack nowMs)).2 = .proof (some (activationProof A r' ack nowMs)) := by
  have hpending : r.state = .pendingPreauth := by
    simp only [acknowledges, Bool.and_eq_true, decide_eq_true_eq] at hack
    exact hack.1.1.1.1.1.1.1
  have hactive' : r'.state = .active := by rw [hactive]; rfl
  have hchanged : r' ≠ r := by
    rintro rfl
    rw [hactive'] at hpending
    cases hpending
  rcases ledger_update_cases A l (.finalize ack nowMs) (fun _ _ _ _ h => by cases h) with
    he | ⟨ref', q, -, htarget, hq, he⟩
  · rw [he, hr] at hr'
    exact absurd (Option.some.inj hr').symm hchanged
  have hkey := hl.ref _ _ hq
  have hstep : RecordStep A (.finalize ack nowMs) q
      ((ControlCall.finalize ack nowMs).onRecord A (q.expired nowMs)).1 :=
    .update (hkey ▸ htarget)
  simp only [ControlCall.nowMs] at he
  rw [he, MemoryStore.find?_setRecord, hstep.fixed.1, hkey] at hr'
  split at hr'
  · rename_i href
    subst href
    rw [hr] at hq
    cases hq
    rw [he]
    simp only [ControlCall.onRecord, Option.some.injEq] at hr' ⊢
    by_cases hexpired : (r.expired nowMs).state = .expired
    · -- An expired reservation is left as it is.
      have hno : (finalizeRecord A (r.expired nowMs) ack nowMs).1 = r.expired nowMs := by
        simp [finalizeRecord, acknowledges, hexpired]
      rw [hno] at hr'
      rw [← hr', hexpired] at hactive'
      cases hactive'
    · rw [ControlRecord.expired_eq hexpired] at hr' ⊢
      simp [finalizeRecord, hpending, hack, hactive]
  · rw [hr] at hr'
    exact absurd (Option.some.inj hr').symm hchanged

theorem ControlRecord.ReservedBy.step {call : ControlCall} {r r' : ControlRecord}
    {b : AdmissionBundle} (h : r.ReservedBy A b) (hstep : RecordStep A call r r') :
    r'.ReservedBy A b := by
  obtain ⟨href, hb, -, hd, hx, hg, hrec⟩ := hstep.fixed
  exact ⟨href.trans h.controlRef, hb.trans h.bindingDigest, hd.trans h.deadline,
    hx.trans h.expiresAtMs, hg.trans h.grant, hrec.trans h.receipt⟩

theorem ledger_find?_some {l : MemoryStore} (hl : l.Inv) (call : ControlCall) {ref : Str}
    {r : ControlRecord} (hr : l.records.find? ref = some r) :
    ∃ r', (ledger A l call).1.records.find? ref = some r' ∧ RecordStep A call r r' := by
  have heff := ledger_effect A hl call ref
  rw [hr] at heff
  generalize (ledger A l call).1.records.find? ref = new at heff
  cases heff with
  | step hstep => exact ⟨_, rfl, hstep⟩

theorem history_step {done : List Done} {l : MemoryStore} (h : History A done l) (hl : l.Inv)
    (call : ControlCall) (hfree : CollisionFree A (call :: done.map Prod.fst)) :
    History A (done ++ [(call, (ledger A l call).2)]) (ledger A l call).1 where
  reserved := by
    intro ref r' hr'
    have heff := ledger_effect A hl call ref
    rw [hr'] at heff
    generalize hold : l.records.find? ref = old at heff
    cases heff with
    | step hstep =>
      obtain ⟨approval, nowMs, ttlMs, draw, b, hmem, hres⟩ := h.reserved ref _ hold
      exact ⟨approval, nowMs, ttlMs, draw, b, List.mem_append_left _ hmem, hres.step A hstep⟩
    | reserved approval nowMs ttlMs draw hcall _ _ hanswer _ =>
      subst hcall
      rw [hanswer]
      exact ⟨approval, nowMs, ttlMs, draw, newBundle A approval nowMs ttlMs draw, by simp,
        ⟨rfl, rfl, rfl, rfl, rfl, rfl⟩⟩
  active := by
    intro ref r' hr' hactive
    have heff := ledger_effect A hl call ref
    rw [hr'] at heff
    generalize hold : l.records.find? ref = old at heff
    cases heff with
    | step hstep =>
      rcases hstep.of_active hactive with rfl | ⟨ack, nowMs, rfl, hverify, href, hack, rfl⟩
      · obtain ⟨ack, nowMs, p, hmem, hact⟩ := h.active ref _ hold hactive
        exact ⟨ack, nowMs, p, List.mem_append_left _ hmem, hact⟩
      · rw [ledger_activated A hl hold hr' hack rfl]
        exact ⟨ack, nowMs, _, by simp, activatedBy_activate A hverify href hack⟩
    | reserved => cases hactive
  finalized := by
    intro ack nowMs p hmem
    rcases List.mem_append.mp hmem with hmem | hmem
    · obtain ⟨hnow, r, hr, hpending, hact⟩ := h.finalized ack nowMs p hmem
      obtain ⟨r', hr', hstep⟩ := ledger_find?_some A hl call hr
      refine ⟨hnow, r', hr', hstep.not_pending hpending, fun hactive => ?_⟩
      rcases hstep.of_active hactive with rfl | ⟨_, _, -, -, -, hack, -⟩
      · exact hact hactive
      · simp only [acknowledges, Bool.and_eq_true, decide_eq_true_eq] at hack
        exact absurd hack.1.1.1.1.1.1.1 hpending
    · simp only [List.mem_singleton, Prod.mk.injEq] at hmem
      obtain ⟨rfl, hanswer⟩ := hmem
      obtain ⟨hnow, hverify, r, r', hr, hr', ⟨rfl, hactive, hmatch, t, ht, hp⟩ | ⟨hack, rfl, rfl⟩⟩ :=
        ledger_proof A hl hanswer.symm
      · obtain ⟨a, u, q, hmema, hact⟩ := h.active _ _ hr hactive
        have hdigest : A.acknowledgementDigest a = A.acknowledgementDigest ack := by
          have ha := hact.agrees
          simp only [acknowledgementMatches, Bool.and_eq_true, decide_eq_true_eq] at ha hmatch
          exact Option.some.inj (ha.2.trans hmatch.2.symm)
        have hsame : a = ack := hfree a ack u nowMs
          (List.mem_cons_of_mem _ (List.mem_map_of_mem hmema)) List.mem_cons_self hdigest
        subst hsame
        refine ⟨hnow, _, hr', by rw [hactive]; decide, fun _ => ?_⟩
        exact ⟨hverify, hmatch, hact.inTime, t, ht, hp⟩
      · refine ⟨hnow, _, hr', (fun h => by cases h), fun _ => ?_⟩
        exact activatedBy_activate A hverify (hl.ref _ _ hr).symm hack
  revoked := by
    intro ref reason nowMs hmem
    rcases List.mem_append.mp hmem with hmem | hmem
    · obtain ⟨r, hr, hrevoked⟩ := h.revoked ref reason nowMs hmem
      obtain ⟨r', hr', hstep⟩ := ledger_find?_some A hl call hr
      exact ⟨r', hr', hstep.revoked hrevoked⟩
    · simp only [List.mem_singleton, Prod.mk.injEq] at hmem
      obtain ⟨rfl, hanswer⟩ := hmem
      exact ledger_revoked A hl hanswer.symm
  consumed := by
    intro approval nowMs ttlMs draw b hmem
    rcases List.mem_append.mp hmem with hmem | hmem
    · obtain ⟨hn, ha⟩ := h.consumed approval nowMs ttlMs draw b hmem
      exact ⟨(ledger_consumed A l call).1 _ hn, (ledger_consumed A l call).2 _ ha⟩
    · simp only [List.mem_singleton, Prod.mk.injEq] at hmem
      obtain ⟨rfl, hanswer⟩ := hmem
      exact (ledger_bundle A hanswer.symm).2

/-! ## Runs -/

variable (scope : Digest) (nextVersion : ℤ → ℤ)

/-- The call and the callback's answer, when its transaction was written. -/
def written (e : Event Store (ControlCall × Outcome) Answer) : Option Done :=
  if e.call.2 = .failed then none
  else some (e.call.1, (transactional A scope nextVersion e.pre (e.call.1, .committed)).2)

/-- The store after the events says what their history says. -/
def Tracked (es : List (Event Store (ControlCall × Outcome) Answer)) (s : Store) : Prop :=
  ∃ l, Encodes scope l s ∧ l.Inv ∧ History A (es.filterMap (written A scope nextVersion)) l

theorem written_fst {es : List (Event Store (ControlCall × Outcome) Answer)} {c : ControlCall}
    (h : c ∈ (es.filterMap (written A scope nextVersion)).map Prod.fst) :
    c ∈ es.map fun e => e.call.1 := by
  obtain ⟨d, hd, rfl⟩ := List.mem_map.mp h
  obtain ⟨e, he, hw⟩ := List.mem_filterMap.mp hd
  unfold written at hw
  split at hw
  · cases hw
  · cases hw
    exact List.mem_map_of_mem he

theorem transactional_event {l : MemoryStore} {s : Store} (henc : Encodes scope l s)
    (hl : l.Inv) (c : ControlCall × Outcome) :
    let e := (transactional A scope nextVersion).event s c
    e.resp = (if c.2 = .committed then (ledger A l c.1).2 else c.1.refusal) ∧
      written A scope nextVersion e =
        (if c.2 = .failed then none else some (c.1, (ledger A l c.1).2)) ∧
      Encodes scope (if c.2 = .failed then l else (ledger A l c.1).1) e.post := by
  obtain ⟨call, outcome⟩ := c
  obtain ⟨s', hop, henc'⟩ := henc.operation A nextVersion hl call
  cases outcome with
  | failed => exact ⟨rfl, rfl, henc⟩
  | committed | lost => simp [transactional, written, hop, henc']

theorem tracked_step {es : List (Event Store (ControlCall × Outcome) Answer)} {s : Store}
    (h : Tracked A scope nextVersion es s) (c : ControlCall × Outcome)
    (hfree : CollisionFree A (c.1 :: es.map fun e => e.call.1)) :
    Tracked A scope nextVersion (es ++ [(transactional A scope nextVersion).event s c])
      (transactional A scope nextVersion s c).1 := by
  obtain ⟨l, henc, hl, hist⟩ := h
  obtain ⟨-, hwritten, henc'⟩ := transactional_event A scope nextVersion henc hl c
  unfold Tracked
  rw [List.filterMap_append, List.filterMap_cons, hwritten]
  by_cases hfailed : c.2 = .failed
  · rw [if_pos hfailed] at henc'
    simp only [hfailed, if_true, List.filterMap_nil, List.append_nil]
    exact ⟨l, henc', hl, hist⟩
  · rw [if_neg hfailed] at henc'
    simp only [hfailed, if_false, List.filterMap_nil]
    have hsub : CollisionFree A
        (c.1 :: (es.filterMap (written A scope nextVersion)).map Prod.fst) := by
      intro a b t u ha hb
      have hmem : ∀ d, d ∈ c.1 :: (es.filterMap (written A scope nextVersion)).map Prod.fst →
          d ∈ c.1 :: es.map fun e => e.call.1 := by
        intro d hd
        rcases List.mem_cons.mp hd with rfl | hd
        · exact List.mem_cons_self
        · exact List.mem_cons_of_mem _ (written_fst A scope nextVersion hd)
      exact hfree a b t u (hmem _ ha) (hmem _ hb)
    exact ⟨_, henc', ledger_inv A hl c.1, history_step A hist hl c.1 hsub⟩

theorem CollisionFree.mono {calls calls' : List ControlCall} (h : CollisionFree A calls)
    (hsub : ∀ c ∈ calls', c ∈ calls) : CollisionFree A calls' :=
  fun a b t u ha hb => h a b t u (hsub _ ha) (hsub _ hb)

theorem tracked_run (calls : List (ControlCall × Outcome))
    (hfree : CollisionFree A (calls.map Prod.fst)) :
    Tracked A scope nextVersion ((transactional A scope nextVersion).log [] calls)
      ((transactional A scope nextVersion).run [] calls) := by
  induction calls using List.reverseRecOn with
  | nil => exact ⟨.empty, .empty, MemoryStore.inv_empty, history_empty A⟩
  | append_singleton cs c ih =>
    have hcs := ih (hfree.mono A fun d hd => by
      rw [List.map_append]
      exact List.mem_append_left _ hd)
    rw [Machine.log_append, Machine.run_append]
    refine tracked_step A scope nextVersion hcs c (hfree.mono A fun d hd => ?_)
    rw [← Function.comp_def, ← List.map_map, Machine.map_call_log] at hd
    rw [List.map_append]
    rcases List.mem_cons.mp hd with rfl | hd
    · simp
    · exact List.mem_append_left _ hd

/-- A reservation as the store holds it. -/
def Store.reservation (s : Store) (ref : Str) : Option ControlRecord :=
  (s.find? (reservationKey scope ref)).bind ControlRecord.fromRecord

theorem Encodes.reservation {l : MemoryStore} {s : Store} (h : Encodes scope l s) (ref : Str) :
    s.reservation scope ref = l.records.find? ref := by
  have hrec := h.records ref
  unfold Store.reservation
  cases hs : s.find? (reservationKey scope ref) with
  | none =>
    rw [hs, Option.map_none] at hrec
    cases hl : l.records.find? ref with
    | none => rfl
    | some r =>
      rw [hl] at hrec
      cases hrec
  | some record =>
    rw [hs, Option.map_some] at hrec
    cases hl : l.records.find? ref with
    | none =>
      rw [hl] at hrec
      cases hrec
    | some r =>
      rw [hl, Option.map_some] at hrec
      exact Option.some.inj hrec

/-- What callers get of one run. `before` are the calls written before an event, with their
answers. -/
structure SingleUse (log : List (Event Store (ControlCall × Outcome) Answer)) : Prop where
  /-- No two admissions of one nonce, or of one approval id, return a bundle. -/
  once : log.Pairwise fun e f => ∀ a t k d b, e.call.1 = .admitApproval a t k d →
    e.resp = .bundle (some b) → ∀ a' t' k' d' b', f.call.1 = .admitApproval a' t' k' d' →
    f.resp = .bundle (some b') →
    a.nonceDigest ≠ a'.nonceDigest ∧ a.approvalIdDigest ≠ a'.approvalIdDigest
  /-- One binding epoch has at most one pending or active, unexpired reservation. -/
  exclusive : ∀ e ∈ log, ∀ nowMs ref ref' r r', e.post.reservation scope ref = some r →
    e.post.reservation scope ref' = some r' → (r.expired nowMs).isLive = true →
    (r'.expired nowMs).isLive = true → r.bindingDigest = r'.bindingDigest → r.epoch = r'.epoch →
    ref = ref'
  /-- A proof answers an acknowledgement of the reservation's own grant and receipt, given before
  its activation deadline. -/
  own : ∀ l₁ e l₂, log = l₁ ++ e :: l₂ → ∀ ack nowMs p, e.call.1 = .finalize ack nowMs →
    e.resp = .proof (some p) → ∃ approval t k d b,
      (.admitApproval approval t k d, .bundle (some b)) ∈
        l₁.filterMap (written A scope nextVersion) ∧
      ack.controlRef = b.receipt.controlRef ∧ ack.bindingDigest = b.receipt.bindingDigest ∧
      ack.receiptDigest = A.receiptDigest b.receipt ∧
      ack.grantIdDigest = b.grant.grantIdDigest ∧
      ack.acknowledgedAtMs < b.receipt.activationDeadlineMs
  /-- After one proof, an active reservation gives the same proof for the same acknowledgement. -/
  same : ∀ l₁ e l₂, log = l₁ ++ e :: l₂ → ∀ ack t p,
    (.finalize ack t, .proof (some p)) ∈ l₁.filterMap (written A scope nextVersion) →
    ∀ nowMs r, e.call = (.finalize ack nowMs, .committed) →
    e.pre.reservation scope ack.controlRef.val = some r → (r.expired nowMs).state = .active →
    e.resp = .proof (some p)
  /-- After one proof, every other acknowledgement gets nothing. -/
  other : ∀ l₁ e l₂, log = l₁ ++ e :: l₂ → ∀ ack t p,
    (.finalize ack t, .proof (some p)) ∈ l₁.filterMap (written A scope nextVersion) →
    ∀ ack' nowMs, e.call.1 = .finalize ack' nowMs → ack'.controlRef = ack.controlRef →
    ack' ≠ ack → e.resp = .proof none
  /-- A session is authorized for what was acknowledged, while it is unexpired and not revoked. -/
  session : ∀ l₁ e l₂, log = l₁ ++ e :: l₂ → ∀ controlRef preauthRef bindingDigest tokenDigest nowMs,
    e.call.1 = .authorizesSession controlRef preauthRef bindingDigest tokenDigest nowMs →
    e.resp = .bool true →
    (∃ ack t p, (.finalize ack t, .proof (some p)) ∈
        l₁.filterMap (written A scope nextVersion) ∧
      ack.controlRef.val = controlRef ∧ ack.preauthRef.val = preauthRef ∧
      ack.bindingDigest.val = bindingDigest ∧ ack.tokenDigest.val = tokenDigest) ∧
    (∃ approval t k d b, (.admitApproval approval t k d, .bundle (some b)) ∈
        l₁.filterMap (written A scope nextVersion) ∧
      b.receipt.controlRef.val = controlRef ∧ nowMs < b.receipt.expiresAtMs) ∧
    ∀ reason t, (.revoke controlRef reason t, .bool true) ∉
      l₁.filterMap (written A scope nextVersion)
  /-- A revoked reservation gives no proof and authorizes nothing. -/
  gone : ∀ l₁ e l₂, log = l₁ ++ e :: l₂ → ∀ ref reason t,
    (.revoke ref reason t, .bool true) ∈ l₁.filterMap (written A scope nextVersion) →
    (∀ ack nowMs, e.call.1 = .finalize ack nowMs → ack.controlRef.val = ref →
      e.resp = .proof none) ∧
    ∀ preauthRef bindingDigest tokenDigest nowMs,
      e.call.1 = .authorizesSession ref preauthRef bindingDigest tokenDigest nowMs →
      e.resp = .bool false

theorem tracked_cut {calls : List (ControlCall × Outcome)}
    (hfree : CollisionFree A (calls.map Prod.fst))
    {l₁ l₂ : List (Event Store (ControlCall × Outcome) Answer)}
    {e : Event Store (ControlCall × Outcome) Answer}
    (h : (transactional A scope nextVersion).log [] calls = l₁ ++ e :: l₂) :
    CollisionFree A (e.call.1 :: (l₁.filterMap (written A scope nextVersion)).map Prod.fst) ∧
    ∃ l, Encodes scope l e.pre ∧ l.Inv ∧
      History A (l₁.filterMap (written A scope nextVersion)) l ∧
      e.resp = (if e.call.2 = .committed then (ledger A l e.call.1).2 else e.call.1.refusal) ∧
      ∃ l', Encodes scope l' e.post ∧ l'.Inv := by
  obtain ⟨cs₁, c, cs₂, rfl, rfl, rfl, -⟩ := Machine.log_eq_append_cons _ h
  have hfree₁ : CollisionFree A (cs₁.map Prod.fst) := hfree.mono A fun d hd => by
    rw [List.map_append]
    exact List.mem_append_left _ hd
  obtain ⟨l, henc, hl, hist⟩ := tracked_run A scope nextVersion cs₁ hfree₁
  obtain ⟨hresp, -, hpost⟩ := transactional_event A scope nextVersion henc hl c
  refine ⟨hfree.mono A fun d hd => ?_, l, henc, hl, hist, hresp, _, hpost, ?_⟩
  swap
  · split
    · exact hl
    · exact ledger_inv A hl c.1
  rw [List.map_append, List.map_cons]
  rcases List.mem_cons.mp hd with rfl | hd
  · exact List.mem_append_right _ List.mem_cons_self
  · have hd := written_fst A scope nextVersion hd
    rw [← Function.comp_def, ← List.map_map, Machine.map_call_log] at hd
    exact List.mem_append_left _ hd

theorem written_nowMs {calls : List (ControlCall × Outcome)}
    (htimes : calls.Pairwise fun c d => c.1.nowMs ≤ d.1.nowMs)
    {l₁ l₂ : List (Event Store (ControlCall × Outcome) Answer)}
    {e : Event Store (ControlCall × Outcome) Answer}
    (h : (transactional A scope nextVersion).log [] calls = l₁ ++ e :: l₂) {d : Done}
    (hd : d ∈ l₁.filterMap (written A scope nextVersion)) : d.1.nowMs ≤ e.call.1.nowMs := by
  obtain ⟨cs₁, c, cs₂, rfl, rfl, rfl, -⟩ := Machine.log_eq_append_cons _ h
  obtain ⟨-, -, hcross⟩ := List.pairwise_append.mp htimes
  have hd' := written_fst A scope nextVersion (List.mem_map_of_mem hd)
  rw [← Function.comp_def, ← List.map_map, Machine.map_call_log] at hd'
  obtain ⟨c', hc', hfst⟩ := List.mem_map.mp hd'
  rw [← hfst]
  exact hcross c' hc' c List.mem_cons_self

/-- A proof was committed. -/
theorem committed_of_answer {call : ControlCall} {outcome : Outcome} {answer resp : Answer}
    (h : resp = if outcome = .committed then answer else call.refusal)
    (hne : resp ≠ call.refusal) : answer = resp := by
  split at h
  · exact h.symm
  · exact absurd h hne

variable {A}

theorem proof_cases {done : List Done} {l : MemoryStore} (hl : l.Inv) (hist : History A done l)
    {ack : PreAuthActivationAcknowledgement} {nowMs : ℤ} {p : ControlActivationProof}
    (hfree : CollisionFree A (.finalize ack nowMs :: done.map Prod.fst))
    (h : (ledger A l (.finalize ack nowMs)).2 = .proof (some p)) :
    ∃ r, l.records.find? ack.controlRef.val = some r ∧
      (r.state = .active ∧ r.ActivatedBy A ack p ∨ acknowledges A r ack nowMs = true) := by
  obtain ⟨-, hverify, r, r', hr, -, ⟨-, hactive, hmatch, ht⟩ | ⟨hack, -, -⟩⟩ := ledger_proof A hl h
  · obtain ⟨a, u, q, hmem, hact⟩ := hist.active _ _ hr hactive
    have hdigest : A.acknowledgementDigest a = A.acknowledgementDigest ack := by
      have ha := hact.agrees
      simp only [acknowledgementMatches, Bool.and_eq_true, decide_eq_true_eq] at ha hmatch
      exact Option.some.inj (ha.2.trans hmatch.2.symm)
    have hsame : a = ack := hfree a ack u nowMs
      (List.mem_cons_of_mem _ (List.mem_map_of_mem hmem)) List.mem_cons_self hdigest
    subst hsame
    exact ⟨r, hr, .inl ⟨hactive, hverify, hmatch, hact.inTime, ht⟩⟩
  · exact ⟨r, hr, .inr hack⟩

theorem ledger_again {l : MemoryStore} {ack : PreAuthActivationAcknowledgement} {nowMs : ℤ}
    {r : ControlRecord} {p : ControlActivationProof} (hnow : 1 ≤ nowMs)
    (hr : l.records.find? ack.controlRef.val = some r) (hexpired : r.expired nowMs = r)
    (hactive : r.state = .active) (h : r.ActivatedBy A ack p) :
    (ledger A l (.finalize ack nowMs)).2 = .proof (some p) := by
  obtain ⟨t, ht, rfl⟩ := h.proof
  have hguard : ¬ nowMs < 1 := by omega
  simp [ledger, ControlCall.nowMs, ControlCall.isWellFormed, MemoryStore.hasSpent, hguard, memory,
    MemoryStore.finalize, h.verified, hr, hexpired, finalizeRecord, hactive, h.agrees, ht]

theorem authorizes_cases {l : MemoryStore} {controlRef preauthRef bindingDigest tokenDigest : Str}
    {nowMs : ℤ} (h : (ledger A l (.authorizesSession controlRef preauthRef bindingDigest tokenDigest
      nowMs)).2 = .bool true) :
    ∃ r, l.records.find? controlRef = some r ∧ r.expired nowMs = r ∧ r.state = .active ∧
      r.authorizes preauthRef bindingDigest tokenDigest = true := by
  rcases ledger_update_cases A l (.authorizesSession controlRef preauthRef bindingDigest
    tokenDigest nowMs) (fun _ _ _ _ h => by cases h) with he | ⟨ref, r, -, htarget, hr, he⟩
  · rw [he] at h
    cases h
  · cases htarget
    rw [he] at h
    simp only [ControlCall.onRecord, ControlCall.nowMs, Answer.bool.injEq] at h
    have hactive : (r.expired nowMs).state = .active := by
      simp only [ControlRecord.authorizes, Bool.and_eq_true, decide_eq_true_eq] at h
      exact h.1.1.1
    have hsame : r.expired nowMs = r :=
      ControlRecord.expired_eq (by rw [hactive]; decide)
    rw [hsame] at h hactive
    exact ⟨r, hr, hsame, hactive, h⟩

variable (A)

/-- What is answered was written. -/
theorem written_of_resp {calls : List (ControlCall × Outcome)}
    {e : Event Store (ControlCall × Outcome) Answer}
    (h : e ∈ (transactional A scope nextVersion).log [] calls)
    (hne : e.resp ≠ e.call.1.refusal) :
    written A scope nextVersion e = some (e.call.1, e.resp) := by
  obtain ⟨hresp, -⟩ := (transactional A scope nextVersion).eq_of_mem_log h
  obtain ⟨pre, ⟨call, outcome⟩, resp, post⟩ := e
  cases outcome with
  | failed => exact absurd hresp hne
  | lost => exact absurd hresp hne
  | committed => exact congrArg (fun r => some (call, r)) hresp.symm

theorem pairwise_of_cut {α : Type*} {R : α → α → Prop} {l : List α}
    (h : ∀ l₁ f l₂, l = l₁ ++ f :: l₂ → ∀ e ∈ l₁, R e f) : l.Pairwise R := by
  induction l using List.reverseRecOn with
  | nil => exact .nil
  | append_singleton l x ih =>
    refine List.pairwise_append.mpr ⟨ih fun l₁ f l₂ hl => ?_, List.pairwise_singleton R x, ?_⟩
    · exact h l₁ f (l₂ ++ [x]) (by rw [hl]; simp)
    · intro e he y hy
      rw [List.mem_singleton.mp hy]
      exact h l x [] rfl e he

/-- Execution control is single-use, exclusive and revocable, in every run. -/
theorem control_single_use (calls : List (ControlCall × Outcome))
    (htimes : calls.Pairwise fun c d => c.1.nowMs ≤ d.1.nowMs)
    (hfree : CollisionFree A (calls.map Prod.fst)) :
    SingleUse A scope nextVersion ((transactional A scope nextVersion).log [] calls) where
  once := by
    refine pairwise_of_cut fun l₁ f l₂ hcut e he => ?_
    intro a t k d b hcall hresp a' t' k' d' b' hcall' hresp'
    obtain ⟨-, l, henc, hl, hist, hans, -⟩ := tracked_cut A scope nextVersion hfree hcut
    have hled := committed_of_answer hans (by rw [hresp', hcall']; intro h; cases h)
    rw [hresp', hcall'] at hled
    have hwritten := written_of_resp A scope nextVersion
      (hcut ▸ List.mem_append_left _ he) (by rw [hresp, hcall]; intro h; cases h)
    rw [hcall, hresp] at hwritten
    obtain ⟨hn, ha⟩ := hist.consumed a t k d b (List.mem_filterMap.mpr ⟨e, he, hwritten⟩)
    obtain ⟨hn', ha'⟩ := (ledger_bundle A hled).1
    exact ⟨fun heq => hn' (heq ▸ hn), fun heq => ha' (heq ▸ ha)⟩
  exclusive := by
    intro e he nowMs ref ref' r r' hr hr' hlive hlive' hb hepoch
    obtain ⟨l₁, l₂, hcut⟩ := List.append_of_mem he
    obtain ⟨-, -, -, -, -, -, l, henc, hl⟩ := tracked_cut A scope nextVersion hfree hcut
    rw [henc.reservation] at hr hr'
    exact hl.live_unique hr hr' (ControlRecord.isLive_of_expired hlive)
      (ControlRecord.isLive_of_expired hlive') hb hepoch
  own := by
    intro l₁ e l₂ hcut ack nowMs p hcall hresp
    obtain ⟨hfree', l, henc, hl, hist, hans, -⟩ := tracked_cut A scope nextVersion hfree hcut
    have hled := committed_of_answer hans (by rw [hresp, hcall]; intro h; cases h)
    rw [hresp, hcall] at hled
    rw [hcall] at hfree'
    obtain ⟨r, hr, hcases⟩ := proof_cases hl hist hfree' hled
    obtain ⟨approval, t, k, d, b, hmem, hres⟩ := hist.reserved _ _ hr
    refine ⟨approval, t, k, d, b, hmem, Subtype.ext ?_, ?_⟩
    · rw [← hres.controlRef]
      exact (hl.ref _ _ hr).symm
    rw [← hres.bindingDigest, ← hres.receipt, ← hres.grant, ← hres.deadline]
    rcases hcases with ⟨-, hact⟩ | hack
    · have hmatch := hact.agrees
      simp only [acknowledgementMatches, Bool.and_eq_true, decide_eq_true_eq] at hmatch
      exact ⟨hmatch.1.1.1.1.2, hmatch.1.1.1.2, hmatch.1.1.2, hact.inTime⟩
    · simp only [acknowledges, Bool.and_eq_true, decide_eq_true_eq] at hack
      exact ⟨hack.1.1.1.1.2, hack.1.1.1.2, hack.1.1.2, hack.2⟩
  same := by
    intro l₁ e l₂ hcut ack t p hmem nowMs r hcall hr hactive
    obtain ⟨-, l, henc, hl, hist, hans, -⟩ := tracked_cut A scope nextVersion hfree hcut
    obtain ⟨ht, r', hr', -, hact⟩ := hist.finalized ack t p hmem
    rw [henc.reservation, hr'] at hr
    cases hr
    have hsame := ControlRecord.expired_eq (r := r) (t := nowMs) (by rw [hactive]; decide)
    rw [hsame] at hactive
    have hle := written_nowMs A scope nextVersion htimes hcut hmem
    rw [hcall] at hans hle
    rw [hans]
    exact ledger_again (Int.le_trans ht hle) hr' hsame hactive (hact hactive)
  other := by
    intro l₁ e l₂ hcut ack t p hmem ack' nowMs hcall href hne
    obtain ⟨hfree', l, henc, hl, hist, hans, -⟩ := tracked_cut A scope nextVersion hfree hcut
    rw [hcall] at hans hfree'
    split at hans
    · obtain ⟨x, hx⟩ := ledger_finalize_answer A l ack' nowMs
      cases x with
      | none => exact hans.trans hx
      | some q =>
        obtain ⟨-, r, hr, hpending, hact⟩ := hist.finalized ack t p hmem
        obtain ⟨r', hr', ⟨hactive, hact'⟩ | hack⟩ := proof_cases hl hist hfree' hx
        · rw [href, hr] at hr'
          cases hr'
          have hdigest : A.acknowledgementDigest ack' = A.acknowledgementDigest ack := by
            have hm := (hact hactive).agrees
            have hm' := hact'.agrees
            simp only [acknowledgementMatches, Bool.and_eq_true, decide_eq_true_eq] at hm hm'
            exact Option.some.inj (hm'.2.trans hm.2.symm)
          exact absurd (hfree' ack' ack nowMs t List.mem_cons_self
            (List.mem_cons_of_mem _ (List.mem_map_of_mem hmem)) hdigest) hne
        · rw [href, hr] at hr'
          cases hr'
          simp only [acknowledges, Bool.and_eq_true, decide_eq_true_eq] at hack
          exact absurd hack.1.1.1.1.1.1.1 hpending
    · exact hans
  session := by
    intro l₁ e l₂ hcut controlRef preauthRef bindingDigest tokenDigest nowMs hcall hresp
    obtain ⟨-, l, henc, hl, hist, hans, -⟩ := tracked_cut A scope nextVersion hfree hcut
    have hled := committed_of_answer hans (by rw [hresp, hcall]; intro h; cases h)
    rw [hresp, hcall] at hled
    obtain ⟨r, hr, hsame, hactive, hauth⟩ := authorizes_cases hled
    have href := hl.ref _ _ hr
    simp only [ControlRecord.authorizes, Bool.and_eq_true, decide_eq_true_eq] at hauth
    obtain ⟨⟨⟨-, hp⟩, hb⟩, htoken⟩ := hauth
    refine ⟨?_, ?_, ?_⟩
    · obtain ⟨ack, t, q, hmem, hact⟩ := hist.active _ _ hr hactive
      have hmatch := hact.agrees
      simp only [acknowledgementMatches, Bool.and_eq_true, decide_eq_true_eq] at hmatch
      obtain ⟨⟨⟨⟨⟨⟨⟨⟨-, hc⟩, -⟩, hp'⟩, hb'⟩, -⟩, -⟩, htoken'⟩, -⟩ := hmatch
      refine ⟨ack, t, q, hmem, hc.trans href, ?_, ?_, ?_⟩
      · exact Option.some.inj (hp'.trans hp)
      · rw [hb', hb]
      · rw [← htoken'] at htoken
        exact Option.some.inj htoken
    · obtain ⟨approval, t, k, d, b, hmem, hres⟩ := hist.reserved _ _ hr
      refine ⟨approval, t, k, d, b, hmem, hres.controlRef ▸ href, ?_⟩
      rw [← hres.expiresAtMs]
      exact ControlRecord.lt_expiresAtMs hactive hsame
    · intro reason t hmem
      obtain ⟨r', hr', hrevoked⟩ := hist.revoked _ _ _ hmem
      rw [hr] at hr'
      cases hr'
      rw [hactive] at hrevoked
      cases hrevoked
  gone := by
    intro l₁ e l₂ hcut ref reason t hmem
    obtain ⟨hfree', l, henc, hl, hist, hans, -⟩ := tracked_cut A scope nextVersion hfree hcut
    obtain ⟨r, hr, hrevoked⟩ := hist.revoked _ _ _ hmem
    constructor
    · intro ack nowMs hcall href
      rw [hcall] at hans hfree'
      split at hans
      · obtain ⟨x, hx⟩ := ledger_finalize_answer A l ack nowMs
        cases x with
        | none => exact hans.trans hx
        | some q =>
          obtain ⟨r', hr', ⟨hactive, -⟩ | hack⟩ := proof_cases hl hist hfree' hx
          · rw [href, hr] at hr'
            cases hr'
            rw [hrevoked] at hactive
            cases hactive
          · rw [href, hr] at hr'
            cases hr'
            simp [acknowledges, hrevoked] at hack
      · exact hans
    · intro preauthRef bindingDigest tokenDigest nowMs hcall
      rw [hcall] at hans
      split at hans
      · obtain ⟨x, hx⟩ :=
          ledger_authorizes_answer A l ref preauthRef bindingDigest tokenDigest nowMs
        cases x with
        | false => exact hans.trans hx
        | true =>
          obtain ⟨r', hr', -, hactive, -⟩ := authorizes_cases hx
          rw [hr] at hr'
          cases hr'
          rw [hrevoked] at hactive
          cases hactive
      · exact hans

end

def exampleAcknowledgement : PreAuthActivationAcknowledgement where
  audienceRef := exampleAuthorities.issuerRef
  controlRef := exampleRef
  controlVersion := 1
  preauthRef := ⟨py "ref_preauth_1", by decide⟩
  preauthVersion := 1
  bindingDigest := exampleDigest
  receiptDigest := exampleDigest
  grantIdDigest := exampleDigest
  tokenDigest := exampleDigest
  acknowledgedAtMs := 1
  proof := []

def exampleRun : List (ControlCall × Outcome) :=
  [(exampleAdmissionAt 1, .committed), (.finalize exampleAcknowledgement 2, .lost),
    (.finalize exampleAcknowledgement 3, .committed), (.revoke exampleRef.val .teardown 4, .failed)]

theorem control_single_use_exampleRun :
    SingleUse exampleAuthorities exampleDigest (· + 1)
      ((transactional exampleAuthorities exampleDigest (· + 1)).log [] exampleRun) :=
  control_single_use exampleAuthorities exampleDigest (· + 1) exampleRun (by decide) (by
    intro a b t u ha hb _
    simp only [exampleRun, exampleAdmissionAt, List.map_cons, List.map_nil, List.mem_cons,
      List.not_mem_nil, ControlCall.finalize.injEq, or_false, reduceCtorEq, false_or] at ha hb
    rcases ha with ⟨rfl, -⟩ | ⟨rfl, -⟩ <;> rcases hb with ⟨rfl, -⟩ | ⟨rfl, -⟩ <;> rfl)

end HeyKevin.L10.Control
