import HeyKevin.L10Bakeoff.ExecutionControl
/-!
# The ledger of reservations

What one committed transaction makes of the control store, as a function on
the typed store. It is the step of the in-memory store behind three guards: a
clock of at least one, a nonce and an approval not consumed before, and a new
control reference.

* `Inv`: the owner of a binding epoch is a reservation of it, and every
  reservation that is pending or active owns its binding epoch.
* `ledger_inv`: every transaction keeps it.
* `live_unique`: so a binding epoch has at most one such reservation.
* `Agree`, `agree_step`: the in-memory store differs only in when it writes an
  expiry down.
-/
namespace HeyKevin.L10.Control

open HeyKevin.Core L1 L1.Text

/-! ## Valid reservations -/

namespace ControlRecord

/-- The checks of `_ControlReservation` that its types do not carry.
mirrors app/services/voice_bakeoff_transactional_control_seam.py:355-392 (`__post_init__`) -/
structure Valid (r : ControlRecord) : Prop where
  controlRef : isRef r.controlRef = true
  version : 1 ≤ r.version
  epoch : 1 ≤ r.epoch
  activationDeadlineMs : 1 ≤ r.activationDeadlineMs
  expiresAtMs : 1 ≤ r.expiresAtMs
  deadline : r.activationDeadlineMs ≤ r.expiresAtMs
  preauthRef : ∀ p ∈ r.preauthRef, isRef p = true
  activatedAtMs : ∀ t ∈ r.activatedAtMs, 1 ≤ t

namespace Valid

variable {r : ControlRecord}

theorem expired (h : r.Valid) (t : ℤ) : (r.expired t).Valid := by
  rcases r.expired_cases t with he | ⟨-, he⟩ <;> rw [he]
  · exact h
  · exact { h with version := by have := h.version; simp only; omega }

theorem activate (h : r.Valid) (ack : PreAuthActivationAcknowledgement) (digest : Digest) {t : ℤ}
    (ht : 1 ≤ t) : (r.activate ack digest t).Valid :=
  { h with
    version := by have := h.version; simp only [ControlRecord.activate]; omega
    preauthRef := by
      intro p hp
      cases hp
      exact isRef_of_isOpaqueRef ack.preauthRef.property
    activatedAtMs := by
      intro u hu
      cases hu
      exact ht }

theorem revoke (h : r.Valid) (reason : RevocationReason) : (r.revoke reason).Valid :=
  { h with version := by have := h.version; simp only [ControlRecord.revoke]; omega }

end Valid

theorem newRecord_valid (A : Authorities) {approval : VerifiedApproval} {nowMs ttlMs : ℤ}
    (hnow : 1 ≤ nowMs) (hmay : mayAdmit A approval nowMs ttlMs = true) (draw : Draw) :
    (newRecord A approval nowMs ttlMs draw).Valid := by
  simp only [mayAdmit, Bool.and_eq_true, decide_eq_true_eq] at hmay
  have hwindow := approval.window
  exact {
    controlRef := isRef_of_isOpaqueRef draw.controlRef.property
    version := Int.le_refl 1
    epoch := approval.epoch_pos
    activationDeadlineMs := by simp only [newRecord]; omega
    expiresAtMs := by simp only [newRecord]; omega
    deadline := by simp only [newRecord]; omega
    preauthRef := nofun
    activatedAtMs := nofun }

end ControlRecord

section

variable (A : Authorities)

/-- An admission that a transaction refuses or aborts for what is stored under its keys. -/
def MemoryStore.hasSpent (s : MemoryStore) : ControlCall → Bool
  | .admitApproval approval _ _ draw =>
    approval.nonceDigest ∈ s.consumedNonces || approval.approvalIdDigest ∈ s.consumedApprovalIds ||
      (s.records.find? draw.controlRef.val).isSome
  | _ => false

/-- The references and digests that a call passes as texts. -/
def ControlCall.isWellFormed : ControlCall → Bool
  | .authorizesSession controlRef preauthRef bindingDigest tokenDigest _ =>
    isRef controlRef && isRef preauthRef && Python.isDigest bindingDigest &&
      Python.isDigest tokenDigest
  | .revoke controlRef _ _ => isRef controlRef
  | _ => true

def ledger : Machine MemoryStore ControlCall Answer := fun s call =>
  if call.nowMs < 1 ∨ call.isWellFormed = false ∨ s.hasSpent call = true then (s, call.refusal)
  else memory A s call

/-! ## Admission -/

/-- The store after an admission. -/
def MemoryStore.reserve (s : MemoryStore) (r : ControlRecord) : MemoryStore where
  consumedNonces := r.nonceDigest :: s.consumedNonces
  consumedApprovalIds := r.approvalIdDigest :: s.consumedApprovalIds
  bindingEpochs := s.bindingEpochs.set (r.bindingDigest, r.epoch) r.controlRef
  records := s.records.set r.controlRef r

/-- The store once the reservation that holds a binding epoch, if any, was looked at. -/
def MemoryStore.expireOwner (s : MemoryStore) (binding : Digest × ℤ) (nowMs : ℤ) : MemoryStore :=
  match (s.bindingEpochs.find? binding).bind s.records.find? with
  | some prior => s.setRecord (prior.expired nowMs)
  | none => s

/-- The binding epoch has a reservation that is still pending or active. -/
def MemoryStore.isHeld (s : MemoryStore) (binding : Digest × ℤ) (nowMs : ℤ) : Bool :=
  ((s.bindingEpochs.find? binding).bind s.records.find?).any fun r => (r.expired nowMs).isLive

theorem admitApproval_eq {approval : VerifiedApproval} {nowMs ttlMs : ℤ}
    (hmay : mayAdmit A approval nowMs ttlMs = true) (s : MemoryStore) (draw : Draw) :
    s.admitApproval A approval nowMs ttlMs true draw =
      if s.isHeld (approval.bindingDigest, approval.epoch) nowMs then
        (s.expireOwner (approval.bindingDigest, approval.epoch) nowMs, none)
      else (s.expireOwner (approval.bindingDigest, approval.epoch) nowMs).admitNew A approval
        nowMs ttlMs true draw := by
  unfold MemoryStore.admitApproval MemoryStore.isHeld MemoryStore.expireOwner
  cases (s.bindingEpochs.find? (approval.bindingDigest, approval.epoch)).bind
      s.records.find? with
  | none => simp [hmay]
  | some prior => simp [hmay]

theorem admitNew_eq (s : MemoryStore) (approval : VerifiedApproval) (nowMs ttlMs : ℤ)
    (draw : Draw) : s.admitNew A approval nowMs ttlMs true draw =
      if approval.nonceDigest ∈ s.consumedNonces ∨
        approval.approvalIdDigest ∈ s.consumedApprovalIds then (s, none)
      else (s.reserve (newRecord A approval nowMs ttlMs draw),
        some (newBundle A approval nowMs ttlMs draw)) := by
  unfold MemoryStore.admitNew
  split <;> rfl

@[simp] theorem MemoryStore.expireOwner_bindingEpochs (s : MemoryStore) (binding : Digest × ℤ)
    (t : ℤ) : (s.expireOwner binding t).bindingEpochs = s.bindingEpochs := by
  unfold MemoryStore.expireOwner
  split <;> rfl

@[simp] theorem MemoryStore.expireOwner_consumedNonces (s : MemoryStore) (binding : Digest × ℤ)
    (t : ℤ) : (s.expireOwner binding t).consumedNonces = s.consumedNonces := by
  unfold MemoryStore.expireOwner
  split <;> rfl

@[simp] theorem MemoryStore.expireOwner_consumedApprovalIds (s : MemoryStore)
    (binding : Digest × ℤ) (t : ℤ) :
    (s.expireOwner binding t).consumedApprovalIds = s.consumedApprovalIds := by
  unfold MemoryStore.expireOwner
  split <;> rfl

/-- An admission of the ledger that its arguments do not refuse. -/
theorem ledger_admit_eq {s : MemoryStore} {approval : VerifiedApproval} {nowMs ttlMs : ℤ}
    {draw : Draw} (hnow : 1 ≤ nowMs) (hmay : mayAdmit A approval nowMs ttlMs = true) :
    ledger A s (.admitApproval approval nowMs ttlMs draw) =
      if s.hasSpent (.admitApproval approval nowMs ttlMs draw) = true then (s, .bundle none)
      else if s.isHeld (approval.bindingDigest, approval.epoch) nowMs = true then
        (s.expireOwner (approval.bindingDigest, approval.epoch) nowMs, .bundle none)
      else ((s.expireOwner (approval.bindingDigest, approval.epoch) nowMs).reserve
          (newRecord A approval nowMs ttlMs draw),
        .bundle (some (newBundle A approval nowMs ttlMs draw))) := by
  have hguard : ¬ nowMs < 1 := by omega
  unfold ledger
  by_cases hspent : s.hasSpent (.admitApproval approval nowMs ttlMs draw) = true
  · rw [if_pos (.inr (.inr hspent)), if_pos hspent]
    rfl
  · have hunspent := hspent
    simp only [MemoryStore.hasSpent, Bool.or_eq_true, decide_eq_true_eq, not_or] at hunspent
    rw [if_neg (by simp [ControlCall.nowMs, ControlCall.isWellFormed, hguard, hspent]),
      if_neg hspent]
    simp only [memory, admitApproval_eq A hmay, admitNew_eq,
      MemoryStore.expireOwner_consumedNonces, MemoryStore.expireOwner_consumedApprovalIds,
      hunspent.1, or_self, if_false]
    split <;> rfl

theorem ledger_admit_refused {s : MemoryStore} {approval : VerifiedApproval} {nowMs ttlMs : ℤ}
    {draw : Draw} (h : ¬ (mayAdmit A approval nowMs ttlMs = true ∧ 1 ≤ nowMs)) :
    ledger A s (.admitApproval approval nowMs ttlMs draw) = (s, .bundle none) := by
  unfold ledger
  split
  · rfl
  rename_i hguard
  have hmay : ¬ mayAdmit A approval nowMs ttlMs = true := by
    intro hmay
    simp only [ControlCall.nowMs, not_or, not_lt] at hguard
    exact h ⟨hmay, hguard.1⟩
  simp [memory, MemoryStore.admitApproval, hmay]

theorem ledger_admit_cases (s : MemoryStore) (approval : VerifiedApproval) (nowMs ttlMs : ℤ)
    (draw : Draw) :
    let binding := (approval.bindingDigest, approval.epoch)
    let r := newRecord A approval nowMs ttlMs draw
    ledger A s (.admitApproval approval nowMs ttlMs draw) = (s, .bundle none) ∨
    s.isHeld binding nowMs = true ∧
      ledger A s (.admitApproval approval nowMs ttlMs draw) =
        (s.expireOwner binding nowMs, .bundle none) ∨
    1 ≤ nowMs ∧ mayAdmit A approval nowMs ttlMs = true ∧ s.isHeld binding nowMs = false ∧
      s.hasSpent (.admitApproval approval nowMs ttlMs draw) = false ∧
      ledger A s (.admitApproval approval nowMs ttlMs draw) =
        ((s.expireOwner binding nowMs).reserve r,
          .bundle (some (newBundle A approval nowMs ttlMs draw))) := by
  intro binding r
  by_cases hargs : mayAdmit A approval nowMs ttlMs = true ∧ 1 ≤ nowMs
  · rw [ledger_admit_eq A hargs.2 hargs.1]
    split
    · exact .inl rfl
    rename_i hspent
    split
    · rename_i hheld
      exact .inr (.inl ⟨hheld, rfl⟩)
    · rename_i hheld
      exact .inr (.inr ⟨hargs.2, hargs.1, by simpa using hheld, by simpa using hspent, rfl⟩)
  · exact .inl (ledger_admit_refused A hargs)

/-! ## One reservation under one call -/

/-- What a call may make of a stored reservation: nothing, its expiry, or what the call
does to it. -/
inductive RecordStep (call : ControlCall) (r : ControlRecord) : ControlRecord → Prop
  | same : RecordStep call r r
  | expired : RecordStep call r (r.expired call.nowMs)
  | update (h : call.target A = some r.controlRef) :
    RecordStep call r (call.onRecord A (r.expired call.nowMs)).1

/-- What a call makes of the record it looks up keeps what the admission wrote. -/
theorem onRecord_cases (call : ControlCall) (r : ControlRecord) :
    (call.onRecord A r).1 = r ∨
    (∃ ack nowMs, call = .finalize ack nowMs ∧ acknowledges A r ack nowMs = true ∧
      (call.onRecord A r).1 = r.activate ack (A.acknowledgementDigest ack) nowMs) ∨
    ∃ ref reason nowMs, call = .revoke ref reason nowMs ∧
      (call.onRecord A r).1 = r.revoke reason := by
  cases call with
  | admitApproval | authorizesSession => exact .inl rfl
  | finalize ack nowMs =>
    simp only [ControlCall.onRecord, finalizeRecord]
    split
    · exact .inl rfl
    split
    · rename_i hack
      exact .inr (.inl ⟨ack, nowMs, rfl, hack, rfl⟩)
    · exact .inl rfl
  | revoke ref reason nowMs =>
    simp only [ControlCall.onRecord]
    split
    · exact .inl rfl
    · exact .inr (.inr ⟨ref, reason, nowMs, rfl, rfl⟩)

namespace RecordStep

variable {A} {call : ControlCall} {r r' : ControlRecord}

/-- The fields that the admission wrote for good. -/
theorem fixed (h : RecordStep A call r r') : r'.controlRef = r.controlRef ∧
    r'.bindingDigest = r.bindingDigest ∧ r'.epoch = r.epoch ∧
    r'.activationDeadlineMs = r.activationDeadlineMs ∧ r'.expiresAtMs = r.expiresAtMs ∧
    r'.grantIdDigest = r.grantIdDigest ∧ r'.receiptDigest = r.receiptDigest := by
  have hexp : ∀ t, (r.expired t).controlRef = r.controlRef ∧
      (r.expired t).bindingDigest = r.bindingDigest ∧ (r.expired t).epoch = r.epoch ∧
      (r.expired t).activationDeadlineMs = r.activationDeadlineMs ∧
      (r.expired t).expiresAtMs = r.expiresAtMs ∧
      (r.expired t).grantIdDigest = r.grantIdDigest ∧
      (r.expired t).receiptDigest = r.receiptDigest := by
    intro t
    rcases r.expired_cases t with he | ⟨-, he⟩ <;> rw [he] <;> simp
  cases h with
  | same => simp
  | expired => exact hexp _
  | update =>
    rcases onRecord_cases A call (r.expired call.nowMs) with he | ⟨_, _, -, -, he⟩ |
      ⟨_, _, _, -, he⟩ <;> rw [he] <;> exact hexp _

/-- A reservation that is pending or active was so before. -/
theorem isLive (h : RecordStep A call r r') (hlive : r'.isLive = true) : r.isLive = true := by
  cases h with
  | same => exact hlive
  | expired => exact ControlRecord.isLive_of_expired hlive
  | update =>
    rcases onRecord_cases A call (r.expired call.nowMs) with he | ⟨ack, _, -, hack, he⟩ |
      ⟨_, _, _, -, he⟩
    · exact ControlRecord.isLive_of_expired (he ▸ hlive)
    · refine ControlRecord.isLive_of_expired (t := call.nowMs) ?_
      simp only [acknowledges, Bool.and_eq_true, decide_eq_true_eq] at hack
      simp [ControlRecord.isLive, hack]
    · rw [he] at hlive
      exact absurd hlive (by simp [ControlRecord.revoke, ControlRecord.isLive])

theorem valid (h : RecordStep A call r r') (hnow : 1 ≤ call.nowMs) (hr : r.Valid) :
    r'.Valid := by
  cases h with
  | same => exact hr
  | expired => exact hr.expired _
  | update =>
    rcases onRecord_cases A call (r.expired call.nowMs) with he | ⟨ack, nowMs, rfl, -, he⟩ |
      ⟨_, reason, _, -, he⟩
    · rw [he]
      exact hr.expired _
    · rw [he]
      exact (hr.expired _).activate ack _ hnow
    · rw [he]
      exact (hr.expired _).revoke reason

end RecordStep

/-! ## The whole store under one call -/

/-- A reservation is stored under its reference. -/
def MemoryStore.Keyed (s : MemoryStore) : Prop :=
  ∀ ref r, s.records.find? ref = some r → r.controlRef = ref

structure MemoryStore.Inv (s : MemoryStore) : Prop where
  ref : s.Keyed
  valid : ∀ ref r, s.records.find? ref = some r → r.Valid
  /-- The owner of a binding epoch is a reservation of it. -/
  owner : ∀ {b e ref}, s.bindingEpochs.find? (b, e) = some ref →
    ∃ r, s.records.find? ref = some r ∧ r.bindingDigest = b ∧ r.epoch = e
  /-- A reservation that is pending or active owns its binding epoch. -/
  live : ∀ {ref r}, s.records.find? ref = some r → r.isLive = true →
    s.bindingEpochs.find? (r.bindingDigest, r.epoch) = some ref

@[simp] theorem MemoryStore.find?_setRecord (s : MemoryStore) (r : ControlRecord) (ref : Str) :
    (s.setRecord r).records.find? ref =
      if r.controlRef = ref then some r else s.records.find? ref :=
  Entries.find?_set ..

@[simp] theorem MemoryStore.find?_reserve (s : MemoryStore) (r : ControlRecord) (ref : Str) :
    (s.reserve r).records.find? ref =
      if r.controlRef = ref then some r else s.records.find? ref :=
  Entries.find?_set ..

theorem MemoryStore.find?_expireOwner {s : MemoryStore} (h : s.Keyed) (binding : Digest × ℤ)
    (t : ℤ) (ref : Str) :
    (s.expireOwner binding t).records.find? ref = s.records.find? ref ∨
    ∃ r, s.records.find? ref = some r ∧
      (s.expireOwner binding t).records.find? ref = some (r.expired t) := by
  unfold MemoryStore.expireOwner
  split
  · rename_i prior hprior
    obtain ⟨owner, -, hrec⟩ := Option.bind_eq_some_iff.mp hprior
    have href := h _ _ hrec
    by_cases heq : owner = ref
    · subst heq
      exact .inr ⟨prior, hrec, by simp [href]⟩
    · exact .inl (by simp [href, heq])
  · exact .inl rfl

/-- What a call that answers `answer` does to the reservation under `ref`. -/
inductive Effect (call : ControlCall) (answer : Answer) (ref : Str) :
    Option ControlRecord → Option ControlRecord → Prop
  | absent : Effect call answer ref none none
  | step {r r' : ControlRecord} (h : RecordStep A call r r') :
    Effect call answer ref (some r) (some r')
  | reserved (approval : VerifiedApproval) (nowMs ttlMs : ℤ) (draw : Draw)
    (hcall : call = .admitApproval approval nowMs ttlMs draw) (hnow : 1 ≤ nowMs)
    (hmay : mayAdmit A approval nowMs ttlMs = true)
    (hanswer : answer = .bundle (some (newBundle A approval nowMs ttlMs draw)))
    (href : draw.controlRef.val = ref) :
    Effect call answer ref none (some (newRecord A approval nowMs ttlMs draw))

theorem Effect.of_expired {call : ControlCall} {answer : Answer} {ref : Str}
    {old new : Option ControlRecord}
    (h : new = old ∨ ∃ r, old = some r ∧ new = some (r.expired call.nowMs)) :
    Effect A call answer ref old new := by
  rcases h with rfl | ⟨r, rfl, rfl⟩
  · cases new with
    | none => exact .absent
    | some r => exact .step .same
  · exact .step .expired

theorem ledger_effect {s : MemoryStore} (h : s.Inv) (call : ControlCall) (ref : Str) :
    Effect A call (ledger A s call).2 ref (s.records.find? ref)
      ((ledger A s call).1.records.find? ref) := by
  by_cases hother : ∃ approval nowMs ttlMs draw, call = .admitApproval approval nowMs ttlMs draw
  · obtain ⟨approval, nowMs, ttlMs, draw, rfl⟩ := hother
    rcases ledger_admit_cases A s approval nowMs ttlMs draw with he | ⟨-, he⟩ |
      ⟨hnow, hmay, -, hspent, he⟩
    · rw [he]
      exact .of_expired A (.inl rfl)
    · rw [he]
      exact .of_expired A (MemoryStore.find?_expireOwner h.ref _ _ _)
    · rw [he, MemoryStore.find?_reserve]
      split
      · rename_i href
        simp only [MemoryStore.hasSpent, Bool.or_eq_false_iff, Option.isSome_eq_false_iff,
          Option.isNone_iff_eq_none] at hspent
        have hnew : s.records.find? ref = none := href ▸ hspent.2
        rw [hnew]
        exact .reserved approval nowMs ttlMs draw rfl hnow hmay rfl href
      · exact .of_expired A (MemoryStore.find?_expireOwner h.ref _ _ _)
  · unfold ledger
    split
    · exact .of_expired A (.inl rfl)
    rcases memory_cases A s call with hcall | ⟨-, he⟩ | ⟨ref', r, htarget, hr, he⟩
    · exact absurd hcall hother
    · rw [he]
      exact .of_expired A (.inl rfl)
    · have href := h.ref _ _ hr
      have hstep : RecordStep A call r (call.onRecord A (r.expired call.nowMs)).1 :=
        .update (href ▸ htarget)
      rw [he, MemoryStore.find?_setRecord, hstep.fixed.1, href]
      split
      · rename_i heq
        rw [← heq, hr]
        exact .step hstep
      · exact .of_expired A (.inl rfl)

/-- A bundle is returned with the reservation of a binding epoch that none held; nothing else
changes the owner of one. -/
theorem ledger_bindingEpochs (s : MemoryStore) (call : ControlCall) :
    ((ledger A s call).1.bindingEpochs = s.bindingEpochs ∧
      ∀ b, (ledger A s call).2 ≠ .bundle (some b)) ∨
    ∃ approval nowMs ttlMs draw, call = .admitApproval approval nowMs ttlMs draw ∧
      s.isHeld (approval.bindingDigest, approval.epoch) nowMs = false ∧
      (ledger A s call).1 = (s.expireOwner (approval.bindingDigest, approval.epoch) nowMs).reserve
        (newRecord A approval nowMs ttlMs draw) := by
  by_cases hother : ∃ approval nowMs ttlMs draw, call = .admitApproval approval nowMs ttlMs draw
  · obtain ⟨approval, nowMs, ttlMs, draw, rfl⟩ := hother
    rcases ledger_admit_cases A s approval nowMs ttlMs draw with he | ⟨-, he⟩ |
      ⟨-, -, hheld, -, he⟩
    · exact .inl (by rw [he]; exact ⟨rfl, nofun⟩)
    · exact .inl (by rw [he]; exact ⟨s.expireOwner_bindingEpochs _ _, nofun⟩)
    · exact .inr ⟨approval, nowMs, ttlMs, draw, rfl, hheld, by rw [he]⟩
  · left
    have hrefusal : ∀ b, call.refusal ≠ .bundle (some b) := by
      cases call <;> exact nofun
    unfold ledger
    split
    · exact ⟨rfl, hrefusal⟩
    rcases memory_cases A s call with hcall | ⟨-, he⟩ | ⟨_, _, -, -, he⟩
    · exact absurd hcall hother
    · rw [he]
      exact ⟨rfl, hrefusal⟩
    · rw [he]
      refine ⟨rfl, ?_⟩
      cases call <;> exact nofun

theorem MemoryStore.inv_empty : MemoryStore.empty.Inv := by
  constructor
  · intro ref r h
    cases h
  · intro ref r h
    cases h
  · intro b e ref h
    cases h
  · intro ref r h
    cases h

theorem ledger_inv {s : MemoryStore} (h : s.Inv) (call : ControlCall) :
    (ledger A s call).1.Inv where
  ref := by
    intro ref r' hr'
    have heff := ledger_effect A h call ref
    rw [hr'] at heff
    generalize hold : s.records.find? ref = old at heff
    cases heff with
    | step hstep => exact hstep.fixed.1.trans (h.ref _ _ hold)
    | reserved _ _ _ _ _ _ _ _ href => exact href
  valid := by
    intro ref r' hr'
    by_cases hnow : call.nowMs < 1
    · unfold ledger at hr'
      rw [if_pos (.inl hnow)] at hr'
      exact h.valid ref r' hr'
    have heff := ledger_effect A h call ref
    rw [hr'] at heff
    generalize hold : s.records.find? ref = old at heff
    cases heff with
    | step hstep => exact hstep.valid (by omega) (h.valid _ _ hold)
    | reserved _ _ _ draw _ hnow hmay => exact ControlRecord.newRecord_valid A hnow hmay draw
  owner := by
    intro b e ref hown
    have hkeep : ∀ {r}, s.records.find? ref = some r → r.bindingDigest = b → r.epoch = e →
        ∃ r', (ledger A s call).1.records.find? ref = some r' ∧ r'.bindingDigest = b ∧
          r'.epoch = e := by
      intro r hr hb he
      have heff := ledger_effect A h call ref
      rw [hr] at heff
      generalize (ledger A s call).1.records.find? ref = new at heff ⊢
      cases heff with
      | step hstep => exact ⟨_, rfl, hstep.fixed.2.1.trans hb, hstep.fixed.2.2.1.trans he⟩
    rcases ledger_bindingEpochs A s call with ⟨hsame, -⟩ |
      ⟨approval, nowMs, ttlMs, draw, -, -, hs'⟩
    · rw [hsame] at hown
      obtain ⟨r, hr, hb, he⟩ := h.owner hown
      exact hkeep hr hb he
    · rw [hs'] at hown
      simp only [MemoryStore.reserve, MemoryStore.expireOwner_bindingEpochs,
        Entries.find?_set] at hown
      split at hown
      · rename_i hbe
        cases hown
        rw [hs', MemoryStore.find?_reserve, if_pos rfl]
        exact ⟨_, rfl, congrArg Prod.fst hbe, congrArg Prod.snd hbe⟩
      · obtain ⟨r, hr, hb, he⟩ := h.owner hown
        exact hkeep hr hb he
  live := by
    intro ref r' hr' hlive
    rcases ledger_bindingEpochs A s call with ⟨hsame, hnone⟩ |
      ⟨approval, nowMs, ttlMs, draw, -, hheld, hs'⟩
    · have heff := ledger_effect A h call ref
      rw [hr'] at heff
      generalize hold : s.records.find? ref = old at heff
      cases heff with
      | step hstep =>
        rw [hsame, hstep.fixed.2.1, hstep.fixed.2.2.1]
        exact h.live hold (hstep.isLive hlive)
      | reserved _ _ _ _ _ _ _ hanswer => exact absurd hanswer (hnone _)
    · rw [hs', MemoryStore.find?_reserve] at hr'
      simp only [hs', MemoryStore.reserve, MemoryStore.expireOwner_bindingEpochs,
        Entries.find?_set]
      split at hr'
      · rename_i href
        cases hr'
        rw [if_pos rfl, href]
      · -- An older live reservation: its binding epoch is held, so it is another one.
        obtain ⟨r, hr, hr'r⟩ : ∃ r, s.records.find? ref = some r ∧
            (r' = r ∨ r' = r.expired nowMs) := by
          rcases s.find?_expireOwner h.ref _ nowMs ref with he | ⟨r, hr, he⟩
          · exact ⟨r', he.symm.trans hr', .inl rfl⟩
          · exact ⟨r, hr, .inr (Option.some.inj (hr'.symm.trans he))⟩
        have hbinding : r'.bindingDigest = r.bindingDigest ∧ r'.epoch = r.epoch := by
          rcases hr'r with rfl | rfl <;> simp
        have hrlive : r.isLive = true := by
          rcases hr'r with rfl | rfl
          · exact hlive
          · exact ControlRecord.isLive_of_expired hlive
        have hown := h.live hr hrlive
        rw [hbinding.1, hbinding.2]
        rw [if_neg ?_]
        · exact hown
        intro hbe
        have hprior : (s.bindingEpochs.find? (approval.bindingDigest, approval.epoch)).bind
            s.records.find? = some r := by
          rw [show (approval.bindingDigest, approval.epoch) = (r.bindingDigest, r.epoch) from hbe,
            hown]
          exact hr
        simp only [MemoryStore.isHeld, hprior, Option.any_some] at hheld
        simp only [MemoryStore.expireOwner, hprior, MemoryStore.find?_setRecord,
          ControlRecord.expired_controlRef, h.ref _ _ hr, if_pos] at hr'
        cases hr'
        rw [hheld] at hlive
        cases hlive

/-- A binding epoch has at most one reservation that is pending or active. -/
theorem MemoryStore.Inv.live_unique {s : MemoryStore} (h : s.Inv) {ref ref' : Str}
    {r r' : ControlRecord} (hr : s.records.find? ref = some r) (hr' : s.records.find? ref' = some r')
    (hlive : r.isLive = true) (hlive' : r'.isLive = true)
    (hb : r.bindingDigest = r'.bindingDigest) (he : r.epoch = r'.epoch) : ref = ref' := by
  have hown := h.live hr hlive
  rw [hb, he, h.live hr' hlive'] at hown
  exact (Option.some.inj hown).symm

/-! ## The in-memory store -/

/-- Two stores that from `t` on differ at most in which expiries are written down. -/
structure Agree (t : ℤ) (s l : MemoryStore) : Prop where
  nonces : ∀ d, d ∈ s.consumedNonces ↔ d ∈ l.consumedNonces
  approvals : ∀ d, d ∈ s.consumedApprovalIds ↔ d ∈ l.consumedApprovalIds
  bindings : ∀ b, s.bindingEpochs.find? b = l.bindingEpochs.find? b
  records : ∀ ref u, t ≤ u → (s.records.find? ref).map (·.expired u) =
    (l.records.find? ref).map (·.expired u)

namespace Agree

variable {t u : ℤ} {s l : MemoryStore}

theorem refl (t : ℤ) (s : MemoryStore) : Agree t s s :=
  ⟨fun _ => Iff.rfl, fun _ => Iff.rfl, fun _ => rfl, fun _ _ _ => rfl⟩

theorem symm (h : Agree t s l) : Agree t l s :=
  ⟨fun d => (h.nonces d).symm, fun d => (h.approvals d).symm, fun b => (h.bindings b).symm,
    fun ref u hu => (h.records ref u hu).symm⟩

theorem trans {k : MemoryStore} (h : Agree t s l) (h' : Agree t l k) : Agree t s k :=
  ⟨fun d => (h.nonces d).trans (h'.nonces d), fun d => (h.approvals d).trans (h'.approvals d),
    fun b => (h.bindings b).trans (h'.bindings b),
    fun ref u hu => (h.records ref u hu).trans (h'.records ref u hu)⟩

theorem mono (h : Agree t s l) (hu : t ≤ u) : Agree u s l :=
  { h with records := fun ref v hv => h.records ref v (Int.le_trans hu hv) }

theorem find?_none (h : Agree t s l) {ref : Str} :
    s.records.find? ref = none ↔ l.records.find? ref = none := by
  have hr := h.records ref t (Int.le_refl t)
  rw [← Option.map_eq_none_iff (f := (·.expired t)), hr, Option.map_eq_none_iff]

theorem keyed (h : Agree t s l) (hl : l.Keyed) : s.Keyed := by
  intro ref r hr
  have hrec := h.records ref t (Int.le_refl t)
  rw [hr, Option.map_some] at hrec
  obtain ⟨r', hr', he⟩ := Option.map_eq_some_iff.mp hrec.symm
  have hc := congrArg ControlRecord.controlRef he
  rw [ControlRecord.expired_controlRef, ControlRecord.expired_controlRef] at hc
  rw [← hc]
  exact hl ref r' hr'

theorem setRecord (h : Agree t s l) (r : ControlRecord) : Agree t (s.setRecord r) (l.setRecord r) :=
  { h with
    records := by
      intro ref u hu
      rw [MemoryStore.find?_setRecord, MemoryStore.find?_setRecord]
      split
      · rfl
      · exact h.records ref u hu }

theorem reserve (h : Agree t s l) (r : ControlRecord) : Agree t (s.reserve r) (l.reserve r) where
  nonces := fun d => by simp only [MemoryStore.reserve, List.mem_cons, h.nonces d]
  approvals := fun d => by simp only [MemoryStore.reserve, List.mem_cons, h.approvals d]
  bindings := fun b => by simp only [MemoryStore.reserve, Entries.find?_set, h.bindings b]
  records := by
    intro ref u hu
    rw [MemoryStore.find?_reserve, MemoryStore.find?_reserve]
    split
    · rfl
    · exact h.records ref u hu

/-- Writing an expiry down changes nothing from then on. -/
theorem setExpired {r : ControlRecord} (hr : s.records.find? r.controlRef = some r) (t : ℤ) :
    Agree t (s.setRecord (r.expired t)) s where
  nonces := fun _ => Iff.rfl
  approvals := fun _ => Iff.rfl
  bindings := fun _ => rfl
  records := by
    intro ref u hu
    rw [MemoryStore.find?_setRecord, ControlRecord.expired_controlRef]
    split
    · rename_i href
      rw [← href, hr, Option.map_some, Option.map_some, ControlRecord.expired_expired _ hu]
    · rfl

theorem expireOwner (hs : s.Keyed) (binding : Digest × ℤ) (t : ℤ) :
    Agree t (s.expireOwner binding t) s := by
  unfold MemoryStore.expireOwner
  split
  · rename_i prior hprior
    obtain ⟨owner, -, hrec⟩ := Option.bind_eq_some_iff.mp hprior
    exact .setExpired (hs _ _ hrec ▸ hrec) t
  · exact .refl t s

theorem isHeld (h : Agree t s l) (binding : Digest × ℤ) (hu : t ≤ u) :
    s.isHeld binding u = l.isHeld binding u := by
  have hany : ∀ o : Option ControlRecord, (o.any fun r => (r.expired u).isLive) =
      (o.map (·.expired u)).any ControlRecord.isLive := by
    intro o
    cases o <;> rfl
  unfold MemoryStore.isHeld
  rw [h.bindings binding, hany, hany]
  cases l.bindingEpochs.find? binding with
  | none => rfl
  | some owner => simp only [Option.bind_some, h.records owner u hu]

end Agree

theorem agree_admitApproval {t : ℤ} {s l : MemoryStore} (h : Agree t s l) (hl : l.Keyed)
    (approval : VerifiedApproval) {nowMs : ℤ} (ttlMs : ℤ) {draw : Draw} (hnow : 1 ≤ nowMs)
    (ht : t ≤ nowMs) (hfresh : s.records.find? draw.controlRef.val = none) :
    (memory A s (.admitApproval approval nowMs ttlMs draw)).2 =
        (ledger A l (.admitApproval approval nowMs ttlMs draw)).2 ∧
      Agree nowMs (memory A s (.admitApproval approval nowMs ttlMs draw)).1
        (ledger A l (.admitApproval approval nowMs ttlMs draw)).1 := by
  by_cases hmay : mayAdmit A approval nowMs ttlMs = true
  · set binding := (approval.bindingDigest, approval.epoch) with hbinding
    have hexp : Agree nowMs (s.expireOwner binding nowMs) l :=
      (Agree.expireOwner (h.keyed hl) binding nowMs).trans (h.mono ht)
    have hexp' : Agree nowMs (s.expireOwner binding nowMs) (l.expireOwner binding nowMs) :=
      hexp.trans (Agree.expireOwner hl binding nowMs).symm
    have hspent : l.hasSpent (.admitApproval approval nowMs ttlMs draw) = true ↔
        approval.nonceDigest ∈ s.consumedNonces ∨
          approval.approvalIdDigest ∈ s.consumedApprovalIds := by
      simp [MemoryStore.hasSpent, h.find?_none.mp hfresh, h.nonces, h.approvals]
    have hmem : memory A s (.admitApproval approval nowMs ttlMs draw) =
        if s.isHeld binding nowMs = true then (s.expireOwner binding nowMs, .bundle none)
        else if approval.nonceDigest ∈ s.consumedNonces ∨
          approval.approvalIdDigest ∈ s.consumedApprovalIds then
          (s.expireOwner binding nowMs, .bundle none)
        else ((s.expireOwner binding nowMs).reserve (newRecord A approval nowMs ttlMs draw),
          .bundle (some (newBundle A approval nowMs ttlMs draw))) := by
      simp only [memory, admitApproval_eq A hmay, admitNew_eq, ← hbinding,
        MemoryStore.expireOwner_consumedNonces, MemoryStore.expireOwner_consumedApprovalIds]
      split
      · rfl
      split <;> rfl
    rw [ledger_admit_eq A hnow hmay, hmem, h.isHeld binding ht]
    by_cases hs : approval.nonceDigest ∈ s.consumedNonces ∨
        approval.approvalIdDigest ∈ s.consumedApprovalIds
    · rw [if_pos hs, if_pos (hspent.mpr hs), ite_self]
      exact ⟨rfl, hexp⟩
    · rw [if_neg hs, if_neg (fun hl => hs (hspent.mp hl))]
      split
      · exact ⟨rfl, hexp'⟩
      · exact ⟨rfl, hexp'.reserve _⟩
  · rw [ledger_admit_refused A fun hargs => hmay hargs.1]
    simp only [memory, MemoryStore.admitApproval, hmay]
    exact ⟨rfl, h.mono ht⟩

theorem memory_malformed {s : MemoryStore} {call : ControlCall} (hs : s.Keyed)
    (hv : ∀ ref r, s.records.find? ref = some r → (r.expired call.nowMs).Valid)
    (h : call.isWellFormed = false) :
    (memory A s call).2 = call.refusal ∧ Agree call.nowMs (memory A s call).1 s := by
  cases call with
  | admitApproval | finalize => cases h
  | authorizesSession controlRef preauthRef bindingDigest tokenDigest nowMs =>
    simp only [memory, MemoryStore.authorizesSession]
    cases hr : s.records.find? controlRef with
    | none => exact ⟨rfl, .refl _ _⟩
    | some r =>
      have hvalid := hv _ _ hr
      have href := hs _ _ hr
      refine ⟨congrArg Answer.bool ?_, .setExpired (href ▸ hr) _⟩
      rw [← Bool.not_eq_true]
      intro hauth
      simp only [ControlRecord.authorizes, Bool.and_eq_true, decide_eq_true_eq] at hauth
      obtain ⟨⟨⟨-, hp⟩, hb⟩, ht⟩ := hauth
      obtain ⟨token, -, htoken⟩ := Option.map_eq_some_iff.mp ht
      have hcontrol := hvalid.controlRef
      rw [ControlRecord.expired_controlRef, href] at hcontrol
      have hpreauth := hvalid.preauthRef preauthRef hp
      have hdigest : Python.isDigest bindingDigest = true :=
        hb ▸ (r.expired nowMs).bindingDigest.property
      have htokenDigest : Python.isDigest tokenDigest = true := htoken ▸ token.property
      rw [ControlCall.isWellFormed, hcontrol, hpreauth, hdigest, htokenDigest] at h
      cases h
  | revoke controlRef reason nowMs =>
    simp only [memory, MemoryStore.revoke]
    cases hr : s.records.find? controlRef with
    | none => exact ⟨rfl, .refl _ _⟩
    | some r =>
      have hcontrol := (hv _ _ hr).controlRef
      rw [ControlRecord.expired_controlRef, hs _ _ hr] at hcontrol
      rw [ControlCall.isWellFormed, hcontrol] at h
      cases h

/-- A call other than an admission looks one reservation up, the same on both sides. -/
theorem agree_update {t : ℤ} {s l : MemoryStore} (h : Agree t s l) {call : ControlCall}
    (hother : ∀ approval nowMs ttlMs draw, call ≠ .admitApproval approval nowMs ttlMs draw)
    (ht : t ≤ call.nowMs) :
    (memory A s call).2 = (memory A l call).2 ∧
      Agree call.nowMs (memory A s call).1 (memory A l call).1 := by
  rcases memory_cases A s call with ⟨_, _, _, _, hcall⟩ | ⟨hs, he⟩ | ⟨ref, r, htarget, hr, he⟩
  · exact absurd hcall (hother _ _ _ _)
  · have hnone : (call.target A).bind l.records.find? = none := by
      rw [Option.bind_eq_none_iff] at hs ⊢
      exact fun ref href => h.find?_none.mp (hs ref href)
    rcases memory_cases A l call with ⟨_, _, _, _, hcall⟩ | ⟨-, he'⟩ | ⟨ref, r, htarget, hr, -⟩
    · exact absurd hcall (hother _ _ _ _)
    · rw [he, he']
      exact ⟨rfl, h.mono ht⟩
    · rw [htarget, Option.bind_some, hr] at hnone
      cases hnone
  · have hrec := h.records ref call.nowMs ht
    rw [hr, Option.map_some] at hrec
    obtain ⟨r', hr', hexp⟩ := Option.map_eq_some_iff.mp hrec.symm
    rcases memory_cases A l call with ⟨_, _, _, _, hcall⟩ | ⟨hnone, -⟩ |
      ⟨ref', r'', htarget', hr'', he'⟩
    · exact absurd hcall (hother _ _ _ _)
    · rw [htarget, Option.bind_some, hr'] at hnone
      cases hnone
    · rw [htarget] at htarget'
      cases htarget'
      rw [hr'] at hr''
      cases hr''
      rw [he, he', hexp]
      exact ⟨rfl, (h.mono ht).setRecord _⟩

/-- At a clock of at least one, and with a new reference, the in-memory store answers as the
ledger does. -/
theorem agree_step {t : ℤ} {s l : MemoryStore} (h : Agree t s l) (hl : l.Inv)
    (call : ControlCall) (hnow : 1 ≤ call.nowMs) (ht : t ≤ call.nowMs)
    (hfresh : ∀ ref ∈ call.drawnRef, s.records.find? ref = none) :
    (memory A s call).2 = (ledger A l call).2 ∧
      Agree call.nowMs (memory A s call).1 (ledger A l call).1 := by
  by_cases hother : ∃ approval nowMs ttlMs draw, call = .admitApproval approval nowMs ttlMs draw
  · obtain ⟨approval, nowMs, ttlMs, draw, rfl⟩ := hother
    exact agree_admitApproval A h hl.ref approval ttlMs hnow ht (hfresh _ rfl)
  have hspent : l.hasSpent call = false := by
    cases call with
    | admitApproval approval nowMs ttlMs draw => exact absurd ⟨_, _, _, _, rfl⟩ hother
    | _ => rfl
  by_cases hwf : call.isWellFormed = true
  · have hled : ledger A l call = memory A l call :=
      if_neg (by simp [hspent, hwf, hnow])
    rw [hled]
    exact agree_update A h (fun _ _ _ _ hcall => hother ⟨_, _, _, _, hcall⟩) ht
  · have hled : ledger A l call = (l, call.refusal) := if_pos (.inr (.inl (by simpa using hwf)))
    have hv : ∀ ref r, s.records.find? ref = some r → (r.expired call.nowMs).Valid := by
      intro ref r hr
      have hrec := h.records ref call.nowMs ht
      rw [hr, Option.map_some] at hrec
      obtain ⟨r', hr', hexp⟩ := Option.map_eq_some_iff.mp hrec.symm
      exact hexp ▸ (hl.valid ref r' hr').expired _
    obtain ⟨hans, hagree⟩ := memory_malformed A (h.keyed hl.ref) hv (by simpa using hwf)
    rw [hled]
    exact ⟨hans, hagree.trans (h.mono ht)⟩

end

end HeyKevin.L10.Control
