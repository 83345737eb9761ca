import HeyKevin.L7Tokens.Disconnect
/-!
# What a committed transaction did

One inversion lemma for each body: the checks that a commit has passed and the
record it leaves. Everything about runs is derived from these.

* `Free`: the record holds no claim, or an expired reservation.
* `Fenced`: the claim is live and still at the counters and the credentials of
  the record.
* `acquire_spec`, `transition_spec`, `persist_spec`, `connect_spec`,
  `consume_spec`, `disconnect_spec`.
-/
namespace HeyKevin.L7.Tokens

open HeyKevin.Core Binary64 L1 L1.Text L1.Datetime

theorem Held.bound_of_uncertain {r : Record} {c : Claim} (h : Held r c)
    (hu : c.phase = .providerOutcomeUncertain) : c.boundOperationId.isSome := by
  rcases h.claim with hc | hc
  · exact Option.isSome_iff_ne_none.mpr (hc.uncertain hu).2
  · have := hc.phase_mem
    rw [hu] at this
    simp at this

theorem held_of_parse {r : Record} {c : Claim}
    (h : parseProviderOperationIntent r = .ok (.valid c)) : Held r c := by
  cases parse_eq_ok.mp h with
  | valid _ h => exact h

theorem reauthorizing_of_parse {r : Record} {c : Claim}
    (h : parseProviderOperationIntent r = .ok (.quarantinedReauthorizing c)) :
    Reauthorizing r c := by
  cases parse_eq_ok.mp h with
  | reauthorizing _ h => exact h

theorem quarantine_of_parse {r : Record}
    (h : parseProviderOperationIntent r = .ok .quarantined) : Quarantine r ∧ ¬ r.HasAttempt := by
  cases parse_eq_ok.mp h with
  | quarantined h ha => exact ⟨h, ha⟩

theorem vacant_of_parse {r : Record}
    (h : parseProviderOperationIntent r = .ok .absent) : Vacant r := by
  cases parse_eq_ok.mp h with
  | absent h => exact h

/-- The record holds an expired reservation. -/
def Lapsed (r : Record) (now : Double) (c : Claim) : Prop :=
  parseProviderOperationIntent r = .ok (.valid c) ∧ c.phase = .reserved ∧
    c.expiresAt.val ≤ now.val

/-- The record holds an unbound started claim that has expired. -/
def Stranded (r : Record) (now : Double) (c : Claim) : Prop :=
  parseProviderOperationIntent r = .ok (.valid c) ∧ c.phase = .providerRequestStarted ∧
    c.boundOperationId = none ∧ c.expiresAt.val ≤ now.val

def Free (r : Record) (now : Double) : Prop :=
  parseProviderOperationIntent r = .ok .absent ∨ ∃ c, Lapsed r now c

/-- `c` is live, and taken at what the record still says. -/
structure Fenced (r : Record) (c : Claim) (now : Double) (l : Lifecycle) (fp : Str) : Prop where
  lifecycle : parseDurableLifecycleCounters r = .ok l
  fingerprint : r.fingerprint = .ok fp
  stillAt : c.StillAt l fp
  live : now.val < c.expiresAt.val

/-- A claim that neither is held by its operation nor is live has lapsed, or is
stranded. -/
theorem lapsed_or_stranded {r : Record} {now : Double} {c : Claim}
    (hc : parseProviderOperationIntent r = .ok (.valid c))
    (hb : ¬ (c.boundOperationId.isSome ∧ c.phase ≠ .reserved)) (he : ¬ now.val < c.expiresAt.val) :
    (c.phase = .providerRequestStarted ∧ Stranded r now c) ∨
      (c.phase ≠ .providerRequestStarted ∧ Lapsed r now c) := by
  have he := not_lt.mp he
  by_cases hs : c.phase = .providerRequestStarted
  · refine .inl ⟨hs, hc, hs, ?_, he⟩
    by_contra hn
    exact hb ⟨Option.isSome_iff_ne_none.mpr hn, by rw [hs]; decide⟩
  · refine .inr ⟨hs, hc, ?_, he⟩
    cases hp : c.phase with
    | reserved => rfl
    | providerRequestStarted => exact absurd hp hs
    | providerOutcomeUncertain =>
      exact absurd ⟨(held_of_parse hc).bound_of_uncertain hp, by rw [hp]; decide⟩ hb

/-! ## Acquire -/

/-- What an acquire that commits has done. -/
inductive AcquireSpec (a : Acquire) (r : Record) : Record × Bool → Prop
  | quarantined (now : Double) (c : Claim) (time : serverTime a.readTime = .ok now)
      (stranded : Stranded r now c) : AcquireSpec a r (r.update quarantinePatch, true)
  | reserved (n : Number) (now : Double) (l : Lifecycle) (fp : Str)
      (lease : 1 ≤ n.toFloat.val) (time : serverTime a.readTime = .ok now)
      (lifecycle : parseDurableLifecycleCounters r = .ok l) (fingerprint : r.fingerprint = .ok fp)
      (free : Free r now) (kind : a.kind ≠ .reconnect)
      (bound : ∀ b ∈ a.boundOperationId, a.kind = .business ∧ IsDigest b) :
      AcquireSpec a r (r.update (acquirePatch a now (Seconds.after now (.number n)) l fp), false)

theorem acquire_validate_eq_ok {a : Acquire} {n : Number} (h : a.validate = .ok n) :
    1 ≤ n.toFloat.val ∧ a.kind ≠ .reconnect ∧
      ∀ b ∈ a.boundOperationId, a.kind = .business ∧ IsDigest b := by
  simp only [Acquire.validate, bind_eq_ok, ensure_eq_ok, exists_unit] at h
  obtain ⟨hk, hb, hd, -, -, h⟩ := h
  split at h
  · simp only [bind_eq_ok, ensure_eq_ok, exists_unit, pure_eq_ok, Except.ok.injEq] at h
    obtain ⟨⟨h1, -⟩, rfl⟩ := h
    exact ⟨h1, hk, fun b hm => ⟨hb (Option.isSome_of_mem hm), hd b hm⟩⟩
  · cases h

theorem acquire_spec {a : Acquire} {r : Record} {x : Record × Bool} (h : acquire a r = .ok x) :
    AcquireSpec a r x := by
  simp only [acquire, acquireTxn, bind_eq_ok, ensure_eq_ok, exists_unit, mapError_eq_ok] at h
  obtain ⟨n, hn, -, now, hnow, hq, -, -, l, hl, -, -, -, -, fp, hfp, h⟩ := h
  obtain ⟨h1, hk, hb⟩ := acquire_validate_eq_ok hn
  have reserve : Free r now → pure (r.update (acquirePatch a now (Seconds.after now (.number n)) l fp),
      false) = Except.ok (ε := Error) x → AcquireSpec a r x := by
    intro hf hx
    simp only [pure_eq_ok, Except.ok.injEq] at hx
    subst hx
    exact .reserved n now l fp h1 hnow hl hfp hf hk hb
  split at h
  · cases h
  · cases h
  · rename_i c hc
    simp only [bind_eq_ok, ensure_eq_ok, exists_unit] at h
    obtain ⟨hheld, hlive, h⟩ := h
    rcases lapsed_or_stranded hc hheld hlive with ⟨hs, hst⟩ | ⟨hs, hlap⟩
    · rw [if_pos hs] at h
      cases h
      exact .quarantined now c hnow hst
    · rw [if_neg hs] at h
      exact reserve (.inr ⟨c, hlap⟩) h
  · rename_i st hnq hnv hst
    cases st with
    | absent => exact reserve (.inl hst) h
    | valid c => exact absurd rfl (hnv c)
    | quarantined => exact absurd rfl hnq
    | quarantinedReauthorizing c =>
      -- the flags of the quarantine have been refused already
      have := (reauthorizing_of_parse hst).quarantine.reauth
      rw [Record.get_of_some this] at hq
      cases hq

/-! ## Transition, persist and connect -/

theorem transition_spec {t : Transition} {r s : Record} (h : transition t r = .ok s) :
    ∃ now l c fp, serverTime t.readTime = .ok now ∧
      parseProviderOperationIntent r = .ok (.valid c) ∧ c.id = t.claimId ∧ c.phase = .reserved ∧
      Fenced r c now l fp ∧ s = r.update (startedPatch r (t.leaseDuration.after now)) := by
  simp only [transition, transitionTxn, bind_eq_ok, ensure_eq_ok, exists_unit, mapError_eq_ok] at h
  obtain ⟨-, -, -, l, hl, -, -, -, -, now, hnow, h⟩ := h
  split at h
  · rename_i c hc
    simp only [bind_eq_ok, ensure_eq_ok, exists_unit, pure_eq_ok, Except.ok.injEq] at h
    obtain ⟨hid, hp, -, -, -, fp, hfp, hst, hlive, rfl⟩ := h
    exact ⟨now, l, c, fp, hnow, hc, hid, hp, ⟨hl, hfp, hst, hlive⟩, rfl⟩
  · cases h

theorem persist_spec {p : Persist} {r s : Record} (h : persist p r = .ok s) :
    ∃ now l c fp format access refresh expiry, serverTime p.readTime = .ok now ∧
      parseProviderOperationIntent r = .ok (.valid c) ∧ c.id = p.claimId ∧ c.kind = .refresh ∧
      c.phase = .providerRequestStarted ∧ Fenced r c now l fp ∧
      l.generation = p.observedGeneration ∧ IsCounter (l.generation + 1) ∧
      (∃ a b, sealPair p.vault r a b = .ok (format, access, refresh)) ∧
      s = r.update (persistPatch p r now format access refresh expiry) := by
  simp only [persist, persistTxn, bind_eq_ok, ensure_eq_ok, exists_unit, mapError_eq_ok] at h
  obtain ⟨a, -, b, -, -, hg, -, hmax, -, -, now, hnow, l, hl, hgen, -, -, -, h⟩ := h
  split at h
  · rename_i c hc
    simp only [bind_eq_ok, ensure_eq_ok, exists_unit, pure_eq_ok, Except.ok.injEq] at h
    obtain ⟨hid, hk, hp, hlive, -, fp, hfp, hst, -, ⟨format, access, refresh⟩, hseal, expiry, -, rfl⟩ := h
    refine ⟨now, l, c, fp, format, access, refresh, expiry, hnow, hc, hid, hk, hp,
      ⟨hl, hfp, hst, hlive⟩, hgen, ?_, ⟨a, b, hseal⟩, rfl⟩
    rw [hgen]
    exact ⟨by have := hg.1; omega, hmax⟩
  · cases h

/-- The claim that a connect commits under, in the status `st` of the record. -/
inductive ConnectClaim (c : Connect) (r : Record) (now : Double) (l : Lifecycle) :
    IntentStatus → Prop
  | claimless (h : c.claimId = none) : ConnectClaim c r now l .absent
  | intent (a : Claim) (fp : Str) (id : c.claimId = some a.id)
      (phase : a.phase = .providerRequestStarted) (kind : a.kind = .connect ∨ a.kind = .reconnect)
      (fenced : Fenced r a now l fp) : ConnectClaim c r now l (.valid a)
  | attempt (a : Claim) (fp : Str) (id : c.claimId = some a.id)
      (phase : a.phase = .providerRequestStarted) (kind : a.kind = .reconnect)
      (fenced : Fenced r a now l fp) : ConnectClaim c r now l (.quarantinedReauthorizing a)

theorem connectClaim_of_check {c : Connect} {r : Record} {now : Double} {l : Lifecycle}
    {st : IntentStatus} {u : Unit} (hl : parseDurableLifecycleCounters r = .ok l)
    (h : checkConnectClaim c now l r st = .ok u) : ConnectClaim c r now l st := by
  cases st with
  | absent =>
    simp only [checkConnectClaim, ensure_eq_ok] at h
    exact .claimless h
  | quarantined => cases h
  | valid a =>
    simp only [checkConnectClaim, bind_eq_ok, require_eq_ok, ensure_eq_ok, exists_unit] at h
    obtain ⟨id, hid, rfl, hp, hk, hlive, -, fp, hfp, hst⟩ := h
    exact .intent a fp hid hp hk ⟨hl, hfp, hst, hlive⟩
  | quarantinedReauthorizing a =>
    simp only [checkConnectClaim, bind_eq_ok, require_eq_ok, ensure_eq_ok, exists_unit] at h
    obtain ⟨id, hid, rfl, hp, hk, hlive, hg, fp, hfp, hst⟩ := h
    exact .attempt a fp hid hp hk ⟨hl, hfp, ⟨hg, fun _ => hst⟩, hlive⟩

theorem lifecycle_bounds {r : Record} {l : Lifecycle}
    (h : parseDurableLifecycleCounters r = .ok l) : IsCounter l.generation ∧ IsCounter l.epoch := by
  rcases parseDurableLifecycleCounters_eq_ok.mp h with h | h
  · rw [h.eq]
    decide
  · exact ⟨h.isCounter_generation, h.isCounter_epoch⟩

theorem connect_spec {contractorId : Str} {c : Connect} {r : Record} {audits : Str → Option Dict}
    {s : Record} {auditId : Str} {audit : Dict}
    (h : connect contractorId c r audits = .ok (s, auditId, audit)) :
    ∃ now l st format access refresh expiry, serverTime c.readTime = .ok now ∧
      parseDurableLifecycleCounters r = .ok l ∧ parseProviderOperationIntent r = .ok st ∧
      ConnectClaim c r now l st ∧ IsCounter (l.generation + 1) ∧ IsCounter (l.epoch + 1) ∧
      auditId = formatAuditDocId contractorId .googleCalendar (l.generation + 1)
        (connectAction r l) ∧
      (∃ a b, sealPair c.vault r a b = .ok (format, access, refresh)) ∧
      s = r.update (connectPatch c r now l format access refresh expiry) := by
  simp only [connect, connectTxn, bind_eq_ok, ensure_eq_ok, exists_unit, mapError_eq_ok,
    pure_eq_ok, Except.ok.injEq] at h
  obtain ⟨a, -, b, -, -, -, -, -, -, -, now, hnow, l, hl, -, -, -, -, st, hst, hc, hg, he, -, -,
    ⟨format, access, refresh⟩, hseal, expiry, -, h⟩ := h
  cases h
  obtain ⟨hgb, heb⟩ := lifecycle_bounds hl
  exact ⟨now, l, st, format, access, refresh, expiry, hnow, hl, hst, connectClaim_of_check hl hc,
    ⟨by have := hgb.1; omega, hg⟩, ⟨by have := heb.1; omega, he⟩, rfl, ⟨a, b, hseal⟩, rfl⟩

/-! ## Consume -/

/-- What a consumption finds when it does not merely delete the state. -/
inductive ConsumeSpec (r : Record) (now : Double) : ConsumeEffect → Prop
  | quarantine (c : Claim) (h : Stranded r now c) : ConsumeSpec r now .quarantine
  | reserveIntent (h : Free r now) : ConsumeSpec r now .reserveIntent
  | reserveAttempt (st : IntentStatus) (h : parseProviderOperationIntent r = .ok st)
      (hq : Quarantine r) (idle : ∀ a, st = .quarantinedReauthorizing a →
        ¬ (a.phase = .providerRequestStarted ∧ now.val < a.expiresAt.val)) :
      ConsumeSpec r now .reserveAttempt

theorem consumeSpec_of_status {r : Record} {now : Double} {st : IntentStatus} {e : ConsumeEffect}
    (hst : parseProviderOperationIntent r = .ok st) (h : statusEffect now st = .ok e) :
    ConsumeSpec r now e := by
  cases st with
  | absent =>
    cases h
    exact .reserveIntent (.inl hst)
  | quarantined =>
    cases h
    exact .reserveAttempt _ hst (quarantine_of_parse hst).1 fun a ha => by cases ha
  | valid c =>
    simp only [statusEffect, bind_eq_ok, ensure_eq_ok, exists_unit, pure_eq_ok, Except.ok.injEq] at h
    obtain ⟨hheld, hlive, rfl⟩ := h
    rcases lapsed_or_stranded hst hheld hlive with ⟨hs, hstr⟩ | ⟨hs, hlap⟩
    · rw [if_pos hs]
      exact .quarantine c hstr
    · rw [if_neg hs]
      exact .reserveIntent (.inr ⟨c, hlap⟩)
  | quarantinedReauthorizing a =>
    simp only [statusEffect, bind_eq_ok, ensure_eq_ok, exists_unit, pure_eq_ok, Except.ok.injEq] at h
    obtain ⟨hidle, rfl⟩ := h
    refine .reserveAttempt _ hst (reauthorizing_of_parse hst).quarantine fun b hb => ?_
    cases hb
    exact hidle

theorem consume_spec {contractorId : Str} {c : Consume} {r : Record} {e : ConsumeEffect}
    {l : Lifecycle} {fp : Str} {now : Double}
    (h : consumeDecision contractorId c r = .ok (e, l, fp, now)) :
    serverTime c.readTime = .ok now ∧ parseDurableLifecycleCounters r = .ok l ∧
      r.fingerprint = .ok fp ∧ ConsumeSpec r now e := by
  simp only [consumeDecision, readOAuthState, consumeEffect, bind_eq_ok, require_eq_ok,
    ensure_eq_ok, exists_unit, mapError_eq_ok, pure_eq_ok, Except.ok.injEq, Prod.exists,
    Prod.mk.injEq] at h
  obtain ⟨d, -, s, t, h, -, e', l', fp', h', rfl, rfl, rfl, rfl⟩ := h
  obtain ⟨-, -, _, -, _, -, _, -, -, _, -, _, -, -, now, hnow, -, -, rfl⟩ := h
  obtain ⟨-, l, hl, -, fp, hfp, -, st, hst, e, he, -, rfl, rfl, rfl⟩ := h'
  exact ⟨hnow, hl, hfp, consumeSpec_of_status hst he⟩

/-! ## Disconnect -/

/-- What a disconnect that commits has done to the record. -/
inductive DisconnectSpec (d : Disconnect) (r : Record) : Record → Prop
  | tombstoned (now : Double) (l : Lifecycle) (time : serverTime d.readTime = .ok now)
      (lifecycle : parseDurableLifecycleCounters r = .ok l)
      (generation : IsCounter (l.generation + 1)) (epoch : IsCounter (l.epoch + 1))
      (fresh : ¬ IsDurableProviderTombstone r) :
      DisconnectSpec d r (r.update (tombstonePatch r now l))
  | already (h : IsDurableProviderTombstone r) : DisconnectSpec d r r

theorem disconnectTombstone_record {contractorId : Str} {d : Disconnect} {now : Double}
    {l : Lifecycle} {s : Store} {x : Store × DisconnectResult}
    (h : disconnectTombstone contractorId d now l s = .ok x) : x.1.record = s.record := by
  simp only [disconnectTombstone] at h
  split at h
  · simp only [bind_eq_ok, mapError_eq_ok, pure_eq_ok, Except.ok.injEq] at h
    obtain ⟨-, -, rfl⟩ := h
    rfl
  · simp only [bind_eq_ok, pure_eq_ok, Except.ok.injEq] at h
    obtain ⟨_, -, _, -, _, -, rfl⟩ := h
    rfl
  · simp only [bind_eq_ok, mapError_eq_ok, ensure_eq_ok, exists_unit, pure_eq_ok,
      Except.ok.injEq] at h
    obtain ⟨_, -, -, _, -, _, -, _, -, rfl⟩ := h
    rfl
  · cases h

/-- A disconnect that commits found nothing, or a reservation. -/
def Preemptable (r : Record) : Prop :=
  parseProviderOperationIntent r = .ok .absent ∨
    ∃ c, parseProviderOperationIntent r = .ok (.valid c) ∧ c.phase = .reserved

theorem preemptable_of_check {r : Record} {u : Unit}
    (h : checkPreemptable (parseProviderOperationIntent r) = .ok u) : Preemptable r := by
  unfold Preemptable
  cases hp : parseProviderOperationIntent r with
  | error m => rw [hp] at h; cases h
  | ok st =>
    rw [hp] at h
    cases st with
    | absent => exact .inl rfl
    | quarantined => cases h
    | quarantinedReauthorizing a => cases h
    | valid c =>
      simp only [checkPreemptable, bind_eq_ok, ensure_eq_ok, exists_unit] at h
      refine .inr ⟨c, rfl, ?_⟩
      cases hc : c.phase with
      | reserved => rfl
      | providerRequestStarted => exact absurd hc h.1
      | providerOutcomeUncertain => exact absurd hc h.2

theorem disconnect_spec {contractorId : Str} {d : Disconnect} {s : Store}
    {x : Store × DisconnectResult} (h : disconnect contractorId d s = .ok x) :
    Preemptable s.record ∧ DisconnectSpec d s.record x.1.record := by
  simp only [disconnect, disconnectTxn, bind_eq_ok, ensure_eq_ok, exists_unit, mapError_eq_ok] at h
  obtain ⟨-, hc, now, hnow, l, hl, h⟩ := h
  refine ⟨preemptable_of_check hc, ?_⟩
  obtain ⟨hgb, heb⟩ := lifecycle_bounds hl
  split at h
  · rename_i ht
    rw [disconnectTombstone_record h]
    exact .already ht
  · rename_i ht
    simp only [disconnectMutation, bind_eq_ok, ensure_eq_ok, exists_unit, pure_eq_ok,
      Except.ok.injEq] at h
    obtain ⟨hg, he, -, _, -, _, -, _, -, rfl⟩ := h
    exact .tombstoned now l hnow hl ⟨by have := hgb.1; omega, hg⟩ ⟨by have := heb.1; omega, he⟩ ht

end HeyKevin.L7.Tokens
