import HeyKevin.L9Texting.Transitions
/-!
# Texting under express consent

A Canadian owner is texted when the profile says that the assignment is valid
and the consent's delivery is ready. Both are recomputed from one document
that four kinds of call change in any order.

* `Held`: where the stored consent comes from, as a property of the run so far.
* `express_consent`: a ready profile holds a consent that the last collection
  accepted at the revision of now, promoted since under the account and service
  of now; a promotion of anything older changes nothing.
-/
namespace HeyKevin.L9.Texting

open HeyKevin.Core L1 L1.Text L1.Datetime

variable {ν : Type} {L : Libraries ν}

/-- The collection that contractor `k` accepted, and the consent it returned. -/
def collected? (k : Str) (call : Call) (answer : Answer) : Option (Collect × Consent) :=
  match call, answer with
  | .collect c, .accepted consent => if c.contractorId = k then some (c, consent) else none
  | _, _ => none

/-- The promotion of contractor `k` that went through. -/
def promoted? (k : Str) (call : Call) (answer : Answer) : Option Verify :=
  match call, answer with
  | .verify v, .verified => if v.contractorId = k then some v else none
  | _, _ => none

def Consent.facts (c : Consent) : Consent := { c with deliveryState := [], verification := none }

def Verify.promoted (v : Verify) : Consent :=
  { v.acceptedConsent with
    deliveryState := py "verified"
    verification := some ⟨v.accountSid, v.messagingServiceSid, v.verifiedAt⟩ }

/-- `c` is the last collection of the log, `later` what came after it. -/
structure LastCollect (k : Str) (log : List LogEvent) (c : Collect) (consent : Consent)
    (later : List LogEvent) : Prop where
  split : ∃ earlier a, log = earlier ++ a :: later ∧ collected? k a.call a.resp = some (c, consent)
  last : ∀ e ∈ later, collected? k e.call e.resp = none

/-- `c` is the collection that took down the facts of the consent, `since` what came after it. -/
structure Origin (k : Str) (log : List LogEvent) (c : Collect) (consent : Consent)
    (since : List LogEvent) : Prop where
  split : ∃ earlier o first, log = earlier ++ o :: since ∧
    collected? k o.call o.resp = some (c, first) ∧ first.facts = consent.facts
  collectedAt : consent.collectedAt = c.collectedAt
  revision : consent.optOutRevision = c.expectedRevision

/-- Where a stored consent comes from, at revision `n`. -/
structure Provenance (k : Str) (log : List LogEvent) (n : ℤ) (consent : Consent)
    (c : Collect) (accepted : Consent) (later : List LogEvent)
    (c₀ : Collect) (since : List LogEvent) : Prop where
  last : LastCollect k log c accepted later
  origin : Origin k log c₀ accepted since
  pending : accepted.deliveryState = py "pending"
  agree : c₀.expectedRevision = c.expectedRevision
  atLast : n = c.expectedRevision + (applied k later).length
  atOrigin : n = c₀.expectedRevision + (applied k since).length
  stored : consent = accepted ∨ ∃ b ∈ later, ∃ v, promoted? k b.call b.resp = some v ∧
    v.acceptedConsent = accepted ∧ consent = v.promoted

def Held (k : Str) (log : List LogEvent) (n : ℤ) (consent : Consent) : Prop :=
  ∃ c accepted later c₀ since, Provenance k log n consent c accepted later c₀ since

/-! ## One call -/

section Steps

variable {s : Store} {k : Str} {doc doc' : Contractor} {call : Call} {answer : Answer}

theorem resolve_nonneg (data : Dict) : 0 ≤ resolveOwnerSmsOptOutRevision data := by
  unfold resolveOwnerSmsOptOutRevision revision?
  split
  · split
    · simpa
    · simp
  · simp

theorem Change.resolved (h : Change L s k doc call answer doc') :
    resolveOwnerSmsOptOutRevision doc'.profile =
      resolveOwnerSmsOptOutRevision doc.profile + (applied? k call answer).toList.length := by
  cases happ : applied? k call answer with
  | none =>
    rw [resolveOwnerSmsOptOutRevision, h.kept happ (.inr rfl), ← resolveOwnerSmsOptOutRevision]
    simp
  | some t =>
    have hpos := resolve_nonneg doc.profile
    rw [resolve_of_stored (h.applies happ).revision (by omega)]
    rfl

theorem revision_of_isSome {v : Value} {r : ℤ} (h : (revision? v).isSome = true)
    (hr : v.isInt r = true) : revision? v = some r := by
  unfold revision? at h ⊢
  split at h
  · rename_i n
    have heq : n = r := by simpa [Value.isInt, Number.val] using hr
    subst heq
    split at h
    · rename_i hn
      rw [if_pos hn]
    · cases h
  · cases h

theorem CanadianAssignmentValid.revision {data : Dict} {enabled : Bool}
    (h : canadianAssignmentValid L data enabled = true) :
    (revision? (data.get "owner_sms_opt_out_revision")).isSome = true := by
  unfold canadianAssignmentValid at h
  simp only [Bool.and_eq_true] at h
  exact h.1.2

theorem ValidCanadaConsent.revision {data : Dict} {now : DateTime} {consent : Consent}
    (h : validCanadaConsent L k data now consent = true) :
    resolveOwnerSmsOptOutRevision data = consent.optOutRevision := by
  unfold validCanadaConsent at h
  simp only [Bool.and_eq_true, beq_iff_eq] at h
  rw [resolveOwnerSmsOptOutRevision, h.1.1.1.2]
  rfl

/-- What a collection writes: the revision is the one it expected, and the facts are its
own or those of the consent it retries. -/
theorem acceptedConsent_spec {c : Collect} {consent : Consent}
    (h : acceptedConsent L s c doc = .ok consent) :
    consent.deliveryState = py "pending" ∧
      resolveOwnerSmsOptOutRevision doc.profile = c.expectedRevision ∧
      (consent.collectedAt = c.collectedAt ∧ consent.optOutRevision = c.expectedRevision ∨
        ∃ x, doc.consent = some x ∧ consent.facts = x.facts ∧
          resolveOwnerSmsOptOutRevision doc.profile = x.optOutRevision) := by
  unfold acceptedConsent at h
  simp only [Core.bind_eq_ok, Core.ensure_eq_ok] at h
  obtain ⟨-, ⟨-, -, hint⟩, -, hvalid, -, -, h⟩ := h
  cases h
  have hrev := revision_of_isSome (CanadianAssignmentValid.revision hvalid) hint
  refine ⟨rfl, by rw [resolveOwnerSmsOptOutRevision, hrev]; rfl, ?_⟩
  split
  · rename_i x hx
    obtain ⟨hstored, hx⟩ := Option.filter_eq_some_iff.mp hx
    exact .inr ⟨x, hstored, rfl, ValidCanadaConsent.revision hx⟩
  · exact .inl ⟨rfl, rfl⟩

theorem promotedConsent_spec {v : Verify} {consent : Consent}
    (h : promotedConsent L s v doc = .ok consent) :
    doc.consent = some v.acceptedConsent ∧ v.acceptedConsent.deliveryState = py "pending" ∧
      resolveOwnerSmsOptOutRevision doc.profile = v.acceptedConsent.optOutRevision ∧
      consent = v.promoted := by
  unfold promotedConsent at h
  simp only [Core.bind_eq_ok, Core.ensure_eq_ok] at h
  obtain ⟨-, ⟨hstored, hpending, -, hvalid⟩, -, -, h⟩ := h
  cases h
  exact ⟨hstored, hpending, ValidCanadaConsent.revision hvalid, rfl⟩

end Steps

/-! ## Provenance along a run -/

section Provenances

variable {s : Store} {k : Str} {doc doc' : Contractor} {log : List LogEvent} {n : ℤ}
  {consent : Consent} {c c₀ : Collect} {accepted : Consent} {later since : List LogEvent}

theorem applied_append (k : Str) (log log' : List LogEvent) :
    applied k (log ++ log') = applied k log ++ applied k log' := List.filterMap_append ..

theorem LastCollect.push (h : LastCollect k log c accepted later) {e : LogEvent}
    (he : collected? k e.call e.resp = none) :
    LastCollect k (log ++ [e]) c accepted (later ++ [e]) := by
  obtain ⟨earlier, a, rfl, ha⟩ := h.split
  refine ⟨⟨earlier, a, by simp, ha⟩, fun f hf => ?_⟩
  rcases List.mem_append.mp hf with hf | hf
  · exact h.last f hf
  · rwa [List.mem_singleton.mp hf]

theorem Origin.push (h : Origin k log c₀ accepted since) (e : LogEvent) :
    Origin k (log ++ [e]) c₀ accepted (since ++ [e]) := by
  obtain ⟨earlier, o, first, rfl, ho, hfacts⟩ := h.split
  exact ⟨⟨earlier, o, first, by simp, ho, hfacts⟩, h.collectedAt, h.revision⟩

theorem Origin.facts (h : Origin k log c₀ accepted since) {x : Consent}
    (hx : x.facts = accepted.facts) : Origin k log c₀ x since := by
  obtain ⟨earlier, o, first, hlog, ho, hfacts⟩ := h.split
  have hat : x.collectedAt = accepted.collectedAt := (Consent.mk.inj hx).2.2.2.2.2.1
  have hrev : x.optOutRevision = accepted.optOutRevision := (Consent.mk.inj hx).2.2.2.2.2.2.1
  exact ⟨⟨earlier, o, first, hlog, ho, hfacts.trans hx.symm⟩, hat.trans h.collectedAt,
    hrev.trans h.revision⟩

theorem Provenance.facts (h : Provenance k log n consent c accepted later c₀ since) :
    consent.facts = accepted.facts := by
  rcases h.stored with rfl | ⟨-, -, v, -, rfl, rfl⟩
  · rfl
  · rfl

theorem Provenance.push (h : Provenance k log n consent c accepted later c₀ since) {e : LogEvent}
    (he : collected? k e.call e.resp = none) :
    Provenance k (log ++ [e]) (n + (applied? k e.call e.resp).toList.length) consent c accepted
      (later ++ [e]) c₀ (since ++ [e]) := by
  have hone : applied k [e] = (applied? k e.call e.resp).toList := by
    rw [applied_cons]
    exact List.append_nil _
  refine ⟨h.last.push he, h.origin.push e, h.pending, h.agree, ?_, ?_, ?_⟩
  · rw [applied_append, hone, List.length_append, h.atLast]
    omega
  · rw [applied_append, hone, List.length_append, h.atOrigin]
    omega
  · rcases h.stored with heq | ⟨b, hb, hv⟩
    · exact .inl heq
    · exact .inr ⟨b, List.mem_append_left _ hb, hv⟩

theorem Provenance.eq_accepted (h : Provenance k log n consent c accepted later c₀ since)
    (hpending : consent.deliveryState = py "pending") : consent = accepted := by
  rcases h.stored with heq | ⟨-, -, v, -, -, rfl⟩
  · exact heq
  · exact absurd hpending (by simp [Verify.promoted])

/-- Every stored consent of contractor `k` has its provenance in the log. -/
def Traced (k : Str) (log : List LogEvent) (s : Store) : Prop :=
  ∃ doc, Entries.find? s k = some doc ∧ ∀ consent, doc.consent = some consent →
    Held k log (resolveOwnerSmsOptOutRevision doc.profile) consent

theorem Traced.step (h : Traced k log s) (call : Call) :
    Traced k (log ++ [(step L).event s call]) (step L s call).1 := by
  obtain ⟨doc, hfind, hheld⟩ := h
  obtain ⟨doc', hfind', hchange⟩ := step_change (L := L) hfind call
  have hrev := hchange.resolved
  have hsame : doc'.consent = doc.consent →
      collected? k call (Texting.step L s call).2 = none →
      ∀ x, doc'.consent = some x → Held k (log ++ [(Texting.step L).event s call])
        (resolveOwnerSmsOptOutRevision doc'.profile) x := by
    intro heq hno x hx
    obtain ⟨c, accepted, later, c₀, since, hp⟩ := hheld x (heq ▸ hx)
    rw [hrev]
    exact ⟨c, accepted, _, c₀, _, hp.push (e := (Texting.step L).event s call) hno⟩
  refine ⟨doc', hfind', ?_⟩
  generalize hanswer : (Texting.step L s call).2 = answer at hchange hsame hrev
  cases hchange with
  | quiet call answer hquiet =>
    refine hsame rfl ?_
    unfold collected?
    split
    · exact if_neg hquiet
    · rfl
  | superseded => exact hsame rfl rfl
  | applied => exact hsame rfl rfl
  | edited => exact hsame rfl rfl
  | promoted v consent hmine haccount hconsent =>
    -- the consent that is promoted is the one that the last collection accepted
    obtain ⟨hstored, hpending, -, rfl⟩ := promotedConsent_spec hconsent
    obtain ⟨c, accepted, later, c₀, since, hp⟩ := hheld _ hstored
    have hpush := hp.push (e := (Texting.step L).event s (.verify v)) (by simp [hanswer, collected?])
    simp only [Machine.event_call, Machine.event_resp, hanswer, applied?, Option.toList_none,
      List.length_nil, Nat.cast_zero, add_zero] at hpush
    intro x hx
    cases hx
    refine ⟨c, accepted, _, c₀, _, hpush.last, hpush.origin, hpush.pending, hpush.agree,
      hpush.atLast, hpush.atOrigin, .inr ⟨(Texting.step L).event s (.verify v), by simp, v, ?_, ?_, rfl⟩⟩
    · simp [hanswer, promoted?, hmine]
    · exact hp.eq_accepted hpending
  | collected c consent hmine hconsent =>
    -- a new consent starts here, a retried one keeps the origin of its facts
    obtain ⟨hpending, hat, hnew | ⟨x, hstored, hfacts, hvalid⟩⟩ := acceptedConsent_spec hconsent
    all_goals
      have hmeta : collected? k (.collect c) (Texting.step L s (.collect c)).2 =
          some (c, consent) := by simp [hanswer, collected?, hmine]
      have hrev' : resolveOwnerSmsOptOutRevision
          (doc.profile.set "owner_sms_enabled" (.bool true)) = c.expectedRevision := by
        simpa [applied?, hat] using hrev
      have hlast : LastCollect k (log ++ [(Texting.step L).event s (.collect c)]) c consent [] :=
        ⟨⟨log, _, rfl, hmeta⟩, by simp⟩
      intro y hy
      cases hy
      simp only [hrev']
    · exact ⟨c, consent, [], c, [], hlast, ⟨⟨log, _, consent, rfl, hmeta, rfl⟩, hnew.1, hnew.2⟩,
        hpending, rfl, by simp [applied], by simp [applied], .inl rfl⟩
    · obtain ⟨c', accepted, later, c₀, since, hp⟩ := hheld x hstored
      have horigin := (hp.origin.facts (hfacts.trans hp.facts)).push
        ((Texting.step L).event s (.collect c))
      have hagree : x.optOutRevision = c₀.expectedRevision :=
        (hp.origin.facts hp.facts).revision
      refine ⟨c, consent, [], c₀, _, hlast, horigin, hpending, ?_, by simp [applied], ?_, .inl rfl⟩
      · rw [← hagree, ← hvalid, hat]
      · rw [applied_append, ← hat, hp.atOrigin]
        simp [applied, applied?]

theorem Traced.run (calls : List Call) {doc : Contractor} (hdoc : Entries.find? s k = some doc)
    (hnone : doc.consent = none) :
    Traced k ((Texting.step L).log s calls) ((Texting.step L).run s calls) :=
  (Texting.step L).log_inv (G := fun _ => True) (I := fun log s => Traced k log s)
    ⟨doc, hdoc, by simp [hnone]⟩ (fun _ _ call h _ => h.step call) calls fun _ _ => trivial

theorem Provenance.nothing_applied (h : Provenance k log n consent c accepted later c₀ since)
    (hn : n = consent.optOutRevision) :
    n = c.expectedRevision ∧ applied k later = [] ∧ applied k since = [] := by
  have hrev := (h.origin.facts h.facts).revision
  have hlast := h.atLast
  have horigin := h.atOrigin
  have hagree := h.agree
  exact ⟨by omega, List.length_eq_zero_iff.mp (by omega), List.length_eq_zero_iff.mp (by omega)⟩

end Provenances

/-! ## Readiness -/

/-- A consent accepted by the last collection, at the revision of now, and promoted since
under the account and the service of now. -/
structure Live (k : Str) (log : List LogEvent) (revision : Value) (S : Settings)
    (consent : Consent) (c : Collect) (accepted : Consent) (later : List LogEvent) (c₀ : Collect)
    (since : List LogEvent) : Prop where
  last : LastCollect k log c accepted later
  origin : Origin k log c₀ accepted since
  revision : revision = .int c.expectedRevision
  agree : c₀.expectedRevision = c.expectedRevision
  /-- No STOP or START after the collection, nor after the one that took down its facts. -/
  standing : applied k later = [] ∧ applied k since = []
  promoted : ∃ b ∈ later, ∃ v, promoted? k b.call b.resp = some v ∧ v.acceptedConsent = accepted ∧
    v.accountSid = S.twilioAccountSid ∧ v.messagingServiceSid = S.canadaMessagingServiceSid ∧
    consent = v.promoted

structure ExpressConsent (L : Libraries ν) (s : Store) (k : Str) (calls : List Call) : Prop where
  ready : ∀ doc S now, Entries.find? ((step L).run s calls) k = some doc →
    canadianAssignmentValid L doc.profile true = true →
    canadaDeliveryReady L S now k doc.profile doc.consent = true →
    ∃ consent c accepted later c₀ since, doc.consent = some consent ∧
      Live k ((step L).log s calls) (doc.profile.get "owner_sms_opt_out_revision") S consent c
        accepted later c₀ since
  /-- A promotion that changes anything holds what the last collection accepted, and nothing
  was applied since the facts of that. -/
  stale : ∀ l₁ e l₂ v, (step L).log s calls = l₁ ++ e :: l₂ → e.call = .verify v →
    v.contractorId = k → e.post ≠ e.pre →
    ∃ c later c₀ since, LastCollect k l₁ c v.acceptedConsent later ∧
      Origin k l₁ c₀ v.acceptedConsent since ∧ applied k later = [] ∧ applied k since = []
  /-- Neither a collection nor a promotion changes the opt-out flag or the revision. -/
  frame : ∀ e ∈ (step L).log s calls, (∃ c, e.call = .collect c) ∨ (∃ v, e.call = .verify v) →
    field e.post k "owner_sms_opt_out_revision" = field e.pre k "owner_sms_opt_out_revision" ∧
      field e.post k "owner_sms_opted_out" = field e.pre k "owner_sms_opted_out"

theorem stored_of_resolved {v : Value} (h : (revision? v).isSome = true) :
    v = .int ((revision? v).getD 0) := by
  unfold revision? at h ⊢
  split at h
  · split at h
    · rename_i hn
      rw [if_pos hn]
      rfl
    · cases h
  · cases h

theorem CanadaDeliveryReady.spec {S : Settings} {now : DateTime} {k : Str} {data : Dict}
    {stored : Option Consent} (h : canadaDeliveryReady L S now k data stored = true) :
    ∃ consent v, stored = some consent ∧
      resolveOwnerSmsOptOutRevision data = consent.optOutRevision ∧
      consent.deliveryState = py "verified" ∧ consent.verification = some v ∧
      v.accountSid = S.twilioAccountSid ∧
      v.messagingServiceSid = S.canadaMessagingServiceSid := by
  unfold canadaDeliveryReady validCanadaDeliveryBinding at h
  split at h
  · rename_i consent
    simp only [Bool.and_eq_true, beq_iff_eq] at h
    obtain ⟨⟨⟨-, hvalid⟩, hstate⟩, h⟩ := h
    split at h
    · rename_i v hv
      simp only [Bool.and_eq_true, beq_iff_eq] at h
      exact ⟨consent, v, rfl, ValidCanadaConsent.revision hvalid, hstate, hv, h.1.1.1.1,
        h.1.1.1.2⟩
    · cases h
  · cases h

theorem Traced.ready {k : Str} {log : List LogEvent} {s : Store} (h : Traced k log s)
    {doc : Contractor} {S : Settings} {now : DateTime} (hdoc : Entries.find? s k = some doc)
    (hassigned : canadianAssignmentValid L doc.profile true = true)
    (hready : canadaDeliveryReady L S now k doc.profile doc.consent = true) :
    ∃ consent c accepted later c₀ since, doc.consent = some consent ∧
      Live k log (doc.profile.get "owner_sms_opt_out_revision") S consent c accepted later c₀
        since := by
  obtain ⟨doc', hdoc', hheld⟩ := h
  obtain rfl : doc' = doc := Option.some.inj (hdoc'.symm.trans hdoc)
  obtain ⟨consent, v, hstored, hrev, hstate, hverification, haccount, hservice⟩ :=
    CanadaDeliveryReady.spec hready
  obtain ⟨c, accepted, later, c₀, since, hp⟩ := hheld consent hstored
  obtain ⟨hn, hlater, hsince⟩ := hp.nothing_applied hrev
  refine ⟨consent, c, accepted, later, c₀, since, hstored, hp.last, hp.origin, ?_, hp.agree,
    ⟨hlater, hsince⟩, ?_⟩
  · rw [stored_of_resolved (CanadianAssignmentValid.revision hassigned)]
    exact congrArg Value.int hn
  · rcases hp.stored with rfl | ⟨b, hb, w, hw, haccepted, rfl⟩
    · rw [hp.pending] at hstate
      exact absurd hstate (by simp)
    · cases hverification
      exact ⟨b, hb, w, hw, haccepted, haccount, hservice, rfl⟩

theorem Traced.stale {k : Str} {log : List LogEvent} {s : Store} (h : Traced k log s) {v : Verify}
    (hmine : v.contractorId = k) (hne : (verifyCanadaOwnerSmsDelivery L s v).1 ≠ s) :
    ∃ c later c₀ since, LastCollect k log c v.acceptedConsent later ∧
      Origin k log c₀ v.acceptedConsent since ∧ applied k later = [] ∧ applied k since = [] := by
  obtain ⟨doc, hdoc, hheld⟩ := h
  unfold verifyCanadaOwnerSmsDelivery at hne
  rw [hmine, hdoc] at hne
  simp only at hne
  split at hne
  · split at hne
    · exact absurd rfl hne
    · rename_i consent hconsent
      obtain ⟨hstored, hpending, hrev, -⟩ := promotedConsent_spec hconsent
      obtain ⟨c, accepted, later, c₀, since, hp⟩ := hheld _ hstored
      obtain ⟨-, hlater, hsince⟩ := hp.nothing_applied hrev
      rw [hp.eq_accepted hpending]
      exact ⟨c, later, c₀, since, hp.last, hp.origin, hlater, hsince⟩
  · exact absurd rfl hne

/-- **A Canadian owner is texted under live, verified express consent only**, over every order
of calls from a contractor without a consent, as accounts are created. -/
theorem express_consent (L : Libraries ν) (s : Store) (k : Str) (doc : Contractor)
    (hdoc : Entries.find? s k = some doc) (hnone : doc.consent = none) (calls : List Call) :
    ExpressConsent L s k calls := by
  refine ⟨fun doc' S now hdoc' => (Traced.run _ hdoc hnone).ready hdoc',
    fun l₁ e l₂ v hlog hv hmine hne => ?_, fun e he hcall => ?_⟩
  · obtain ⟨cs₁, call, cs₂, -, rfl, rfl, -⟩ := (step L).log_eq_append_cons hlog
    simp only [Machine.event_call] at hv
    subst hv
    exact (Traced.run _ hdoc hnone).stale hmine hne
  · obtain ⟨cs₁, call, cs₂, -, rfl⟩ := (step L).mem_log he
    obtain ⟨doc₁, h₁, -⟩ := Traced.run (L := L) cs₁ hdoc hnone
    obtain ⟨doc₂, h₂, hchange⟩ := step_change (L := L) h₁ call
    have hno : applied? k call (step L ((step L).run s cs₁) call).2 = none := by
      rcases hcall with ⟨c, hc⟩ | ⟨v, hv⟩
      · simp only [Machine.event_call] at hc
        subst hc
        rfl
      · simp only [Machine.event_call] at hv
        subst hv
        rfl
    simp only [field, Machine.event_pre, Machine.event_post, h₁, h₂, Option.map_some,
      Option.getD_some]
    exact ⟨hchange.kept hno (.inr rfl), hchange.kept hno (.inl rfl)⟩

def exampleNow : DateTime := ⟨63000000000000000, by decide, some 0⟩

def exampleSettings : Settings where
  canadaSmsEnabled := true
  environment := py "production"
  firestoreProjectId := productionGcpProjectId
  cloudRunUrl := productionCloudRunUrl
  twilioAccountSid := py "AC" ++ List.replicate 32 48
  productionTwilioAccountSid := py "AC" ++ List.replicate 32 48
  canadaMessagingServiceSid := py "MG" ++ List.replicate 32 48
  twilioMessagingServiceSid := []

def exampleCollect : Collect :=
  ⟨py "c1", disclosure, py "+14165551234", py "+16475551234", 0, exampleNow, exampleNow⟩

def exampleVerify : Verify where
  contractorId := py "c1"
  acceptedConsent :=
    ⟨py "c1", disclosure, py "+14165551234", py "+16475551234", py "ios_settings", exampleNow, 0,
      py "pending", none⟩
  accountSid := exampleSettings.twilioAccountSid
  messagingServiceSid := exampleSettings.canadaMessagingServiceSid
  settings := exampleSettings
  project := productionGcpProjectId
  checkedAt := exampleNow
  verifiedAt := exampleNow

/-- A consent that is collected and then promoted makes its contractor ready. -/
example :
    (Entries.find? ((step exampleLibraries).run [(py "c1", exampleContractor)]
      [.collect exampleCollect, .verify exampleVerify]) (py "c1")).any (fun doc =>
        canadianAssignmentValid exampleLibraries doc.profile true &&
          canadaDeliveryReady exampleLibraries exampleSettings exampleNow (py "c1") doc.profile
            doc.consent) = true := by
  decide

theorem express_consent_promoted :
    ExpressConsent exampleLibraries [(py "c1", exampleContractor)] (py "c1")
      [.collect exampleCollect, .verify exampleVerify] :=
  express_consent exampleLibraries _ _ exampleContractor rfl rfl _

end HeyKevin.L9.Texting
