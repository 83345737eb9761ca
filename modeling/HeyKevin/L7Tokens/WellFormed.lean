import HeyKevin.L7Tokens.Steps
/-!
# Which transactions keep the record readable

A record is well formed when its operation intent is not malformed and its
lifecycle triple parses. A reservation writes the eight fields of its claim and
leaves the bound operation id and the paired refresh fields as they are, so
taking over an expired reservation of another kind can leave fields that the
new kind may not have. A bare refresh claim has no canonical fields for a
transition to move, a persist writes two fields of a triple that may be absent,
and the lease of a transition is not checked against the time it was acquired.

* `Keeps`: the condition that rules these out, on the record before the call.
* `body_wellFormed_iff`: a committed call keeps the record well formed exactly
  when `Keeps` holds.
* `wellFormed_run_iff`: the same of all the records that a run passes through.
-/
namespace HeyKevin.L7.Tokens

open HeyKevin.Core Binary64 L1 L1.Text L1.Datetime

/-- The intent is not malformed. -/
def Parses (r : Record) : Prop := ∃ st, parseProviderOperationIntent r = .ok st

def WellFormed (r : Record) : Prop := Parses r ∧ LifecycleValid r

theorem parses_iff {r : Record} : Parses r ↔ ∃ st, Reads r st := by
  simp only [Parses, parse_eq_ok]

/-- The record stores a field that an intent of this kind may not have and a
reservation of it would not overwrite: the paired refresh fields under another
kind, a bound operation id under a kind other than business. -/
def Leftover (r : Record) (kind : Kind) : Prop :=
  (kind ≠ .refresh ∧ (r (.legacy .refreshClaimId)).isSome) ∨
    (kind ≠ .business ∧ (r .boundOperationId).isSome)

instance (r : Record) (kind : Kind) : Decidable (Leftover r kind) :=
  inferInstanceAs (Decidable (_ ∨ _))

theorem Vacant.not_leftover {r : Record} {kind : Kind} (h : Vacant r) : ¬ Leftover r kind := by
  rintro (⟨-, hs⟩ | ⟨-, hs⟩)
  · rw [Record.not_hasLegacy.mp h.noLegacy] at hs
    cases hs
  · rw [(Record.not_hasIntent.mp h.noIntent).2] at hs
    cases hs

/-! ## Reading a patched record -/

section
variable {key : ClaimKey → Field} {key? : Field → Option ClaimKey} {id fp : Str} {kind : Kind}
  {phase : Phase} {now exp : Double} {l : Lifecycle} {rest : Patch} {r : Record}

theorem claimAt_update (hkey : ∀ k, key? (key k) = some k) {kinds : List Kind}
    {phases : List Phase} {bound : Option Str} (hid : IsStoredId id) (hkind : kind ∈ kinds)
    (hphase : phase ∈ phases) (hnow : 0 < now.val) (hle : now.val ≤ exp.val)
    (hg : IsCounter l.generation) (he : IsCounter l.epoch) (hfp : IsDigest fp) :
    ClaimAt key kinds phases
      (r.update (claimPatch key? id kind phase now (.number (.float exp)) l fp rest))
      ⟨id, kind, phase, exp, now, l.generation, l.epoch, some fp, bound, false⟩ where
  id := Record.update_set (by simp [claimPatch, hkey])
  isStoredId := hid
  kind := Record.update_set (by simp [claimPatch, hkey])
  kind_mem := hkind
  phase := Record.update_set (by simp [claimPatch, hkey])
  phase_mem := hphase
  expiresAt := Record.update_set (by simp [claimPatch, hkey])
  acquiredAt := Record.update_set (by simp [claimPatch, hkey])
  acquiredAt_pos := hnow
  acquiredAt_le := hle
  generation := Record.update_set (by simp [claimPatch, hkey])
  isCounter_generation := hg
  lifecycleEpoch := Record.update_set (by simp [claimPatch, hkey])
  isCounter_lifecycleEpoch := he
  fingerprint := ⟨fp, rfl, hfp, Record.update_set (by simp [claimPatch, hkey])⟩

end

/-- A deleted claim leaves nothing behind. -/
theorem vacant_deleteClaims (r : Record) (rest : Patch) :
    Vacant (r.update (deleteClaims rest)) where
  unquarantined := ⟨Record.update_delete rfl, Record.update_delete rfl⟩
  noIntent := Record.not_hasIntent.mpr
    ⟨fun _ => Record.update_delete rfl, Record.update_delete rfl⟩
  noLegacy := Record.not_hasLegacy.mpr fun _ => Record.update_delete rfl
  noAttempt := Record.not_hasAttempt.mpr fun _ => Record.update_delete rfl

theorem lifecycleValid_congr {r s : Record} (hc : s .connected = r .connected)
    (hg : s .generation = r .generation) (he : s .lifecycleEpoch = r .lifecycleEpoch)
    (h : LifecycleValid r) : LifecycleValid s := by
  unfold LifecycleValid
  rw [parseDurableLifecycleCounters_congr hc hg he]
  exact h

/-- A triple that a patch writes whole is valid. -/
theorem lifecycleValid_of_triple {r : Record} {b : Bool} {g e : ℤ}
    (hc : r .connected = some (.bool b)) (hg : r .generation = some (.int g))
    (hgc : IsCounter g) (he : r .lifecycleEpoch = some (.int e)) (hec : IsCounter e) :
    LifecycleValid r :=
  ⟨⟨g, e, true⟩, parseDurableLifecycleCounters_eq_ok.mpr (.inr ⟨rfl, ⟨b, hc⟩, hg, hgc, he, hec⟩)⟩

/-! ## Reservations -/

/-- A record after a reservation of a canonical intent in a free record. -/
structure Reserved (r s : Record) (kind : Kind) (bound : Option Str) (c : Claim) : Prop where
  claim : ∀ b, ClaimAt .intent [.business, .refresh, .connect, .reconnect]
    [.reserved, .providerRequestStarted, .providerOutcomeUncertain] s
    { c with boundOperationId := b }
  kind_eq : c.kind = kind
  phase : c.phase = .reserved
  isLegacy : c.isLegacy = false
  unquarantined : Unquarantined s
  noAttempt : ¬ s.HasAttempt
  boundMine : ∀ b ∈ bound, kind = .business ∧ IsDigest b ∧ s .boundOperationId = some (.str b)
  boundKept : bound = none → s .boundOperationId = r .boundOperationId
  aliases : kind = .refresh → Aliases s { c with boundOperationId := none } ∧
    ∀ k : LegacyKey, k.isClaim = false → s (.legacy k) = r (.legacy k)
  legacyKept : kind ≠ .refresh → ∀ k, s (.legacy k) = r (.legacy k)

/-- In a free record the only legacy keys are those of a refresh claim, and they
come all four. -/
theorem Free.legacy {r : Record} {now : Double} (h : Free r now) (k : LegacyKey)
    (hk : (r (.legacy k)).isSome) : k.isClaim = true ∧ (r (.legacy .refreshClaimId)).isSome := by
  rcases h with h | ⟨c, h, -, -⟩
  · rw [Record.not_hasLegacy.mp (vacant_of_parse h).noLegacy] at hk
    cases hk
  · have hh := held_of_parse h
    refine ⟨hh.legacy k hk, ?_⟩
    rcases hh.claim with hc | hc
    · rcases hc.aliases with hn | ha
      · exact absurd ⟨k, hk⟩ hn
      · rw [ha.id]; rfl
    · rw [hc.id]; rfl

/-- A bound id in a free record is a digest. -/
theorem Free.bound {r : Record} {now : Double} (h : Free r now) :
    r .boundOperationId = none ∨ ∃ b, r .boundOperationId = some (.str b) ∧ IsDigest b := by
  rcases h with h | ⟨c, h, -, -⟩
  · exact .inl (Record.not_hasIntent.mp (vacant_of_parse h).noIntent).2
  · rcases (held_of_parse h).claim with hc | hc
    · rcases hc.bound.stored with ⟨h, -⟩ | ⟨b, h, hd, -⟩
      · exact .inl h
      · exact .inr ⟨b, h, hd⟩
    · exact .inl (Record.not_hasIntent.mp hc.noIntent).2

theorem reserved_parses_iff {r s : Record} {now : Double} {kind : Kind} {bound : Option Str}
    {c : Claim} (hf : Free r now) (h : Reserved r s kind bound c) :
    Parses s ↔ ¬ Leftover r kind := by
  rw [parses_iff]
  constructor
  · rintro ⟨st, hst⟩ hl
    have hi : s.HasIntent := .inl ⟨.id, (h.claim none).isSome .id⟩
    cases hst with
    | absent hv => exact hv.noIntent hi
    | quarantined hq _ => exact hq.noIntent hi
    | reauthorizing _ hq => exact hq.quarantine.noIntent hi
    | valid d hd =>
      rcases hd.claim with hc | hc
      swap
      · exact hc.noIntent hi
      have hkind : d.kind = kind := by
        have h1 := (h.claim none).kind
        rw [hc.claim.kind] at h1
        rw [← h.kind_eq]
        exact Kind.text_injective (by simpa [Value.text] using h1)
      rcases hl with ⟨hk, hs⟩ | ⟨hk, hs⟩
      · rw [← h.legacyKept hk] at hs
        rcases hc.aliases with hn | ha
        · exact hn ⟨_, hs⟩
        · exact hk (hkind ▸ ha.kind)
      · cases hb : bound with
        | some b => exact hk (h.boundMine b hb).1
        | none =>
          rw [← h.boundKept hb] at hs
          rcases hc.bound.stored with ⟨hn, -⟩ | ⟨_, _, _, hbus, _⟩
          · rw [hn] at hs
            cases hs
          · exact hk (hkind ▸ hbus)
  · intro hl
    simp only [Leftover, not_or, not_and, Option.not_isSome_iff_eq_none] at hl
    obtain ⟨hl1, hl2⟩ := hl
    -- the bound id that stands in the record afterwards
    obtain ⟨b, hb, hbn⟩ : ∃ b, BoundAt s kind b ∧ (kind ≠ .business → b = none) := by
      cases hbd : bound with
      | some b =>
        obtain ⟨hk, hd, hs⟩ := h.boundMine b hbd
        exact ⟨some b, .present b hs hd hk, fun hn => absurd hk hn⟩
      | none =>
        have hs := h.boundKept hbd
        rcases hf.bound with hn | ⟨b, hb, hd⟩
        · exact ⟨none, .absent (hs.trans hn), fun _ => rfl⟩
        · have hk : kind = .business := by
            by_contra hk
            rw [hl2 hk] at hb
            cases hb
          exact ⟨some b, .present b (hs.trans hb) hd hk, fun hn => absurd hk hn⟩
    refine ⟨_, .valid { c with boundOperationId := b } ⟨h.unquarantined, h.noAttempt, ?_,
      .inl ⟨h.claim b, h.kind_eq ▸ hb, ?_, ?_, h.isLegacy⟩⟩⟩
    · intro k hk
      by_cases hr : kind = .refresh
      · by_contra hc
        rw [(h.aliases hr).2 k (by simpa using hc)] at hk
        exact hc (hf.legacy k hk).1
      · rw [h.legacyKept hr] at hk
        exact (hf.legacy k hk).1
    · intro hu
      rw [h.phase] at hu
      cases hu
    · by_cases hr : kind = .refresh
      · obtain rfl := hbn (by rw [hr]; decide)
        exact .inr (h.aliases hr).1
      · refine .inl (Record.not_hasLegacy.mpr fun k => ?_)
        rw [h.legacyKept hr]
        by_contra hk
        have := (hf.legacy k (Option.isSome_iff_ne_none.mpr hk)).2
        rw [hl1 hr] at this
        cases this

theorem Free.clear {r : Record} {now : Double} (h : Free r now) :
    Unquarantined r ∧ ¬ r.HasAttempt := by
  rcases h with h | ⟨c, h, -, -⟩
  · exact ⟨(vacant_of_parse h).unquarantined, (vacant_of_parse h).noAttempt⟩
  · exact ⟨(held_of_parse h).unquarantined, (held_of_parse h).noAttempt⟩

/-- The claim that a reservation stores. -/
def reservedClaim (id : Str) (kind : Kind) (now exp : Double) (l : Lifecycle) (fp : Str) : Claim :=
  ⟨id, kind, .reserved, exp, now, l.generation, l.epoch, some fp, none, false⟩

theorem acquire_reserved {a : Acquire} {r : Record} {n : Number} {now : Double} {l : Lifecycle}
    {fp : Str} (lease : 1 ≤ n.toFloat.val) (time : 0 < now.val)
    (lifecycle : parseDurableLifecycleCounters r = .ok l) (fingerprint : r.fingerprint = .ok fp)
    (free : Free r now)
    (bound : ∀ b ∈ a.boundOperationId, a.kind = .business ∧ IsDigest b) :
    Reserved r (r.update (acquirePatch a now (Seconds.after now (.number n)) l fp)) a.kind
      a.boundOperationId (reservedClaim a.claimId.text a.kind now
        (.ofRat (now.val + n.toFloat.val)) l fp) where
  claim b := claimAt_update (fun k => rfl) a.claimId.isStoredId (by cases hk : a.kind <;> simp)
    (by simp) time (le_after time (by linarith)) (lifecycle_bounds lifecycle).1
    (lifecycle_bounds lifecycle).2 (isDigest_fingerprint fingerprint)
  kind_eq := rfl
  phase := rfl
  isLegacy := rfl
  unquarantined := ⟨(Record.update_keep rfl).trans free.clear.1.outcome,
    (Record.update_keep rfl).trans free.clear.1.reauth⟩
  noAttempt := Record.not_hasAttempt.mpr fun k =>
    (Record.update_keep rfl).trans (Record.not_hasAttempt.mp free.clear.2 k)
  boundMine b hb := by
    obtain ⟨hk, hd⟩ := bound b hb
    refine ⟨hk, hd, Record.update_set ?_⟩
    rw [Option.mem_def] at hb
    simp [acquirePatch, claimPatch, intentKey?, hb]
  boundKept hb := Record.update_keep (by simp [acquirePatch, claimPatch, intentKey?, hb])
  aliases hk := by
    refine ⟨⟨rfl, by simp [reservedClaim], hk, ?_, ?_, ?_, ?_, ?_,
      (lifecycle_bounds lifecycle).1⟩, ?_⟩
    · exact Record.update_set (by simp [acquirePatch, claimPatch, intentKey?, hk, reservedClaim])
    · exact Record.update_set (by simp [acquirePatch, claimPatch, intentKey?, hk, reservedClaim])
    · exact Record.update_set (by
        simp [acquirePatch, claimPatch, intentKey?, hk, reservedClaim, Seconds.after])
    · exact time.trans_le (le_after time (by linarith))
    · exact Record.update_set (by simp [acquirePatch, claimPatch, intentKey?, hk, reservedClaim])
    · intro k hc
      refine Record.update_keep ?_
      cases k <;> first | exact absurd hc (by decide) | simp [acquirePatch, claimPatch, intentKey?, hk]
  legacyKept hk k := Record.update_keep (by simp [acquirePatch, claimPatch, intentKey?, hk])

theorem leaseDuration_nonneg : 0 ≤ leaseDurationSeconds.toFloat.val := by
  rw [leaseDurationSeconds, Number.toFloat, Double.ofRat_val]
  exact rnd_nonneg (Int.cast_nonneg (by decide))

theorem consume_reserved {id : HexToken} {r : Record} {now : Double} {l : Lifecycle} {fp : Str}
    (time : 0 < now.val) (lifecycle : parseDurableLifecycleCounters r = .ok l)
    (fingerprint : r.fingerprint = .ok fp) (free : Free r now) :
    Reserved r (r.update (consumePatch id.text now l fp .reserveIntent)) .connect none
      (reservedClaim id.text .connect now
        (.ofRat (now.val + leaseDurationSeconds.toFloat.val)) l fp) where
  claim b := claimAt_update (fun k => rfl) id.isStoredId (by simp)
    (by simp) time (le_after time leaseDuration_nonneg) (lifecycle_bounds lifecycle).1
    (lifecycle_bounds lifecycle).2 (isDigest_fingerprint fingerprint)
  kind_eq := rfl
  phase := rfl
  isLegacy := rfl
  unquarantined := ⟨(Record.update_keep rfl).trans free.clear.1.outcome,
    (Record.update_keep rfl).trans free.clear.1.reauth⟩
  noAttempt := Record.not_hasAttempt.mpr fun k => Record.update_delete rfl
  boundMine b hb := by cases hb
  boundKept _ := Record.update_keep rfl
  aliases hk := by cases hk
  legacyKept _ k := Record.update_keep rfl

/-! ## The other transactions -/

theorem quarantinePatch_parse {r : Record} {now : Double} {c : Claim} (h : Stranded r now c) :
    parseProviderOperationIntent (r.update quarantinePatch) = .ok .quarantined := by
  refine parse_eq_ok.mpr (.quarantined ⟨Record.update_set rfl, Record.update_set rfl, ?_, ?_⟩ ?_)
  · exact Record.not_hasIntent.mpr ⟨fun _ => Record.update_delete rfl, Record.update_delete rfl⟩
  · exact Record.not_hasLegacy.mpr fun _ => Record.update_delete rfl
  · exact Record.not_hasAttempt.mpr fun k => (Record.update_keep rfl).trans
      (Record.not_hasAttempt.mp (held_of_parse h.1).noAttempt k)

theorem consumePatch_quarantine_parse (r : Record) (id fp : Str) (now : Double) (l : Lifecycle) :
    parseProviderOperationIntent (r.update (consumePatch id now l fp .quarantine)) =
      .ok .quarantined := by
  refine parse_eq_ok.mpr (.quarantined ⟨Record.update_set rfl, Record.update_set rfl, ?_, ?_⟩ ?_)
  · exact Record.not_hasIntent.mpr ⟨fun _ => Record.update_delete rfl, Record.update_delete rfl⟩
  · exact Record.not_hasLegacy.mpr fun _ => Record.update_delete rfl
  · exact Record.not_hasAttempt.mpr fun _ => Record.update_delete rfl

theorem consumePatch_reauthorizing (id : HexToken) {r : Record} {now : Double} {l : Lifecycle}
    {fp : Str} (time : 0 < now.val) (lifecycle : parseDurableLifecycleCounters r = .ok l)
    (fingerprint : r.fingerprint = .ok fp) :
    Reauthorizing (r.update (consumePatch id.text now l fp .reserveAttempt))
      (reservedClaim id.text .reconnect now
        (.ofRat (now.val + leaseDurationSeconds.toFloat.val)) l fp) where
  quarantine := ⟨Record.update_set rfl, Record.update_set rfl, Record.not_hasIntent.mpr
    ⟨fun _ => Record.update_delete rfl, Record.update_delete rfl⟩,
    Record.not_hasLegacy.mpr fun _ => Record.update_delete rfl⟩
  attempt := claimAt_update (fun k => rfl) id.isStoredId (by simp) (by simp) time
    (le_after time leaseDuration_nonneg) (lifecycle_bounds lifecycle).1
    (lifecycle_bounds lifecycle).2 (isDigest_fingerprint fingerprint)
  unbound := rfl
  isLegacy := rfl

/-- What an acquire that commits leaves is well formed unless the reservation
took over a leftover. -/
theorem acquire_wellFormed_iff {a : Acquire} {r : Record} {x : Record × Bool}
    (hr : LifecycleValid r) (h : acquire a r = .ok x) :
    WellFormed x.1 ↔ ∀ c, parseProviderOperationIntent r = .ok (.valid c) →
      c.phase = .reserved → ¬ Leftover r a.kind := by
  cases acquire_spec h with
  | quarantined now c time str =>
    refine iff_of_true ⟨⟨_, quarantinePatch_parse str⟩, lifecycleValid_congr rfl rfl rfl hr⟩ ?_
    intro d hd hp
    have hst := str.2.1
    rw [str.1] at hd
    cases hd
    rw [hst] at hp
    cases hp
  | reserved n now l fp lease time lifecycle fingerprint free kind bound =>
    have hp := reserved_parses_iff free
      (acquire_reserved lease (serverTime_pos time) lifecycle fingerprint free bound)
    have hv : LifecycleValid (r.update (acquirePatch a now (Seconds.after now (.number n)) l fp)) :=
      lifecycleValid_congr rfl rfl rfl hr
    unfold WellFormed
    rw [hp]
    constructor
    · intro hw c _ _
      exact hw.1
    · intro hc
      refine ⟨?_, hv⟩
      rcases free with hab | ⟨c, hc', hph, -⟩
      · exact (vacant_of_parse hab).not_leftover
      · exact hc c hc' hph

/-- The lease of a transition is finite and ends no earlier than the claim was
acquired. -/
def EndsAfter (t : Transition) (acquiredAt : Double) : Prop :=
  ∃ now n, serverTime t.readTime = .ok now ∧ t.leaseDuration = .number n ∧
    acquiredAt.val ≤ (Double.ofRat (now.val + n.toFloat.val)).val

theorem transition_wellFormed_iff {t : Transition} {r s : Record} (hr : LifecycleValid r)
    (h : transition t r = .ok s) :
    WellFormed s ↔ (r (.intent .id)).isSome ∧
      ∀ c, parseProviderOperationIntent r = .ok (.valid c) → EndsAfter t c.acquiredAt := by
  obtain ⟨now, l, c, fp, hnow, hc, -, hph, -, rfl⟩ := transition_spec h
  have hh := held_of_parse hc
  have hv : LifecycleValid (r.update (startedPatch r (t.leaseDuration.after now))) :=
    lifecycleValid_congr rfl rfl rfl hr
  set s := r.update (startedPatch r (t.leaseDuration.after now)) with hs
  have keep : ∀ f, startedPatch r (t.leaseDuration.after now) f = .keep → s f = r f :=
    fun f hf => Record.update_keep hf
  have hexp : s (.intent .expiresAt) = some (t.leaseDuration.after now) := Record.update_set rfl
  have hphase : s (.intent .phase) = some (.text Phase.providerRequestStarted.text) :=
    Record.update_set rfl
  unfold WellFormed
  rw [parses_iff]
  constructor
  · rintro ⟨⟨st, hst⟩, -⟩
    have hi : s.HasIntent := .inl ⟨.phase, by rw [hphase]; rfl⟩
    cases hst with
    | absent hv => exact absurd hi hv.noIntent
    | quarantined hq _ => exact absurd hi hq.noIntent
    | reauthorizing _ hq => exact absurd hi hq.quarantine.noIntent
    | valid d hd =>
      rcases hd.claim with hcan | hbare
      swap
      · exact absurd hi hbare.noIntent
      refine ⟨?_, fun e he => ?_⟩
      · have := hcan.claim.id
        rw [keep _ rfl] at this
        rw [this]; rfl
      · rw [hc] at he
        cases he
        -- the claim of the record is the canonical one, so its acquisition time is kept
        have hcr : Canonical r c := by
          rcases hh.claim with hcr | hbr
          · exact hcr
          · have := hcan.claim.id
            rw [keep _ rfl, (Record.not_hasIntent.mp hbr.noIntent).1] at this
            cases this
        have hacq : d.acquiredAt = c.acquiredAt := by
          have := hcan.claim.acquiredAt
          rw [keep _ rfl, hcr.claim.acquiredAt] at this
          simpa using this.symm
        have he := hcan.claim.expiresAt
        rw [hexp] at he
        cases hlease : t.leaseDuration with
        | nonFinite f =>
          rw [hlease] at he
          simp [Seconds.after] at he
        | number n =>
          rw [hlease] at he
          simp only [Seconds.after, Option.some.injEq, Value.number.injEq, Number.float.injEq] at he
          refine ⟨now, n, hnow, hlease, ?_⟩
          rw [he, ← hacq]
          exact hcan.claim.acquiredAt_le
  · rintro ⟨hid, hends⟩
    obtain ⟨now', n, hnow', hlease, hle⟩ := hends c hc
    rw [hnow] at hnow'
    cases hnow'
    have hcr : Canonical r c := by
      rcases hh.claim with hcr | hbr
      · exact hcr
      · rw [(Record.not_hasIntent.mp hbr.noIntent).1] at hid
        cases hid
    rw [hlease] at hexp
    refine ⟨⟨_, .valid { c with
        phase := .providerRequestStarted, expiresAt := .ofRat (now.val + n.toFloat.val) }
      ⟨⟨(keep _ rfl).trans hh.unquarantined.outcome, (keep _ rfl).trans hh.unquarantined.reauth⟩,
        ?_, ?_, .inl ⟨?_, ?_, ?_, ?_, hcr.isLegacy⟩⟩⟩, hv⟩
    · exact Record.not_hasAttempt.mpr fun k => (keep _ rfl).trans
        (Record.not_hasAttempt.mp hh.noAttempt k)
    · intro k hk
      by_cases hc : k.isClaim = true
      · exact hc
      · refine hh.legacy k ?_
        rwa [← keep (.legacy k) (by cases k <;> first | rfl | exact absurd rfl hc)]
    · obtain ⟨fp, hf, hd, hs⟩ := hcr.claim.fingerprint
      exact ⟨(keep _ rfl).trans hcr.claim.id, hcr.claim.isStoredId,
        (keep _ rfl).trans hcr.claim.kind, hcr.claim.kind_mem, hphase, by simp, hexp,
        (keep _ rfl).trans hcr.claim.acquiredAt, hcr.claim.acquiredAt_pos, hle,
        (keep _ rfl).trans hcr.claim.generation, hcr.claim.isCounter_generation,
        (keep _ rfl).trans hcr.claim.lifecycleEpoch, hcr.claim.isCounter_lifecycleEpoch,
        ⟨fp, hf, hd, (keep _ rfl).trans hs⟩⟩
    · rcases hcr.bound.stored with ⟨hn, hb⟩ | ⟨b, hn, hd, hk, hb⟩
      · rw [hb]
        exact .absent ((keep _ rfl).trans hn)
      · rw [hb]
        exact .present b ((keep _ rfl).trans hn) hd hk
    · intro hu
      cases hu
    · rcases hcr.aliases with hn | ha
      · have hid := Record.not_hasLegacy.mp hn .refreshClaimId
        refine .inl (Record.not_hasLegacy.mpr fun k => ?_)
        rw [keep (.legacy k) (by cases k <;> simp [startedPatch, hid])]
        exact Record.not_hasLegacy.mp hn k
      · have hid : (r (.legacy .refreshClaimId)).isSome := by rw [ha.id]; rfl
        refine .inr ⟨ha.unbound, by simp, ha.kind, (keep _ rfl).trans ha.id, ?_, ?_,
          hcr.claim.acquiredAt_pos.trans_le hle, (keep _ rfl).trans ha.generation,
          ha.isCounter_generation⟩
        · exact Record.update_set (by simp [startedPatch, hid])
        · exact Record.update_set (by simp [startedPatch, hid, hlease, Seconds.after])

theorem vacant_parses {r : Record} (h : Vacant r) : Parses r :=
  parses_iff.mpr ⟨_, .absent h⟩

theorem persist_wellFormed_iff {p : Persist} {r s : Record} (hr : LifecycleValid r)
    (h : persist p r = .ok s) : WellFormed s ↔ (r .lifecycleEpoch).isSome := by
  obtain ⟨now, l, c, fp, format, access, refresh, expiry, -, -, -, -, -, -, hg, hc, -, rfl⟩ :=
    persist_spec h
  rw [hg] at hc
  set s := r.update (persistPatch p r now format access refresh expiry)
  have hconn : s .connected = some (.bool true) := Record.update_set rfl
  have hgen : s .generation = some (.int (p.observedGeneration + 1)) := Record.update_set rfl
  have hepoch : s .lifecycleEpoch = r .lifecycleEpoch := Record.update_keep rfl
  have hvac : Vacant s := vacant_deleteClaims r _
  constructor
  · rintro ⟨-, m, hm⟩
    rcases parseDurableLifecycleCounters_eq_ok.mp hm with hn | ht
    · rw [hn.connected] at hconn
      cases hconn
    · rw [← hepoch, ht.epoch]; rfl
  · intro hs
    obtain ⟨m, hm⟩ := hr
    rcases parseDurableLifecycleCounters_eq_ok.mp hm with hn | ht
    · rw [hn.epoch] at hs
      cases hs
    · exact ⟨vacant_parses hvac, lifecycleValid_of_triple hconn hgen hc (hepoch.trans ht.epoch)
        ht.isCounter_epoch⟩

theorem connect_wellFormed {contractorId : Str} {c : Connect} {r : Record}
    {audits : Str → Option Dict} {s : Record} {auditId : Str} {audit : Dict}
    (h : connect contractorId c r audits = .ok (s, auditId, audit)) : WellFormed s := by
  obtain ⟨now, l, st, format, access, refresh, expiry, -, -, -, -, hg, he, -, -, rfl⟩ :=
    connect_spec h
  exact ⟨vacant_parses (vacant_deleteClaims r _), lifecycleValid_of_triple (Record.update_set rfl)
    (Record.update_set rfl) hg (Record.update_set rfl) he⟩

theorem disconnect_wellFormed {contractorId : Str} {d : Disconnect} {s : Store}
    {x : Store × DisconnectResult} (hs : WellFormed s.record)
    (h : disconnect contractorId d s = .ok x) : WellFormed x.1.record := by
  obtain ⟨t, res⟩ := x
  have hspec := (disconnect_spec h).2
  generalize hr : t.record = r at hspec
  cases hspec with
  | already ht => exact hr ▸ hs
  | tombstoned now l time lifecycle generation epoch fresh =>
    exact ⟨vacant_parses (vacant_deleteClaims _ _), lifecycleValid_of_triple
      (Record.update_set rfl) (Record.update_set rfl) generation (Record.update_set rfl) epoch⟩

/-- What an accepted consumption leaves. -/
theorem consumePatch_wellFormed_iff (id : HexToken) {r : Record} {now : Double} {l : Lifecycle}
    {fp : Str} {e : ConsumeEffect} (time : 0 < now.val)
    (lifecycle : parseDurableLifecycleCounters r = .ok l) (fingerprint : r.fingerprint = .ok fp)
    (spec : ConsumeSpec r now e) :
    WellFormed (r.update (consumePatch id.text now l fp e)) ↔
      ∀ d, parseProviderOperationIntent r = .ok (.valid d) → d.phase = .reserved →
        ¬ Leftover r .connect := by
  have hv : LifecycleValid (r.update (consumePatch id.text now l fp e)) := by
    cases e <;> exact lifecycleValid_congr rfl rfl rfl ⟨l, lifecycle⟩
  cases spec with
  | quarantine c str =>
    refine iff_of_true ⟨⟨_, consumePatch_quarantine_parse r id.text fp now l⟩, hv⟩ ?_
    intro d hd hp
    rw [str.1] at hd
    cases hd
    rw [str.2.1] at hp
    cases hp
  | reserveAttempt st hst hq idle =>
    refine iff_of_true ⟨parses_iff.mpr
      ⟨_, .reauthorizing _ (consumePatch_reauthorizing id time lifecycle fingerprint)⟩, hv⟩ ?_
    intro d hd hp
    have hn := (held_of_parse hd).unquarantined.reauth
    rw [hq.reauth] at hn
    cases hn
  | reserveIntent free =>
    unfold WellFormed
    rw [reserved_parses_iff free (consume_reserved time lifecycle fingerprint free)]
    constructor
    · intro hw d _ _
      exact hw.1
    · intro hc
      refine ⟨?_, hv⟩
      rcases free with hab | ⟨d, hd, hph, -⟩
      · exact (vacant_of_parse hab).not_leftover
      · exact hc d hd hph

theorem consume_wellFormed_iff {contractorId : Str} {c : Consume} {r : Record}
    (hr : WellFormed r) :
    WellFormed (consume contractorId c r).1 ↔ ∀ d, parseProviderOperationIntent r = .ok (.valid d) →
      d.phase = .reserved → (∃ x, consumeDecision contractorId c r = .ok x) →
        ¬ Leftover r .connect := by
  unfold consume
  cases hd : consumeDecision contractorId c r with
  | error st =>
    refine iff_of_true hr ?_
    rintro d - - ⟨x, hx⟩
    cases hx
  | ok x =>
    obtain ⟨e, l, fp, now⟩ := x
    obtain ⟨time, lifecycle, fingerprint, hspec⟩ := consume_spec hd
    have h := consumePatch_wellFormed_iff c.claimId (serverTime_pos time) lifecycle
      fingerprint hspec
    simpa using h

/-! ## Calls and runs -/

/-- The condition on the record before a call under which what the call commits
is well formed. -/
def Keeps (contractorId : Str) (r : Record) : Call → Prop
  | .acquire a => ∀ c, parseProviderOperationIntent r = .ok (.valid c) → c.phase = .reserved →
      ¬ Leftover r a.kind
  | .consume c => ∀ d, parseProviderOperationIntent r = .ok (.valid d) → d.phase = .reserved →
      (∃ x, consumeDecision contractorId c r = .ok x) → ¬ Leftover r .connect
  | .transition t => (r (.intent .id)).isSome ∧
      ∀ c, parseProviderOperationIntent r = .ok (.valid c) → EndsAfter t c.acquiredAt
  | .persist _ => (r .lifecycleEpoch).isSome
  | .connect _ | .disconnect _ | .recordOutcome _ | .finalize _ => True

theorem recordOutcome_record {contractorId : Str} {c : RecordOutcome} {s s' : Store}
    (h : recordOutcome contractorId c s = .ok s') : s'.record = s.record := by
  simp only [recordOutcome, bind_eq_ok, ensure_eq_ok, exists_unit] at h
  obtain ⟨-, -, -, -, -, x, -, -, h⟩ := h
  split at h
  · cases h
    rfl
  · simp only [bind_eq_ok, ensure_eq_ok, exists_unit, pure_eq_ok, Except.ok.injEq] at h
    obtain ⟨-, now, -, rfl⟩ := h
    rfl

theorem finalize_record {contractorId : Str} {c : Finalize} {s s' : Store}
    (h : finalize contractorId c s = .ok s') : s'.record = s.record := by
  simp only [finalize, bind_eq_ok, ensure_eq_ok, exists_unit] at h
  obtain ⟨-, -, -, x, -, -, h⟩ := h
  split at h
  · cases h
    rfl
  · simp only [bind_eq_ok, pure_eq_ok, Except.ok.injEq] at h
    obtain ⟨now, -, rfl⟩ := h
    rfl

/-- A call that commits on a well-formed record leaves a well-formed one exactly
when its condition holds. -/
theorem body_wellFormed_iff {contractorId : Str} {s s' : Store} {call : Call} {res : Result}
    (hs : WellFormed s.record) (h : body contractorId s call = .ok (s', res)) :
    WellFormed s'.record ↔ Keeps contractorId s.record call := by
  cases call with
  | acquire a =>
    simp only [body, bind_eq_ok, pure_eq_ok, Except.ok.injEq] at h
    obtain ⟨⟨r, q⟩, hr, h⟩ := h
    cases h
    exact acquire_wellFormed_iff hs.2 hr
  | transition t =>
    simp only [body, bind_eq_ok, pure_eq_ok, Except.ok.injEq] at h
    obtain ⟨r, hr, h⟩ := h
    cases h
    exact transition_wellFormed_iff hs.2 hr
  | persist p =>
    simp only [body, bind_eq_ok, pure_eq_ok, Except.ok.injEq] at h
    obtain ⟨r, hr, h⟩ := h
    cases h
    exact persist_wellFormed_iff hs.2 hr
  | connect c =>
    simp only [body, bind_eq_ok, pure_eq_ok, Except.ok.injEq] at h
    obtain ⟨⟨r, i, d⟩, hr, h⟩ := h
    cases h
    exact iff_of_true (connect_wellFormed hr) trivial
  | consume c =>
    simp only [body, Except.ok.injEq] at h
    cases h
    exact consume_wellFormed_iff hs
  | disconnect d =>
    simp only [body, bind_eq_ok, pure_eq_ok, Except.ok.injEq] at h
    obtain ⟨⟨t, x⟩, ht, h⟩ := h
    cases h
    exact iff_of_true (disconnect_wellFormed hs ht) trivial
  | recordOutcome c =>
    simp only [body, bind_eq_ok, pure_eq_ok, Except.ok.injEq] at h
    obtain ⟨t, ht, h⟩ := h
    cases h
    exact iff_of_true (recordOutcome_record ht ▸ hs) trivial
  | finalize c =>
    simp only [body, bind_eq_ok, pure_eq_ok, Except.ok.injEq] at h
    obtain ⟨t, ht, h⟩ := h
    cases h
    exact iff_of_true (finalize_record ht ▸ hs) trivial

abbrev CallEvent := Event Store Call (Except Error Result)

/-- The call of the event did not raise. -/
def Commits (e : CallEvent) : Prop := ∃ res, e.resp = .ok res

theorem wellFormed_event_iff {contractorId : Str} {s : Store} {call : Call}
    (hs : WellFormed s.record) :
    WellFormed ((step contractorId).event s call).post.record ↔
      (Commits ((step contractorId).event s call) → Keeps contractorId s.record call) := by
  unfold Commits
  rw [Machine.event_post, Machine.event_resp]
  unfold step
  cases h : body contractorId s call with
  | error e =>
    refine iff_of_true hs ?_
    rintro ⟨res, hres⟩
    cases hres
  | ok x =>
    rw [body_wellFormed_iff hs h]
    exact ⟨fun hk _ => hk, fun hk => hk ⟨_, rfl⟩⟩

/-- Every record that a run from a well-formed one passes through is well formed
exactly when every call that commits meets its condition. -/
theorem wellFormed_run_iff (contractorId : Str) (s : Store) (hs : WellFormed s.record)
    (calls : List Call) :
    (∀ e ∈ (step contractorId).log s calls, WellFormed e.post.record) ↔
      ∀ e ∈ (step contractorId).log s calls, Commits e →
        Keeps contractorId e.pre.record e.call :=
  (step contractorId).log_post_iff (I := fun s => WellFormed s.record)
    (G := fun e => Commits e → Keeps contractorId e.pre.record e.call) hs
    (fun _ _ hs => wellFormed_event_iff hs) calls

/-! ## A worker that crashed after reserving a refresh -/

/-- `seconds` after the epoch, UTC. -/
def unixTime (seconds : ℕ) (h : unixEpoch.toNat + seconds * 1000000 < limit) : DateTime :=
  ⟨unixEpoch.toNat + seconds * 1000000, h, some 0⟩

def crashedClaim : Claim :=
  ⟨py "0123456789abcdef0123456789abcdef", .refresh, .reserved, .ofRat 160, .ofRat 100, 1, 1,
    some (digestPair (Json.quotedAscii (py "access")) (Json.quotedAscii (py "refresh"))), none,
    false⟩

/-- What an acquire of a refresh leaves on a connected record. -/
def crashedRecord : Record
  | .active | .connected => some (.bool true)
  | .generation | .lifecycleEpoch => some (.int 1)
  | .accessToken => some (.text "access")
  | .refreshToken => some (.text "refresh")
  | .intent .id | .legacy .refreshClaimId => some (.str crashedClaim.id)
  | .intent .kind => some crashedClaim.kind.value
  | .intent .phase | .legacy .refreshClaimPhase => some crashedClaim.phase.value
  | .intent .expiresAt | .legacy .refreshClaimExpiresAt =>
    some (.number (.float crashedClaim.expiresAt))
  | .intent .acquiredAt => some (.number (.float crashedClaim.acquiredAt))
  | .intent .generation | .intent .lifecycleEpoch | .legacy .refreshClaimGeneration =>
    some (.int 1)
  | .intent .credentialsFingerprint => crashedClaim.credentialsFingerprint.map .str
  | _ => none

def crashedStore : Store := ⟨crashedRecord, fun _ => none, fun _ => none⟩

/-- An acquire once the lease has run out. -/
def takeover (kind : Kind) : Acquire :=
  ⟨kind, none, none, none, .none, .none, .number (.int 60),
    ⟨py "fedcba9876543210fedcba9876543210", by decide, by decide⟩, unixTime 300 (by decide)⟩

theorem crashedRecord_parse : parseProviderOperationIntent crashedRecord =
    .ok (.valid crashedClaim) :=
  ok_of_toOption (by decide +kernel)

theorem crashedRecord_wellFormed : WellFormed crashedRecord :=
  ⟨⟨_, crashedRecord_parse⟩, exists_ok_of_toBool (by decide +kernel)⟩

/-- Another refresh overwrites every field that the crashed one left. -/
theorem wellFormed_run_refresh : WellFormed crashedStore.record ∧
    ∀ e ∈ (step (py "c1")).log crashedStore [.acquire (takeover .refresh)],
      WellFormed e.post.record := by
  refine ⟨crashedRecord_wellFormed,
    (wellFormed_run_iff (py "c1") crashedStore crashedRecord_wellFormed _).mpr ?_⟩
  intro e he _
  simp only [Machine.log_cons, Machine.log_nil, List.mem_singleton] at he
  subst he
  intro c _ _
  change ¬ Leftover crashedRecord .refresh
  decide

/-- A business operation that takes the lapsed reservation over keeps the paired
refresh fields, and the record is malformed from then on. -/
theorem business_takeover_malformed :
    WellFormed crashedStore.record ∧ ∃ s' res,
      body (py "c1") crashedStore (.acquire (takeover .business)) = .ok (s', res) ∧
        ¬ WellFormed s'.record := by
  refine ⟨crashedRecord_wellFormed, ?_⟩
  obtain ⟨⟨r, q⟩, hr⟩ : ∃ x, acquire (takeover .business) crashedRecord = .ok x :=
    exists_ok_of_toBool (by decide +kernel)
  have hbody : body (py "c1") crashedStore (.acquire (takeover .business)) =
      .ok ({ crashedStore with record := r }, if q then .quarantined else .reserved) := by
    simp only [body, crashedStore, hr, ok_bind, pure_eq_ok]
  refine ⟨_, _, hbody, ?_⟩
  change ¬ WellFormed r
  rw [acquire_wellFormed_iff (x := (r, q)) crashedRecord_wellFormed.2 hr]
  intro h
  exact h crashedClaim crashedRecord_parse rfl (by decide)

end HeyKevin.L7.Tokens
