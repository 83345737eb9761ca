import HeyKevin.L7Tokens.WellFormed
/-!
# Exclusive claims and fenced commits

Any number of workers run the token transactions on one record in any order.
What protects the credentials is the claim that the record stores: tokens are
replaced only under it, and only while it is started, live and still at the
counters and the credentials it was taken at.

* `Did`: what a committed call did to the record, in eight cases.
* `Fencing`: what a run guarantees.
* `fencing_run`: every run guarantees it, given that the server's clock does not
  go back and that no minted claim id repeats.
-/
namespace HeyKevin.L7.Tokens

open HeyKevin.Core Binary64 L1 L1.Text L1.Datetime

/-! ## Calls -/

def Call.readTime : Call → DateTime
  | .acquire a => a.readTime
  | .transition t => t.readTime
  | .persist p => p.readTime
  | .connect c => c.readTime
  | .consume c => c.readTime
  | .disconnect d => d.readTime
  | .recordOutcome c => c.readTime
  | .finalize c => c.readTime

def Call.At (call : Call) (now : Double) : Prop := serverTime call.readTime = .ok now

theorem Call.At.unique {call : Call} {s t : Double} (hs : call.At s) (ht : call.At t) : s = t := by
  unfold Call.At at hs ht
  rw [hs] at ht
  exact Except.ok.inj ht

def Call.claimId : Call → Option Str
  | .transition t => some t.claimId
  | .persist p => some p.claimId
  | .connect c => c.claimId
  | _ => none

def Call.mints : Call → Option Str
  | .acquire a => some a.claimId.text
  | .consume c => some c.claimId.text
  | _ => none

def Call.Replaces : Call → Prop
  | .persist _ | .connect _ => True
  | _ => False

/-- The call begins a new generation when it commits on `r`. -/
def Call.Advances (r : Record) : Call → Prop
  | .persist _ | .connect _ => True
  | .disconnect _ => ¬ IsDurableProviderTombstone r
  | _ => False

/-- The kinds of claim under which the call may replace the tokens. -/
def Call.Admits : Call → Kind → Prop
  | .persist _, kind => kind = .refresh
  | .connect _, kind => kind = .connect ∨ kind = .reconnect
  | _, _ => False

/-! ## Records -/

/-- The record holds `c`, as its operation intent or as the reauthorization
attempt of its quarantine. -/
def Holds (r : Record) (c : Claim) : Prop :=
  parseProviderOperationIntent r = .ok (.valid c) ∨
    parseProviderOperationIntent r = .ok (.quarantinedReauthorizing c)

theorem Holds.unique {r : Record} {c d : Claim} (hc : Holds r c) (hd : Holds r d) : c = d := by
  rcases hc with hc | hc <;> rcases hd with hd | hd <;> rw [hc] at hd <;> cases hd
  · rfl
  · rfl

theorem Vacant.not_holds {r : Record} {c : Claim} (h : Vacant r) : ¬ Holds r c := by
  have hp := parse_eq_ok.mpr (.absent h)
  rintro (hc | hc) <;> rw [hp] at hc <;> cases hc

/-- The quarantine is in force. -/
def Quarantined (r : Record) : Prop :=
  parseProviderOperationIntent r = .ok .quarantined ∨
    ∃ a, parseProviderOperationIntent r = .ok (.quarantinedReauthorizing a)

theorem quarantined_iff {r : Record} : Quarantined r ↔ Parses r ∧ Quarantine r := by
  constructor
  · rintro (h | ⟨a, h⟩)
    · exact ⟨⟨_, h⟩, (quarantine_of_parse h).1⟩
    · exact ⟨⟨_, h⟩, (reauthorizing_of_parse h).quarantine⟩
  · rintro ⟨⟨st, h⟩, hq⟩
    cases st with
    | absent =>
      have := (vacant_of_parse h).unquarantined.reauth
      rw [hq.reauth] at this
      cases this
    | valid c =>
      have := (held_of_parse h).unquarantined.reauth
      rw [hq.reauth] at this
      cases this
    | quarantined => exact .inl h
    | quarantinedReauthorizing a => exact .inr ⟨a, h⟩

def storedGeneration (r : Record) : ℤ :=
  match r .generation with
  | some (.number (.int z)) => z
  | _ => 0

theorem storedGeneration_of_parse {r : Record} {l : Lifecycle}
    (h : parseDurableLifecycleCounters r = .ok l) : storedGeneration r = l.generation := by
  unfold storedGeneration
  rcases parseDurableLifecycleCounters_eq_ok.mp h with h | h
  · rw [h.generation, h.eq]
  · rw [h.generation]
    rfl

theorem storedGeneration_of_eq {r : Record} {z : ℤ} (h : r .generation = some (.int z)) :
    storedGeneration r = z := by
  unfold storedGeneration
  rw [h]
  rfl

/-- The credentials and the lifecycle triple of `s` are those of `r`. -/
structure Kept (r s : Record) : Prop where
  accessToken : s .accessToken = r .accessToken
  refreshToken : s .refreshToken = r .refreshToken
  connected : s .connected = r .connected
  generation : s .generation = r .generation
  lifecycleEpoch : s .lifecycleEpoch = r .lifecycleEpoch

/-- Two readings of one claim, whatever its phase. -/
structure SameClaim (c d : Claim) : Prop where
  id : d.id = c.id
  kind : d.kind = c.kind
  generation : d.generation = c.generation
  lifecycleEpoch : d.lifecycleEpoch = c.lifecycleEpoch
  credentialsFingerprint : d.credentialsFingerprint = c.credentialsFingerprint

theorem SameClaim.refl (c : Claim) : SameClaim c c := ⟨rfl, rfl, rfl, rfl, rfl⟩

theorem SameClaim.trans {a b c : Claim} (h : SameClaim a b) (k : SameClaim b c) : SameClaim a c :=
  ⟨k.id.trans h.id, k.kind.trans h.kind, k.generation.trans h.generation,
    k.lifecycleEpoch.trans h.lifecycleEpoch,
    k.credentialsFingerprint.trans h.credentialsFingerprint⟩

theorem ClaimAt.sameClaim {key : ClaimKey → Field} {ks ks' : List Kind} {ps ps' : List Phase}
    {r s : Record} {c d : Claim} (hc : ClaimAt key ks ps r c) (hd : ClaimAt key ks' ps' s d)
    (hid : s (key .id) = r (key .id)) (hkind : s (key .kind) = r (key .kind))
    (hgen : s (key .generation) = r (key .generation))
    (hepoch : s (key .lifecycleEpoch) = r (key .lifecycleEpoch))
    (hfp : s (key .credentialsFingerprint) = r (key .credentialsFingerprint)) : SameClaim c d := by
  obtain ⟨f, hf, -, hfs⟩ := hc.fingerprint
  obtain ⟨g, hg, -, hgs⟩ := hd.fingerprint
  rw [hd.id, hc.id] at hid
  rw [hd.kind, hc.kind] at hkind
  rw [hd.generation, hc.generation] at hgen
  rw [hd.lifecycleEpoch, hc.lifecycleEpoch] at hepoch
  rw [hgs, hfs] at hfp
  refine ⟨by simpa using hid, ?_, ?_, ?_, ?_⟩
  · exact Kind.text_injective (by simpa [Value.text] using hkind)
  · simpa [Value.int] using hgen
  · simpa [Value.int] using hepoch
  · rw [hf, hg]
    simpa using hfp

/-! ## What a committed call did -/

/-- `c` was taken when the record `r` stood as the claim says. -/
structure TakenFrom (r : Record) (id : Str) (c : Claim) : Prop where
  id : c.id = id
  lifecycle : ∃ l, parseDurableLifecycleCounters r = .ok l ∧ c.generation = l.generation ∧
    c.lifecycleEpoch = l.epoch
  fingerprint : ∃ fp, r.fingerprint = .ok fp ∧ c.credentialsFingerprint = some fp

inductive Did (call : Call) (r : Record) : Record → Prop
  | nothing (unclaimed : call.claimId = none) (quiet : ¬ call.Advances r) : Did call r r
  | quarantined {s : Record} (now : Double) (c : Claim) (time : call.At now)
      (stranded : Stranded r now c) (parse : parseProviderOperationIntent s = .ok .quarantined)
      (kept : Kept r s) (unclaimed : call.claimId = none) (quiet : ¬ call.Advances r) : Did call r s
  | reserved {s : Record} (now : Double) (id : Str) (time : call.At now) (free : Free r now)
      (mints : call.mints = some id) (taken : ∀ d, Holds s d → TakenFrom r id d)
      (kept : Kept r s) (unclaimed : call.claimId = none) (quiet : ¬ call.Advances r) : Did call r s
  | reattempted {s : Record} (now : Double) (id : Str) (time : call.At now)
      (quarantined : Quarantined r)
      (idle : ∀ a, parseProviderOperationIntent r = .ok (.quarantinedReauthorizing a) →
        ¬ (a.phase = .providerRequestStarted ∧ now.val < a.expiresAt.val))
      (mints : call.mints = some id) (taken : ∀ d, Holds s d → TakenFrom r id d)
      (stays : Quarantined s) (kept : Kept r s) (unclaimed : call.claimId = none)
      (quiet : ¬ call.Advances r) : Did call r s
  | started {s : Record} (now : Double) (l : Lifecycle) (c : Claim) (fp : Str) (time : call.At now)
      (parse : parseProviderOperationIntent r = .ok (.valid c)) (id : call.claimId = some c.id)
      (phase : c.phase = .reserved) (fenced : Fenced r c now l fp)
      (same : ∀ d, Holds s d → SameClaim c d) (kept : Kept r s) (quiet : ¬ call.Advances r) :
      Did call r s
  | persisted {s : Record} (now : Double) (l : Lifecycle) (c : Claim) (fp : Str)
      (time : call.At now) (parse : parseProviderOperationIntent r = .ok (.valid c))
      (id : call.claimId = some c.id) (kind : call.Admits c.kind)
      (phase : c.phase = .providerRequestStarted) (fenced : Fenced r c now l fp)
      (advances : call.Advances r) (vacant : Vacant s)
      (generation : storedGeneration s = storedGeneration r + 1) : Did call r s
  | connected {s : Record} (c : Connect) (now : Double) (l : Lifecycle) (st : IntentStatus)
      (call_eq : call = .connect c) (time : call.At now)
      (parse : parseProviderOperationIntent r = .ok st) (claim : ConnectClaim c r now l st)
      (vacant : Vacant s) (generation : storedGeneration s = storedGeneration r + 1) : Did call r s
  | tombstoned {s : Record} (d : Disconnect) (call_eq : call = .disconnect d)
      (preemptable : Preemptable r) (fresh : ¬ IsDurableProviderTombstone r) (vacant : Vacant s)
      (gone : s .accessToken = none ∧ s .refreshToken = none)
      (generation : storedGeneration s = storedGeneration r + 1) : Did call r s

theorem not_holds_of_quarantined {r : Record} {c : Claim}
    (h : parseProviderOperationIntent r = .ok .quarantined) : ¬ Holds r c := by
  rintro (hc | hc) <;> rw [h] at hc <;> cases hc

theorem takenFrom_of_reserved {r s : Record} {kind : Kind} {bound : Option Str} {id fp : Str}
    {now exp : Double} {l : Lifecycle} {d : Claim} (lifecycle : parseDurableLifecycleCounters r = .ok l)
    (fingerprint : r.fingerprint = .ok fp)
    (h : Reserved r s kind bound (reservedClaim id kind now exp l fp)) (hd : Holds s d) :
    TakenFrom r id d := by
  have hc := h.claim none
  rcases hd with hd | hd
  · rcases (held_of_parse hd).claim with hcan | hbare
    · have hs := hc.sameClaim hcan.claim rfl rfl rfl rfl rfl
      exact ⟨hs.id, ⟨l, lifecycle, hs.generation, hs.lifecycleEpoch⟩,
        fp, fingerprint, hs.credentialsFingerprint⟩
    · exact absurd (.inl ⟨.id, hc.isSome .id⟩) hbare.noIntent
  · have hq := (reauthorizing_of_parse hd).quarantine.reauth
    rw [h.unquarantined.reauth] at hq
    cases hq

theorem takenFrom_of_attempt {r s : Record} {id fp : Str} {kind : Kind} {now exp : Double}
    {l : Lifecycle} {kinds : List Kind} {phases : List Phase} {d : Claim}
    (lifecycle : parseDurableLifecycleCounters r = .ok l) (fingerprint : r.fingerprint = .ok fp)
    (hq : Quarantine s)
    (h : ClaimAt .attempt kinds phases s (reservedClaim id kind now exp l fp)) (hd : Holds s d) :
    TakenFrom r id d := by
  rcases hd with hd | hd
  · have hn := (held_of_parse hd).unquarantined.reauth
    rw [hq.reauth] at hn
    cases hn
  · have hs := h.sameClaim (reauthorizing_of_parse hd).attempt rfl rfl rfl rfl rfl
    exact ⟨hs.id, ⟨l, lifecycle, hs.generation, hs.lifecycleEpoch⟩,
      fp, fingerprint, hs.credentialsFingerprint⟩

theorem sameClaim_of_started {r s : Record} {v : Value} {c d : Claim}
    (hc : parseProviderOperationIntent r = .ok (.valid c)) (hs : s = r.update (startedPatch r v))
    (hd : Holds s d) : SameClaim c d := by
  subst hs
  have hh := held_of_parse hc
  rcases hd with hd | hd
  · rcases (held_of_parse hd).claim with hcan | hbare
    · rcases hh.claim with hcr | hbr
      · exact hcr.claim.sameClaim hcan.claim (Record.update_keep rfl) (Record.update_keep rfl)
          (Record.update_keep rfl) (Record.update_keep rfl) (Record.update_keep rfl)
      · -- a bare claim has no id for the canonical schema to find
        have hid := hcan.claim.id
        rw [Record.update_keep rfl, (Record.not_hasIntent.mp hbr.noIntent).1] at hid
        cases hid
    · have hp : (r.update (startedPatch r v)) (.intent .phase) =
          some (.text Phase.providerRequestStarted.text) := Record.update_set rfl
      rw [(Record.not_hasIntent.mp hbare.noIntent).1] at hp
      cases hp
  · have hq := (reauthorizing_of_parse hd).quarantine.reauth
    rw [Record.update_keep rfl, hh.unquarantined.reauth] at hq
    cases hq

theorem did_of_body {contractorId : Str} {s s' : Store} {call : Call} {res : Result}
    (h : body contractorId s call = .ok (s', res)) : Did call s.record s'.record := by
  cases call with
  | acquire a =>
    simp only [body, bind_eq_ok, pure_eq_ok, Except.ok.injEq] at h
    obtain ⟨⟨r, q⟩, hr, h⟩ := h
    cases h
    change Did (.acquire a) s.record r
    cases acquire_spec hr with
    | quarantined now c time str =>
      exact .quarantined now c time str (quarantinePatch_parse str) ⟨rfl, rfl, rfl, rfl, rfl⟩ rfl id
    | reserved n now l fp lease time lifecycle fingerprint free kind bound =>
      refine .reserved now a.claimId.text time free rfl ?_ ⟨rfl, rfl, rfl, rfl, rfl⟩ rfl id
      exact fun d hd => takenFrom_of_reserved lifecycle fingerprint
        (acquire_reserved lease (serverTime_pos time) lifecycle fingerprint free bound) hd
  | transition t =>
    simp only [body, bind_eq_ok, pure_eq_ok, Except.ok.injEq] at h
    obtain ⟨r, hr, h⟩ := h
    cases h
    obtain ⟨now, l, c, fp, time, hc, hid, hph, hf, hs⟩ := transition_spec hr
    refine .started now l c fp time hc (congrArg some hid.symm) hph hf ?_ ?_ id
    · exact fun d hd => sameClaim_of_started hc hs hd
    · subst hs
      exact ⟨rfl, rfl, rfl, rfl, rfl⟩
  | persist p =>
    simp only [body, bind_eq_ok, pure_eq_ok, Except.ok.injEq] at h
    obtain ⟨r, hr, h⟩ := h
    cases h
    change Did (.persist p) s.record r
    obtain ⟨now, l, c, fp, format, access, refresh, expiry, time, hc, hid, hk, hph, hf, hg, -, -,
      rfl⟩ := persist_spec hr
    refine .persisted now l c fp time hc (congrArg some hid.symm) hk hph hf trivial
      (vacant_deleteClaims _ _) ?_
    rw [storedGeneration_of_parse hf.lifecycle, hg]
    exact storedGeneration_of_eq (Record.update_set rfl)
  | connect c =>
    simp only [body, bind_eq_ok, pure_eq_ok, Except.ok.injEq] at h
    obtain ⟨⟨r, i, d⟩, hr, h⟩ := h
    cases h
    change Did (.connect c) s.record r
    obtain ⟨now, l, st, format, access, refresh, expiry, time, hl, hst, hc, -, -, -, -, rfl⟩ :=
      connect_spec hr
    refine .connected c now l st rfl time hst hc (vacant_deleteClaims _ _) ?_
    rw [storedGeneration_of_parse hl]
    exact storedGeneration_of_eq (Record.update_set rfl)
  | consume c =>
    simp only [body, Except.ok.injEq] at h
    cases h
    unfold consume
    cases hd : consumeDecision contractorId c s.record with
    | error st => exact .nothing rfl id
    | ok x =>
      obtain ⟨e, l, fp, now⟩ := x
      obtain ⟨time, lifecycle, fingerprint, hspec⟩ := consume_spec hd
      change Did (.consume c) s.record (s.record.update (consumePatch c.claimId.text now l fp e))
      cases hspec with
      | quarantine d str =>
        exact .quarantined now d time str (consumePatch_quarantine_parse _ _ _ _ _)
          ⟨rfl, rfl, rfl, rfl, rfl⟩ rfl id
      | reserveIntent free =>
        refine .reserved now c.claimId.text time free rfl ?_ ⟨rfl, rfl, rfl, rfl, rfl⟩ rfl id
        exact fun d hd => takenFrom_of_reserved lifecycle fingerprint
          (consume_reserved (serverTime_pos time) lifecycle fingerprint free) hd
      | reserveAttempt st hst hq idle =>
        have hre := consumePatch_reauthorizing c.claimId (serverTime_pos time) lifecycle
          fingerprint
        refine .reattempted now c.claimId.text time (quarantined_iff.mpr ⟨⟨st, hst⟩, hq⟩) ?_ rfl ?_
          (.inr ⟨_, parse_eq_ok.mpr (.reauthorizing _ hre)⟩) ⟨rfl, rfl, rfl, rfl, rfl⟩ rfl id
        · intro a ha
          rw [hst] at ha
          cases ha
          exact idle a rfl
        · exact fun d hd => takenFrom_of_attempt lifecycle fingerprint hre.quarantine hre.attempt hd
  | disconnect d =>
    simp only [body, bind_eq_ok, pure_eq_ok, Except.ok.injEq] at h
    obtain ⟨⟨t, x⟩, ht, h⟩ := h
    cases h
    obtain ⟨hp, hspec⟩ := disconnect_spec ht
    change Did (.disconnect d) s.record t.record
    change DisconnectSpec d s.record t.record at hspec
    generalize t.record = r at hspec
    cases hspec with
    | already htomb => exact .nothing rfl fun hn => hn htomb
    | tombstoned now l time lifecycle generation epoch fresh =>
      refine .tombstoned d rfl hp fresh (vacant_deleteClaims _ _)
        ⟨Record.update_delete rfl, Record.update_delete rfl⟩ ?_
      rw [storedGeneration_of_parse lifecycle]
      exact storedGeneration_of_eq (Record.update_set rfl)
  | recordOutcome c =>
    simp only [body, bind_eq_ok, pure_eq_ok, Except.ok.injEq] at h
    obtain ⟨t, ht, h⟩ := h
    cases h
    rw [recordOutcome_record ht]
    exact .nothing rfl id
  | finalize c =>
    simp only [body, bind_eq_ok, pure_eq_ok, Except.ok.injEq] at h
    obtain ⟨t, ht, h⟩ := h
    cases h
    rw [finalize_record ht]
    exact .nothing rfl id

/-- A record that holds a live claim changes under the claim only, or by a
disconnect that preempts a reservation. -/
theorem Did.exclusive {call : Call} {r s : Record} {c : Claim} {now : Double}
    (h : Did call r s) (time : call.At now) (live : now.val < c.expiresAt.val)
    (hc : parseProviderOperationIntent r = .ok (.valid c) ∨
      parseProviderOperationIntent r = .ok (.quarantinedReauthorizing c) ∧
        c.phase = .providerRequestStarted) :
    s = r ∨ call.claimId = some c.id ∨ (c.phase = .reserved ∧ ∃ d, call = .disconnect d) := by
  have hh : Holds r c := hc.imp id And.left
  cases h with
  | nothing => exact .inl rfl
  | quarantined t d td str =>
    cases time.unique td
    cases hh.unique (.inl str.1)
    exact absurd live (not_lt.mpr str.2.2.2)
  | reserved t id td free =>
    cases time.unique td
    rcases free with hn | ⟨d, hd, -, he⟩
    · exact absurd hh (vacant_of_parse hn).not_holds
    · cases hh.unique (.inl hd)
      exact absurd live (not_lt.mpr he)
  | reattempted t id td hq idle =>
    cases time.unique td
    rcases hc with hc | ⟨hc, hp⟩
    · have hn := (held_of_parse hc).unquarantined.reauth
      rw [(quarantined_iff.mp hq).2.reauth] at hn
      cases hn
    · exact absurd ⟨hp, live⟩ (idle c hc)
  | started t l d fp td hd hid =>
    cases hh.unique (.inl hd)
    exact .inr (.inl hid)
  | persisted t l d fp td hd hid =>
    cases hh.unique (.inl hd)
    exact .inr (.inl hid)
  | connected k t l st hk td hst hcl =>
    subst hk
    cases hcl with
    | claimless hn => exact absurd hh (vacant_of_parse hst).not_holds
    | intent a fp hid =>
      cases hh.unique (.inl hst)
      exact .inr (.inl hid)
    | attempt a fp hid =>
      cases hh.unique (.inr hst)
      exact .inr (.inl hid)
  | tombstoned d hd hp =>
    rcases hp with hn | ⟨a, ha, hph⟩
    · exact absurd hh (vacant_of_parse hn).not_holds
    · cases hh.unique (.inl ha)
      exact .inr (.inr ⟨hph, d, hd⟩)

theorem Did.bound {call : Call} {r s : Record} {c : Claim} (h : Did call r s)
    (hc : parseProviderOperationIntent r = .ok (.valid c)) (hb : c.boundOperationId.isSome)
    (hp : c.phase ≠ .reserved) : s = r := by
  have hh : Holds r c := .inl hc
  have hbus : c.kind = .business := by
    rcases (held_of_parse hc).claim with hcan | hbare
    · rcases hcan.bound.stored with ⟨-, hn⟩ | ⟨b, -, -, hk, -⟩
      · rw [hn] at hb
        cases hb
      · exact hk
    · rw [hbare.unbound] at hb
      cases hb
  cases h with
  | nothing => rfl
  | quarantined t d td str =>
    cases hh.unique (.inl str.1)
    rw [str.2.2.1] at hb
    cases hb
  | reserved t id td free =>
    rcases free with hn | ⟨d, hd, hph, -⟩
    · exact absurd hh (vacant_of_parse hn).not_holds
    · cases hh.unique (.inl hd)
      exact absurd hph hp
  | reattempted t id td hq idle =>
    have hn := (held_of_parse hc).unquarantined.reauth
    rw [(quarantined_iff.mp hq).2.reauth] at hn
    cases hn
  | started t l d fp td hd hid hph =>
    cases hh.unique (.inl hd)
    exact absurd hph hp
  | persisted t l d fp td hd hid hk =>
    cases hh.unique (.inl hd)
    rw [hbus] at hk
    cases call <;> simp [Call.Admits] at hk
  | connected k t l st hk td hst hcl =>
    cases hcl with
    | claimless hn => exact absurd hh (vacant_of_parse hst).not_holds
    | intent a fp hid hph hkind =>
      cases hh.unique (.inl hst)
      rw [hbus] at hkind
      simp at hkind
    | attempt a fp hid =>
      rw [hc] at hst
      cases hst
  | tombstoned d hd hpre =>
    rcases hpre with hn | ⟨a, ha, hph⟩
    · exact absurd hh (vacant_of_parse hn).not_holds
    · cases hh.unique (.inl ha)
      exact absurd hph hp

/-- An expired started claim that no operation holds can only be put into
quarantine, and no caller commits under it. -/
theorem Did.stranded {call : Call} {r s : Record} {c : Claim} {now : Double} (h : Did call r s)
    (hc : Stranded r now c) (later : ∀ t, call.At t → now.val ≤ t.val) :
    (s = r ∨ parseProviderOperationIntent s = .ok .quarantined) ∧ call.claimId ≠ some c.id := by
  obtain ⟨hc, hph, hb, hexp⟩ := hc
  have hh : Holds r c := .inl hc
  have dead : ∀ t, call.At t → ¬ t.val < c.expiresAt.val := fun t ht =>
    not_lt.mpr (hexp.trans (later t ht))
  cases h with
  | nothing hu => exact ⟨.inl rfl, by rw [hu]; simp⟩
  | quarantined t d td str hs hk hu => exact ⟨.inr hs, by rw [hu]; simp⟩
  | reserved t id td free =>
    rcases free with hn | ⟨d, hd, hr, -⟩
    · exact absurd hh (vacant_of_parse hn).not_holds
    · cases hh.unique (.inl hd)
      rw [hph] at hr
      cases hr
  | reattempted t id td hq idle =>
    have hn := (held_of_parse hc).unquarantined.reauth
    rw [(quarantined_iff.mp hq).2.reauth] at hn
    cases hn
  | started t l d fp td hd hid hr =>
    cases hh.unique (.inl hd)
    rw [hph] at hr
    cases hr
  | persisted t l d fp td hd hid hk hp hf =>
    cases hh.unique (.inl hd)
    exact absurd hf.live (dead t td)
  | connected k t l st hk td hst hcl =>
    cases hcl with
    | claimless hn => exact absurd hh (vacant_of_parse hst).not_holds
    | intent a fp hid hp hkind hf =>
      cases hh.unique (.inl hst)
      exact absurd hf.live (dead t td)
    | attempt a fp hid =>
      rw [hc] at hst
      cases hst
  | tombstoned d hd hpre =>
    rcases hpre with hn | ⟨a, ha, hr⟩
    · exact absurd hh (vacant_of_parse hn).not_holds
    · cases hh.unique (.inl ha)
      rw [hph] at hr
      cases hr

theorem Did.holds {call : Call} {r s : Record} {d : Claim} (h : Did call r s) (hd : Holds s d) :
    (¬ call.Advances r ∧ ∃ c, Holds r c ∧ SameClaim c d) ∨
      ∃ id, call.mints = some id ∧ TakenFrom r id d := by
  cases h with
  | nothing hu hq => exact .inl ⟨hq, d, hd, .refl d⟩
  | quarantined t c td str hs => exact absurd hd (not_holds_of_quarantined hs)
  | reserved t id td free hm taken => exact .inr ⟨id, hm, taken d hd⟩
  | reattempted t id td hq idle hm taken => exact .inr ⟨id, hm, taken d hd⟩
  | started t l c fp td hc hid hr hf same kept hq =>
    exact .inl ⟨hq, c, .inl hc, same d hd⟩
  | persisted t l c fp td hc hid hk hp hf ha hv => exact absurd hd hv.not_holds
  | connected k t l st hk td hst hcl hv => exact absurd hd hv.not_holds
  | tombstoned k hk hpre hfresh hv => exact absurd hd hv.not_holds

theorem Did.quarantine {call : Call} {r s : Record} (h : Did call r s) (hr : Quarantined r) :
    Quarantined s ∨ ∃ c a, call = .connect c ∧ c.claimId = some a.id ∧
      parseProviderOperationIntent r = .ok (.quarantinedReauthorizing a) ∧
      a.phase = .providerRequestStarted := by
  have hq := (quarantined_iff.mp hr).2.reauth
  have held : ∀ c, parseProviderOperationIntent r ≠ .ok (.valid c) := by
    intro c hc
    have hn := (held_of_parse hc).unquarantined.reauth
    rw [hq] at hn
    cases hn
  have vacant : parseProviderOperationIntent r ≠ .ok .absent := by
    intro hc
    have hn := (vacant_of_parse hc).unquarantined.reauth
    rw [hq] at hn
    cases hn
  cases h with
  | nothing => exact .inl hr
  | quarantined t c td str => exact absurd str.1 (held c)
  | reserved t id td free =>
    rcases free with hn | ⟨c, hc, -⟩
    · exact absurd hn vacant
    · exact absurd hc (held c)
  | reattempted t id td hq idle hm taken stays => exact .inl stays
  | started t l c fp td hc => exact absurd hc (held c)
  | persisted t l c fp td hc => exact absurd hc (held c)
  | connected k t l st hk td hst hcl =>
    cases hcl with
    | claimless hn => exact absurd hst vacant
    | intent a fp hid => exact absurd hst (held a)
    | attempt a fp hid hp => exact .inr ⟨k, a, hk, hid, hst, hp⟩
  | tombstoned d hd hpre =>
    rcases hpre with hn | ⟨c, hc, -⟩
    · exact absurd hn vacant
    · exact absurd hc (held c)

theorem Did.generation {call : Call} {r s : Record} (h : Did call r s) :
    (call.Advances r → storedGeneration s = storedGeneration r + 1) ∧
      (¬ call.Advances r → s .generation = r .generation) := by
  cases h with
  | nothing hu hq => exact ⟨fun h => absurd h hq, fun _ => rfl⟩
  | quarantined t c td str hs hk hu hq => exact ⟨fun h => absurd h hq, fun _ => hk.generation⟩
  | reserved t id td free hm taken hk hu hq =>
    exact ⟨fun h => absurd h hq, fun _ => hk.generation⟩
  | reattempted t id td hr idle hm taken stays hk hu hq =>
    exact ⟨fun h => absurd h hq, fun _ => hk.generation⟩
  | started t l c fp td hc hid hr hf same hk hq =>
    exact ⟨fun h => absurd h hq, fun _ => hk.generation⟩
  | persisted t l c fp td hc hid hk hp hf ha hv hg => exact ⟨fun _ => hg, fun h => absurd ha h⟩
  | connected k t l st hk td hst hcl hv hg =>
    subst hk
    exact ⟨fun _ => hg, fun h => absurd trivial h⟩
  | tombstoned k hk hpre hfresh hv hgone hg =>
    subst hk
    exact ⟨fun _ => hg, fun h => absurd hfresh h⟩

theorem Did.tokens {call : Call} {r s : Record} (h : Did call r s) (hc : ¬ call.Replaces) :
    (s .accessToken = r .accessToken ∧ s .refreshToken = r .refreshToken) ∨
      ((∃ d, call = .disconnect d) ∧ s .accessToken = none ∧ s .refreshToken = none) := by
  cases h with
  | nothing => exact .inl ⟨rfl, rfl⟩
  | quarantined t c td str hs hk => exact .inl ⟨hk.accessToken, hk.refreshToken⟩
  | reserved t id td free hm taken hk => exact .inl ⟨hk.accessToken, hk.refreshToken⟩
  | reattempted t id td hr idle hm taken stays hk => exact .inl ⟨hk.accessToken, hk.refreshToken⟩
  | started t l c fp td hc' hid hr hf same hk => exact .inl ⟨hk.accessToken, hk.refreshToken⟩
  | persisted t l c fp td hp hid hk => cases call <;> first | exact absurd trivial hc | cases hk
  | connected k t l st hk =>
    subst hk
    exact absurd trivial hc
  | tombstoned d hd hpre hfresh hv hgone => exact .inr ⟨⟨d, hd⟩, hgone⟩

theorem Did.replaced {call : Call} {r s : Record} (h : Did call r s) (hc : call.Replaces) :
    (∃ c, call = .connect c ∧ c.claimId = none ∧ parseProviderOperationIntent r = .ok .absent) ∨
      ∃ c now l fp, Holds r c ∧ call.claimId = some c.id ∧ call.At now ∧
        c.phase = .providerRequestStarted ∧ call.Admits c.kind ∧ Fenced r c now l fp := by
  have adv : call.Advances r := by
    cases call <;> first | exact trivial | exact absurd hc id
  cases h with
  | nothing hu hq => exact absurd adv hq
  | quarantined t c td str hs hk hu hq => exact absurd adv hq
  | reserved t id td free hm taken hk hu hq => exact absurd adv hq
  | reattempted t id td hr idle hm taken stays hk hu hq => exact absurd adv hq
  | started t l c fp td hc' hid hr hf same hk hq => exact absurd adv hq
  | persisted t l c fp td hp hid hk hph hf =>
    exact .inr ⟨c, t, l, fp, .inl hp, hid, td, hph, hk, hf⟩
  | connected k t l st hk td hst hcl =>
    subst hk
    cases hcl with
    | claimless hn => exact .inl ⟨k, rfl, hn, hst⟩
    | intent a fp hid hph hkind hf => exact .inr ⟨a, t, l, fp, .inl hst, hid, td, hph, hkind, hf⟩
    | attempt a fp hid hph hkind hf =>
      exact .inr ⟨a, t, l, fp, .inr hst, hid, td, hph, .inr hkind, hf⟩
  | tombstoned d hd =>
    subst hd
    exact absurd hc id

/-! ## Runs -/

def Advanced (e : CallEvent) : Prop := Commits e ∧ e.call.Advances e.pre.record

/-- The event took the claim `c`. -/
def Takes (e : CallEvent) (c : Claim) : Prop :=
  Commits e ∧ ∃ id, e.call.mints = some id ∧ TakenFrom e.pre.record id c

/-- Where the claim `c` comes from after the events `l` of a run from `r₀`: the
run began with it, or an event took it, and no generation has begun since. -/
inductive TakenIn (r₀ : Record) (l : List CallEvent) (c : Claim) : Prop
  | initially (c₀ : Claim) (held : Holds r₀ c₀) (same : SameClaim c₀ c)
      (still : ∀ x ∈ l, ¬ Advanced x) : TakenIn r₀ l c
  | during (a b : List CallEvent) (m : CallEvent) (cut : l = a ++ m :: b) (takes : Takes m c)
      (still : ∀ x ∈ b, ¬ Advanced x) : TakenIn r₀ l c

/-- The right to replace the tokens at `e`, after the events `l`. -/
inductive Licensed (r₀ : Record) (l : List CallEvent) (e : CallEvent) : Prop
  | claimless (c : Connect) (call : e.call = .connect c) (id : c.claimId = none)
      (absent : parseProviderOperationIntent e.pre.record = .ok .absent) : Licensed r₀ l e
  | holder (c : Claim) (now : Double) (lc : Lifecycle) (fp : Str) (held : Holds e.pre.record c)
      (id : e.call.claimId = some c.id) (time : e.call.At now)
      (phase : c.phase = .providerRequestStarted) (kind : e.call.Admits c.kind)
      (fenced : Fenced e.pre.record c now lc fp) (taken : TakenIn r₀ l c) : Licensed r₀ l e

/-- What a run on one record guarantees. -/
structure Fencing (contractorId : Str) (s : Store) (calls : List Call) : Prop where
  /-- Tokens are replaced under licence only. -/
  replaced : ∀ l₁ e l₂, (step contractorId).log s calls = l₁ ++ e :: l₂ → Commits e →
    e.call.Replaces → Licensed s.record l₁ e
  /-- Other events leave the tokens, or delete them. -/
  kept : ∀ e ∈ (step contractorId).log s calls, ¬ (Commits e ∧ e.call.Replaces) →
    (e.post.record .accessToken = e.pre.record .accessToken ∧
        e.post.record .refreshToken = e.pre.record .refreshToken) ∨
      ((∃ d, e.call = .disconnect d) ∧
        e.post.record .accessToken = none ∧ e.post.record .refreshToken = none)
  /-- A live claim is exclusive, but for a disconnect that preempts a reservation. -/
  exclusive : ∀ e ∈ (step contractorId).log s calls, ∀ c now, e.call.At now →
    now.val < c.expiresAt.val →
    (parseProviderOperationIntent e.pre.record = .ok (.valid c) ∨
      parseProviderOperationIntent e.pre.record = .ok (.quarantinedReauthorizing c) ∧
        c.phase = .providerRequestStarted) →
    e.post.record = e.pre.record ∨ e.call.claimId = some c.id ∨
      (c.phase = .reserved ∧ ∃ d, e.call = .disconnect d)
  /-- A bound claim that is started or uncertain stays for good. -/
  bound : ∀ l₁ e l₂, (step contractorId).log s calls = l₁ ++ e :: l₂ → ∀ c,
    parseProviderOperationIntent e.pre.record = .ok (.valid c) → c.boundOperationId.isSome →
    c.phase ≠ .reserved → ∀ f ∈ e :: l₂, f.post.record = e.pre.record
  /-- Any other started claim that has expired stays until it turns into a
  quarantine, and nobody commits under it again. -/
  stranded : ∀ l₁ e l₂, (step contractorId).log s calls = l₁ ++ e :: l₂ → ∀ now c,
    e.call.At now → Stranded e.pre.record now c → ∀ f ∈ e :: l₂,
    (f.pre.record = e.pre.record → f.post.record = e.pre.record ∨
      parseProviderOperationIntent f.post.record = .ok .quarantined) ∧
    ¬ (Commits f ∧ f.call.claimId = some c.id)
  /-- A quarantine ends with a connect under a started attempt. -/
  quarantine : ∀ e ∈ (step contractorId).log s calls, Quarantined e.pre.record →
    Quarantined e.post.record ∨ ∃ c a, e.call = .connect c ∧ c.claimId = some a.id ∧
      parseProviderOperationIntent e.pre.record = .ok (.quarantinedReauthorizing a) ∧
      a.phase = .providerRequestStarted
  /-- The generation counts the persists, the connects and the disconnects. -/
  generation : ∀ e ∈ (step contractorId).log s calls,
    (Advanced e → storedGeneration e.post.record = storedGeneration e.pre.record + 1) ∧
      (¬ Advanced e → e.post.record .generation = e.pre.record .generation)

variable {contractorId : Str}

variable (contractorId) in
theorem did_of_event (s : Store) (call : Call) :
    (¬ Commits ((step contractorId).event s call) ∧
        ((step contractorId).event s call).post.record = s.record) ∨
      (Commits ((step contractorId).event s call) ∧
        Did call s.record ((step contractorId).event s call).post.record) := by
  unfold Commits
  rw [Machine.event_post, Machine.event_resp]
  unfold step
  cases h : body contractorId s call with
  | error e =>
    refine .inl ⟨?_, rfl⟩
    rintro ⟨res, hres⟩
    cases hres
  | ok x => exact .inr ⟨⟨_, rfl⟩, did_of_body h⟩

theorem did_of_mem {s : Store} {calls : List Call} {e : CallEvent}
    (he : e ∈ (step contractorId).log s calls) :
    (¬ Commits e ∧ e.post.record = e.pre.record) ∨
      (Commits e ∧ Did e.call e.pre.record e.post.record) := by
  obtain ⟨cs₁, c, cs₂, -, rfl⟩ := (step contractorId).mem_log he
  exact did_of_event _ _ c

theorem TakenIn.snoc {r₀ : Record} {l : List CallEvent} {c d : Claim} {x : CallEvent}
    (h : TakenIn r₀ l c) (same : SameClaim c d) (hx : ¬ Advanced x) : TakenIn r₀ (l ++ [x]) d := by
  have still : ∀ b : List CallEvent, (∀ y ∈ b, ¬ Advanced y) → ∀ y ∈ b ++ [x], ¬ Advanced y := by
    intro b hb y hy
    rcases List.mem_append.mp hy with hy | hy
    · exact hb y hy
    · rw [List.mem_singleton] at hy
      exact hy ▸ hx
  cases h with
  | initially c₀ held same₀ hl => exact .initially c₀ held (same₀.trans same) (still l hl)
  | during a b m cut takes hb =>
    obtain ⟨hm, id, hid, ht⟩ := takes
    obtain ⟨lc, hlc, hg, he⟩ := ht.lifecycle
    obtain ⟨fp, hfp, hf⟩ := ht.fingerprint
    refine .during a (b ++ [x]) m (by rw [cut]; simp) ⟨hm, id, hid, same.id.trans ht.id, ?_, ?_⟩
      (still b hb)
    · exact ⟨lc, hlc, same.generation.trans hg, same.lifecycleEpoch.trans he⟩
    · exact ⟨fp, hfp, same.credentialsFingerprint.trans hf⟩

variable (contractorId) in
theorem takenIn_run (s : Store) (calls : List Call) : ∀ c,
    Holds ((step contractorId).run s calls).record c →
      TakenIn s.record ((step contractorId).log s calls) c := by
  refine (step contractorId).log_inv (G := fun _ => True)
    (I := fun l t => ∀ c, Holds t.record c → TakenIn s.record l c) ?_ ?_ calls fun _ _ => trivial
  · intro c hc
    exact .initially c hc (.refl c) (by simp)
  · intro l t call ih _ d hd
    rcases did_of_event contractorId t call with ⟨hn, hpost⟩ | ⟨hcm, hdid⟩
    · have hd' : Holds t.record d := by rwa [← hpost]
      exact (ih d hd').snoc (.refl d) fun ha => hn ha.1
    · rcases hdid.holds hd with ⟨hq, c, hc, same⟩ | ⟨id, hm, ht⟩
      · exact (ih c hc).snoc same fun ha => hq ha.2
      · exact .during l [] _ rfl ⟨hcm, id, hm, ht⟩ (by simp)

/-! ### Expired claims -/

def Clock (calls : List Call) : Prop :=
  calls.Pairwise fun a b => ∀ s t, a.At s → b.At t → s.val ≤ t.val

/-- No claim id repeats, the one in the record included. -/
structure UniqueIds (r : Record) (calls : List Call) : Prop where
  nodup : (calls.filterMap Call.mints).Nodup
  fresh : ∀ c, Holds r c → c.id ∉ calls.filterMap Call.mints

variable (contractorId) in
theorem UniqueIds.not_again {s : Store} {cs₁ cs₂ : List Call} {c : Claim}
    (h : UniqueIds s.record (cs₁ ++ cs₂)) (hc : Holds ((step contractorId).run s cs₁).record c) :
    ∀ k ∈ cs₂, k.mints ≠ some c.id := by
  intro k hk hm
  have hk₂ : c.id ∈ cs₂.filterMap Call.mints := List.mem_filterMap.mpr ⟨k, hk, hm⟩
  have hnd := h.nodup
  rw [List.filterMap_append, List.nodup_append] at hnd
  cases takenIn_run contractorId s cs₁ c hc with
  | initially c₀ held same still =>
    refine h.fresh c₀ held ?_
    rw [List.filterMap_append, ← same.id]
    exact List.mem_append_right _ hk₂
  | during a b m cut takes still =>
    obtain ⟨-, id, hid, ht⟩ := takes
    have hm₁ : m.call ∈ cs₁ := (step contractorId).call_mem_of_mem_log (s := s) (by rw [cut]; simp)
    have hid₁ : c.id ∈ cs₁.filterMap Call.mints :=
      List.mem_filterMap.mpr ⟨m.call, hm₁, by rw [hid, ht.id]⟩
    exact hnd.2.2 _ hid₁ _ hk₂ rfl

/-- The record is still the stranded `r`, or the claim is gone from it. -/
def Settled (r : Record) (id : Str) (s : Store) : Prop :=
  s.record = r ∨ ∀ d, Holds s.record d → d.id ≠ id

theorem settled_step {r : Record} {now : Double} {c : Claim} (hc : Stranded r now c) {s : Store}
    {call : Call} (hs : Settled r c.id s) (later : ∀ t, call.At t → now.val ≤ t.val)
    (fresh : call.mints ≠ some c.id) : Settled r c.id ((step contractorId) s call).1 := by
  rcases did_of_event contractorId s call with ⟨-, hpost⟩ | ⟨-, hdid⟩
  · unfold Settled
    rw [show ((step contractorId) s call).1.record = s.record from hpost]
    exact hs
  · rcases hs with hs | hs
    · rcases ((hs ▸ hdid).stranded hc later).1 with h | h
      · exact .inl h
      · exact .inr fun d hd => absurd hd (not_holds_of_quarantined h)
    · refine .inr fun d hd hid => ?_
      rcases hdid.holds hd with ⟨-, c', hc', same⟩ | ⟨id, hm, ht⟩
      · exact hs c' hc' (same.id.symm.trans hid)
      · exact fresh (by rw [hm, ← ht.id, hid])

theorem Did.claimId_held {call : Call} {r s : Record} {id : Str} (h : Did call r s)
    (hid : call.claimId = some id) : ∃ c, Holds r c ∧ c.id = id := by
  cases h with
  | nothing hu => rw [hu] at hid; cases hid
  | quarantined t c td str hs hk hu => rw [hu] at hid; cases hid
  | reserved t id td free hm taken hk hu => rw [hu] at hid; cases hid
  | reattempted t id td hr idle hm taken stays hk hu => rw [hu] at hid; cases hid
  | started t l c fp td hc hci =>
    rw [hci] at hid
    exact ⟨c, .inl hc, Option.some.inj hid⟩
  | persisted t l c fp td hc hci =>
    rw [hci] at hid
    exact ⟨c, .inl hc, Option.some.inj hid⟩
  | connected k t l st hk td hst hcl =>
    subst hk
    change k.claimId = some id at hid
    cases hcl with
    | claimless hn =>
      rw [hn] at hid
      cases hid
    | intent a fp hci =>
      rw [hci] at hid
      exact ⟨a, .inl hst, Option.some.inj hid⟩
    | attempt a fp hci =>
      rw [hci] at hid
      exact ⟨a, .inr hst, Option.some.inj hid⟩
  | tombstoned d hd =>
    subst hd
    cases hid

theorem stranded_run {s : Store} {calls : List Call} (clock : Clock calls)
    (ids : UniqueIds s.record calls) {l₁ l₂ : List CallEvent} {e : CallEvent}
    (hl : (step contractorId).log s calls = l₁ ++ e :: l₂) {now : Double} {c : Claim}
    (time : e.call.At now) (hc : Stranded e.pre.record now c) {f : CallEvent} (hf : f ∈ e :: l₂) :
    (f.pre.record = e.pre.record → f.post.record = e.pre.record ∨
      parseProviderOperationIntent f.post.record = .ok .quarantined) ∧
    ¬ (Commits f ∧ f.call.claimId = some c.id) := by
  obtain ⟨cs₁, k, cs₂, rfl, -, rfl, rfl⟩ := (step contractorId).log_eq_append_cons hl
  rw [Machine.event_call] at time
  rw [Machine.event_pre] at hc ⊢
  set t := (step contractorId).run s cs₁ with ht
  have later : ∀ x ∈ k :: cs₂, ∀ u, x.At u → now.val ≤ u.val := by
    intro x hx u hu
    rcases List.mem_cons.mp hx with rfl | hx
    · rw [time.unique hu]
    · have hp := (List.pairwise_append.mp clock).2.1
      rw [List.pairwise_cons] at hp
      exact hp.1 x hx now u time hu
  have fresh := ids.not_again contractorId (.inl hc.1)
  obtain ⟨ds₁, x, ds₂, hds, rfl⟩ := (step contractorId).mem_log (show f ∈ (step contractorId).log t (k :: cs₂) from hf)
  have hx : x ∈ k :: cs₂ := by rw [hds]; simp
  have hset : Settled t.record c.id ((step contractorId).run t ds₁) := by
    refine (step contractorId).run_inv
      (G := fun e => (∀ u, e.call.At u → now.val ≤ u.val) ∧ e.call.mints ≠ some c.id)
      (.inl rfl) (fun s call hs hg => settled_step hc hs hg.1 hg.2) ds₁ ?_
    intro e he
    have hmem : e.call ∈ k :: cs₂ := by
      rw [hds]
      exact List.mem_append_left _ ((step contractorId).call_mem_of_mem_log he)
    exact ⟨later _ hmem, fresh _ hmem⟩
  rw [Machine.event_pre, Machine.event_call]
  rcases did_of_event contractorId ((step contractorId).run t ds₁) x with
    ⟨hn, hpost⟩ | ⟨hcm, hdid⟩
  · exact ⟨fun hpre => .inl (hpost.trans hpre), fun h => hn h.1⟩
  · refine ⟨fun hpre => ?_, fun h => ?_⟩
    · exact ((hpre ▸ hdid).stranded hc (later x hx)).1
    · rcases hset with hs | hs
      · exact ((hs ▸ hdid).stranded hc (later x hx)).2 h.2
      · obtain ⟨d, hd, hid⟩ := hdid.claimId_held h.2
        exact hs d hd hid

/-- Every run is fenced. -/
theorem fencing_run (contractorId : Str) (s : Store) (calls : List Call) (clock : Clock calls)
    (ids : UniqueIds s.record calls) : Fencing contractorId s calls where
  replaced l₁ e l₂ hl hcm hr := by
    obtain ⟨cs₁, k, cs₂, rfl, rfl, rfl, rfl⟩ := (step contractorId).log_eq_append_cons hl
    rcases did_of_event contractorId ((step contractorId).run s cs₁) k with
      ⟨hn, -⟩ | ⟨-, hdid⟩
    · exact absurd hcm hn
    · rcases hdid.replaced hr with ⟨c, hk, hid, hab⟩ | ⟨c, now, lc, fp, hc, hid, ht, hp, hk, hf⟩
      · exact .claimless c hk hid hab
      · exact .holder c now lc fp hc hid ht hp hk hf (takenIn_run contractorId s cs₁ c hc)
  kept e he hn := by
    rcases did_of_mem he with ⟨-, hpost⟩ | ⟨hcm, hdid⟩
    · rw [hpost]
      exact .inl ⟨rfl, rfl⟩
    · exact hdid.tokens fun hr => hn ⟨hcm, hr⟩
  exclusive e he c now ht hlive hc := by
    rcases did_of_mem he with ⟨-, hpost⟩ | ⟨-, hdid⟩
    · exact .inl hpost
    · exact hdid.exclusive ht hlive hc
  bound l₁ e l₂ hl c hc hb hp f hf := by
    obtain ⟨cs₁, k, cs₂, -, -, rfl, rfl⟩ := (step contractorId).log_eq_append_cons hl
    rw [Machine.event_pre] at hc ⊢
    have hf' : f ∈ (step contractorId).log ((step contractorId).run s cs₁) (k :: cs₂) := hf
    refine ((step contractorId).log_pre
      (I := fun t => t.record = ((step contractorId).run s cs₁).record) rfl ?_ hf').2
    intro t call ht
    rcases did_of_event contractorId t call with ⟨-, hpost⟩ | ⟨-, hdid⟩
    · exact hpost.trans ht
    · exact (hdid.bound (ht ▸ hc) hb hp).trans ht
  stranded l₁ e l₂ hl now c ht hc f hf := stranded_run clock ids hl ht hc hf
  quarantine e he hq := by
    rcases did_of_mem he with ⟨-, hpost⟩ | ⟨-, hdid⟩
    · rw [hpost]
      exact .inl hq
    · exact hdid.quarantine hq
  generation e he := by
    rcases did_of_mem he with ⟨hn, hpost⟩ | ⟨hcm, hdid⟩
    · refine ⟨fun ha => absurd ha.1 hn, fun _ => by rw [hpost]⟩
    · exact ⟨fun ha => hdid.generation.1 ha.2,
        fun ha => hdid.generation.2 fun h => ha ⟨hcm, h⟩⟩

/-- The next worker takes the lapsed refresh over and starts its request. -/
def refreshCalls : List Call :=
  [.acquire (takeover .refresh), .transition ⟨(takeover .refresh).claimId.text, some .refresh, none,
    none, none, .none, .none, .number (.int 60), unixTime 301 (by decide)⟩]

theorem fencing_refresh : Fencing (py "c1") crashedStore refreshCalls := by
  refine fencing_run (py "c1") crashedStore refreshCalls ?_ ⟨by decide, ?_⟩
  · have h₁ : serverTime (unixTime 300 (by decide)) = .ok (.ofRat 300) :=
      ok_of_toOption (by decide +kernel)
    have h₂ : serverTime (unixTime 301 (by decide)) = .ok (.ofRat 301) :=
      ok_of_toOption (by decide +kernel)
    simp only [Clock, refreshCalls, List.pairwise_cons, List.mem_singleton, forall_eq,
      List.not_mem_nil, false_implies, implies_true, List.Pairwise.nil, and_true]
    intro s t hs ht
    cases h₁.symm.trans hs
    cases h₂.symm.trans ht
    decide +kernel
  · intro c hc
    cases hc.unique (.inl crashedRecord_parse)
    decide

def connectedRecord : Record
  | .active | .connected => some (.bool true)
  | .generation | .lifecycleEpoch => some (.int 1)
  | .accessToken => some (.text "access")
  | .refreshToken => some (.text "refresh")
  | _ => none

/-- A vault without keys. -/
def plaintextVault : Vault :=
  ⟨.error (.config "no keyring"), .ok none, false, fun _ _ => none,
    fun _ _ => .error (.config "no keyring")⟩

def disconnectAt (readTime : DateTime) : Disconnect :=
  ⟨py "contractor_api", none, py "0123456789abcdef", plaintextVault, readTime⟩

def connectedStore : Store := ⟨connectedRecord, fun _ => none, fun _ => none⟩

def disconnectedStore : Store :=
  (step (py "c1")).run connectedStore [.disconnect (disconnectAt (unixTime 100 (by decide)))]

/-- A second disconnect commits and reports the pair of the first. -/
theorem second_disconnect_generation :
    (∃ x, body (py "c1") disconnectedStore
      (.disconnect (disconnectAt (unixTime 200 (by decide)))) = .ok x ∧
        storedGeneration x.1.record = storedGeneration disconnectedStore.record) ∧
    storedGeneration disconnectedStore.record = 2 := by
  have hex : (body (py "c1") disconnectedStore
      (.disconnect (disconnectAt (unixTime 200 (by decide))))).toBool = true := by decide +kernel
  obtain ⟨x, hx⟩ := exists_ok_of_toBool hex
  refine ⟨⟨x, hx, ?_⟩, by decide +kernel⟩
  have hg := (did_of_body (show body _ _ _ = .ok (x.1, x.2) from hx)).generation.2 (by
    change ¬ ¬ IsDurableProviderTombstone disconnectedStore.record
    rw [not_not]
    decide +kernel)
  rw [storedGeneration, storedGeneration, hg]

end HeyKevin.L7.Tokens
