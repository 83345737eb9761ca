import HeyKevin.L10Bakeoff.ExecutionControl
/-!
# Pre-auth tokens in memory

`InMemoryPreAuthTokenStore` (app/services/voice_bakeoff_security_contracts.py).
A grant of the control store gets one token, which is returned once and kept
only as a digest. Its record waits for the control store, is active, and ends
consumed, revoked or expired.

* `Step`: what any call may make of one record.
* `TokenStore.Touches`: a call that keeps every record up to such a step.
* `activate_cases`: only the activation of a grant that has no record yet adds
  one, and only then a token is returned.

Line numbers are those of app/services/voice_bakeoff_security_contracts.py.
-/
namespace HeyKevin.L10.PreAuth

open HeyKevin.Core L1 L1.Text L10.Control

inductive PreAuthState
  | pendingControl
  | active
  | consumed
  | revoked
  | expired
deriving DecidableEq

/-- mirrors 1659-1675 -/
structure IssuedPreAuthToken where
  protectedToken : Str
  tokenDigest : Digest
  expiresAtMs : ℤ
deriving DecidableEq

/-- mirrors 1679-1700 -/
structure PreAuthActivation where
  issuedToken : Option IssuedPreAuthToken
  acknowledgement : PreAuthActivationAcknowledgement

structure Authorities where
  /-- `ControlGrantVerifier.verify` -/
  verifyGrant : PreAuthActivationGrant → Bool
  /-- The signature of `PreAuthAcknowledgementSigner` on an acknowledgement without one. -/
  signAcknowledgement : PreAuthActivationAcknowledgement → Bytes
  /-- `ControlActivationVerifier.verify` -/
  verifyActivation : ControlActivationProof → Bool
  tokenDigest : Str → Digest
  audienceRef : OpaqueRef
  trustedIssuerRef : OpaqueRef

structure Draw where
  protectedToken : Str
  preauthRef : OpaqueRef

/-! ## Records -/

/-- mirrors 1704-1716 -/
structure PreAuthRecord where
  controlRef : OpaqueRef
  controlVersion : ℤ
  preauthRef : OpaqueRef
  bindingDigest : Digest
  receiptDigest : Digest
  grantIdDigest : Digest
  tokenDigest : Digest
  state : PreAuthState
  version : ℤ
  createdAtMs : ℤ
  expiresAtMs : ℤ
  revocationReason : Option RevocationReason

namespace PreAuthRecord

/-- mirrors 2049-2054 (`_expire`) -/
def expired (r : PreAuthRecord) (nowMs : ℤ) : PreAuthRecord :=
  if (r.state = .pendingControl ∨ r.state = .active) ∧ r.expiresAtMs ≤ nowMs then
    { r with state := .expired, version := r.version + 1 }
  else r

def confirm (r : PreAuthRecord) : PreAuthRecord :=
  { r with state := .active, version := r.version + 1 }

def consume (r : PreAuthRecord) : PreAuthRecord :=
  { r with state := .consumed, version := r.version + 1 }

def revoke (r : PreAuthRecord) (reason : RevocationReason) : PreAuthRecord :=
  { r with state := .revoked, version := r.version + 1, revocationReason := some reason }

/-- mirrors 2036-2046 (`_record_matches_grant`) -/
def matchesGrant (r : PreAuthRecord) (grant : PreAuthActivationGrant) : Bool :=
  r.controlRef = grant.controlRef && r.controlVersion = grant.controlVersion &&
    r.bindingDigest = grant.bindingDigest && r.receiptDigest = grant.receiptDigest &&
    r.grantIdDigest = grant.grantIdDigest

def matchesProof (r : PreAuthRecord) (proof : ControlActivationProof) (version : ℤ) : Bool :=
  proof.controlRef = r.controlRef.val && proof.controlVersion = r.controlVersion + 1 &&
    proof.preauthVersion = version && proof.bindingDigest = r.bindingDigest &&
    proof.grantIdDigest = r.grantIdDigest && proof.tokenDigest = r.tokenDigest

end PreAuthRecord

/-- What a call may make of a record: its token stays, revoked is final, and consumed ends at most
in revoked. -/
structure Step (r r' : PreAuthRecord) : Prop where
  tokenDigest : r'.tokenDigest = r.tokenDigest
  preauthRef : r'.preauthRef = r.preauthRef
  revoked : r.state = .revoked → r'.state = .revoked
  consumed : r.state = .consumed → r'.state = .consumed ∨ r'.state = .revoked

namespace Step

theorem refl (r : PreAuthRecord) : Step r r := ⟨rfl, rfl, id, .inl⟩

theorem trans {r r' r'' : PreAuthRecord} (h : Step r r') (h' : Step r' r'') : Step r r'' where
  tokenDigest := h'.tokenDigest.trans h.tokenDigest
  preauthRef := h'.preauthRef.trans h.preauthRef
  revoked := fun hr => h'.revoked (h.revoked hr)
  consumed := fun hc => (h.consumed hc).elim h'.consumed fun hr => .inr (h'.revoked hr)

theorem expired (r : PreAuthRecord) (t : ℤ) : Step r (r.expired t) := by
  unfold PreAuthRecord.expired
  split
  · rename_i hlive
    refine ⟨rfl, rfl, fun hr => ?_, fun hc => ?_⟩
    · simp [hr] at hlive
    · simp [hc] at hlive
  · exact .refl r

end Step

/-! ## The store -/

structure TokenStore where
  records : Entries Str PreAuthRecord
  grantIndex : Entries Digest Str
  acknowledgements : Entries Str PreAuthActivationAcknowledgement

namespace TokenStore

def empty : TokenStore := ⟨[], [], []⟩

def setRecord (p : TokenStore) (r : PreAuthRecord) : TokenStore :=
  { p with records := p.records.set r.preauthRef.val r }

section

variable (P : Authorities)

/-- The checks of `activate` before it reads the store. -/
def mayActivate (grant : PreAuthActivationGrant) (nowMs tokenTtlMs : ℤ) : Bool :=
  P.verifyGrant grant && grant.audienceRef = P.audienceRef &&
    grant.issuerRef = P.trustedIssuerRef && grant.issuedAtMs ≤ nowMs &&
    nowMs < grant.expiresAtMs && 1 ≤ tokenTtlMs

def newRecord (grant : PreAuthActivationGrant) (nowMs tokenTtlMs : ℤ) (draw : Draw) :
    PreAuthRecord where
  controlRef := grant.controlRef
  controlVersion := grant.controlVersion
  preauthRef := draw.preauthRef
  bindingDigest := grant.bindingDigest
  receiptDigest := grant.receiptDigest
  grantIdDigest := grant.grantIdDigest
  tokenDigest := P.tokenDigest draw.protectedToken
  state := .pendingControl
  version := 1
  createdAtMs := nowMs
  expiresAtMs := min (nowMs + tokenTtlMs) grant.expiresAtMs
  revocationReason := none

def newAcknowledgement (grant : PreAuthActivationGrant) (nowMs : ℤ) (draw : Draw) :
    PreAuthActivationAcknowledgement :=
  let ack : PreAuthActivationAcknowledgement :=
    { audienceRef := grant.issuerRef
      controlRef := grant.controlRef
      controlVersion := grant.controlVersion
      preauthRef := draw.preauthRef
      preauthVersion := 1
      bindingDigest := grant.bindingDigest
      receiptDigest := grant.receiptDigest
      grantIdDigest := grant.grantIdDigest
      tokenDigest := P.tokenDigest draw.protectedToken
      acknowledgedAtMs := nowMs
      proof := List.replicate 64 0 }
  { ack with proof := P.signAcknowledgement ack }

def newToken (grant : PreAuthActivationGrant) (nowMs tokenTtlMs : ℤ) (draw : Draw) :
    IssuedPreAuthToken where
  protectedToken := draw.protectedToken
  tokenDigest := P.tokenDigest draw.protectedToken
  expiresAtMs := min (nowMs + tokenTtlMs) grant.expiresAtMs

/-- A reference of the index has its record and its acknowledgement; without one this would raise.
mirrors 1835-1909 -/
def activate (p : TokenStore) (grant : PreAuthActivationGrant) (nowMs tokenTtlMs : ℤ)
    (draw : Draw) : TokenStore × Option PreAuthActivation :=
  if !mayActivate P grant nowMs tokenTtlMs then (p, none)
  else
    match p.grantIndex.find? grant.grantIdDigest with
    | some priorRef =>
      match p.records.find? priorRef with
      | some prior =>
        if !prior.matchesGrant grant then (p, none)
        else (p, (p.acknowledgements.find? priorRef).map fun ack => ⟨none, ack⟩)
      | none => (p, none)
    | none =>
      if draw.protectedToken.length < 32 then (p, none)
      else
        ({ records := p.records.set draw.preauthRef.val (newRecord P grant nowMs tokenTtlMs draw)
           grantIndex := p.grantIndex.set grant.grantIdDigest draw.preauthRef.val
           acknowledgements :=
             p.acknowledgements.set draw.preauthRef.val (newAcknowledgement P grant nowMs draw) },
          some ⟨some (newToken P grant nowMs tokenTtlMs draw), newAcknowledgement P grant nowMs draw⟩)

/-- mirrors 1911-1950
(`confirm_control_active`) -/
def confirmControlActive (p : TokenStore) (proof : ControlActivationProof) (nowMs : ℤ) :
    TokenStore × Bool :=
  if !(P.verifyActivation proof && proof.audienceRef = P.audienceRef) then (p, false)
  else
    match p.records.find? proof.preauthRef.val with
    | none => (p, false)
    | some r =>
      let r := r.expired nowMs
      if r.state = .active then (p.setRecord r, r.matchesProof proof (r.version - 1))
      else if r.state = .pendingControl ∧ r.matchesProof proof r.version ∧
          proof.activatedAtMs ≤ nowMs then
        (p.setRecord r.confirm, true)
      else (p.setRecord r, false)

/-- mirrors 1952-1965 -/
def recoverActivation (p : TokenStore) (grant : PreAuthActivationGrant) :
    Option PreAuthActivationAcknowledgement :=
  match p.grantIndex.find? grant.grantIdDigest with
  | none => none
  | some preauthRef =>
    match p.records.find? preauthRef with
    | none => none
    | some r => if r.matchesGrant grant then p.acknowledgements.find? preauthRef else none

/-- mirrors 1984-2012 -/
def consume (p : TokenStore) (preauthRef controlRef bindingDigest protectedToken : Str)
    (nowMs : ℤ) : TokenStore × Bool :=
  match p.records.find? preauthRef with
  | none => (p, false)
  | some r =>
    let r := r.expired nowMs
    if r.state = .active ∧ r.controlRef.val = controlRef ∧ r.bindingDigest.val = bindingDigest ∧
        r.tokenDigest = P.tokenDigest protectedToken then
      (p.setRecord r.consume, true)
    else (p.setRecord r, false)

/-- mirrors 2014-2033 -/
def revoke (p : TokenStore) (preauthRef : Str) (reason : RevocationReason) (nowMs : ℤ) :
    TokenStore × Bool :=
  match p.records.find? preauthRef with
  | none => (p, false)
  | some r =>
    let r := r.expired nowMs
    if r.state = .revoked then (p.setRecord r, true)
    else (p.setRecord (r.revoke reason), true)

/-! ## What a call does to the records -/

def Keyed (p : TokenStore) : Prop :=
  ∀ ref r, p.records.find? ref = some r → r.preauthRef.val = ref

def Keeps (p p' : TokenStore) : Prop :=
  ∀ ref r, p.records.find? ref = some r → ∃ r', p'.records.find? ref = some r' ∧ Step r r'

def OnlyOld (p p' : TokenStore) : Prop :=
  ∀ ref r', p'.records.find? ref = some r' → ∃ r, p.records.find? ref = some r ∧ Step r r'

theorem find?_setRecord (p : TokenStore) (r : PreAuthRecord) (ref : Str) :
    (p.setRecord r).records.find? ref =
      if r.preauthRef.val = ref then some r else p.records.find? ref :=
  Entries.find?_set ..

structure Touches (p p' : TokenStore) : Prop where
  keeps : p.Keeps p'
  onlyOld : p.OnlyOld p'
  grantIndex : p'.grantIndex = p.grantIndex

theorem Touches.refl (p : TokenStore) : Touches p p :=
  ⟨fun _ r hr => ⟨r, hr, .refl r⟩, fun _ r hr => ⟨r, hr, .refl r⟩, rfl⟩

theorem Touches.setRecord {p : TokenStore} {r r' : PreAuthRecord}
    (hr : p.records.find? r.preauthRef.val = some r) (h : Step r r') :
    Touches p (p.setRecord r') where
  keeps := by
    intro ref q hq
    rw [find?_setRecord, h.preauthRef]
    split
    · rename_i href
      rw [← href, hr] at hq
      cases hq
      exact ⟨r', rfl, h⟩
    · exact ⟨q, hq, .refl q⟩
  onlyOld := by
    intro ref q hq
    rw [find?_setRecord, h.preauthRef] at hq
    split at hq
    · rename_i href
      cases hq
      exact ⟨r, href ▸ hr, h⟩
    · exact ⟨q, hq, .refl q⟩
  grantIndex := rfl

theorem Touches.keyed {p p' : TokenStore} (h : Touches p p') (hp : p.Keyed) : p'.Keyed := by
  intro ref r' hr'
  obtain ⟨r, hr, hstep⟩ := h.onlyOld ref r' hr'
  rw [hstep.preauthRef]
  exact hp ref r hr

theorem step_of_live {r r' : PreAuthRecord} (htoken : r'.tokenDigest = r.tokenDigest)
    (href : r'.preauthRef = r.preauthRef) (hlive : r.state ≠ .revoked ∧ r.state ≠ .consumed) :
    Step r r' :=
  ⟨htoken, href, fun h => absurd h hlive.1, fun h => absurd h hlive.2⟩

theorem confirmControlActive_touches {p : TokenStore} (hp : p.Keyed)
    (proof : ControlActivationProof) (nowMs : ℤ) :
    Touches p (p.confirmControlActive P proof nowMs).1 := by
  unfold confirmControlActive
  split
  · exact .refl p
  split
  · exact .refl p
  rename_i r hr
  rw [← hp _ r hr] at hr
  dsimp only
  split
  · exact .setRecord hr (.expired r nowMs)
  split
  · rename_i hpending
    refine .setRecord hr ((Step.expired r nowMs).trans (step_of_live rfl rfl ?_))
    rw [hpending.1]
    exact ⟨by decide, by decide⟩
  · exact .setRecord hr (.expired r nowMs)

theorem consume_touches {p : TokenStore} (hp : p.Keyed)
    (preauthRef controlRef bindingDigest protectedToken : Str) (nowMs : ℤ) :
    Touches p (p.consume P preauthRef controlRef bindingDigest protectedToken nowMs).1 := by
  unfold consume
  split
  · exact .refl p
  rename_i r hr
  rw [← hp _ r hr] at hr
  dsimp only
  split
  · rename_i hactive
    refine .setRecord hr ((Step.expired r nowMs).trans (step_of_live rfl rfl ?_))
    rw [hactive.1]
    exact ⟨by decide, by decide⟩
  · exact .setRecord hr (.expired r nowMs)

theorem revoke_touches {p : TokenStore} (hp : p.Keyed) (preauthRef : Str)
    (reason : RevocationReason) (nowMs : ℤ) :
    Touches p (p.revoke preauthRef reason nowMs).1 := by
  unfold revoke
  split
  · exact .refl p
  rename_i r hr
  rw [← hp _ r hr] at hr
  dsimp only
  split
  · exact .setRecord hr (.expired r nowMs)
  · refine .setRecord hr ((Step.expired r nowMs).trans ⟨rfl, rfl, fun _ => rfl, fun _ => .inr rfl⟩)

theorem consume_true {p : TokenStore} (hp : p.Keyed)
    {preauthRef controlRef bindingDigest protectedToken : Str} {nowMs : ℤ}
    (h : (p.consume P preauthRef controlRef bindingDigest protectedToken nowMs).2 = true) :
    ∃ r r', p.records.find? preauthRef = some r ∧ r.state = .active ∧
      r.tokenDigest = P.tokenDigest protectedToken ∧
      (p.consume P preauthRef controlRef bindingDigest protectedToken nowMs).1.records.find?
        preauthRef = some r' ∧ r'.state = .consumed ∧ r'.tokenDigest = r.tokenDigest := by
  unfold consume at h ⊢
  cases hr : p.records.find? preauthRef with
  | none =>
    rw [hr] at h
    cases h
  | some r =>
    rw [hr] at h
    dsimp only at h ⊢
    split at h
    · rename_i hactive
      have hsame : r.expired nowMs = r := by
        unfold PreAuthRecord.expired at hactive ⊢
        split
        · rename_i hexp
          rw [if_pos hexp] at hactive
          cases hactive.1
        · rfl
      rw [if_pos hactive]
      rw [hsame] at hactive ⊢
      refine ⟨r, r.consume, rfl, hactive.1, hactive.2.2.2, ?_, rfl, rfl⟩
      rw [find?_setRecord]
      exact if_pos (hp _ r hr)
    · cases h

theorem revoke_true {p : TokenStore} (hp : p.Keyed) {preauthRef : Str}
    {reason : RevocationReason} {nowMs : ℤ} (h : (p.revoke preauthRef reason nowMs).2 = true) :
    ∃ r', (p.revoke preauthRef reason nowMs).1.records.find? preauthRef = some r' ∧
      r'.state = .revoked := by
  unfold revoke at h ⊢
  cases hr : p.records.find? preauthRef with
  | none =>
    rw [hr] at h
    cases h
  | some r =>
    have href := hp _ r hr
    have hexp := (Step.expired r nowMs).preauthRef
    dsimp only
    split
    · rename_i hrevoked
      exact ⟨_, by rw [find?_setRecord, hexp, if_pos href], hrevoked⟩
    · refine ⟨(r.expired nowMs).revoke reason, ?_, rfl⟩
      rw [find?_setRecord]
      exact if_pos (by rw [← href, ← hexp]; rfl)

/-- An activation changes nothing and returns no token, or adds the record of a new grant and
returns its token. -/
theorem activate_cases (p : TokenStore) (grant : PreAuthActivationGrant) (nowMs ttlMs : ℤ)
    (draw : Draw) :
    ((p.activate P grant nowMs ttlMs draw).1 = p ∧
      ∀ a ∈ (p.activate P grant nowMs ttlMs draw).2, a.issuedToken = none) ∨
    p.grantIndex.find? grant.grantIdDigest = none ∧
      p.activate P grant nowMs ttlMs draw =
        ({ records := p.records.set draw.preauthRef.val (newRecord P grant nowMs ttlMs draw)
           grantIndex := p.grantIndex.set grant.grantIdDigest draw.preauthRef.val
           acknowledgements :=
             p.acknowledgements.set draw.preauthRef.val (newAcknowledgement P grant nowMs draw) },
          some ⟨some (newToken P grant nowMs ttlMs draw),
            newAcknowledgement P grant nowMs draw⟩) := by
  unfold activate
  split
  · exact .inl ⟨rfl, fun _ h => by cases h⟩
  split
  · split
    · split
      · exact .inl ⟨rfl, fun _ h => by cases h⟩
      · refine .inl ⟨rfl, fun a ha => ?_⟩
        obtain ⟨ack, -, rfl⟩ := Option.map_eq_some_iff.mp ha
        rfl
    · exact .inl ⟨rfl, fun _ h => by cases h⟩
  · rename_i hnew
    split
    · exact .inl ⟨rfl, fun _ h => by cases h⟩
    · exact .inr ⟨hnew, rfl⟩

end

end TokenStore

end HeyKevin.L10.PreAuth
