import HeyKevin.L10Bakeoff.PreAuthStore
import Mathlib.Logic.Function.Basic
/-!
# The execution security saga

`ExecutionSecuritySaga` (app/services/voice_bakeoff_security_contracts.py) over
the in-memory control and pre-auth stores. Each call is a thread, and each of
its store calls is one step, so that a run is any interleaving of calls. A
store call may refuse or raise, before or after its effect (`Fault`).

The saga's lock, which `consume` and `teardown` hold, only forbids some of these
interleavings; the runs here go on without it.

* `stepPc_preauth`: a step changes records in place, or activates a new grant.
* `stepPc_returns`, `stepPc_holds`, `stepPc_session`, `stepPc_consumed`,
  `stepPc_revoked`, `stepPc_torn`, `stepPc_presents`: what a step needs to
  return, to hold a token, and so on.

Line numbers are those of app/services/voice_bakeoff_security_contracts.py.
-/
namespace HeyKevin.L10.Saga

open HeyKevin.Core L1 L1.Text L10.Control L10.PreAuth

/-! ## Store calls that fail -/

inductive Fault
  | ok
  | refuse (happens : Bool)
  | raise (happens : Bool)
deriving DecidableEq

namespace Fault

def happens : Fault → Bool
  | ok => true
  | refuse h => h
  | raise h => h

/-- What the caller gets; `none` raises. -/
def answer {ρ : Type} (f : Fault) (answer refusal : ρ) : Option ρ :=
  match f with
  | ok => some answer
  | refuse _ => some refusal
  | raise _ => none

def state {σ : Type} (f : Fault) (old new : σ) : σ := if f.happens then new else old

end Fault

/-! ## Calls -/

/-- mirrors 2058-2071 -/
structure ActiveSecuritySession where
  controlRef : OpaqueRef
  preauthRef : OpaqueRef
  bindingDigest : Digest
  issuedToken : IssuedPreAuthToken
deriving DecidableEq

/-- mirrors 2075-2085 -/
structure TeardownResult where
  preauthRevoked : Bool
  controlRevoked : Bool
deriving DecidableEq

inductive SagaCall
  | admitAndActivate (approval : VerifiedApproval) (nowMs activationTtlMs tokenTtlMs : ℤ)
  | consume (session : ActiveSecuritySession) (protectedToken : Str) (nowMs : ℤ)
  | teardown (session : ActiveSecuritySession) (reason : RevocationReason) (nowMs : ℤ)

/-- The store call that a thread makes next. -/
inductive Pc
  | admitting (approval : VerifiedApproval) (nowMs activationTtlMs tokenTtlMs : ℤ)
  | activating (bundle : AdmissionBundle) (nowMs tokenTtlMs : ℤ)
  /-- `_recover_preauth_ref` -/
  | recovering (bundle : AdmissionBundle) (nowMs : ℤ)
  | finalizing (bundle : AdmissionBundle) (token : IssuedPreAuthToken)
    (ack : PreAuthActivationAcknowledgement) (nowMs : ℤ)
  | confirming (bundle : AdmissionBundle) (token : IssuedPreAuthToken)
    (ack : PreAuthActivationAcknowledgement) (proof : ControlActivationProof) (nowMs : ℤ)
  /-- `_compensate`, in the pre-auth store -/
  | compensatingPreauth (controlRef preauthRef : OpaqueRef) (reason : RevocationReason) (nowMs : ℤ)
  /-- `_compensate`, in the control store -/
  | compensatingControl (controlRef : OpaqueRef) (reason : RevocationReason) (nowMs : ℤ)
  | authorizing (session : ActiveSecuritySession) (protectedToken : Str) (nowMs : ℤ)
  | consuming (session : ActiveSecuritySession) (protectedToken : Str) (nowMs : ℤ)
  | revokingPreauth (session : ActiveSecuritySession) (reason : RevocationReason) (nowMs : ℤ)
  | revokingControl (session : ActiveSecuritySession) (preauthRevoked : Bool)
    (reason : RevocationReason) (nowMs : ℤ)
  | done

inductive Output
  | running
  | session (s : Option ActiveSecuritySession)
  | consumed (b : Bool)
  | torn (r : TeardownResult)
  | raised

structure SagaDraw where
  control : Control.Draw
  /-- The answer of the control store's commit authorizer. -/
  authorized : Bool
  preauth : PreAuth.Draw

structure SagaState where
  control : MemoryStore
  preauth : TokenStore
  threads : ℕ → Option Pc

inductive Action
  | begin (thread : ℕ) (call : SagaCall)
  | step (thread : ℕ) (fault : Fault) (draw : SagaDraw)

def SagaCall.pc : SagaCall → Pc
  | admitAndActivate approval nowMs activationTtlMs tokenTtlMs =>
    .admitting approval nowMs activationTtlMs tokenTtlMs
  | consume session protectedToken nowMs => .authorizing session protectedToken nowMs
  | teardown session reason nowMs => .revokingPreauth session reason nowMs

section

variable (C : Control.Authorities) (P : PreAuth.Authorities)

/-! ## Steps -/

/-- mirrors 2107-2219 (`admit_and_activate`,
`_recover_preauth_ref`, `_compensate`) and :2221-2278 (`consume`, `teardown`) -/
def stepPc (control : MemoryStore) (preauth : TokenStore) (fault : Fault) (draw : SagaDraw) :
    Pc → MemoryStore × TokenStore × Pc × Output
  | .admitting approval nowMs activationTtlMs tokenTtlMs =>
    let res := control.admitApproval C approval nowMs activationTtlMs draw.authorized draw.control
    let control := fault.state control res.1
    match (fault.answer res.2 none).join with
    | some bundle => (control, preauth, .activating bundle nowMs tokenTtlMs, .running)
    | none => (control, preauth, .done, .session none)
  | .activating bundle nowMs tokenTtlMs =>
    let res := preauth.activate P bundle.grant nowMs tokenTtlMs draw.preauth
    let preauth := fault.state preauth res.1
    match (fault.answer res.2 none).join with
    | some ⟨some token, ack⟩ => (control, preauth, .finalizing bundle token ack nowMs, .running)
    | some ⟨none, ack⟩ =>
      (control, preauth, .compensatingPreauth bundle.receipt.controlRef ack.preauthRef
        .activationFailed nowMs, .running)
    | none => (control, preauth, .recovering bundle nowMs, .running)
  | .recovering bundle nowMs =>
    match (fault.answer (preauth.recoverActivation bundle.grant) none).join with
    | some ack =>
      (control, preauth, .compensatingPreauth bundle.receipt.controlRef ack.preauthRef
        .activationFailed nowMs, .running)
    | none =>
      (control, preauth, .compensatingControl bundle.receipt.controlRef .activationFailed nowMs,
        .running)
  | .finalizing bundle token ack nowMs =>
    let res := control.finalize C ack nowMs
    let control := fault.state control res.1
    match (fault.answer res.2 none).join with
    | some proof => (control, preauth, .confirming bundle token ack proof nowMs, .running)
    | none =>
      (control, preauth, .compensatingPreauth bundle.receipt.controlRef ack.preauthRef
        .controlFinalizationFailed nowMs, .running)
  | .confirming bundle token ack proof nowMs =>
    let res := preauth.confirmControlActive P proof nowMs
    let preauth := fault.state preauth res.1
    if (fault.answer res.2 false).getD false then
      (control, preauth, .done, .session (some ⟨bundle.receipt.controlRef, ack.preauthRef,
        bundle.receipt.bindingDigest, token⟩))
    else
      (control, preauth, .compensatingPreauth bundle.receipt.controlRef ack.preauthRef
        .controlConfirmationFailed nowMs, .running)
  | .compensatingPreauth controlRef preauthRef reason nowMs =>
    let res := preauth.revoke preauthRef.val reason nowMs
    (control, fault.state preauth res.1, .compensatingControl controlRef reason nowMs, .running)
  | .compensatingControl controlRef reason nowMs =>
    let res := control.revoke controlRef.val reason nowMs
    (fault.state control res.1, preauth, .done, .session none)
  | .authorizing session protectedToken nowMs =>
    let res := control.authorizesSession session.controlRef.val session.preauthRef.val
      session.bindingDigest.val (P.tokenDigest protectedToken).val nowMs
    let control := fault.state control res.1
    match fault.answer res.2 false with
    | some true => (control, preauth, .consuming session protectedToken nowMs, .running)
    | some false => (control, preauth, .done, .consumed false)
    | none => (control, preauth, .done, .raised)
  | .consuming session protectedToken nowMs =>
    let res := preauth.consume P session.preauthRef.val session.controlRef.val
      session.bindingDigest.val protectedToken nowMs
    let preauth := fault.state preauth res.1
    match fault.answer res.2 false with
    | some b => (control, preauth, .done, .consumed b)
    | none => (control, preauth, .done, .raised)
  | .revokingPreauth session reason nowMs =>
    let res := preauth.revoke session.preauthRef.val reason nowMs
    (control, fault.state preauth res.1,
      .revokingControl session ((fault.answer res.2 false).getD false) reason nowMs, .running)
  | .revokingControl session preauthRevoked reason nowMs =>
    let res := control.revoke session.controlRef.val reason nowMs
    (fault.state control res.1, preauth, .done,
      .torn ⟨preauthRevoked, (fault.answer res.2 false).getD false⟩)
  | .done => (control, preauth, .done, .running)

def saga : Machine SagaState Action Output := fun s action =>
  match action with
  | .begin i call =>
    match s.threads i with
    | none => ({ s with threads := Function.update s.threads i (some call.pc) }, .running)
    | some _ => (s, .running)
  | .step i fault draw =>
    match s.threads i with
    | none => (s, .running)
    | some pc =>
      let (control, preauth, pc, output) := stepPc C P s.control s.preauth fault draw pc
      (⟨control, preauth, Function.update s.threads i (some pc)⟩, output)

def SagaState.init : SagaState := ⟨.empty, .empty, fun _ => none⟩

variable {C P} {control : MemoryStore} {preauth : TokenStore} {fault : Fault} {draw : SagaDraw}
  {pc : Pc}

structure Adds (preauth : TokenStore) (fault : Fault) (draw : SagaDraw) (bundle : AdmissionBundle)
    (nowMs ttlMs : ℤ) : Prop where
  happens : fault.happens = true
  new : preauth.grantIndex.find? bundle.grant.grantIdDigest = none
  activates : preauth.activate P bundle.grant nowMs ttlMs draw.preauth =
    ({ records := preauth.records.set draw.preauth.preauthRef.val
        (TokenStore.newRecord P bundle.grant nowMs ttlMs draw.preauth)
       grantIndex :=
        preauth.grantIndex.set bundle.grant.grantIdDigest draw.preauth.preauthRef.val
       acknowledgements := preauth.acknowledgements.set draw.preauth.preauthRef.val
        (TokenStore.newAcknowledgement P bundle.grant nowMs draw.preauth) },
      some ⟨some (TokenStore.newToken P bundle.grant nowMs ttlMs draw.preauth),
        TokenStore.newAcknowledgement P bundle.grant nowMs draw.preauth⟩)

theorem Fault.touches {p p' : TokenStore} (f : Fault) (h : TokenStore.Touches p p') :
    TokenStore.Touches p (f.state p p') := by
  unfold Fault.state
  split
  · exact h
  · exact .refl p

theorem stepPc_preauth (hp : preauth.Keyed) :
    TokenStore.Touches preauth (stepPc C P control preauth fault draw pc).2.1 ∨
    ∃ bundle nowMs ttlMs, pc = .activating bundle nowMs ttlMs ∧
      Adds (P := P) preauth fault draw bundle nowMs ttlMs := by
  cases pc with
  | admitting =>
    simp only [stepPc]
    split <;> exact .inl (.refl _)
  | activating bundle nowMs ttlMs =>
    by_cases hhappens : fault.happens = true
    · rcases TokenStore.activate_cases P preauth bundle.grant nowMs ttlMs draw.preauth with
        ⟨hsame, -⟩ | ⟨hnew, hact⟩
      · left
        simp only [stepPc, Fault.state, hhappens, if_true, hsame]
        split <;> exact .refl _
      · exact .inr ⟨bundle, nowMs, ttlMs, rfl, hhappens, hnew, hact⟩
    · left
      simp only [stepPc, Fault.state, hhappens]
      split <;> exact .refl _
  | recovering =>
    simp only [stepPc]
    split <;> exact .inl (.refl _)
  | finalizing =>
    simp only [stepPc]
    split <;> exact .inl (.refl _)
  | confirming bundle token ack proof nowMs =>
    simp only [stepPc]
    split <;> exact .inl (fault.touches (TokenStore.confirmControlActive_touches P hp proof nowMs))
  | compensatingPreauth controlRef preauthRef reason nowMs =>
    exact .inl (fault.touches (TokenStore.revoke_touches hp preauthRef.val reason nowMs))
  | compensatingControl => exact .inl (.refl _)
  | authorizing =>
    simp only [stepPc]
    split <;> exact .inl (.refl _)
  | consuming session protectedToken nowMs =>
    simp only [stepPc]
    split <;> exact .inl (fault.touches (TokenStore.consume_touches P hp _ _ _ _ _))
  | revokingPreauth session reason nowMs =>
    exact .inl (fault.touches (TokenStore.revoke_touches hp session.preauthRef.val reason nowMs))
  | revokingControl => exact .inl (.refl _)
  | done => exact .inl (.refl _)

theorem stepPc_returns (C : Control.Authorities) (P : PreAuth.Authorities) (control : MemoryStore)
    (preauth : TokenStore) (fault : Fault) (draw : SagaDraw) (pc : Pc) :
    ((stepPc C P control preauth fault draw pc).2.2.2 = .running ∨
      (stepPc C P control preauth fault draw pc).2.2.1 = .done) ∧
    (pc = .done → (stepPc C P control preauth fault draw pc).2.2.1 = .done ∧
      (stepPc C P control preauth fault draw pc).2.2.2 = .running) := by
  constructor
  · cases pc <;> simp only [stepPc] <;> (try split) <;> simp
  · rintro rfl
    exact ⟨rfl, rfl⟩

/-- The token that a thread holds, with the grant and the record that it is of. -/
def Pc.holds : Pc → Option (AdmissionBundle × IssuedPreAuthToken × OpaqueRef)
  | .finalizing bundle token ack _ => some (bundle, token, ack.preauthRef)
  | .confirming bundle token ack _ _ => some (bundle, token, ack.preauthRef)
  | _ => none

/-- The token that the thread of a `consume` was given. -/
def Pc.presents : Pc → Option Str
  | .authorizing _ protectedToken _ => some protectedToken
  | .consuming _ protectedToken _ => some protectedToken
  | _ => none

/-- The record that a `teardown` has revoked. -/
def Pc.revoked : Pc → Option Str
  | .revokingControl session true _ _ => some session.preauthRef.val
  | _ => none

theorem Fault.answer_some {ρ : Type} {f : Fault} {a refusal b : ρ}
    (h : f.answer a refusal = some b) (hne : b ≠ refusal) : f = .ok ∧ a = b := by
  cases f with
  | ok => exact ⟨rfl, Option.some.inj h⟩
  | refuse => exact absurd (Option.some.inj h).symm hne
  | raise => cases h

theorem Fault.join_some {ρ : Type} {f : Fault} {a : Option ρ} {b : ρ}
    (h : (f.answer a none).join = some b) : f = .ok ∧ a = some b := by
  rw [Option.join_eq_some_iff] at h
  obtain ⟨hf, ha⟩ := f.answer_some h nofun
  exact ⟨hf, ha⟩

theorem Fault.getD_true {f : Fault} {a : Bool} (h : (f.answer a false).getD false = true) :
    f = .ok ∧ a = true := by
  cases f with
  | ok => exact ⟨rfl, h⟩
  | refuse => cases h
  | raise => cases h

theorem stepPc_holds {held : AdmissionBundle × IssuedPreAuthToken × OpaqueRef}
    (h : (stepPc C P control preauth fault draw pc).2.2.1.holds = some held) :
    pc.holds = some held ∨ ∃ bundle nowMs ttlMs,
      pc = .activating bundle nowMs ttlMs ∧ Adds (P := P) preauth fault draw bundle nowMs ttlMs ∧
      held = (bundle, TokenStore.newToken P bundle.grant nowMs ttlMs draw.preauth,
        draw.preauth.preauthRef) := by
  cases pc with
  | activating bundle nowMs ttlMs =>
    simp only [stepPc] at h
    split at h
    · rename_i token ack hans
      obtain ⟨rfl, hact⟩ := Fault.join_some hans
      rcases TokenStore.activate_cases P preauth bundle.grant nowMs ttlMs draw.preauth with
        ⟨-, hno⟩ | ⟨hnew, hact'⟩
      · cases hno _ hact
      · rw [hact'] at hact
        cases hact
        exact .inr ⟨bundle, nowMs, ttlMs, rfl, ⟨rfl, hnew, hact'⟩, (Option.some.inj h).symm⟩
    · cases h
    · cases h
  | finalizing =>
    simp only [stepPc] at h
    split at h
    · exact .inl h
    · cases h
  | admitting | recovering | confirming | authorizing | consuming =>
    simp only [stepPc] at h
    split at h <;> cases h
  | compensatingPreauth | compensatingControl | revokingPreauth | revokingControl | done => cases h

theorem stepPc_session {session : ActiveSecuritySession}
    (h : (stepPc C P control preauth fault draw pc).2.2.2 = .session (some session)) :
    ∃ bundle, pc.holds = some (bundle, session.issuedToken, session.preauthRef) := by
  cases pc with
  | confirming bundle token ack proof nowMs =>
    simp only [stepPc] at h
    split at h
    · cases h
      exact ⟨bundle, rfl⟩
    · cases h
  | admitting | activating | recovering | finalizing | authorizing | consuming =>
    simp only [stepPc] at h
    split at h <;> cases h
  | compensatingPreauth | compensatingControl | revokingPreauth | revokingControl | done => cases h

theorem stepPc_consumed
    (h : (stepPc C P control preauth fault draw pc).2.2.2 = .consumed true) :
    ∃ session protectedToken nowMs, pc = .consuming session protectedToken nowMs ∧
      (preauth.consume P session.preauthRef.val session.controlRef.val session.bindingDigest.val
        protectedToken nowMs).2 = true ∧
      (stepPc C P control preauth fault draw pc).2.1 =
        (preauth.consume P session.preauthRef.val session.controlRef.val
          session.bindingDigest.val protectedToken nowMs).1 := by
  cases pc with
  | consuming session protectedToken nowMs =>
    simp only [stepPc] at h ⊢
    split at h
    · rename_i b hans
      cases h
      obtain ⟨rfl, hb⟩ := Fault.answer_some hans nofun
      exact ⟨session, protectedToken, nowMs, rfl, hb, rfl⟩
    · cases h
  | admitting | activating | recovering | finalizing | confirming | authorizing =>
    simp only [stepPc] at h
    split at h <;> cases h
  | compensatingPreauth | compensatingControl | revokingPreauth | revokingControl | done => cases h

theorem stepPc_revoked {ref : Str}
    (h : (stepPc C P control preauth fault draw pc).2.2.1.revoked = some ref) :
    ∃ reason nowMs, (preauth.revoke ref reason nowMs).2 = true ∧
      (stepPc C P control preauth fault draw pc).2.1 = (preauth.revoke ref reason nowMs).1 := by
  cases pc with
  | revokingPreauth session reason nowMs =>
    simp only [stepPc] at h ⊢
    cases hans : (fault.answer (preauth.revoke session.preauthRef.val reason nowMs).2
        false).getD false with
    | false =>
      rw [hans] at h
      cases h
    | true =>
      rw [hans] at h
      cases h
      obtain ⟨rfl, hres⟩ := Fault.getD_true hans
      exact ⟨reason, nowMs, hres, rfl⟩
  | admitting | activating | recovering | finalizing | confirming | authorizing | consuming =>
    simp only [stepPc] at h
    split at h <;> cases h
  | compensatingPreauth | compensatingControl | revokingControl | done => cases h

theorem stepPc_torn {result : TeardownResult}
    (h : (stepPc C P control preauth fault draw pc).2.2.2 = .torn result)
    (hrevoked : result.preauthRevoked = true) : ∃ ref, pc.revoked = some ref := by
  cases pc with
  | revokingControl session preauthRevoked reason nowMs =>
    cases h
    simp only at hrevoked
    subst hrevoked
    exact ⟨session.preauthRef.val, rfl⟩
  | admitting | activating | recovering | finalizing | confirming | authorizing | consuming =>
    simp only [stepPc] at h
    split at h <;> cases h
  | compensatingPreauth | compensatingControl | revokingPreauth | done => cases h

theorem stepPc_presents {token : Str}
    (h : (stepPc C P control preauth fault draw pc).2.2.1.presents = some token) :
    pc.presents = some token := by
  cases pc with
  | authorizing =>
    simp only [stepPc] at h
    split at h
    · exact h
    · cases h
    · cases h
  | admitting | activating | recovering | finalizing | confirming | consuming =>
    simp only [stepPc] at h
    split at h <;> cases h
  | compensatingPreauth | compensatingControl | revokingPreauth | revokingControl | done => cases h

end

end HeyKevin.L10.Saga
