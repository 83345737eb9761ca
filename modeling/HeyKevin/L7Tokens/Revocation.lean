import HeyKevin.L7Tokens.Documents
import HeyKevin.L7Tokens.Fencing
/-!
# One revocation per generation

mirrors the calling side of `disconnect_provider_envelope_cas`
(app/services/integration_token_mutations.py:3036-3060, 3446-3527).

A disconnect runs its body as often as the transaction is retried; every run
resets and fills the result boxes, and commits or does not. In the end the
caller verifies the stored documents against the boxes, whether the commit was
confirmed or not, and returns the token in them at most once.

A disconnect is known by its claim candidate here: distinct calls have distinct
candidates.

* `session`: bodies, verifications and all other transactions in any order.
* `Revocation`: what a run guarantees.
* `revocation_run_iff`: a run guarantees it exactly when no outcome is recorded
  that says that no request was made.
-/
namespace HeyKevin.L7.Tokens

open HeyKevin.Core Binary64 L1 L1.Text L1.Datetime

/-- The store, and by claim candidate the boxes of each disconnect and whether
it has ended. -/
structure Session where
  store : Store
  boxes : Str → Option DisconnectResult
  ended : Str → Bool

def Session.start (s : Store) : Session := ⟨s, fun _ => none, fun _ => false⟩

inductive Act
  /-- A transaction of any other caller. -/
  | call (c : Call)
  /-- One run of a disconnect's body. -/
  | attempt (d : Disconnect) (commits : Bool)
  /-- The verification at the end of a disconnect. -/
  | settle (candidate : Str)

inductive Reply
  | done (result : Except Error Result)
  | prepared
  | raised (e : Error)
  | returned (res : DisconnectResult)
  | ignored

def session (contractorId : Str) : Machine Session Act Reply := fun σ => fun
  | .call c => ({ σ with store := (step contractorId σ.store c).1 },
      .done (step contractorId σ.store c).2)
  | .attempt d commits =>
    if σ.ended d.candidateClaimId then (σ, .ignored)
    else match disconnect contractorId d σ.store with
      | .ok (s, res) =>
        ({ σ with
            store := if commits then s else σ.store
            boxes := Function.update σ.boxes d.candidateClaimId (some res) }, .prepared)
      | .error e => ({ σ with boxes := Function.update σ.boxes d.candidateClaimId none }, .raised e)
  | .settle candidate =>
    if σ.ended candidate then (σ, .ignored)
    else match σ.boxes candidate with
      | none => (σ, .ignored)
      | some res =>
        ({ σ with ended := Function.update σ.ended candidate true },
          match verifyDisconnect contractorId res σ.store with
          | .ok _ => .returned res
          | .error e => .raised e)

abbrev SessionEvent := Event Session Act Reply

/-- The disconnect returns an access token for revocation, in the generation `g`. -/
def Grants (e : SessionEvent) (g : ℤ) : Prop :=
  ∃ res, e.resp = .returned res ∧ res.accessTokenForRevocation.isSome ∧ res.generation = g

/-- The event records, as the outcome of a request, that none was made. -/
def MisreportsAt (e : SessionEvent) : Prop :=
  ∃ c res, e.call = .call c ∧ Misreports c ∧ e.resp = .done (.ok res)

section

variable (contractorId : Str)

def statusAt (s : Store) (g : ℤ) : Option Value :=
  (outboxAt contractorId s g).map fun x => x.get "status"

def claimAt (s : Store) (g : ℤ) : Option Value :=
  (outboxAt contractorId s g).map fun x => x.get "claim_id"

/-- The event moves the status from `v` to `w`. -/
def MovesStatus (e : SessionEvent) (g : ℤ) (v w : Value) : Prop :=
  statusAt contractorId e.pre.store g = some v ∧ statusAt contractorId e.post.store g = some w ∧
    v ≠ w

structure Revocation (s : Store) (acts : List Act) : Prop where
  /-- At most one disconnect of a generation returns a token. -/
  token : ((session contractorId).log (.start s) acts).Pairwise fun e f =>
    ∀ g, Grants e g → ¬ Grants f g
  /-- Every pair is absent or accepted. -/
  pair : ∀ e ∈ (session contractorId).log (.start s) acts, ∀ g, Sound contractorId e.post.store g
  /-- A status moves from `provider_request_started` to a terminal one, under
  the stored claim. -/
  status : ∀ e ∈ (session contractorId).log (.start s) acts, ∀ g v w,
    MovesStatus contractorId e g v w → v = .text RevocationStatus.requestStarted.text ∧
      ∃ c, e.call = .call (.recordOutcome c) ∧
        claimAt contractorId e.pre.store g = some (.str c.claimId) ∧
        w = .text c.outcomeStatus.text ∧ c.outcomeStatus.IsTerminal
  /-- It moves once. -/
  once : ((session contractorId).log (.start s) acts).Pairwise fun e f =>
    ∀ g v w v' w', MovesStatus contractorId e g v w → ¬ MovesStatus contractorId f g v' w'
  /-- A finalized pair agrees on status and time, and stays. -/
  finalized : ∀ l₁ e l₂, (session contractorId).log (.start s) acts = l₁ ++ e :: l₂ →
    ∀ g d x a o, auditAt contractorId e.pre.store g = some d →
      outboxAt contractorId e.pre.store g = some x → PairAt contractorId g d x a o →
      o.auditFinalized = true →
      (o.status.IsTerminal ∧ a.revocationStatus = o.status ∧
        a.revocationCompletedAt = some o.updatedAt) ∧
      ∀ f ∈ e :: l₂, auditAt contractorId f.post.store g = some d ∧
        outboxAt contractorId f.post.store g = some x

end

variable {contractorId : Str}

/-! ## Steps of a session -/

variable (contractorId) in
theorem session_store (σ : Session) (act : Act) :
    ((session contractorId) σ act).1.store = σ.store ∨
      ∃ call res, body contractorId σ.store call = .ok (((session contractorId) σ act).1.store, res) ∧
        (act = .call call ∧ ((session contractorId) σ act).2 = .done (.ok res) ∨
          ∃ d, call = .disconnect d) := by
  cases act with
  | call c =>
    unfold session step
    cases h : body contractorId σ.store c with
    | error e => exact .inl (by simp only [h])
    | ok x =>
      obtain ⟨t, res⟩ := x
      exact .inr ⟨c, res, by simp only [h], .inl ⟨rfl, by simp only [h]⟩⟩
  | attempt d commits =>
    unfold session
    by_cases he : σ.ended d.candidateClaimId
    · exact .inl (by simp only [he, if_true])
    · simp only [he, if_false, Bool.false_eq_true]
      cases h : disconnect contractorId d σ.store with
      | error e => exact .inl rfl
      | ok x =>
        obtain ⟨t, res⟩ := x
        cases commits with
        | false => exact .inl rfl
        | true =>
          refine .inr ⟨.disconnect d, .disconnected res, ?_, .inr ⟨d, rfl⟩⟩
          simp only [body, h, ok_bind, pure_eq_ok, if_true]
  | settle k =>
    refine .inl ?_
    unfold session
    by_cases he : σ.ended k
    · simp only [he, if_true]
    · simp only [he, if_false, Bool.false_eq_true]
      cases σ.boxes k <;> rfl

variable (contractorId) in
theorem session_docStep (σ : Session) (act : Act) (g : ℤ) :
    (auditAt contractorId ((session contractorId) σ act).1.store g =
        auditAt contractorId σ.store g ∧
      outboxAt contractorId ((session contractorId) σ act).1.store g =
        outboxAt contractorId σ.store g) ∨
    ∃ call, DocStep contractorId call σ.store ((session contractorId) σ act).1.store g ∧
      ((∃ res, act = .call call ∧ ((session contractorId) σ act).2 = .done (.ok res)) ∨
        ∃ d, call = .disconnect d) := by
  rcases session_store contractorId σ act with h | ⟨call, res, h, ha⟩
  · rw [h]
    exact .inl ⟨rfl, rfl⟩
  · exact .inr ⟨call, docStep_of_body h g, ha.imp (fun h => ⟨res, h⟩) id⟩

theorem recordedOutbox_get (x : Dict) (status : RevocationStatus) (t : Double) :
    (recordedOutbox x status t).get "status" = .text status.text ∧
      (recordedOutbox x status t).get "claim_id" = x.get "claim_id" := by
  simp [recordedOutbox]

theorem finalizedOutbox_get (x : Dict) (t : Double) :
    (finalizedOutbox x t).get "status" = x.get "status" ∧
      (finalizedOutbox x t).get "claim_id" = x.get "claim_id" := by
  simp [finalizedOutbox]

theorem PairAt.stored {g : ℤ} {d x : Dict} {a : Audit} {o : Outbox}
    (h : PairAt contractorId g d x a o) :
    x.get "status" = .text o.status.text ∧ x.get "claim_id" = optStr o.claimId := by
  obtain ⟨-, ⟨hx, -⟩, -⟩ := pairAt_iff.mp h
  rw [hx.get, hx.get]
  simp [buildDisconnectOutboxRecord]

theorem DocStep.claim {call : Call} {s t : Store} {g : ℤ} {v : Value}
    (h : DocStep contractorId call s t g) (hv : claimAt contractorId s g = some v) :
    claimAt contractorId t g = some v := by
  unfold claimAt at hv ⊢
  cases h with
  | kept audit outbox =>
    rw [outbox]
    exact hv
  | created d x a o noAudit noOutbox =>
    rw [noOutbox] at hv
    cases hv
  | completed x noAudit hadOutbox outbox =>
    rw [hadOutbox] at hv
    rw [outbox]
    exact hv
  | recorded c d x a o now call_eq hadAudit hadOutbox pair claim started terminal audit outbox =>
    rw [hadOutbox, Option.map_some] at hv
    rw [outbox, Option.map_some, (recordedOutbox_get _ _ _).2]
    exact hv
  | finalized d x a o now hadAudit hadOutbox pair terminal unfinalized audit outbox =>
    rw [hadOutbox, Option.map_some] at hv
    rw [outbox, Option.map_some, (finalizedOutbox_get _ _).2]
    exact hv

theorem DocStep.status {call : Call} {s t : Store} {g : ℤ} {v : Value}
    (h : DocStep contractorId call s t g) (hv : statusAt contractorId s g = some v) :
    statusAt contractorId t g = some v ∨ v = .text RevocationStatus.requestStarted.text ∧
      ∃ c, call = .recordOutcome c ∧ claimAt contractorId s g = some (.str c.claimId) ∧
        statusAt contractorId t g = some (.text c.outcomeStatus.text) ∧
        c.outcomeStatus.IsTerminal := by
  unfold statusAt at hv ⊢
  cases h with
  | kept audit outbox =>
    rw [outbox]
    exact .inl hv
  | created d x a o noAudit noOutbox =>
    rw [noOutbox] at hv
    cases hv
  | completed x noAudit hadOutbox outbox =>
    rw [hadOutbox] at hv
    rw [outbox]
    exact .inl hv
  | recorded c d x a o now call_eq hadAudit hadOutbox pair claim started terminal audit outbox =>
    rw [hadOutbox, Option.map_some] at hv
    refine .inr ⟨?_, c, call_eq, ?_, ?_, terminal⟩
    · rw [← Option.some.inj hv, pair.stored.1, started]
    · rw [claimAt, hadOutbox, Option.map_some, pair.stored.2, claim]
      rfl
    · rw [outbox, Option.map_some, (recordedOutbox_get _ _ _).1]
  | finalized d x a o now hadAudit hadOutbox pair terminal unfinalized audit outbox =>
    rw [hadOutbox, Option.map_some] at hv
    rw [outbox, Option.map_some, (finalizedOutbox_get _ _).1]
    exact .inl hv

theorem DocStep.final {call : Call} {s t : Store} {g : ℤ} {d x : Dict} {a : Audit} {o : Outbox}
    (h : DocStep contractorId call s t g) (hd : auditAt contractorId s g = some d)
    (hx : outboxAt contractorId s g = some x) (hp : PairAt contractorId g d x a o)
    (hf : o.auditFinalized = true) :
    auditAt contractorId t g = some d ∧ outboxAt contractorId t g = some x := by
  cases h with
  | kept audit outbox => exact ⟨audit.trans hd, outbox.trans hx⟩
  | created d' x' a' o' noAudit =>
    rw [noAudit] at hd
    cases hd
  | completed x' noAudit =>
    rw [noAudit] at hd
    cases hd
  | recorded c d' x' a' o' now call_eq hadAudit hadOutbox pair claim started =>
    cases hadAudit.symm.trans hd
    cases hadOutbox.symm.trans hx
    obtain ⟨-, rfl⟩ := hp.unique pair
    exact absurd started (hp.finalized hf).1
  | finalized d' x' a' o' now hadAudit hadOutbox pair terminal unfinalized =>
    cases hadAudit.symm.trans hd
    cases hadOutbox.symm.trans hx
    obtain ⟨-, rfl⟩ := hp.unique pair
    rw [hf] at unfinalized
    cases unfinalized

/-! ## Tokens -/

theorem disconnect_token {d : Disconnect} {s : Store} {y : Store × DisconnectResult}
    (h : disconnect contractorId d s = .ok y) (ht : y.2.accessTokenForRevocation.isSome) :
    y.2.outbox.claimId = some d.candidateClaimId := by
  simp only [disconnect, disconnectTxn, bind_eq_ok, ensure_eq_ok, exists_unit, mapError_eq_ok] at h
  obtain ⟨-, -, now, -, l, -, h⟩ := h
  split at h
  · -- the branch of a clean tombstone hands out no token
    have hnone : y.2.accessTokenForRevocation = none := by
      simp only [disconnectTombstone] at h
      split at h
      · simp only [bind_eq_ok, mapError_eq_ok, pure_eq_ok, Except.ok.injEq] at h
        obtain ⟨-, -, rfl⟩ := h
        rfl
      · simp only [bind_eq_ok, pure_eq_ok, Except.ok.injEq] at h
        obtain ⟨_, -, _, -, _, -, rfl⟩ := h
        rfl
      · simp only [bind_eq_ok, mapError_eq_ok, ensure_eq_ok, exists_unit, pure_eq_ok,
          Except.ok.injEq] at h
        obtain ⟨_, -, -, _, -, _, -, _, -, rfl⟩ := h
        rfl
      · cases h
    rw [hnone] at ht
    cases ht
  · simp only [disconnectMutation, bind_eq_ok, ensure_eq_ok, exists_unit, pure_eq_ok,
      Except.ok.injEq] at h
    obtain ⟨-, -, -, actor, -, reason, -, p, -, rfl⟩ := h
    obtain ⟨tok, htok⟩ := Option.isSome_iff_exists.mp ht
    simp only at htok
    simp [newOutbox, htok]

theorem verifyDisconnect_claim {res : DisconnectResult} {s : Store} {u : Unit} {k : Str}
    (h : verifyDisconnect contractorId res s = .ok u) (hk : res.outbox.claimId = some k) :
    claimAt contractorId s res.generation = some (.str k) := by
  simp only [verifyDisconnect, bind_eq_ok, ensure_eq_ok, exists_unit, require_eq_ok] at h
  obtain ⟨-, -, -, -, -, x, hx, o, ho, hext, -⟩ := h
  obtain ⟨hsame, -, -⟩ := validateOutboxRecord_eq_ok.mp ho
  have hclaim : o.claimId = some k := by
    rw [← hk, ← hext.1]
  rw [claimAt, outboxAt, hx, Option.map_some, hsame.get]
  simp [buildDisconnectOutboxRecord, hclaim, optStr]

/-- A box that holds a token holds the claim of its disconnect. -/
def BoxesOk (σ : Session) : Prop :=
  ∀ k res, σ.boxes k = some res → res.accessTokenForRevocation.isSome →
    res.outbox.claimId = some k

theorem boxesOk_step (σ : Session) (act : Act) (h : BoxesOk σ) :
    BoxesOk ((session contractorId) σ act).1 := by
  cases act with
  | call c => exact h
  | attempt d commits =>
    unfold session
    by_cases he : σ.ended d.candidateClaimId
    · simp only [he, if_true]
      exact h
    · simp only [he, if_false, Bool.false_eq_true]
      cases hd : disconnect contractorId d σ.store with
      | error e =>
        intro k res hk ht
        simp only [Function.update_apply] at hk
        split at hk
        · cases hk
        · exact h k res hk ht
      | ok y =>
        intro k res hk ht
        simp only [Function.update_apply] at hk
        split at hk
        · rename_i hkd
          cases hk
          rw [hkd]
          exact disconnect_token hd ht
        · exact h k res hk ht
  | settle k =>
    unfold session
    by_cases he : σ.ended k
    · simp only [he, if_true]
      exact h
    · simp only [he, if_false, Bool.false_eq_true]
      cases σ.boxes k <;> exact h

theorem ended_step (σ : Session) (act : Act) {k : Str} (h : σ.ended k = true) :
    ((session contractorId) σ act).1.ended k = true := by
  cases act with
  | call c => exact h
  | attempt d commits =>
    unfold session
    by_cases he : σ.ended d.candidateClaimId
    · simp only [he, if_true]
      exact h
    · simp only [he, if_false, Bool.false_eq_true]
      cases disconnect contractorId d σ.store <;> exact h
  | settle j =>
    unfold session
    by_cases he : σ.ended j
    · simp only [he, if_true]
      exact h
    · simp only [he, if_false, Bool.false_eq_true]
      cases σ.boxes j with
      | none => exact h
      | some res =>
        simp only [Function.update_apply]
        split
        · rfl
        · exact h

theorem claimAt_step (σ : Session) (act : Act) {g : ℤ} {v : Value}
    (h : claimAt contractorId σ.store g = some v) :
    claimAt contractorId ((session contractorId) σ act).1.store g = some v := by
  rcases session_docStep contractorId σ act g with ⟨-, hx⟩ | ⟨call, hd, -⟩
  · rw [claimAt, hx]
    exact h
  · exact hd.claim h

theorem grants_event {σ : Session} {act : Act} {g : ℤ} (hb : BoxesOk σ)
    (h : Grants ((session contractorId).event σ act) g) :
    ∃ k, σ.ended k = false ∧ ((session contractorId) σ act).1.ended k = true ∧
      claimAt contractorId σ.store g = some (.str k) := by
  obtain ⟨res, hres, htok, rfl⟩ := h
  rw [Machine.event_resp] at hres
  cases act with
  | call c => cases hres
  | attempt d commits =>
    unfold session at hres
    by_cases he : σ.ended d.candidateClaimId
    · simp only [he, if_true] at hres
      cases hres
    · simp only [he, if_false, Bool.false_eq_true] at hres
      cases hd : disconnect contractorId d σ.store <;> rw [hd] at hres <;> cases hres
  | settle k =>
    unfold session at hres ⊢
    by_cases he : σ.ended k
    · simp only [he, if_true] at hres
      cases hres
    · simp only [he, if_false, Bool.false_eq_true] at hres ⊢
      cases hbox : σ.boxes k with
      | none =>
        rw [hbox] at hres
        cases hres
      | some r =>
        rw [hbox] at hres
        simp only at hres
        cases hv : verifyDisconnect contractorId r σ.store with
        | error e =>
          rw [hv] at hres
          cases hres
        | ok u =>
          rw [hv] at hres
          cases hres
          exact ⟨k, by simpa using he, by simp,
            verifyDisconnect_claim hv (hb k res hbox htok)⟩

theorem token_once {σ : Session} {act : Act} (hb : BoxesOk σ) (acts : List Act) {f : SessionEvent}
    (hf : f ∈ (session contractorId).log ((session contractorId) σ act).1 acts) (g : ℤ)
    (he : Grants ((session contractorId).event σ act) g) : ¬ Grants f g := by
  intro hg
  obtain ⟨k, -, hend, hclaim⟩ := grants_event hb he
  have hinv := (session contractorId).log_pre
    (I := fun τ => BoxesOk τ ∧ τ.ended k = true ∧ claimAt contractorId τ.store g = some (.str k))
    ⟨boxesOk_step σ act hb, hend, claimAt_step σ act hclaim⟩
    (fun τ a h => ⟨boxesOk_step τ a h.1, ended_step τ a h.2.1, claimAt_step τ a h.2.2⟩) hf
  obtain ⟨hbf, hef, hcf⟩ := hinv.1
  obtain ⟨cs₁, a, cs₂, -, rfl⟩ := (session contractorId).mem_log hf
  rw [Machine.event_pre] at hbf hef hcf
  obtain ⟨j, hj, -, hcj⟩ := grants_event hbf hg
  rw [hcf] at hcj
  cases hcj
  rw [hef] at hj
  cases hj

/-! ## The status -/

theorem status_event {σ : Session} (act : Act) {g : ℤ} {v : Value}
    (hv : statusAt contractorId σ.store g = some v) :
    statusAt contractorId ((session contractorId) σ act).1.store g = some v ∨
      v = .text RevocationStatus.requestStarted.text ∧ ∃ c, act = .call (.recordOutcome c) ∧
        claimAt contractorId σ.store g = some (.str c.claimId) ∧
        statusAt contractorId ((session contractorId) σ act).1.store g =
          some (.text c.outcomeStatus.text) ∧ c.outcomeStatus.IsTerminal := by
  rcases session_docStep contractorId σ act g with ⟨-, hx⟩ | ⟨call, hd, ha⟩
  · refine .inl ?_
    rw [statusAt, hx]
    exact hv
  · rcases hd.status hv with h | ⟨h, c, rfl, hc, hs, ht⟩
    · exact .inl h
    · rcases ha with ⟨res, ha, -⟩ | ⟨d, hd⟩
      · exact .inr ⟨h, c, ha, hc, hs, ht⟩
      · cases hd

theorem status_stays (σ : Session) (act : Act) {g : ℤ}
    (h : ∃ v, statusAt contractorId σ.store g = some v ∧
      v ≠ .text RevocationStatus.requestStarted.text) :
    ∃ v, statusAt contractorId ((session contractorId) σ act).1.store g = some v ∧
      v ≠ .text RevocationStatus.requestStarted.text := by
  obtain ⟨v, hv, hne⟩ := h
  rcases status_event act hv with hs | ⟨hs, -⟩
  · exact ⟨v, hs, hne⟩
  · exact absurd hs hne

theorem moves_event {σ : Session} {act : Act} {g : ℤ} {v w : Value}
    (h : MovesStatus contractorId ((session contractorId).event σ act) g v w) :
    v = .text RevocationStatus.requestStarted.text ∧ ∃ c, act = .call (.recordOutcome c) ∧
      claimAt contractorId σ.store g = some (.str c.claimId) ∧
      w = .text c.outcomeStatus.text ∧ c.outcomeStatus.IsTerminal := by
  obtain ⟨hv, hw, hne⟩ := h
  rw [Machine.event_pre] at hv
  rw [Machine.event_post] at hw
  rcases status_event act hv with hs | ⟨hs, c, ha, hc, ht, hterm⟩
  · exact absurd (Option.some.inj (hs.symm.trans hw)) hne
  · exact ⟨hs, c, ha, hc, Option.some.inj (hw.symm.trans ht), hterm⟩

theorem status_once {σ : Session} {act : Act} (acts : List Act) {f : SessionEvent}
    (hf : f ∈ (session contractorId).log ((session contractorId) σ act).1 acts) (g : ℤ)
    (v w v' w' : Value) (he : MovesStatus contractorId ((session contractorId).event σ act) g v w) :
    ¬ MovesStatus contractorId f g v' w' := by
  intro hm
  obtain ⟨-, c, -, -, hw, hterm⟩ := moves_event he
  have hne : w ≠ .text RevocationStatus.requestStarted.text := by
    rw [hw]
    intro h
    exact hterm (RevocationStatus.text_injective (by simpa [Value.text] using h))
  have hinv := (session contractorId).log_pre
    (I := fun τ => ∃ v, statusAt contractorId τ.store g = some v ∧
      v ≠ .text RevocationStatus.requestStarted.text)
    ⟨w, he.2.1, hne⟩ (fun τ a h => status_stays τ a h) hf
  obtain ⟨u, hu, hun⟩ := hinv.1
  obtain ⟨cs₁, a, cs₂, -, rfl⟩ := (session contractorId).mem_log hf
  have hstart := (moves_event hm).1
  rw [Machine.event_pre] at hu
  have huv : u = v' := Option.some.inj (hu.symm.trans hm.1)
  exact hun (huv.trans hstart)

/-! ## Runs -/

theorem sound_step {σ : Session} {act : Act}
    (h : ∀ g, Sound contractorId σ.store g)
    (hok : ¬ MisreportsAt ((session contractorId).event σ act)) :
    ∀ g, Sound contractorId ((session contractorId) σ act).1.store g := by
  intro g
  rcases session_docStep contractorId σ act g with ⟨hd, hx⟩ | ⟨call, hd, ha⟩
  · rw [Sound, hd, hx]
    exact h g
  · refine hd.sound (h g) fun hm => ?_
    rcases ha with ⟨res, ha, hr⟩ | ⟨d, rfl⟩
    · exact hok ⟨call, res, ha, hm, hr⟩
    · exact hm

theorem misreport_unsound {σ : Session} {act : Act}
    (h : MisreportsAt ((session contractorId).event σ act)) :
    ∃ g, ¬ Sound contractorId ((session contractorId) σ act).1.store g := by
  obtain ⟨call, res, hact, hm, hr⟩ := h
  rw [Machine.event_call] at hact
  subst hact
  cases call with
  | recordOutcome c =>
    rw [Machine.event_resp] at hr
    cases hb : body contractorId σ.store (.recordOutcome c) with
    | error e =>
      simp only [session, step, hb] at hr
      cases hr
    | ok y =>
      obtain ⟨t, r⟩ := y
      have hpost : ((session contractorId) σ (.call (.recordOutcome c))).1.store = t := by
        simp only [session, step, hb]
      rw [hpost]
      simp only [body, bind_eq_ok, pure_eq_ok, Except.ok.injEq] at hb
      obtain ⟨t', ht, hb⟩ := hb
      cases hb
      exact recordOutcome_unsound ht hm
  | _ => exact hm.elim

/-- A run keeps the promise of a revocation exactly when no outcome is recorded
that says that no request was made. -/
theorem revocation_run_iff (contractorId : Str) (s : Store) (hs : ∀ g, Sound contractorId s g)
    (acts : List Act) : Revocation contractorId s acts ↔
      ∀ e ∈ (session contractorId).log (.start s) acts, ¬ MisreportsAt e := by
  constructor
  · intro h e he hm
    obtain ⟨cs₁, a, cs₂, -, rfl⟩ := (session contractorId).mem_log he
    obtain ⟨g, hg⟩ := misreport_unsound hm
    exact hg (h.pair _ he g)
  · intro h
    refine ⟨?_, ?_, ?_, ?_, ?_⟩
    · refine (session contractorId).log_pairwise (I := BoxesOk) boxesOk_step
        (fun σ act hb acts f hf g => token_once hb acts hf g) ?_ acts
      intro k res hk
      cases hk
    · intro e he g
      exact ((session contractorId).log_pre_of (I := fun τ => ∀ g, Sound contractorId τ.store g)
        hs (fun τ a hτ hG => sound_step hτ hG) h he).2 g
    · intro e he g v w hm
      obtain ⟨cs₁, a, cs₂, -, rfl⟩ := (session contractorId).mem_log he
      exact moves_event hm
    · exact (session contractorId).log_pairwise (I := fun _ => True) (fun _ _ _ => trivial)
        (fun σ act _ acts f hf g v w v' w' => status_once acts hf g v w v' w') trivial acts
    · intro l₁ e l₂ hl g d x a o hd hx hp hf
      refine ⟨hp.finalized hf, fun f hfm => ?_⟩
      obtain ⟨cs₁, act, cs₂, -, -, rfl, rfl⟩ := (session contractorId).log_eq_append_cons hl
      rw [Machine.event_pre] at hd hx
      have hfm' : f ∈ (session contractorId).log ((session contractorId).run (.start s) cs₁)
          (act :: cs₂) := hfm
      refine ((session contractorId).log_pre
        (I := fun τ => auditAt contractorId τ.store g = some d ∧
          outboxAt contractorId τ.store g = some x) ⟨hd, hx⟩ ?_ hfm').2
      intro τ a hτ
      rcases session_docStep contractorId τ a g with ⟨h₁, h₂⟩ | ⟨call, hstep, -⟩
      · exact ⟨h₁.trans hτ.1, h₂.trans hτ.2⟩
      · exact hstep.final hτ.1 hτ.2 hp hf

theorem disconnecting_inRange : unixEpoch.toNat + 100 * 1000000 < limit := by decide

/-- A disconnect of a connected record whose body runs twice. -/
def disconnecting : List Act :=
  let d := disconnectAt (unixTime 100 disconnecting_inRange)
  [.attempt d false, .attempt d true, .settle d.candidateClaimId]

def outcome (status : RevocationStatus) : RecordOutcome :=
  ⟨formatOutboxDocId (py "c1") .googleCalendar 2, py "0123456789abcdef", status, 2, 2,
    unixTime 101 (by decide)⟩

theorem connectedStore_sound (g : ℤ) : Sound (py "c1") connectedStore g := .inl ⟨rfl, rfl⟩

theorem revocation_confirmed : Revocation (py "c1") connectedStore
    (disconnecting ++ [.call (.recordOutcome (outcome .confirmed))]) := by
  refine (revocation_run_iff (py "c1") connectedStore connectedStore_sound _).mpr ?_
  rintro e he ⟨c, res, hc, hm, -⟩
  have hmem := (session (py "c1")).call_mem_of_mem_log he
  rw [hc] at hmem
  simp only [disconnecting, List.cons_append, List.nil_append, List.mem_cons, reduceCtorEq,
    Act.call.injEq, List.not_mem_nil, or_false, false_or] at hmem
  subst hmem
  cases hm

/-- The caller reports that no request was made: the outcome is recorded, and the
pair is rejected from then on. -/
theorem revocation_misreported : (∀ g, Sound (py "c1") connectedStore g) ∧
    ¬ Revocation (py "c1") connectedStore
      (disconnecting ++ [.call (.recordOutcome (outcome .notAttemptedUnavailable))]) := by
  refine ⟨connectedStore_sound, fun h => ?_⟩
  obtain ⟨y, hy⟩ := exists_ok_of_toBool (show (body (py "c1")
    ((session (py "c1")).run (.start connectedStore) disconnecting).store
    (.recordOutcome (outcome .notAttemptedUnavailable))).toBool = true by decide +kernel)
  have hm : MisreportsAt ((session (py "c1")).event
      ((session (py "c1")).run (.start connectedStore) disconnecting)
      (.call (.recordOutcome (outcome .notAttemptedUnavailable)))) :=
    ⟨_, y.2, rfl, rfl, by simp only [Machine.event_resp, session, step, hy]⟩
  have hmem := (session (py "c1")).log_append_cons (.start connectedStore) disconnecting
    (.call (.recordOutcome (outcome .notAttemptedUnavailable))) [] ▸
      List.mem_append_right _ List.mem_cons_self
  obtain ⟨g, hg⟩ := misreport_unsound hm
  exact hg (h.pair _ hmem g)

end HeyKevin.L7.Tokens
