import HeyKevin.L10Bakeoff.TransactionalControl
/-!
# The transactional control store answers as the in-memory one

The ledger links the two: the in-memory store agrees with it from a time on,
and the records of the transactional store encode it.

* `answers_step`: one call, from linked stores.
* `transactional_answers_memory`: every run, call by call. At time zero the
  transactional store admits nothing, and the in-memory store admits an
  approval that was issued then.
-/
namespace HeyKevin.L10.Control

open HeyKevin.Core L1 L1.Text

/-- An admission at time zero of an approval issued at time zero. -/
def ControlCall.isAtEpoch : ControlCall → Bool
  | .admitApproval approval nowMs _ _ => nowMs = 0 && approval.issuedAtMs = 0
  | _ => false

section

variable (A : Authorities) (scope : Digest) (nextVersion : ℤ → ℤ)

/-- The stores say the same from `t` on, through a ledger. At time zero they say nothing. -/
structure Linked (t : ℤ) (m l : MemoryStore) (s : Store) : Prop where
  nonneg : 0 ≤ t
  agree : Agree t m l
  inv : l.Inv
  encodes : Encodes scope l s
  empty : t < 1 → ∀ ref, l.records.find? ref = none

/-- At time zero no call finds anything. -/
theorem memory_at_zero {m : MemoryStore} (hm : ∀ ref, m.records.find? ref = none)
    {call : ControlCall} (hzero : call.nowMs = 0) (hepoch : call.isAtEpoch = false) :
    memory A m call = (m, call.refusal) := by
  rcases memory_cases A m call with ⟨approval, nowMs, ttlMs, draw, rfl⟩ | ⟨-, he⟩ |
    ⟨ref, r, -, hr, -⟩
  · have hissued := approval.window.1
    simp only [ControlCall.nowMs] at hzero
    subst hzero
    simp only [ControlCall.isAtEpoch, decide_true, Bool.true_and, decide_eq_false_iff_not] at hepoch
    have hmay : mayAdmit A approval 0 ttlMs = false := by
      have hlate : ¬ approval.issuedAtMs ≤ 0 := by omega
      simp [mayAdmit, hlate]
    simp [memory, MemoryStore.admitApproval, hmay, ControlCall.refusal]
  · exact he
  · rw [hm ref] at hr
    cases hr

theorem ledger_find?_none {l : MemoryStore} (hl : l.Inv) (call : ControlCall) {ref : Str}
    (hnone : l.records.find? ref = none) (hdrawn : call.drawnRef ≠ some ref) :
    (ledger A l call).1.records.find? ref = none := by
  have heff := ledger_effect A hl call ref
  rw [hnone] at heff
  generalize (ledger A l call).1.records.find? ref = new at heff
  cases heff with
  | absent => rfl
  | reserved approval nowMs ttlMs draw hcall _ _ _ href =>
    subst hcall
    exact absurd (congrArg some href) hdrawn

theorem answers_step {t : ℤ} {m l : MemoryStore} {s : Store} (h : Linked scope t m l s)
    (call : ControlCall) (ht : t ≤ call.nowMs) (hepoch : call.isAtEpoch = false)
    (hfresh : ∀ ref ∈ call.drawnRef, l.records.find? ref = none) :
    (transactional A scope nextVersion s (call, .committed)).2 = (memory A m call).2 ∧
      Linked scope call.nowMs (memory A m call).1 (ledger A l call).1
        (transactional A scope nextVersion s (call, .committed)).1 := by
  obtain ⟨s', hop, henc⟩ := h.encodes.operation A nextVersion h.inv call
  have hnonneg := h.nonneg
  have hinv := ledger_inv A h.inv call
  simp only [transactional, hop]
  by_cases hnow : 1 ≤ call.nowMs
  · obtain ⟨hans, hagree⟩ := agree_step A h.agree h.inv call hnow ht
      fun ref href => h.agree.find?_none.mpr (hfresh ref href)
    exact ⟨hans.symm, ⟨by omega, hagree, hinv, henc, fun hlt => absurd hlt (by omega)⟩⟩
  · have hzero : call.nowMs = 0 := by omega
    have hempty := h.empty (by omega)
    have hled : ledger A l call = (l, call.refusal) := if_pos (.inl (by omega))
    have hmem := memory_at_zero A (fun ref => h.agree.find?_none.mpr (hempty ref)) hzero hepoch
    rw [hled] at henc hinv ⊢
    rw [hmem]
    exact ⟨rfl, ⟨by omega, h.agree.mono ht, hinv, henc, fun _ => hempty⟩⟩

theorem answers_run {t : ℤ} {m l : MemoryStore} {s : Store} (h : Linked scope t m l s)
    (calls : List ControlCall) (ht : ∀ c ∈ calls, t ≤ c.nowMs)
    (htimes : calls.Pairwise fun c d => c.nowMs ≤ d.nowMs)
    (hepoch : ∀ c ∈ calls, c.isAtEpoch = false)
    (hdraws : (calls.filterMap ControlCall.drawnRef).Nodup)
    (hfresh : ∀ ref ∈ calls.filterMap ControlCall.drawnRef, l.records.find? ref = none) :
    ((transactional A scope nextVersion).log s (calls.map (·, .committed))).map Event.resp =
      ((memory A).log m calls).map Event.resp := by
  induction calls generalizing t m l s with
  | nil => rfl
  | cons call calls ih =>
    rw [List.pairwise_cons] at htimes
    have hcall : ∀ ref ∈ call.drawnRef, l.records.find? ref = none ∧
        ref ∉ calls.filterMap ControlCall.drawnRef := by
      intro ref href
      rw [List.filterMap_cons_some (Option.mem_def.mp href)] at hdraws hfresh
      exact ⟨hfresh ref List.mem_cons_self, (List.nodup_cons.mp hdraws).1⟩
    have hrest : (calls.filterMap ControlCall.drawnRef).Sublist
        ((call :: calls).filterMap ControlCall.drawnRef) :=
      (List.sublist_cons_self call calls).filterMap _
    obtain ⟨hans, hlinked⟩ := answers_step A scope nextVersion h call
      (ht call List.mem_cons_self) (hepoch call List.mem_cons_self) fun ref href =>
        (hcall ref href).1
    have hrun := ih hlinked htimes.1 htimes.2
      (fun c hc => hepoch c (List.mem_cons_of_mem _ hc)) (hrest.nodup hdraws) fun ref href =>
        ledger_find?_none A h.inv call (hfresh ref (hrest.subset href)) fun hdrawn =>
          (hcall ref hdrawn).2 href
    simp only [List.map_cons, Machine.log_cons, Machine.event_resp]
    rw [hans, hrun]

/-- The two stores answer every run alike, call by call, when no admission is made at time zero on
an approval issued then. -/
theorem transactional_answers_memory (calls : List ControlCall)
    (hnonneg : ∀ c ∈ calls, 0 ≤ c.nowMs)
    (htimes : calls.Pairwise fun c d => c.nowMs ≤ d.nowMs)
    (hdraws : (calls.filterMap ControlCall.drawnRef).Nodup)
    (hepoch : ∀ c ∈ calls, c.isAtEpoch = false) :
    ((transactional A scope nextVersion).log [] (calls.map (·, .committed))).map Event.resp =
      ((memory A).log .empty calls).map Event.resp := by
  have hlinked : Linked scope 0 .empty .empty [] :=
    ⟨Int.le_refl 0, .refl _ _, MemoryStore.inv_empty, .empty, fun _ _ => rfl⟩
  exact answers_run A scope nextVersion hlinked calls hnonneg htimes hepoch hdraws
    fun _ _ => rfl

end

def exampleDigest : Digest := ⟨List.replicate 64 48, by decide⟩

def exampleRef : OpaqueRef := ⟨py "ref_control_1", by decide⟩

def exampleAuthorities : Authorities where
  verifyApproval := fun _ => true
  signGrant := fun _ => List.replicate 64 1
  verifyAcknowledgement := fun _ => true
  signActivation := fun _ => List.replicate 64 2
  receiptDigest := fun _ => exampleDigest
  acknowledgementDigest := fun _ => exampleDigest
  issuerRef := ⟨py "ref_issuer", by decide⟩
  preauthAudienceRef := ⟨py "ref_preauth", by decide⟩

def exampleApproval : VerifiedApproval where
  approvalIdDigest := exampleDigest
  nonceDigest := exampleDigest
  bindingDigest := exampleDigest
  epoch := 1
  issuedAtMs := 0
  expiresAtMs := 1000
  evidence := []
  epoch_pos := by decide
  window := by decide

def exampleAdmissionAt (nowMs : ℤ) : ControlCall :=
  .admitApproval exampleApproval nowMs 100 ⟨exampleRef, exampleDigest⟩

theorem transactional_answers_memory_exampleRun :
    ((transactional exampleAuthorities exampleDigest (· + 1)).log []
        ([exampleAdmissionAt 1, .revoke exampleRef.val .teardown 2].map (·, .committed))).map
          Event.resp =
      ((memory exampleAuthorities).log .empty
        [exampleAdmissionAt 1, .revoke exampleRef.val .teardown 2]).map Event.resp :=
  transactional_answers_memory exampleAuthorities exampleDigest (· + 1)
    [exampleAdmissionAt 1, .revoke exampleRef.val .teardown 2] (by decide) (by decide)
    (by decide) (by decide)

/-- An approval issued at time zero and admitted then: the in-memory store returns its bundle, the
transactional store nothing. -/
theorem admission_at_zero_differs :
    ¬ ∀ calls : List ControlCall, (∀ c ∈ calls, 0 ≤ c.nowMs) →
      calls.Pairwise (fun c d => c.nowMs ≤ d.nowMs) →
      (calls.filterMap ControlCall.drawnRef).Nodup →
      ((transactional exampleAuthorities exampleDigest (· + 1)).log []
          (calls.map (·, .committed))).map Event.resp =
        ((memory exampleAuthorities).log .empty calls).map Event.resp := by
  intro h
  have hrun := h [exampleAdmissionAt 0] (by decide) (by decide) (by decide)
  have htransactional : (transactional exampleAuthorities exampleDigest (· + 1) []
      (exampleAdmissionAt 0, .committed)).2 = .bundle none := rfl
  have hmemory : (memory exampleAuthorities .empty (exampleAdmissionAt 0)).2 =
      .bundle (some (newBundle exampleAuthorities exampleApproval 0 100
        ⟨exampleRef, exampleDigest⟩)) := rfl
  simp only [List.map_cons, List.map_nil, Machine.log_cons, Machine.log_nil, Machine.event_resp,
    htransactional, hmemory] at hrun
  cases hrun

end HeyKevin.L10.Control
