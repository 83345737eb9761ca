import HeyKevin.L3Repository.ProviderSafety
import Mathlib.Data.Int.Interval
/-!
# Recovery leases

A worker that was handed a proposal calls its provider outside of any
transaction, so only the lease keeps two workers from calling it at once.

* `lease_excludes`: until someone has read its expiry from a clock, a lease
  keeps everyone but its holder from changing the document.
* `lease_fenced`: a worker whose lease was used or replaced changes nothing.
* `leases_bounded`: a proposal is handed out with growing attempt numbers, at
  most `max_attempts` times.
* `review_final`: what is left to an operator never changes.
* `prepared_before`: workers get exactly what was prepared.
-/
namespace HeyKevin.L3.Firestore

open HeyKevin.Core L1 L1.Text L1.Datetime L2

variable {P : Python}

def LeasedProviderRecovery.path (lease : LeasedProviderRecovery P) : Path :=
  (lease.contractor_id, lease.request_id)

/-- Two leases that a document can not tell apart. -/
structure SameLease (a b : LeasedProviderRecovery P) : Prop where
  owner : a.owner = b.owner
  lease_id : a.lease_id = b.lease_id
  attempt : a.attempt = b.attempt
  expires : a.lease_expires_at.instant = b.lease_expires_at.instant

def handedOut (e : StoreEvent P) : Option (LeasedProviderRecovery P) :=
  match e.resp with
  | .ok (.lease lease) => lease
  | _ => none

theorem handedOut_eq_some {e : StoreEvent P} {lease : LeasedProviderRecovery P}
    (h : handedOut e = some lease) : e.resp = .ok (.lease (some lease)) := by
  unfold handedOut at h
  split at h
  · rename_i hresp
    rw [hresp, h]
  · cases h

variable {S : Set (List Byte)} {s : Store} {G : Path → Saga P × Keeping} {g g' : Saga P}
  {k k' : Keeping} {path : Path} {x : Str} {doc' : Stored}

/-! ## While a lease runs -/

theorem Held.same {a b : LeasedProviderRecovery P} (ha : Held a k) (hb : Held b k) :
    SameLease a b := by
  obtain ⟨n, l, rfl, howner, hid, hexpires⟩ := ha.stored
  obtain ⟨_, _, h, howner', hid', hexpires'⟩ := hb.stored
  simp only [Keeping.pending.injEq, Option.some.injEq] at h
  obtain ⟨hattempt, -, rfl⟩ := h
  exact ⟨howner.symm.trans howner', hid.symm.trans hid', hattempt, hexpires.symm.trans hexpires'⟩

/-- The event neither reads a clock at the lease's expiry nor is its holder's. -/
def Quiet (lease : LeasedProviderRecovery P) (c : Call P) : Prop :=
  c.path = lease.path → (∀ t ∈ c.clock, t.instant < lease.lease_expires_at.instant) ∧
    ∀ other ∈ c.lease, ¬ SameLease other lease

theorem Move.review {a : ℤ} {n : DateTime} (hm : Move S path.1 path.2 g (.review a n) g' k')
    (hne : g.proposal ≠ none) : g' = g ∧ k' = .review a n := by
  cases hm with
  | stay => exact ⟨rfl, rfl⟩
  | write t hlocal =>
    obtain rfl | ⟨_, rfl⟩ := hlocal <;> exact absurd rfl hne
  | mark k h hnone => exact absurd hnone hne
  | _ => exact absurd rfl hne

/-- The lease is in force on the document, or an operator has it. -/
def Guarded (lease : LeasedProviderRecovery P) (doc : Stored) (g : Saga P) (k : Keeping) : Prop :=
  Held lease k ∧ g.document k = doc ∨ g.proposal ≠ none ∧ ∃ a n, k = .review a n

theorem guarded_step (hG : Represents S G s) {c : Call P} {G' : Path → Saga P × Keeping}
    (hG' : Steps S G s c G') {lease : LeasedProviderRecovery P} (hquiet : Quiet lease c)
    {doc : Stored} (h : Guarded lease doc (G lease.path).1 (G lease.path).2) :
    Guarded lease doc (G' lease.path).1 (G' lease.path).2 ∧
      ∀ other, (step s c).2 = .ok (.lease (some other)) → other.path ≠ lease.path := by
  by_cases hpath : c.path = lease.path
  · rcases hresp : (step s c).2 with e | response
    · rw [hG'.error e hresp]
      exact ⟨h, fun _ h => by cases h⟩
    have heffect := hG'.effect response hresp
    have hfits := hG.fits lease.path
    rw [hpath] at heffect
    obtain ⟨hclock, hother⟩ := hquiet hpath
    rcases h with ⟨hheld, hdoc⟩ | ⟨hne, a, n, hk⟩
    · obtain ⟨n, l, hk, -, -, hexpires⟩ := hheld.stored
      rw [hk] at hfits
      obtain ⟨hne, -, -, hlease⟩ := hfits
      refine ⟨?_, fun other hother => ?_⟩
      · rcases heffect.guarded with ⟨hg, hk' | hk'⟩ | hfree | ⟨other, hcall, hheld'⟩
        · rw [hg, hk']
          exact .inl ⟨hheld, hdoc⟩
        · rw [hg, hk', hk]
          exact .inr ⟨hne, _, _, rfl⟩
        · obtain ⟨t, ht, hle⟩ := hfree l (by rw [hk]; rfl)
          have := hclock t ht
          omega
        · exact absurd (hheld'.same hheld) (hother other hcall)
      · cases hother
        obtain ⟨-, -, settings, now, hnow, hinstant, -, hleased⟩ := heffect.leased other rfl
        obtain ⟨_, _, _, _, hk', hdue, -⟩ := hleased.due
        rw [hk, Keeping.pending.injEq] at hk'
        rw [← hk'.2.1, ← (hlease l rfl).2] at hdue
        have := hclock now hnow
        omega
    · have hm := hG'.move lease.path
      rw [hk] at hm
      obtain ⟨hg, hk'⟩ := hm.review hne
      refine ⟨.inr ⟨hg ▸ hne, a, n, hk'⟩, fun other hother => ?_⟩
      cases hother
      obtain ⟨-, -, _, _, -, -, -, hleased⟩ := heffect.leased other rfl
      obtain ⟨_, _, _, _, hpending, -⟩ := hleased.due
      rw [hk] at hpending
      cases hpending
  · rw [hG'.other _ fun h => hpath h.symm]
    refine ⟨h, fun other hother hsame => hpath ?_⟩
    rw [← hsame]
    exact ((hG'.effect _ hother).leased _ rfl).2.1.symm

/-- **A lease keeps everyone else out.** After a lease is handed out, its document stays as it is or
goes to an operator, and is not leased again, while nobody has read a clock at its expiry and its
holder has not used it. -/
theorem lease_excludes (calls : List (Call P)) (hinj : Set.InjOn P.sha256 (hashed calls))
    {es es' : List (StoreEvent P)} {e : StoreEvent P}
    (hlog : Machine.log step (fun _ => none) calls = es ++ e :: es')
    {lease : LeasedProviderRecovery P} (hissued : handedOut e = some lease)
    (hquiet : ∀ f ∈ es', Quiet lease f.call) :
    ∀ f ∈ es', (f.post lease.path = e.post lease.path ∨
        (f.post lease.path).any Document.inReview = true) ∧
      ∀ other, handedOut f = some other → other.path ≠ lease.path := by
  have hkept := (kept_after (p := lease.path) (I := Guarded lease (e.post lease.path)) hinj hlog
    (fun G G' hG hG' hresp hpost => by
      have heffect := hG'.effect _ (hresp.symm.trans (handedOut_eq_some hissued))
      obtain ⟨-, hpath, settings, now, -, -, -, hleased⟩ := heffect.leased _ rfl
      have hpath : lease.path = e.call.path := hpath
      rw [← hpath] at hleased
      exact .inl ⟨hleased.held, (hpost.document _).symm⟩)
    fun f hf _ _ hG hG' h => (guarded_step hG hG' (hquiet f hf) h).1).2
  intro f hf
  obtain ⟨hstep, G, G', hG, hguarded, hG', hpost, hguarded'⟩ := hkept f hf
  refine ⟨?_, fun other hother => ?_⟩
  · rw [hpost.document]
    rcases hguarded' with ⟨-, hdoc⟩ | ⟨hne, a, n, hk⟩
    · exact .inl hdoc
    · obtain ⟨q, hq⟩ := Option.ne_none_iff_exists'.mp hne
      rw [document_of_ne (ne_absent_of_proposal hq), hk, Option.any_some, Document.inReview,
        hasProposal_data, hq, get_recovery rfl]
      exact .inr rfl
  · have hresp := congrArg Prod.snd hstep
    exact (guarded_step hG hG' (hquiet f hf) hguarded).2 other (hresp.trans (handedOut_eq_some hother))

def exampleClaim (lease_id : LeaseId) (minute : ℕ) (max_attempts : ℤ) : Call asciiPython :=
  .claim (py "worker") (.ofMinutes minute) 25 60 max_attempts
    [py "contractors", py "C1", py "service_requests", py "CA1"] lease_id

def firstId : LeaseId := ⟨List.replicate 32 (digit 1), by decide, by decide⟩
def secondId : LeaseId := ⟨List.replicate 32 (digit 2), by decide, by decide⟩

def exampleClaimed : StoreEvent asciiPython :=
  Machine.event step (Machine.run step (fun _ => none) [exampleRequest]) (exampleClaim firstId 1 3)

def exampleReclaimed (max_attempts : ℤ) : StoreEvent asciiPython :=
  Machine.event step exampleClaimed.post (exampleClaim secondId 5 max_attempts)

theorem exampleClaimed_leases : ∃ lease, handedOut exampleClaimed = some lease ∧
    (DateTime.ofMinutes 1).instant < lease.lease_expires_at.instant ∧
    (∃ other, handedOut (exampleReclaimed 3) = some other ∧ other.path = lease.path ∧
      other.preparation.logical_operation_id = lease.preparation.logical_operation_id ∧
      lease.attempt < other.attempt) ∧
    ∃ d, (exampleReclaimed 1).post lease.path = some d ∧ d.inReview = true := by
  have hruns : ((handedOut exampleClaimed).any fun lease =>
      decide ((DateTime.ofMinutes 1).instant < lease.lease_expires_at.instant) &&
      ((handedOut (exampleReclaimed 3)).any fun other => decide (other.path = lease.path) &&
        decide (other.preparation.logical_operation_id =
          lease.preparation.logical_operation_id) && decide (lease.attempt < other.attempt)) &&
      ((exampleReclaimed 1).post lease.path).any Document.inReview) = true := by
    decide +kernel
  simpa only [Option.any_eq_true, Bool.and_eq_true, decide_eq_true_eq, and_assoc] using hruns

theorem log_exampleClaimed {calls : List (Call asciiPython)} :
    Machine.log step (fun _ => none) (exampleRequest :: exampleClaim firstId 1 3 :: calls) =
      Machine.log step (fun _ => none) [exampleRequest] ++
        exampleClaimed :: Machine.log step exampleClaimed.post calls := by
  unfold exampleClaimed
  rw [Machine.event_post]
  exact Machine.log_append_cons step _ [exampleRequest] _ _

theorem log_exampleReclaimed {max_attempts : ℤ} {calls : List (Call asciiPython)} :
    Machine.log step (fun _ => none) (exampleRequest :: exampleClaim firstId 1 3 ::
      exampleClaim secondId 5 max_attempts :: calls) =
      (Machine.log step (fun _ => none) [exampleRequest] ++ [exampleClaimed]) ++
        exampleReclaimed max_attempts :: Machine.log step (exampleReclaimed max_attempts).post
          calls := by
  unfold exampleReclaimed
  rw [log_exampleClaimed, Machine.log_cons step exampleClaimed.post, List.append_assoc,
    List.singleton_append, Machine.event_post]

/-- Another worker asks for the example request in the same minute. -/
theorem lease_excludes_exampleClaim : ∃ lease, handedOut exampleClaimed = some lease ∧
    ∀ f ∈ Machine.log step exampleClaimed.post [exampleClaim secondId 1 3],
      (f.post lease.path = exampleClaimed.post lease.path ∨
        (f.post lease.path).any Document.inReview = true) ∧
      ∀ other, handedOut f = some other → other.path ≠ lease.path := by
  obtain ⟨lease, hlease, hclock, -⟩ := exampleClaimed_leases
  refine ⟨lease, hlease,
    lease_excludes [exampleRequest, exampleClaim firstId 1 3, exampleClaim secondId 1 3]
      (injOn_exampleRequest (by simp [exampleClaim, Call.materials]))
      log_exampleClaimed hlease ?_⟩
  intro f hf
  rw [List.mem_singleton.mp (Machine.call_mem_of_mem_log _ hf)]
  refine fun _ => ⟨fun t ht => ?_, fun other h => by cases h⟩
  cases ht
  exact hclock

/-! ## Attempts -/

/-- The proposal is canonical, or it has been handed out so many times. -/
def Reached (S : Set (List Byte)) (path : Path) (x : Str) (attempt : ℤ) (g : Saga P)
    (k : Keeping) : Prop :=
  Done S path x g ∨
    ∃ q, g.proposal = some q ∧ q.logical_operation_id = x ∧ attempt ≤ k.attempts

theorem Move.proposal (hm : Move S path.1 path.2 g k g' k') (hg : g.Holds S path.1 path.2)
    {q : Proposal P} (hq : g.proposal = some q) :
    Done S path q.logical_operation_id g' ∨ g' = g ∧ (k' = k ∨ k.attempts < k'.attempts ∨
      k.attempts = k'.attempts ∧ k'.lease = none) := by
  have hdone := done_of_move hg hm hq
  cases hm with
  | stay => exact .inr ⟨rfl, .inl rfl⟩
  | write t hlocal =>
    obtain rfl | ⟨_, rfl⟩ := hlocal <;> cases hq
  | proposeCreate => cases hq
  | propose => cases hq
  | confirmCreate p t => exact .inl (hdone rfl)
  | confirm p t => exact .inl (hdone rfl)
  | lease normal => exact .inr ⟨rfl, .inr (.inl (Int.lt_succ _))⟩
  | release utc => exact .inr ⟨rfl, .inr (.inr ⟨rfl, rfl⟩)⟩
  | giveUp utc => exact .inr ⟨rfl, .inr (.inr ⟨rfl, rfl⟩)⟩
  | mark k hne hnone =>
    rw [hq] at hnone
    cases hnone

theorem Reached.move {attempt : ℤ} (h : Reached S path x attempt g k)
    (hg : g.Holds S path.1 path.2) (hm : Move S path.1 path.2 g k g' k') :
    Reached S path x attempt g' k' := by
  obtain hdone | ⟨q, hq, rfl, hle⟩ := h
  · exact .inl (hdone.move hg hm)
  · obtain hdone | ⟨rfl, hk⟩ := hm.proposal hg hq
    · exact .inl hdone
    · refine .inr ⟨q, hq, rfl, ?_⟩
      rcases hk with rfl | hlt | ⟨heq, -⟩ <;> omega

/-- No worker can use a lease with this attempt on the proposal any more. -/
def Past (S : Set (List Byte)) (path : Path) (x : Str) (attempt : ℤ) (g : Saga P)
    (k : Keeping) : Prop :=
  Reached S path x (attempt + 1) g k ∨
    ∃ q, g.proposal = some q ∧ q.logical_operation_id = x ∧ attempt = k.attempts ∧ k.lease = none

theorem Past.move {attempt : ℤ} (h : Past S path x attempt g k) (hg : g.Holds S path.1 path.2)
    (hm : Move S path.1 path.2 g k g' k') : Past S path x attempt g' k' := by
  obtain hreached | ⟨q, hq, rfl, hattempt, hlease⟩ := h
  · exact .inl (hreached.move hg hm)
  · obtain hdone | ⟨rfl, hk⟩ := hm.proposal hg hq
    · exact .inl (.inl hdone)
    · rcases hk with rfl | hlt | ⟨heq, hnone⟩
      · exact .inr ⟨q, hq, rfl, hattempt, hlease⟩
      · exact .inl (.inr ⟨q, hq, rfl, by omega⟩)
      · exact .inr ⟨q, hq, rfl, hattempt.trans heq, hnone⟩

theorem Held.attempts {lease : LeasedProviderRecovery P} (h : Held lease k) :
    k.attempts = lease.attempt ∧ k.lease ≠ none := by
  obtain ⟨n, l, rfl, -⟩ := h.stored
  exact ⟨rfl, fun h => by cases h⟩

theorem Past.not_held (hinj : Set.InjOn P.sha256 S) {lease : LeasedProviderRecovery P}
    (h : Past S path x lease.attempt g k) (hg : g.Holds S path.1 path.2) {q : Proposal P}
    (hq : g.proposal = some q) (hid : q.logical_operation_id = x) : ¬ Held lease k := by
  intro hheld
  obtain ⟨hattempts, hlease⟩ := hheld.attempts
  rcases h with (hdone | ⟨-, -, -, hle⟩) | ⟨-, -, -, -, hnone⟩
  · exact hdone.not_proposed hinj hg hq hid
  · omega
  · exact hlease hnone

/-- The event takes the lease from its holder: it hands the proposal out again, or it uses this or a
later lease on it. -/
def Supersedes (e : StoreEvent P) (lease : LeasedProviderRecovery P) : Prop :=
  ∃ other : LeasedProviderRecovery P, other.path = lease.path ∧
    other.preparation.logical_operation_id = lease.preparation.logical_operation_id ∧
    (handedOut e = some other ∧ lease.attempt < other.attempt ∨
      e.call.lease = some other ∧ e.resp = .ok (.done true) ∧ lease.attempt ≤ other.attempt)

theorem Call.path_of_lease {c : Call P} {lease : LeasedProviderRecovery P}
    (h : c.lease = some lease) : c.path = lease.path := by
  cases c <;> cases h <;> rfl

theorem past_of_supersedes (hG : Represents S G s) {c : Call P} {G' : Path → Saga P × Keeping}
    (hG' : Steps S G s c G') {lease : LeasedProviderRecovery P} {e : StoreEvent P}
    (hcall : e.call = c) (hresp : e.resp = (step s c).2) (h : Supersedes e lease) :
    Past S lease.path lease.preparation.logical_operation_id lease.attempt (G' lease.path).1
      (G' lease.path).2 := by
  subst hcall
  obtain ⟨other, hpath, hlogical, ⟨hissued, hlt⟩ | ⟨hlease, hdone, hle⟩⟩ := h
  · -- The document now stores the later lease.
    obtain ⟨hsame, hcall, settings, now, -, -, -, hleased⟩ :=
      (hG'.effect _ (hresp.symm.trans (handedOut_eq_some hissued))).leased _ rfl
    have hcall : other.path = e.call.path := hcall
    rw [← hcall, hpath] at hsame hleased
    obtain ⟨hattempts, -⟩ := hleased.held.attempts
    exact .inl (.inr ⟨other.preparation, by rw [hsame]; exact hleased.proposal, hlogical, by omega⟩)
  · have hcall := Call.path_of_lease hlease
    have heffect := hG'.effect _ (hresp.symm.trans hdone)
    obtain ⟨hfalse, -⟩ | ⟨-, hheld, ⟨q, hq, hid⟩, hrest⟩ := heffect.worker _ hlease
    · cases hfalse
    rw [hcall, hpath] at hheld hq hrest
    obtain ⟨hattempts, -⟩ := hheld.attempts
    rcases hrest with hnone | ⟨hsame, hnone, heq⟩
    · exact .inl (.inl (hid.trans hlogical ▸ done_of_move (hG.holds _) (hG'.move _) hq hnone))
    · rw [← hsame] at hq
      rcases Int.lt_or_eq_of_le hle with hlt | hle
      · exact .inl (.inr ⟨q, hq, hid.trans hlogical, by omega⟩)
      · exact .inr ⟨q, hq, hid.trans hlogical, by omega, hnone⟩

/-- **Leases are fenced.** Once a lease was used or its proposal handed out again, no call under it
changes a document or reports that it did. -/
theorem lease_fenced (calls : List (Call P)) (hinj : Set.InjOn P.sha256 (hashed calls))
    {es es' : List (StoreEvent P)} {e : StoreEvent P}
    (hlog : Machine.log step (fun _ => none) calls = es ++ e :: es')
    {lease : LeasedProviderRecovery P} (h : Supersedes e lease) :
    ∀ f ∈ es', f.call.lease = some lease → f.post = f.pre ∧ f.resp ≠ .ok (.done true) := by
  have hpast := (kept_after (p := lease.path) hinj
    (I := Past (hashed calls) lease.path lease.preparation.logical_operation_id lease.attempt) hlog
    (fun G G' hG hG' hresp _ => past_of_supersedes hG hG' rfl hresp h)
    fun _ _ G _ hG hG' hpast => hpast.move (hG.holds _) (hG'.move _)).2
  intro f hf hlease
  obtain ⟨hstep, G, G', hG, hpast, hG', -⟩ := hpast f hf
  rcases hresp : f.resp with err | response
  · have hsame := step_error (s := f.pre) (c := f.call) (e := err) (by rw [hstep, hresp])
    rw [hstep] at hsame
    exact ⟨hsame, fun h => by cases h⟩
  · obtain ⟨rfl, hg, hk⟩ | ⟨-, hheld, ⟨q, hq, hid⟩, -⟩ :=
      (hG'.effect response (by rw [hstep, hresp])).worker lease hlease
    · have hsame := hG'.eq_of_same hG (Prod.ext hg hk)
      rw [hstep] at hsame
      exact ⟨hsame, fun h => by cases h⟩
    · rw [Call.path_of_lease hlease] at hheld hq
      exact absurd hheld (hpast.not_held hinj (hG.holds _) hq hid)

/-- The first worker comes back late. -/
theorem lease_fenced_exampleReclaimed : ∃ lease, handedOut exampleClaimed = some lease ∧
    ∀ f ∈ Machine.log step (exampleReclaimed 3).post [.releaseRecovery lease (.ofMinutes 6) 3],
      f.call.lease = some lease → f.post = f.pre ∧ f.resp ≠ .ok (.done true) := by
  obtain ⟨lease, hlease, -, ⟨other, hother, hpath, hlogical, hlt⟩, -⟩ := exampleClaimed_leases
  exact ⟨lease, hlease, lease_fenced [exampleRequest, exampleClaim firstId 1 3,
    exampleClaim secondId 5 3, .releaseRecovery lease (.ofMinutes 6) 3]
    (injOn_exampleRequest (by simp [exampleClaim, Call.materials])) log_exampleReclaimed
    ⟨other, hpath, hlogical, .inl ⟨hother, hlt⟩⟩⟩

/-! ## How often a proposal is handed out -/

/-- The attempts under which a log hands out a proposal. -/
def attemptsFor (path : Path) (x : Str) (log : List (StoreEvent P)) : List ℤ :=
  log.filterMap fun e => (handedOut e).bind fun lease =>
    if lease.path = path ∧ lease.preparation.logical_operation_id = x then some lease.attempt
    else none

theorem attemptsFor_singleton (path : Path) (x : Str) (e : StoreEvent P) :
    attemptsFor path x [e] = [] ∨ ∃ lease, handedOut e = some lease ∧ lease.path = path ∧
      lease.preparation.logical_operation_id = x ∧ attemptsFor path x [e] = [lease.attempt] := by
  unfold attemptsFor
  cases h : handedOut e with
  | none => exact .inl (by simp [h])
  | some lease =>
    by_cases hlease : lease.path = path ∧ lease.preparation.logical_operation_id = x
    · exact .inr ⟨lease, rfl, hlease.1, hlease.2, by simp [h, hlease]⟩
    · exact .inl (by simp [h, hlease])

/-- What the attempts so far have to do with the document. -/
structure Handed (S : Set (List Byte)) (M : ℤ) (path : Path) (x : Str) (attempts : List ℤ)
    (g : Saga P) (k : Keeping) : Prop where
  increasing : attempts.Pairwise (· < ·)
  bounds : ∀ a ∈ attempts, 1 ≤ a ∧ a ≤ M
  reached : ∀ a ∈ attempts, Reached S path x a g k

theorem Handed.next (hinj : Set.InjOn P.sha256 S) (hG : Represents S G s) {c : Call P}
    {G' : Path → Saga P × Keeping} (hG' : Steps S G s c G') {M : ℤ}
    (hM : ∀ m ∈ c.maxAttempts, m ≤ M) {attempts : List ℤ}
    (h : Handed S M path x attempts (G path).1 (G path).2) :
    Handed S M path x (attempts ++ attemptsFor path x [Machine.event step s c]) (G' path).1
      (G' path).2 := by
  have hkept : ∀ a ∈ attempts, Reached S path x a (G' path).1 (G' path).2 :=
    fun a ha => (h.reached a ha).move (hG.holds path) (hG'.move path)
  obtain hnone | ⟨lease, hissued, hpath, hx, hone⟩ :=
    attemptsFor_singleton path x (Machine.event step s c)
  · rw [hnone, List.append_nil]
    exact ⟨h.increasing, h.bounds, hkept⟩
  obtain ⟨hsame, hcall, settings, now, -, -, hmax, hleased⟩ :=
    (hG'.effect _ (handedOut_eq_some hissued)).leased _ rfl
  have hcall : path = c.path := hpath.symm.trans hcall
  subst hcall
  have hproposal := hleased.proposal
  have hfits := hG.fits c.path
  obtain ⟨hattempts, -⟩ := hleased.held.attempts
  obtain ⟨a, n, old, l, hk, -, hlt, hattempt, -, -⟩ := hleased.due
  have hbound := hM _ hmax
  -- Every attempt before is one that the document had counted.
  have hbefore : ∀ b ∈ attempts, b < lease.attempt := by
    intro b hb
    obtain hdone | ⟨q, -, -, hle⟩ := h.reached b hb
    · exact absurd hx (hdone.not_proposed hinj (hG.holds _) hproposal)
    · rw [hk] at hle
      have hle : b ≤ a := hle
      omega
  have hpos : 0 ≤ a := by
    rw [hk] at hfits
    exact hfits.2.1
  rw [hone]
  refine ⟨?_, ?_, ?_⟩
  · exact List.pairwise_append.mpr ⟨h.increasing, List.pairwise_singleton _ _, fun b hb b' hb' =>
      List.mem_singleton.mp hb' ▸ hbefore b hb⟩
  · intro b hb
    rcases List.mem_append.mp hb with hb | hb
    · exact h.bounds b hb
    · rw [List.mem_singleton.mp hb]
      omega
  · intro b hb
    rcases List.mem_append.mp hb with hb | hb
    · exact hkept b hb
    · rw [List.mem_singleton.mp hb]
      exact .inr ⟨_, by rw [hsame]; exact hproposal, hx, by omega⟩

theorem length_le_of_increasing {attempts : List ℤ} {M : ℕ} (h : attempts.Pairwise (· < ·))
    (hbounds : ∀ a ∈ attempts, 1 ≤ a ∧ a ≤ (M : ℤ)) : attempts.length ≤ M := by
  have hnodup : attempts.Nodup := h.imp fun h => ne_of_lt h
  have hsub : attempts.toFinset ⊆ Finset.Icc 1 (M : ℤ) := by
    intro a ha
    exact Finset.mem_Icc.mpr (hbounds a (List.mem_toFinset.mp ha))
  have hcard := Finset.card_le_card hsub
  rw [List.toFinset_card_of_nodup hnodup, Int.card_Icc] at hcard
  omega

/-- **A proposal is handed out at most `max_attempts` times**, under growing attempt numbers. -/
theorem leases_bounded (calls : List (Call P)) (hinj : Set.InjOn P.sha256 (hashed calls)) {M : ℕ}
    (hM : ∀ c ∈ calls, ∀ m ∈ c.maxAttempts, m ≤ M) (path : Path) (x : Str) :
    (attemptsFor path x (Machine.log step (fun _ => none) calls)).Pairwise (· < ·) ∧
      (∀ a ∈ attemptsFor path x (Machine.log step (fun _ => none) calls), 1 ≤ a ∧ a ≤ (M : ℤ)) ∧
      (attemptsFor path x (Machine.log step (fun _ => none) calls)).length ≤ M := by
  obtain ⟨G, -, h⟩ := Machine.log_inv step (G := fun e => e.call ∈ calls)
    (I := fun es s => ∃ G, Represents (P := P) (hashed calls) G s ∧
      Handed (hashed calls) M path x (attemptsFor path x es) (G path).1 (G path).2)
    ⟨_, .empty _, .nil, by simp [attemptsFor], by simp [attemptsFor]⟩ (by
      rintro es s c ⟨G, hG, h⟩ hc
      obtain ⟨G', hG'⟩ := step_represents hinj hG (mem_hashed hc)
      refine ⟨G', hG'.represents, ?_⟩
      rw [attemptsFor, List.filterMap_append]
      exact h.next hinj hG hG' (hM c hc)) calls fun e he => Machine.call_mem_of_mem_log _ he
  exact ⟨h.increasing, h.bounds, length_le_of_increasing h.increasing h.bounds⟩

theorem leases_bounded_exampleReclaimed :
    (attemptsFor (py "C1", py "CA1") examplePreparation.logical_operation_id
      (Machine.log step (fun _ => none) [exampleRequest, exampleClaim firstId 1 3,
        exampleClaim secondId 5 3])).length ≤ 3 :=
  (leases_bounded [exampleRequest, exampleClaim firstId 1 3, exampleClaim secondId 5 3]
    (injOn_exampleRequest (by simp [exampleClaim, Call.materials])) (M := 3)
    (by simp [exampleRequest, exampleClaim, Call.maxAttempts]) _ _).2.2

/-! ## Review -/

theorem inReview_data (hk : k.Fits g) (h : (g.data k).inReview = true) :
    ∃ a n, k = .review a n ∧ g.proposal ≠ none := by
  rw [Document.inReview, Bool.and_eq_true, hasProposal_data, get_recovery rfl,
    Option.isSome_iff_ne_none] at h
  obtain ⟨hne, hstate⟩ := h
  cases k with
  | review a n => exact ⟨a, n, rfl, hne⟩
  | pending a n l =>
    have hstate : (Value.text PROVIDER_RECOVERY_PENDING).isStr (py PROVIDER_RECOVERY_NEEDS_REVIEW) =
      true := hstate
    exact absurd hstate (by decide)
  | expires t => exact absurd hk hne
  | marked => exact absurd hk hne

/-- **What is left to an operator stays as it is**: no transaction of the repository leases it,
applies it or changes it in any way. -/
theorem review_final (calls : List (Call P)) (hinj : Set.InjOn P.sha256 (hashed calls))
    {es es' : List (StoreEvent P)} {e : StoreEvent P}
    (hlog : Machine.log step (fun _ => none) calls = es ++ e :: es') {path : Path} {d : Document}
    (hd : e.post path = some d) (hreview : d.inReview = true) :
    ∀ f ∈ es', f.post path = some d := by
  have hkept := (kept_after (p := path) hinj
    (I := fun g k => g.data k = d ∧ ∃ a n, k = .review a n ∧ g.proposal ≠ none) hlog
    (fun G G' _ _ _ hG' => by
      rw [hG'.document] at hd
      obtain ⟨-, rfl⟩ := document_eq_some hd
      exact ⟨rfl, inReview_data (hG'.fits path) hreview⟩)
    fun _ _ G G' _ hG' hI => by
      obtain ⟨hdata, a, n, hk, hne⟩ := hI
      have hm := hG'.move path
      rw [hk] at hm
      obtain ⟨hg, hk'⟩ := hm.review hne
      rw [hg, hk']
      exact ⟨hk ▸ hdata, a, n, rfl, hne⟩).2
  intro f hf
  obtain ⟨-, -, G, -, -, -, hG, hdata, a, n, hk, hne⟩ := hkept f hf
  obtain ⟨q, hq⟩ := Option.ne_none_iff_exists'.mp hne
  rw [hG.document, document_of_ne (ne_absent_of_proposal hq), hdata]

theorem review_final_exampleReclaimed : ∃ path d, (exampleReclaimed 1).post path = some d ∧
    ∀ f ∈ Machine.log step (exampleReclaimed 1).post [exampleConfirmation],
      f.post path = some d := by
  obtain ⟨lease, -, -, -, d, hd, hreview⟩ := exampleClaimed_leases
  exact ⟨lease.path, d, hd, review_final [exampleRequest, exampleClaim firstId 1 3,
    exampleClaim secondId 5 1, exampleConfirmation]
    (injOn_exampleRequest (by simp [exampleClaim, exampleConfirmation, Call.materials]))
    log_exampleReclaimed hd hreview⟩

/-! ## Provenance -/

/-- The event is answered with the proposal for this document. -/
def Prepares (path : Path) (q : Proposal P) (e : StoreEvent P) : Prop :=
  e.call.path = path ∧ ∃ response, e.resp = .ok response ∧ response.proposal = some q

/-- Every stored proposal was prepared. -/
theorem prepared_run {calls : List (Call P)} (hinj : Set.InjOn P.sha256 (hashed calls))
    (cs : List (Call P)) (hsub : cs ⊆ calls) : ∃ G, Represents (hashed calls) G (Machine.run step (fun _ => none) cs) ∧
      ∀ path q, (G path).1.proposal = some q →
        ∃ f ∈ Machine.log step (fun _ => none) cs, Prepares path q f := by
  refine Machine.log_inv step (G := fun e => e.call ∈ calls)
    (I := fun es s => ∃ G, Represents (P := P) (hashed calls) G s ∧
      ∀ path q, (G path).1.proposal = some q → ∃ f ∈ es, Prepares path q f)
    ⟨_, .empty _, fun _ _ h => by cases h⟩ ?_ cs
    fun e he => hsub (Machine.call_mem_of_mem_log _ he)
  rintro es s c ⟨G, hG, hprepared⟩ hc
  have hc : c ∈ calls := hc
  obtain ⟨G', hG'⟩ := step_represents hinj hG (mem_hashed hc)
  refine ⟨G', hG'.represents, fun path q hq => ?_⟩
  have hbefore : (G path).1.proposal = some q →
      ∃ f ∈ es ++ [Machine.event step s c], Prepares path q f := fun h => by
    obtain ⟨f, hf, hprepares⟩ := hprepared path q h
    exact ⟨f, List.mem_append_left _ hf, hprepares⟩
  by_cases hpath : path = c.path
  · rcases hresp : (step s c).2 with e | response
    · rw [hG'.error e hresp] at hq
      exact hbefore hq
    · subst hpath
      rcases (hG'.effect response hresp).prepared with h | h | h <;> rw [hq] at h
      · cases h
      · exact hbefore h.symm
      · exact ⟨_, List.mem_append_right _ (List.mem_singleton_self _), rfl, response, hresp,
          h.symm⟩
  · rw [hG'.other path hpath] at hq
    exact hbefore hq

/-- **Nothing is handed out or applied that was not prepared**: a worker gets, field for field, what
an earlier call on the document was answered with, and what becomes canonical was prepared so. -/
theorem prepared_before (calls : List (Call P)) (hinj : Set.InjOn P.sha256 (hashed calls))
    {es es' : List (StoreEvent P)} {e : StoreEvent P}
    (hlog : Machine.log step (fun _ => none) calls = es ++ e :: es') :
    (∀ lease, handedOut e = some lease → ∃ f ∈ es, Prepares lease.path lease.preparation f) ∧
      ∀ path x, Applies path x e → ∃ f ∈ es, ∃ q, Prepares path q f ∧ q.logical_operation_id = x := by
  obtain ⟨cs, c, cs', rfl, rfl, rfl, rfl⟩ := Machine.log_eq_append_cons _ hlog
  obtain ⟨G, hG, hprepared⟩ := prepared_run hinj cs (List.subset_append_left _ _)
  refine ⟨fun lease hlease => ?_, fun path x happlies => ?_⟩
  · obtain ⟨G', hG'⟩ := step_represents hinj hG
      (mem_hashed (List.mem_append_right cs (List.mem_cons_self (l := cs'))))
    obtain ⟨-, hpath, _, _, -, -, -, hleased⟩ := (hG'.effect _ (handedOut_eq_some hlease)).leased _ rfl
    have hpath : lease.path = c.path := hpath
    rw [hpath]
    exact hprepared _ _ hleased.proposal
  · have hproposes : (Machine.run step (fun _ => none) cs path).any (·.proposes x) = true :=
      happlies.1
    rw [hG.document, Option.any_eq_true] at hproposes
    obtain ⟨d, hd, hid⟩ := hproposes
    obtain ⟨-, rfl⟩ := document_eq_some hd
    obtain ⟨q, hq, rfl⟩ := proposes_data hid
    obtain ⟨f, hf, hprepares⟩ := hprepared path q hq
    exact ⟨f, hf, q, hprepares, rfl⟩

theorem prepared_before_exampleClaim : ∃ lease, handedOut exampleClaimed = some lease ∧
    ∃ f ∈ Machine.log step (fun _ => none) [exampleRequest],
      Prepares lease.path lease.preparation f := by
  obtain ⟨lease, hlease, -⟩ := exampleClaimed_leases
  exact ⟨lease, hlease, (prepared_before [exampleRequest, exampleClaim firstId 1 3]
    (injOn_exampleRequest (by simp [exampleClaim, Call.materials]))
    log_exampleClaimed).1 lease hlease⟩

end HeyKevin.L3.Firestore
