import HeyKevin.L10Bakeoff.ControlRefinement
import HeyKevin.L10Bakeoff.SecuritySaga
import HeyKevin.L1Encoding.Sha256
import Mathlib.Data.List.Nodup
/-!
# The saga fails closed

Over every interleaving of saga calls and every pattern of store failures:

* `Tracks`: the events so far explain the records, and the threads that hold a
  token, present one or have revoked one.
* `tracks_step`, `tracks_run`: every step keeps it.
* `FailsClosed`, `saga_fails_closed`: one disclosure for each grant, nothing for
  a failed attempt, one consumption for each token, none after a teardown.

Tokens are unguessable in that a call presents an issued token only after it was
returned (`Unguessable`); they are fresh, and their digests do not collide.
-/
namespace HeyKevin.L10.Saga

open HeyKevin.Core L1 L1.Text L10.Control L10.PreAuth

abbrev SagaEvent := Event SagaState Action Output

/-- A token that the pre-auth store issued: the thread it was for, its grant and its record. -/
structure Issue where
  thread : ℕ
  grantIdDigest : Digest
  token : Str
  preauthRef : Str
deriving DecidableEq

/-! ## What an event does -/

def Action.draw? : Action → Option PreAuth.Draw
  | .begin _ _ => none
  | .step _ _ draw => some draw.preauth

/-- The program counter of the thread that makes the step. -/
def running (e : SagaEvent) : Option (ℕ × Pc) :=
  match e.call with
  | .begin _ _ => none
  | .step i _ _ => (e.pre.threads i).map (i, ·)

section

variable (P : PreAuth.Authorities)

/-- The token that the pre-auth store issues, whether or not the saga gets it. -/
def issued (e : SagaEvent) : Option Issue :=
  match e.call with
  | .begin _ _ => none
  | .step i fault draw =>
    match e.pre.threads i with
    | some (.activating bundle nowMs ttlMs) =>
      if fault.happens then
        ((e.pre.preauth.activate P bundle.grant nowMs ttlMs draw.preauth).2.bind
          (·.issuedToken)).map fun token =>
            ⟨i, bundle.grant.grantIdDigest, token.protectedToken, draw.preauth.preauthRef.val⟩
      else none
    | _ => none

/-- The token of the session that the event returns. -/
def disclosed (e : SagaEvent) : Option Issue :=
  match e.resp, running e with
  | .session (some session), some (i, pc) =>
    pc.holds.map fun (bundle, _, _) =>
      ⟨i, bundle.grant.grantIdDigest, session.issuedToken.protectedToken, session.preauthRef.val⟩
  | _, _ => none

/-- The thread to which the event returns. -/
def returned (e : SagaEvent) : Option ℕ :=
  match e.resp with
  | .running => none
  | _ => (running e).map Prod.fst

/-- The thread whose `admit_and_activate` returns `None`. -/
def failed (e : SagaEvent) : Option ℕ :=
  match e.resp with
  | .session none => (running e).map Prod.fst
  | _ => none

/-- The record and the token of a consumption that succeeds. -/
def consumption (e : SagaEvent) : Option (Str × Str) :=
  match e.resp, running e with
  | .consumed true, some (_, .consuming session protectedToken _) =>
    some (session.preauthRef.val, protectedToken)
  | _, _ => none

/-- The record of a teardown that reports the pre-authorization revoked. -/
def tornDown (e : SagaEvent) : Option Str :=
  match e.resp, running e with
  | .torn result, some (_, pc) => if result.preauthRevoked then pc.revoked else none
  | _, _ => none

/-- The token that a new call of `consume` presents. -/
def presented (e : SagaEvent) : Option Str :=
  match e.call with
  | .begin _ (.consume _ protectedToken _) => some protectedToken
  | _ => none

/-! ## What the events explain -/

structure Tracks (es : List SagaEvent) (s : SagaState) : Prop where
  keyed : s.preauth.Keyed
  /-- A record is of an issued token. -/
  records : ∀ ref r, s.preauth.records.find? ref = some r → ∃ iss ∈ es.filterMap (issued P),
    iss.preauthRef = ref ∧ r.tokenDigest = P.tokenDigest iss.token
  /-- A grant with a token has its record in the index. -/
  index : ∀ iss ∈ es.filterMap (issued P),
    s.preauth.grantIndex.find? iss.grantIdDigest ≠ none
  drawn : ∀ iss ∈ es.filterMap (issued P), ∃ d ∈ es.filterMap (·.call.draw?),
    d.protectedToken = iss.token ∧ d.preauthRef.val = iss.preauthRef
  tokens : ((es.filterMap (issued P)).map Issue.token).Nodup
  refs : ((es.filterMap (issued P)).map Issue.preauthRef).Nodup
  grants : ((es.filterMap (issued P)).map Issue.grantIdDigest).Nodup
  /-- A thread holds a token that was issued to it. -/
  holds : ∀ i pc bundle token ref, s.threads i = some pc → pc.holds = some (bundle, token, ref) →
    ⟨i, bundle.grant.grantIdDigest, token.protectedToken, ref.val⟩ ∈ es.filterMap (issued P)
  disclosed : ∀ iss ∈ es.filterMap disclosed, iss ∈ es.filterMap (issued P)
  returnedOnce : (es.filterMap returned).Nodup
  returned : ∀ i ∈ es.filterMap returned, s.threads i = some .done
  consumed : ∀ c ∈ es.filterMap consumption, ∃ r, s.preauth.records.find? c.1 = some r ∧
    r.tokenDigest = P.tokenDigest c.2 ∧ (r.state = .consumed ∨ r.state = .revoked)
  consumedOnce : ((es.filterMap consumption).map Prod.snd).Nodup
  consumedRecords : ((es.filterMap consumption).map Prod.fst).Nodup
  /-- A record that a thread has revoked, or that a teardown reported, is revoked. -/
  revoking : ∀ i pc ref, s.threads i = some pc → pc.revoked = some ref →
    ∃ r, s.preauth.records.find? ref = some r ∧ r.state = .revoked
  torn : ∀ ref ∈ es.filterMap tornDown,
    ∃ r, s.preauth.records.find? ref = some r ∧ r.state = .revoked
  /-- A token that a thread presents was given to its call. -/
  presents : ∀ i pc token, s.threads i = some pc → pc.presents = some token →
    token ∈ es.filterMap presented

/-- No two of the drawn tokens, and no two of the drawn references, are the same. -/
structure Fresh (draws : List PreAuth.Draw) : Prop where
  tokens : (draws.map (·.protectedToken)).Nodup
  refs : (draws.map (·.preauthRef.val)).Nodup

/-- No two of the drawn tokens have one digest. -/
def CollisionFree (draws : List PreAuth.Draw) : Prop :=
  ∀ d ∈ draws, ∀ d' ∈ draws, P.tokenDigest d.protectedToken = P.tokenDigest d'.protectedToken →
    d.protectedToken = d'.protectedToken

/-! ## What one event can do -/

/-- The records after an issue: the new one under its reference. -/
structure Issues (e : SagaEvent) (iss : Issue) : Prop where
  issued : issued P e = some iss
  drawn : ∃ d, e.call.draw? = some d ∧ d.protectedToken = iss.token ∧
    d.preauthRef.val = iss.preauthRef
  new : e.pre.preauth.grantIndex.find? iss.grantIdDigest = none
  record : ∃ r, e.post.preauth.records = e.pre.preauth.records.set iss.preauthRef r ∧
    r.preauthRef.val = iss.preauthRef ∧ r.tokenDigest = P.tokenDigest iss.token
  index : ∃ ref, e.post.preauth.grantIndex = e.pre.preauth.grantIndex.set iss.grantIdDigest ref

structure StepFacts (e : SagaEvent) : Prop where
  store : TokenStore.Touches e.pre.preauth e.post.preauth ∧ issued P e = none ∨
    ∃ iss, Issues P e iss
  holds : ∀ i pc' bundle token ref, e.post.threads i = some pc' →
    pc'.holds = some (bundle, token, ref) →
    (∃ pc, e.pre.threads i = some pc ∧ pc.holds = some (bundle, token, ref)) ∨
      issued P e = some ⟨i, bundle.grant.grantIdDigest, token.protectedToken, ref.val⟩
  revoked : ∀ i pc' ref, e.post.threads i = some pc' → pc'.revoked = some ref →
    e.pre.threads i = some pc' ∨
      ∃ r, e.post.preauth.records.find? ref = some r ∧ r.state = .revoked
  presents : ∀ i pc' token, e.post.threads i = some pc' → pc'.presents = some token →
    (∃ pc, e.pre.threads i = some pc ∧ pc.presents = some token) ∨ presented e = some token
  done : ∀ i, e.pre.threads i = some .done → e.post.threads i = some .done
  disclosed : ∀ iss, disclosed e = some iss → ∃ pc bundle token ref,
    e.pre.threads iss.thread = some pc ∧ pc.holds = some (bundle, token, ref) ∧
      iss = ⟨iss.thread, bundle.grant.grantIdDigest, token.protectedToken, ref.val⟩
  returned : ∀ i, returned e = some i →
    e.pre.threads i ≠ some .done ∧ e.post.threads i = some .done
  consumed : ∀ ref token, consumption e = some (ref, token) → ∃ r r',
    e.pre.preauth.records.find? ref = some r ∧ r.state = .active ∧
      r.tokenDigest = P.tokenDigest token ∧ e.post.preauth.records.find? ref = some r' ∧
      r'.state = .consumed ∧ r'.tokenDigest = r.tokenDigest
  torn : ∀ ref, tornDown e = some ref → ∃ i pc, e.pre.threads i = some pc ∧ pc.revoked = some ref

variable (C : Control.Authorities)

theorem quiet_of_running {e : SagaEvent} (h : e.resp = .running) : disclosed e = none ∧
    returned e = none ∧ consumption e = none ∧ tornDown e = none := by
  unfold disclosed returned consumption tornDown
  rw [h]
  exact ⟨rfl, rfl, rfl, rfl⟩

theorem stepFacts_quiet {e : SagaEvent} (hresp : e.resp = .running) (hissued : issued P e = none)
    (hstore : e.post.preauth = e.pre.preauth)
    (hthreads : ∀ i pc', e.post.threads i = some pc' → e.pre.threads i = some pc' ∨
      pc'.holds = none ∧ pc'.revoked = none ∧
        ∀ token, pc'.presents = some token → presented e = some token)
    (hdone : ∀ i, e.pre.threads i = some .done → e.post.threads i = some .done) :
    StepFacts P e := by
  obtain ⟨hdisclosed, hreturned, hconsumption, htorn⟩ := quiet_of_running hresp
  refine ⟨.inl ⟨hstore ▸ .refl _, hissued⟩, ?_, ?_, ?_, hdone, ?_, ?_, ?_, ?_⟩
  · intro i pc' bundle token ref hpc hholds
    rcases hthreads i pc' hpc with h | ⟨hno, -, -⟩
    · exact .inl ⟨pc', h, hholds⟩
    · rw [hno] at hholds
      cases hholds
  · intro i pc' ref hpc hrevoked
    rcases hthreads i pc' hpc with h | ⟨-, hno, -⟩
    · exact .inl h
    · rw [hno] at hrevoked
      cases hrevoked
  · intro i pc' token hpc hpresents
    rcases hthreads i pc' hpc with h | ⟨-, -, hnew⟩
    · exact .inl ⟨pc', h, hpresents⟩
    · exact .inr (hnew token hpresents)
  · intro iss h
    rw [hdisclosed] at h
    cases h
  · intro i h
    rw [hreturned] at h
    cases h
  · intro ref token h
    rw [hconsumption] at h
    cases h
  · intro ref h
    rw [htorn] at h
    cases h

theorem stepFacts_begin (s : SagaState) (i : ℕ) (call : SagaCall) :
    StepFacts P ((saga C P).event s (.begin i call)) := by
  cases hthread : s.threads i with
  | some pc =>
    have hstep : saga C P s (.begin i call) = (s, .running) := by simp [saga, hthread]
    refine stepFacts_quiet P (by rw [Machine.event_resp, hstep]) rfl
      (by rw [Machine.event_post, hstep]; rfl) ?_ ?_
    · intro j pc' hpc
      rw [Machine.event_post, hstep] at hpc
      exact .inl hpc
    · intro j hdone
      rw [Machine.event_post, hstep]
      exact hdone
  | none =>
    have hstep : saga C P s (.begin i call) =
        ({ s with threads := Function.update s.threads i (some call.pc) }, .running) := by
      simp [saga, hthread]
    refine stepFacts_quiet P (by rw [Machine.event_resp, hstep]) rfl
      (by rw [Machine.event_post, hstep]; rfl) ?_ ?_
    · intro j pc' hpc
      rw [Machine.event_post, hstep] at hpc
      simp only [Function.update_apply] at hpc
      split at hpc
      · cases hpc
        right
        cases call with
        | consume => exact ⟨rfl, rfl, fun token h => h⟩
        | admitAndActivate | teardown => exact ⟨rfl, rfl, fun _ h => by cases h⟩
      · exact .inl hpc
    · intro j hdone
      rw [Machine.event_pre] at hdone
      rw [Machine.event_post, hstep]
      simp only [Function.update_apply]
      split
      · rename_i hj
        rw [hj, hthread] at hdone
        cases hdone
      · exact hdone

theorem issues_of_adds {s : SagaState} {i : ℕ} {fault : Fault} {draw : SagaDraw}
    {bundle : AdmissionBundle} {nowMs ttlMs : ℤ}
    (hthread : s.threads i = some (.activating bundle nowMs ttlMs))
    (h : Adds (P := P) s.preauth fault draw bundle nowMs ttlMs) :
    Issues P ((saga C P).event s (.step i fault draw))
      ⟨i, bundle.grant.grantIdDigest, draw.preauth.protectedToken,
        draw.preauth.preauthRef.val⟩ := by
  have hpost : ((saga C P).event s (.step i fault draw)).post.preauth =
      (s.preauth.activate P bundle.grant nowMs ttlMs draw.preauth).1 := by
    simp only [Machine.event_post, saga, hthread, stepPc, Fault.state, h.happens, if_true]
    split <;> rfl
  refine ⟨?_, ⟨draw.preauth, rfl, rfl, rfl⟩, h.new, ?_, ?_⟩
  · simp [issued, hthread, h.happens, h.activates, TokenStore.newToken]
  · rw [hpost, h.activates]
    exact ⟨_, rfl, rfl, rfl⟩
  · rw [hpost, h.activates]
    exact ⟨_, rfl⟩

theorem issued_of_not_adds {s : SagaState} {i : ℕ} {fault : Fault} {draw : SagaDraw} {pc : Pc}
    (hthread : s.threads i = some pc)
    (h : ¬ ∃ bundle nowMs ttlMs, pc = .activating bundle nowMs ttlMs ∧
      Adds (P := P) s.preauth fault draw bundle nowMs ttlMs) :
    issued P ((saga C P).event s (.step i fault draw)) = none := by
  unfold issued
  simp only [Machine.event_call, Machine.event_pre, hthread]
  split
  · rename_i bundle nowMs ttlMs hpc
    split
    · rename_i hhappens
      rcases TokenStore.activate_cases P s.preauth bundle.grant nowMs ttlMs draw.preauth with
        ⟨-, hno⟩ | ⟨hnew, hact⟩
      · rw [Option.map_eq_none_iff, Option.bind_eq_none_iff]
        exact hno
      · exact absurd ⟨bundle, nowMs, ttlMs, Option.some.inj hpc, hhappens, hnew, hact⟩ h
    · rfl
  · rfl

theorem stepFacts_step {s : SagaState} (hk : s.preauth.Keyed) (i : ℕ) (fault : Fault)
    (draw : SagaDraw) : StepFacts P ((saga C P).event s (.step i fault draw)) := by
  cases hthread : s.threads i with
  | none =>
    have hstep : saga C P s (.step i fault draw) = (s, .running) := by simp [saga, hthread]
    refine stepFacts_quiet P (by rw [Machine.event_resp, hstep]) (by simp [issued, hthread])
      (by rw [Machine.event_post, hstep]; rfl) ?_ ?_
    · intro j pc' hpc
      rw [Machine.event_post, hstep] at hpc
      exact .inl hpc
    · intro j hdone
      rw [Machine.event_post, hstep]
      exact hdone
  | some pc =>
    have hresp : ((saga C P).event s (.step i fault draw)).resp =
        (stepPc C P s.control s.preauth fault draw pc).2.2.2 := by
      simp [saga, hthread]
    have hpost : ((saga C P).event s (.step i fault draw)).post.preauth =
        (stepPc C P s.control s.preauth fault draw pc).2.1 := by
      simp [saga, hthread]
    have hthreads : ((saga C P).event s (.step i fault draw)).post.threads =
        Function.update s.threads i
          (some (stepPc C P s.control s.preauth fault draw pc).2.2.1) := by
      simp [saga, hthread]
    have hrunning : running ((saga C P).event s (.step i fault draw)) = some (i, pc) := by
      simp [running, hthread]
    have hother : ∀ {j pc'}, ((saga C P).event s (.step i fault draw)).post.threads j = some pc' →
        s.threads j = some pc' ∨
          j = i ∧ pc' = (stepPc C P s.control s.preauth fault draw pc).2.2.1 := by
      intro j pc' hpc
      rw [hthreads, Function.update_apply] at hpc
      split at hpc
      · rename_i hj
        exact .inr ⟨hj, (Option.some.inj hpc).symm⟩
      · exact .inl hpc
    obtain ⟨hreturns, hdone⟩ := stepPc_returns C P s.control s.preauth fault draw pc
    refine ⟨?_, ?_, ?_, ?_, ?_, ?_, ?_, ?_, ?_⟩
    · by_cases hadds : ∃ bundle nowMs ttlMs, pc = .activating bundle nowMs ttlMs ∧
          Adds (P := P) s.preauth fault draw bundle nowMs ttlMs
      · obtain ⟨bundle, nowMs, ttlMs, rfl, hadds⟩ := hadds
        exact .inr ⟨_, issues_of_adds P C hthread hadds⟩
      · refine .inl ⟨?_, issued_of_not_adds P C hthread hadds⟩
        rw [hpost]
        exact (stepPc_preauth hk).resolve_right hadds
    · intro j pc' bundle token ref hpc hholds
      rcases hother hpc with h | ⟨rfl, rfl⟩
      · exact .inl ⟨pc', h, hholds⟩
      · rcases stepPc_holds hholds with h | ⟨bundle', nowMs, ttlMs, rfl, hadds, heq⟩
        · exact .inl ⟨pc, hthread, h⟩
        · cases heq
          exact .inr (issues_of_adds P C hthread hadds).issued
    · intro j pc' ref hpc hrevoked
      rcases hother hpc with h | ⟨rfl, rfl⟩
      · exact .inl h
      · obtain ⟨reason, nowMs, hres, heq⟩ := stepPc_revoked hrevoked
        rw [hpost, heq]
        exact .inr (TokenStore.revoke_true hk hres)
    · intro j pc' token hpc hpresents
      rcases hother hpc with h | ⟨rfl, rfl⟩
      · exact .inl ⟨pc', h, hpresents⟩
      · exact .inl ⟨pc, hthread, stepPc_presents hpresents⟩
    · intro j hj
      rw [Machine.event_pre] at hj
      rw [hthreads, Function.update_apply]
      split
      · rename_i hji
        rw [hji, hthread] at hj
        rw [(hdone (Option.some.inj hj)).1]
      · exact hj
    · intro iss h
      unfold disclosed at h
      rw [hresp, hrunning] at h
      split at h
      · rename_i session j pc' hsession hrun
        cases hrun
        obtain ⟨bundle, hholds⟩ := stepPc_session hsession
        rw [hholds] at h
        cases h
        exact ⟨pc, bundle, session.issuedToken, session.preauthRef, hthread, hholds, rfl⟩
      · cases h
    · intro j h
      have hne : ((saga C P).event s (.step i fault draw)).resp ≠ .running := by
        intro hrun
        rw [(quiet_of_running hrun).2.1] at h
        cases h
      rw [hresp] at hne
      have hj : i = j := by
        unfold returned at h
        rw [hrunning] at h
        split at h
        · cases h
        · exact Option.some.inj h
      subst hj
      constructor
      · intro hd
        rw [Machine.event_pre, hthread] at hd
        exact hne (hdone (Option.some.inj hd)).2
      · rw [hthreads, Function.update_self, hreturns.resolve_left hne]
    · intro ref token h
      unfold consumption at h
      rw [hresp, hrunning] at h
      split at h
      · rename_i session protectedToken nowMs hconsumed hrun
        cases hrun
        cases h
        obtain ⟨session', protectedToken', nowMs', heq, hres, hp⟩ := stepPc_consumed hconsumed
        cases heq
        obtain ⟨r, r', hr, hactive, hdigest, hr', hstate, hsame⟩ :=
          TokenStore.consume_true P hk hres
        exact ⟨r, r', hr, hactive, hdigest, by rw [hpost, hp]; exact hr', hstate, hsame⟩
      · cases h
    · intro ref h
      unfold tornDown at h
      rw [hresp, hrunning] at h
      split at h
      · rename_i result j pc' htorn hrun
        cases hrun
        split at h
        · exact ⟨i, pc, hthread, h⟩
        · cases h
      · cases h

theorem stepFacts {s : SagaState} (hk : s.preauth.Keyed) (a : Action) :
    StepFacts P ((saga C P).event s a) := by
  cases a with
  | begin i call => exact stepFacts_begin P C s i call
  | step i fault draw => exact stepFacts_step P C hk i fault draw

/-! ## Every step keeps it -/

theorem mem_filterMap_concat {α β : Type} {f : α → Option β} {l : List α} {a : α} {b : β} :
    b ∈ (l ++ [a]).filterMap f ↔ b ∈ l.filterMap f ∨ f a = some b := by
  simp [List.filterMap_append, List.mem_filterMap]

theorem nodup_filterMap_concat {α β γ : Type} {f : α → Option β} {g : β → γ} {l : List α} {a : α}
    (h : ((l.filterMap f).map g).Nodup)
    (hnew : ∀ b, f a = some b → ∀ b' ∈ l.filterMap f, g b' ≠ g b) :
    (((l ++ [a]).filterMap f).map g).Nodup := by
  rw [List.filterMap_append, List.map_append]
  cases ha : f a with
  | none => simpa [ha] using h
  | some b =>
    simp only [List.filterMap_cons, ha, List.filterMap_nil, List.map_cons, List.map_nil]
    refine List.nodup_append.mpr ⟨h, List.nodup_singleton _, ?_⟩
    intro c hc c' hc'
    obtain ⟨b', hb', rfl⟩ := List.mem_map.mp hc
    rw [List.mem_singleton.mp hc']
    exact hnew b ha b' hb'

variable {P} {es : List SagaEvent} {e : SagaEvent}

/-- The draws of an event are not those of the events before it. -/
def FreshAfter (es : List SagaEvent) (e : SagaEvent) : Prop :=
  ∀ d ∈ e.call.draw?, ∀ d' ∈ es.filterMap (·.call.draw?),
    d'.protectedToken ≠ d.protectedToken ∧ d'.preauthRef.val ≠ d.preauthRef.val

theorem Tracks.find?_none {s : SagaState} (h : Tracks P es s) (hfresh : FreshAfter es e)
    {d : PreAuth.Draw} (hd : e.call.draw? = some d) :
    s.preauth.records.find? d.preauthRef.val = none := by
  cases hr : s.preauth.records.find? d.preauthRef.val with
  | none => rfl
  | some r =>
    obtain ⟨iss, hiss, href, -⟩ := h.records _ r hr
    obtain ⟨d', hd', -, href'⟩ := h.drawn iss hiss
    exact absurd (href'.trans href) (hfresh d hd d' hd').2

theorem Tracks.keeps (h : Tracks P es e.pre) (hf : StepFacts P e) (hfresh : FreshAfter es e) :
    e.pre.preauth.Keeps e.post.preauth := by
  rcases hf.store with ⟨htouches, -⟩ | ⟨iss, hiss⟩
  · exact htouches.keeps
  · obtain ⟨d, hd, -, href⟩ := hiss.drawn
    obtain ⟨new, hrecords, -, -⟩ := hiss.record
    intro ref r hr
    rw [hrecords, Entries.find?_set]
    split
    · rename_i heq
      rw [← heq, ← href, h.find?_none hfresh hd] at hr
      cases hr
    · exact ⟨r, hr, .refl r⟩

/-- A revoked record stays revoked. -/
theorem keeps_revoked {p p' : TokenStore} (h : p.Keeps p') {ref : Str}
    (hr : ∃ r, p.records.find? ref = some r ∧ r.state = .revoked) :
    ∃ r, p'.records.find? ref = some r ∧ r.state = .revoked := by
  obtain ⟨r, hr, hrevoked⟩ := hr
  obtain ⟨r', hr', hstep⟩ := h ref r hr
  exact ⟨r', hr', hstep.revoked hrevoked⟩

theorem Tracks.same_record {s : SagaState} (h : Tracks P es s)
    (hcollision : CollisionFree P (es.filterMap (·.call.draw?))) {ref ref' : Str}
    {r r' : PreAuthRecord} (hr : s.preauth.records.find? ref = some r)
    (hr' : s.preauth.records.find? ref' = some r') (hdigest : r.tokenDigest = r'.tokenDigest) :
    ref = ref' := by
  obtain ⟨iss, hiss, href, htoken⟩ := h.records ref r hr
  obtain ⟨iss', hiss', href', htoken'⟩ := h.records ref' r' hr'
  obtain ⟨d, hd, hdt, -⟩ := h.drawn iss hiss
  obtain ⟨d', hd', hdt', -⟩ := h.drawn iss' hiss'
  rw [htoken, htoken', ← hdt, ← hdt'] at hdigest
  have htokens := hcollision d hd d' hd' hdigest
  rw [hdt, hdt'] at htokens
  have hsame := List.inj_on_of_nodup_map h.tokens hiss hiss' htokens
  rw [← href, ← href', hsame]

theorem StepFacts.issues (hf : StepFacts P e) {iss : Issue} (h : issued P e = some iss) :
    Issues P e iss := by
  rcases hf.store with ⟨-, hnone⟩ | ⟨iss', hiss'⟩
  · rw [hnone] at h
    cases h
  · rw [hiss'.issued] at h
    cases h
    exact hiss'

theorem Tracks.draws_of_new (h : Tracks P es e.pre) (hf : StepFacts P e) {iss iss' : Issue}
    (hnew : issued P e = some iss) (hiss' : iss' ∈ es.filterMap (issued P)) :
    ∃ d d', e.call.draw? = some d ∧ d' ∈ es.filterMap (·.call.draw?) ∧
      (d.protectedToken = iss.token ∧ d.preauthRef.val = iss.preauthRef) ∧
      d'.protectedToken = iss'.token ∧ d'.preauthRef.val = iss'.preauthRef := by
  obtain ⟨d, hd, hmatch⟩ := (hf.issues hnew).drawn
  obtain ⟨d', hd', hmatch'⟩ := h.drawn iss' hiss'
  exact ⟨d, d', hd, hd', hmatch, hmatch'⟩

theorem tracks_step (h : Tracks P es e.pre) (hf : StepFacts P e) (hfresh : FreshAfter es e)
    (hcollision : CollisionFree P (es.filterMap (·.call.draw?))) :
    Tracks P (es ++ [e]) e.post where
  keyed := by
    rcases hf.store with ⟨htouches, -⟩ | ⟨iss, hiss⟩
    · exact htouches.keyed h.keyed
    · obtain ⟨new, hrecords, href, -⟩ := hiss.record
      intro ref r hr
      rw [hrecords, Entries.find?_set] at hr
      split at hr
      · rename_i heq
        cases hr
        exact href.trans heq
      · exact h.keyed ref r hr
  records := by
    intro ref r' hr'
    rcases hf.store with ⟨htouches, -⟩ | ⟨iss, hiss⟩
    · obtain ⟨r, hr, hstep⟩ := htouches.onlyOld ref r' hr'
      obtain ⟨iss, hiss, href, htoken⟩ := h.records ref r hr
      exact ⟨iss, mem_filterMap_concat.mpr (.inl hiss), href, hstep.tokenDigest.trans htoken⟩
    · obtain ⟨new, hrecords, -, htoken⟩ := hiss.record
      rw [hrecords, Entries.find?_set] at hr'
      split at hr'
      · rename_i heq
        cases hr'
        exact ⟨iss, mem_filterMap_concat.mpr (.inr hiss.issued), heq, htoken⟩
      · obtain ⟨iss', hiss', href, htoken'⟩ := h.records ref r' hr'
        exact ⟨iss', mem_filterMap_concat.mpr (.inl hiss'), href, htoken'⟩
  index := by
    intro iss' hiss'
    rcases hf.store with ⟨htouches, hnone⟩ | ⟨iss, hiss⟩
    · rw [htouches.grantIndex]
      rcases mem_filterMap_concat.mp hiss' with hiss' | hiss'
      · exact h.index iss' hiss'
      · rw [hnone] at hiss'
        cases hiss'
    · obtain ⟨ref, hindex⟩ := hiss.index
      rw [hindex, Entries.find?_set]
      split
      · exact Option.some_ne_none _
      · rename_i hne
        rcases mem_filterMap_concat.mp hiss' with hiss' | hiss'
        · exact h.index iss' hiss'
        · rw [hiss.issued] at hiss'
          cases hiss'
          exact absurd rfl hne
  drawn := by
    intro iss' hiss'
    rcases mem_filterMap_concat.mp hiss' with hiss' | hiss'
    · obtain ⟨d, hd, hmatch⟩ := h.drawn iss' hiss'
      exact ⟨d, mem_filterMap_concat.mpr (.inl hd), hmatch⟩
    · obtain ⟨d, hd, hmatch⟩ := (hf.issues hiss').drawn
      exact ⟨d, mem_filterMap_concat.mpr (.inr hd), hmatch⟩
  tokens := by
    refine nodup_filterMap_concat h.tokens fun iss hnew iss' hiss' heq => ?_
    obtain ⟨d, d', hd, hd', ⟨htoken, -⟩, htoken', -⟩ := h.draws_of_new hf hnew hiss'
    exact (hfresh d hd d' hd').1 (htoken'.trans (heq.trans htoken.symm))
  refs := by
    refine nodup_filterMap_concat h.refs fun iss hnew iss' hiss' heq => ?_
    obtain ⟨d, d', hd, hd', ⟨-, href⟩, -, href'⟩ := h.draws_of_new hf hnew hiss'
    exact (hfresh d hd d' hd').2 (href'.trans (heq.trans href.symm))
  grants := by
    refine nodup_filterMap_concat h.grants fun iss hnew iss' hiss' heq => ?_
    have hindex := (hf.issues hnew).new
    rw [← heq] at hindex
    exact h.index iss' hiss' hindex
  holds := by
    intro i pc' bundle token ref hpc hholds
    rcases hf.holds i pc' bundle token ref hpc hholds with ⟨pc, hpre, hheld⟩ | hissued
    · exact mem_filterMap_concat.mpr (.inl (h.holds i pc bundle token ref hpre hheld))
    · exact mem_filterMap_concat.mpr (.inr hissued)
  disclosed := by
    intro iss hiss
    rcases mem_filterMap_concat.mp hiss with hiss | hiss
    · exact mem_filterMap_concat.mpr (.inl (h.disclosed iss hiss))
    · obtain ⟨pc, bundle, token, ref, hpc, hheld, heq⟩ := hf.disclosed iss hiss
      rw [heq]
      exact mem_filterMap_concat.mpr (.inl (h.holds _ pc bundle token ref hpc hheld))
  returnedOnce := by
    have hmap : (((es ++ [e]).filterMap Saga.returned).map id).Nodup := by
      refine nodup_filterMap_concat (by rw [List.map_id]; exact h.returnedOnce) ?_
      intro i hi j hj heq
      simp only [id] at heq
      subst heq
      exact (hf.returned j hi).1 (h.returned j hj)
    rwa [List.map_id] at hmap
  returned := by
    intro i hi
    rcases mem_filterMap_concat.mp hi with hi | hi
    · exact hf.done i (h.returned i hi)
    · exact (hf.returned i hi).2
  consumed := by
    intro c hc
    rcases mem_filterMap_concat.mp hc with hc | hc
    · obtain ⟨r, hr, hdigest, hstate⟩ := h.consumed c hc
      obtain ⟨r', hr', hstep⟩ := h.keeps hf hfresh c.1 r hr
      refine ⟨r', hr', hstep.tokenDigest.trans hdigest, ?_⟩
      exact hstate.elim hstep.consumed fun hrevoked => .inr (hstep.revoked hrevoked)
    · obtain ⟨r, r', -, -, hdigest, hr', hstate, hsame⟩ := hf.consumed c.1 c.2 hc
      exact ⟨r', hr', hsame.trans hdigest, .inl hstate⟩
  consumedOnce := by
    refine nodup_filterMap_concat h.consumedOnce fun c hc c' hc' heq => ?_
    obtain ⟨r, -, hr, hactive, hdigest, -⟩ := hf.consumed c.1 c.2 hc
    obtain ⟨r', hr', hdigest', hstate⟩ := h.consumed c' hc'
    rw [heq, ← hdigest] at hdigest'
    have href := h.same_record hcollision hr' hr hdigest'
    rw [href, hr] at hr'
    cases hr'
    rw [hactive] at hstate
    rcases hstate with hstate | hstate <;> cases hstate
  consumedRecords := by
    refine nodup_filterMap_concat h.consumedRecords fun c hc c' hc' heq => ?_
    obtain ⟨r, -, hr, hactive, -⟩ := hf.consumed c.1 c.2 hc
    obtain ⟨r', hr', -, hstate⟩ := h.consumed c' hc'
    rw [heq, hr] at hr'
    cases hr'
    rw [hactive] at hstate
    rcases hstate with hstate | hstate <;> cases hstate
  revoking := by
    intro i pc' ref hpc hrevoked
    rcases hf.revoked i pc' ref hpc hrevoked with hpre | hr
    · exact keeps_revoked (h.keeps hf hfresh) (h.revoking i pc' ref hpre hrevoked)
    · exact hr
  torn := by
    intro ref href
    refine keeps_revoked (h.keeps hf hfresh) ?_
    rcases mem_filterMap_concat.mp href with href | href
    · exact h.torn ref href
    · obtain ⟨i, pc, hpc, hrevoked⟩ := hf.torn ref href
      exact h.revoking i pc ref hpc hrevoked
  presents := by
    intro i pc' token hpc hpresents
    rcases hf.presents i pc' token hpc hpresents with ⟨pc, hpre, hpre'⟩ | hnew
    · exact mem_filterMap_concat.mpr (.inl (h.presents i pc token hpre hpre'))
    · exact mem_filterMap_concat.mpr (.inr hnew)

/-! ## Runs -/

theorem tracks_init : Tracks P [] SagaState.init where
  keyed := fun _ _ h => (Option.some_ne_none _ h.symm).elim
  records := fun _ _ h => (Option.some_ne_none _ h.symm).elim
  index := fun _ h => (List.not_mem_nil h).elim
  drawn := fun _ h => (List.not_mem_nil h).elim
  tokens := .nil
  refs := .nil
  grants := .nil
  holds := fun _ _ _ _ _ h _ => (Option.some_ne_none _ h.symm).elim
  disclosed := fun _ h => (List.not_mem_nil h).elim
  returnedOnce := .nil
  returned := fun _ h => (List.not_mem_nil h).elim
  consumed := fun _ h => (List.not_mem_nil h).elim
  consumedOnce := .nil
  consumedRecords := .nil
  revoking := fun _ _ _ h _ => (Option.some_ne_none _ h.symm).elim
  torn := fun _ h => (List.not_mem_nil h).elim
  presents := fun _ _ _ h _ => (Option.some_ne_none _ h.symm).elim

theorem filterMap_draw?_log (s : SagaState) (calls : List Action) :
    ((saga C P).log s calls).filterMap (·.call.draw?) = calls.filterMap Action.draw? := by
  have h := congrArg (List.filterMap Action.draw?) (Machine.map_call_log (saga C P) s calls)
  rwa [List.filterMap_map] at h

theorem Fresh.append {draws draws' : List PreAuth.Draw} (h : Fresh (draws ++ draws')) :
    Fresh draws ∧ ∀ d ∈ draws', ∀ d' ∈ draws,
      d'.protectedToken ≠ d.protectedToken ∧ d'.preauthRef.val ≠ d.preauthRef.val := by
  obtain ⟨htokens, hrefs⟩ := h
  rw [List.map_append, List.nodup_append] at htokens hrefs
  refine ⟨⟨htokens.1, hrefs.1⟩, fun d hd d' hd' => ⟨?_, ?_⟩⟩
  · exact htokens.2.2 _ (List.mem_map_of_mem hd') _ (List.mem_map_of_mem hd)
  · exact hrefs.2.2 _ (List.mem_map_of_mem hd') _ (List.mem_map_of_mem hd)

theorem tracks_run (calls : List Action) (hfresh : Fresh (calls.filterMap Action.draw?))
    (hcollision : CollisionFree P (calls.filterMap Action.draw?)) :
    Tracks P ((saga C P).log .init calls) ((saga C P).run .init calls) := by
  induction calls using List.reverseRecOn with
  | nil => exact tracks_init
  | append_singleton calls a ih =>
    rw [List.filterMap_append] at hfresh hcollision
    obtain ⟨hbefore, hnew⟩ := hfresh.append
    have hcollision' : CollisionFree P (calls.filterMap Action.draw?) := fun d hd d' hd' =>
      hcollision d (List.mem_append_left _ hd) d' (List.mem_append_left _ hd')
    have htracks := ih hbefore hcollision'
    rw [Machine.log_append_cons, Machine.run_append]
    refine tracks_step htracks (stepFacts P C htracks.keyed a) ?_ ?_
    · intro d hd d' hd'
      rw [filterMap_draw?_log] at hd'
      refine hnew d ?_ d' hd'
      exact List.mem_filterMap.mpr ⟨a, List.mem_singleton_self a, hd⟩
    · rw [filterMap_draw?_log]
      exact hcollision'

theorem tracks_cut {calls : List Action} (hfresh : Fresh (calls.filterMap Action.draw?))
    (hcollision : CollisionFree P (calls.filterMap Action.draw?)) {l₁ l₂ : List SagaEvent}
    (h : (saga C P).log .init calls = l₁ ++ e :: l₂) : Tracks P l₁ e.pre ∧ StepFacts P e := by
  obtain ⟨calls₁, a, calls₂, rfl, rfl, rfl, -⟩ := (saga C P).log_eq_append_cons h
  rw [List.filterMap_append] at hfresh hcollision
  have htracks := tracks_run C calls₁ hfresh.append.1 fun d hd d' hd' =>
    hcollision d (List.mem_append_left _ hd) d' (List.mem_append_left _ hd')
  exact ⟨htracks, stepFacts P C htracks.keyed a⟩

/-! ## The saga fails closed -/

variable (P)

/-- A call presents an issued token only after it was returned. -/
def Unguessable (es : List SagaEvent) : Prop :=
  ∀ l₁ e l₂, es = l₁ ++ e :: l₂ → ∀ token, presented e = some token →
    token ∈ (es.filterMap (issued P)).map Issue.token →
      token ∈ (l₁.filterMap disclosed).map Issue.token

structure FailsClosed (es : List SagaEvent) : Prop where
  /-- A returned session carries a token that was issued to its call. -/
  inSession : ∀ e ∈ es, ∀ session, e.resp = .session (some session) →
    ∃ iss ∈ es.filterMap (issued P), disclosed e = some iss ∧ returned e = some iss.thread ∧
      iss.token = session.issuedToken.protectedToken ∧ iss.preauthRef = session.preauthRef.val
  perGrant : ((es.filterMap disclosed).map Issue.grantIdDigest).Nodup
  perToken : ((es.filterMap disclosed).map Issue.token).Nodup
  /-- A token of a call that returned `None` is never consumed. -/
  failed : ∀ e ∈ es, e.resp = .session none → ∃ i, failed e = some i ∧
    ∀ iss ∈ es.filterMap (issued P), iss.thread = i →
      ∀ c ∈ es.filterMap consumption, c.2 ≠ iss.token
  /-- No token and no session is consumed twice. -/
  consumes : ∀ e ∈ es, e.resp = .consumed true → ∃ c, consumption e = some c
  tokenOnce : ((es.filterMap consumption).map Prod.snd).Nodup
  sessionOnce : ((es.filterMap consumption).map Prod.fst).Nodup
  /-- Nothing of a session is consumed after a teardown that reported it revoked. -/
  torn : ∀ l₁ e l₂, es = l₁ ++ e :: l₂ → ∀ result, e.resp = .torn result →
    result.preauthRevoked = true → ∃ ref, tornDown e = some ref ∧
      ∀ c ∈ l₂.filterMap consumption, c.1 ≠ ref

variable {P}

theorem running_of_resp {s : SagaState} {a : Action}
    (h : ((saga C P).event s a).resp ≠ .running) : ∃ i fault draw pc,
      running ((saga C P).event s a) = some (i, pc) ∧
      ((saga C P).event s a).resp = (stepPc C P s.control s.preauth fault draw pc).2.2.2 := by
  cases a with
  | begin i call =>
    cases hthread : s.threads i with
    | none => exact absurd (by simp [saga, hthread]) h
    | some pc => exact absurd (by simp [saga, hthread]) h
  | step i fault draw =>
    cases hthread : s.threads i with
    | none => exact absurd (by simp [saga, hthread]) h
    | some pc => exact ⟨i, fault, draw, pc, by simp [running, hthread], by simp [saga, hthread]⟩

theorem disclosed_returned {iss : Issue} (h : disclosed e = some iss) :
    returned e = some iss.thread ∧ ∃ session, e.resp = .session (some session) := by
  unfold disclosed at h
  split at h
  · rename_i session i pc hresp hrunning
    obtain ⟨held, -, rfl⟩ := Option.map_eq_some_iff.mp h
    refine ⟨?_, session, hresp⟩
    unfold returned
    rw [hresp, hrunning]
    rfl
  · cases h

theorem failed_returned {i : ℕ} (h : failed e = some i) :
    returned e = some i ∧ e.resp = .session none := by
  unfold failed at h
  split at h
  · rename_i hresp
    refine ⟨?_, hresp⟩
    unfold returned
    rw [hresp]
    exact h
  · cases h

theorem eq_of_nodup_filterMap {α β : Type} {f : α → Option β} {l : List α}
    (h : (l.filterMap f).Nodup) {a a' : α} {b : β} (ha : a ∈ l) (ha' : a' ∈ l)
    (hb : f a = some b) (hb' : f a' = some b) : a = a' := by
  induction l with
  | nil => cases ha
  | cons x l ih =>
    have hrest : ∀ {y}, y ∈ l → f y = some b → f x ≠ some b := by
      intro y hy hyb hxb
      rw [List.filterMap_cons_some hxb] at h
      exact (List.nodup_cons.mp h).1 (List.mem_filterMap.mpr ⟨y, hy, hyb⟩)
    have htail : (l.filterMap f).Nodup := h.sublist ((List.sublist_cons_self x l).filterMap f)
    rcases List.mem_cons.mp ha with rfl | hal <;> rcases List.mem_cons.mp ha' with rfl | hal'
    · rfl
    · exact absurd hb (hrest hal' hb')
    · exact absurd hb' (hrest hal hb)
    · exact ih htail hal hal'

theorem threads_sublist (es : List SagaEvent) :
    ((es.filterMap disclosed).map Issue.thread).Sublist (es.filterMap returned) := by
  induction es with
  | nil => exact .slnil
  | cons e es ih =>
    cases h : disclosed e with
    | none =>
      rw [List.filterMap_cons_none h]
      exact ih.trans ((List.sublist_cons_self e es).filterMap _)
    | some iss =>
      rw [List.filterMap_cons_some h, List.filterMap_cons_some (disclosed_returned h).1,
        List.map_cons]
      exact ih.cons_cons _

theorem Tracks.disclosed_nodup {s : SagaState} (h : Tracks P es s) {β : Type} {g : Issue → β}
    (hg : ((es.filterMap (issued P)).map g).Nodup) :
    ((es.filterMap Saga.disclosed).map g).Nodup := by
  have hnodup : (es.filterMap Saga.disclosed).Nodup :=
    (h.returnedOnce.sublist (threads_sublist es)).of_map
  refine hnodup.map_on fun iss hiss iss' hiss' heq => ?_
  exact List.inj_on_of_nodup_map hg (h.disclosed iss hiss) (h.disclosed iss' hiss') heq

theorem disclosed_of_consumption {calls : List Action}
    (hfresh : Fresh (calls.filterMap Action.draw?))
    (hcollision : CollisionFree P (calls.filterMap Action.draw?))
    (hunguessable : Unguessable P ((saga C P).log .init calls)) {c : Str × Str}
    (hc : c ∈ ((saga C P).log .init calls).filterMap consumption)
    (hissued : c.2 ∈ (((saga C P).log .init calls).filterMap (issued P)).map Issue.token) :
    ∃ iss ∈ ((saga C P).log .init calls).filterMap disclosed, iss.token = c.2 := by
  obtain ⟨e, he, hce⟩ := List.mem_filterMap.mp hc
  obtain ⟨l₁, l₂, hcut⟩ := List.append_of_mem he
  obtain ⟨htracks, -⟩ := tracks_cut C hfresh hcollision hcut
  have hpresents : c.2 ∈ l₁.filterMap presented := by
    unfold consumption at hce
    split at hce
    · rename_i i session protectedToken nowMs hresp hrunning
      cases hce
      unfold running at hrunning
      split at hrunning
      · cases hrunning
      · obtain ⟨pc, hpc, heq⟩ := Option.map_eq_some_iff.mp hrunning
        cases heq
        exact htracks.presents _ _ _ hpc rfl
    · cases hce
  obtain ⟨e', he', hpresented⟩ := List.mem_filterMap.mp hpresents
  obtain ⟨l₃, l₄, hl₁⟩ := List.append_of_mem he'
  have hdisclosed := hunguessable l₃ e' (l₄ ++ e :: l₂) (by
    rw [hcut, hl₁, List.append_assoc, List.cons_append]) c.2 hpresented hissued
  obtain ⟨iss, hiss, htoken⟩ := List.mem_map.mp hdisclosed
  refine ⟨iss, ?_, htoken⟩
  rw [hcut, hl₁, List.append_assoc, List.filterMap_append]
  exact List.mem_append_left _ hiss

/-- Over every run of saga calls and store failures with fresh and unguessable tokens, one token
is disclosed for each grant, only in a session; none of a failed call is consumed; each is consumed
at most once, and not after a teardown that reported its record revoked. -/
theorem saga_fails_closed (calls : List Action) (hfresh : Fresh (calls.filterMap Action.draw?))
    (hcollision : CollisionFree P (calls.filterMap Action.draw?))
    (hunguessable : Unguessable P ((saga C P).log .init calls)) :
    FailsClosed P ((saga C P).log .init calls) := by
  have htracks := tracks_run C calls hfresh hcollision
  refine ⟨?_, htracks.disclosed_nodup htracks.grants, htracks.disclosed_nodup htracks.tokens, ?_,
    ?_, htracks.consumedOnce, htracks.consumedRecords, ?_⟩
  · intro e he session hresp
    obtain ⟨calls₁, a, calls₂, -, rfl⟩ := (saga C P).mem_log he
    obtain ⟨i, fault, draw, pc, hrunning, hstep⟩ := running_of_resp C (by rw [hresp]; intro h; cases h)
    rw [hresp] at hstep
    obtain ⟨bundle, hholds⟩ := stepPc_session hstep.symm
    have hdisclosed : disclosed ((saga C P).event ((saga C P).run .init calls₁) a) =
        some ⟨i, bundle.grant.grantIdDigest, session.issuedToken.protectedToken,
          session.preauthRef.val⟩ := by
      unfold disclosed
      rw [hresp, hrunning]
      simp only [hholds, Option.map_some]
    refine ⟨_, htracks.disclosed _ ?_, hdisclosed, (disclosed_returned hdisclosed).1, rfl, rfl⟩
    exact List.mem_filterMap.mpr ⟨_, he, hdisclosed⟩
  · intro e he hresp
    obtain ⟨calls₁, a, calls₂, -, heq⟩ := (saga C P).mem_log he
    have hfailed : ∃ i, failed e = some i := by
      rw [heq] at hresp ⊢
      obtain ⟨i, fault, draw, pc, hrunning, -⟩ :=
        running_of_resp C (by rw [hresp]; intro h; cases h)
      refine ⟨i, ?_⟩
      unfold failed
      rw [hresp, hrunning]
      rfl
    obtain ⟨i, hfailed⟩ := hfailed
    refine ⟨i, hfailed, ?_⟩
    intro iss hiss hthread c hc htoken
    obtain ⟨iss', hiss', htoken'⟩ := disclosed_of_consumption C hfresh hcollision hunguessable hc
      (List.mem_map.mpr ⟨iss, hiss, htoken.symm⟩)
    -- The token came from the return of its own call, which is the one that failed.
    have hsame := List.inj_on_of_nodup_map htracks.tokens (htracks.disclosed iss' hiss') hiss
      (htoken'.trans htoken)
    subst hsame
    obtain ⟨e', he', hdisclosed⟩ := List.mem_filterMap.mp hiss'
    obtain ⟨hreturned, session, hresp'⟩ := disclosed_returned hdisclosed
    rw [hthread] at hreturned
    have hevents := eq_of_nodup_filterMap htracks.returnedOnce he he' (failed_returned hfailed).1
      hreturned
    rw [hevents, hresp'] at hresp
    cases hresp
  · intro e he hresp
    obtain ⟨calls₁, a, calls₂, -, rfl⟩ := (saga C P).mem_log he
    obtain ⟨i, fault, draw, pc, hrunning, hstep⟩ := running_of_resp C (by rw [hresp]; intro h; cases h)
    rw [hresp] at hstep
    obtain ⟨session, protectedToken, nowMs, rfl, -⟩ := stepPc_consumed hstep.symm
    refine ⟨(session.preauthRef.val, protectedToken), ?_⟩
    unfold consumption
    rw [hresp, hrunning]
  · intro l₁ e l₂ hcut result hresp hrevoked
    have he : e ∈ (saga C P).log .init calls := by
      rw [hcut]
      exact List.mem_append_right _ List.mem_cons_self
    obtain ⟨calls₁, a, calls₂, -, heq⟩ := (saga C P).mem_log he
    have htorn : ∃ ref, tornDown e = some ref := by
      rw [heq] at hresp ⊢
      obtain ⟨i, fault, draw, pc, hrunning, hstep⟩ :=
        running_of_resp C (by rw [hresp]; intro h; cases h)
      rw [hresp] at hstep
      obtain ⟨ref, href⟩ := stepPc_torn hstep.symm hrevoked
      refine ⟨ref, ?_⟩
      unfold tornDown
      rw [hresp, hrunning]
      simp only [hrevoked, if_true, href]
    obtain ⟨ref, htorn⟩ := htorn
    refine ⟨ref, htorn, fun c hc href => ?_⟩
    obtain ⟨f, hf, hcf⟩ := List.mem_filterMap.mp hc
    obtain ⟨l₃, l₄, rfl⟩ := List.append_of_mem hf
    rw [← List.cons_append, ← List.append_assoc] at hcut
    obtain ⟨hbefore, hfacts⟩ := tracks_cut C hfresh hcollision hcut
    obtain ⟨r, hr, hrevoked⟩ := hbefore.torn ref (List.mem_filterMap.mpr
      ⟨e, List.mem_append_right _ List.mem_cons_self, htorn⟩)
    obtain ⟨r', -, hr', hactive, -⟩ := hfacts.consumed c.1 c.2 hcf
    rw [href, hr] at hr'
    cases hr'
    rw [hrevoked] at hactive
    cases hactive

end

/-- Events that are given by their index. -/
theorem unguessable_of_index {P : PreAuth.Authorities} {es : List SagaEvent}
    (h : ∀ k, (hk : k < es.length) → ∀ token ∈ presented (es.get ⟨k, hk⟩),
      token ∈ (es.filterMap (issued P)).map Issue.token →
        token ∈ ((es.take k).filterMap disclosed).map Issue.token) : Unguessable P es := by
  rintro l₁ e l₂ rfl token hpresented hissued
  have hk := h l₁.length (by simp) token (by simpa using hpresented) hissued
  rwa [List.take_left] at hk

def examplePreAuthorities : PreAuth.Authorities where
  verifyGrant := fun _ => true
  signAcknowledgement := fun _ => List.replicate 64 3
  verifyActivation := fun _ => true
  tokenDigest := fun token =>
    ⟨Sha256.sha256 ((encodeUtf8 token).getD []), Sha256.isDigest_sha256 _⟩
  audienceRef := exampleAuthorities.preauthAudienceRef
  trustedIssuerRef := exampleAuthorities.issuerRef

def exampleDraw (letter : {c : CodePoint // isOpaqueRef (py "ref_" ++ [c]) = true}) : SagaDraw where
  control := ⟨exampleRef, exampleDigest⟩
  authorized := true
  preauth := ⟨List.replicate 43 letter.val, ⟨_, letter.property⟩⟩

def exampleSession : ActiveSecuritySession where
  controlRef := exampleRef
  preauthRef := ⟨py "ref_b", by decide⟩
  bindingDigest := exampleDigest
  issuedToken :=
    { protectedToken := List.replicate 43 98
      tokenDigest := examplePreAuthorities.tokenDigest (List.replicate 43 98)
      expiresAtMs := 101 }

/-- A session is opened at its second draw and its token consumed; a second consumption and a
teardown fail on the way, and a last teardown reports the record revoked. -/
def exampleRun : List Action :=
  let step (i : ℕ) (fault : Fault) (letter : {c // isOpaqueRef (py "ref_" ++ [c]) = true}) :=
    Action.step i fault (exampleDraw letter)
  [.begin 0 (.admitAndActivate exampleApproval 1 100 100),
    step 0 .ok ⟨97, by decide⟩, step 0 .ok ⟨98, by decide⟩, step 0 .ok ⟨99, by decide⟩,
    step 0 .ok ⟨100, by decide⟩,
    .begin 1 (.consume exampleSession exampleSession.issuedToken.protectedToken 2),
    step 1 .ok ⟨101, by decide⟩, step 1 .ok ⟨102, by decide⟩,
    .begin 2 (.consume exampleSession exampleSession.issuedToken.protectedToken 3),
    step 2 (.raise true) ⟨103, by decide⟩,
    .begin 3 (.teardown exampleSession .teardown 4),
    step 3 (.refuse false) ⟨104, by decide⟩, step 3 (.raise true) ⟨105, by decide⟩,
    .begin 4 (.teardown exampleSession .teardown 5),
    step 4 .ok ⟨106, by decide⟩, step 4 .ok ⟨107, by decide⟩]

theorem saga_fails_closed_exampleRun :
    FailsClosed examplePreAuthorities
      ((saga exampleAuthorities examplePreAuthorities).log .init exampleRun) :=
  saga_fails_closed exampleAuthorities exampleRun
    ⟨by decide +kernel, by decide +kernel⟩
    (by unfold CollisionFree; decide +kernel)
    (unguessable_of_index (by decide +kernel))

example : (((saga exampleAuthorities examplePreAuthorities).log .init exampleRun).filterMap
    consumption).length = 1 := by decide +kernel
example : (((saga exampleAuthorities examplePreAuthorities).log .init exampleRun).filterMap
    tornDown).length = 1 := by decide +kernel

end HeyKevin.L10.Saga
