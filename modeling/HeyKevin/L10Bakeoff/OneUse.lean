import HeyKevin.L10Bakeoff.NonceLedger
/-!
# Approvals are admitted once

Any number of calls of `admit` on one ledger path, interleaved step by step,
killed anywhere, from any contents of the file: a run of `step`.

* `load_dump`: the codec reads back every state that it wrote.
* `Coherent`: the invariant; the plan of the lock's holder was made from what
  the file holds now, and what was ever written is still recorded.
* `approvals_once`: no nonce and no approval is admitted twice, what was
  admitted stays recorded, and a file that is no ledger admits nothing.
-/
namespace HeyKevin.L10.Ledger

open HeyKevin.Core L1.Text

variable {J : Json}

/-! ## Round trips -/

theorem Reordered.list_eq {xs : List Payload} {w : Payload} (h : Reordered (.list xs) w) :
    w = .list xs := by
  cases h
  rfl

theorem Reordered.str_eq {s : Str} {w : Payload} (h : Reordered (.str s) w) : w = .str s := by
  cases h
  rfl

theorem requireStringList_map (xs : List Str) (name : String) :
    requireStringList (.list (xs.map .str)) name = .ok xs := by
  have hall : (xs.map Payload.str).all Payload.isStr = true := by simp [Payload.isStr]
  have htext : (xs.map Payload.str).map Payload.text = xs := by
    rw [List.map_map]
    exact List.map_id xs
  simp only [requireStringList, hall, if_true, htext]

theorem requireStringMapping_reordered {epochs : Entries Str Str} {w : Payload}
    (h : Reordered (.object (epochs.map fun e => (e.1, .str e.2))) w) (name : String) :
    ∃ read, requireStringMapping w name = .ok read ∧
      ∀ k, Entries.find? read k = Entries.find? epochs k := by
  cases h with
  | refl =>
    refine ⟨epochs, ?_, fun _ => rfl⟩
    have hall : (epochs.map fun e => (e.1, Payload.str e.2)).all (fun e => e.2.isStr) = true := by
      simp [Payload.isStr]
    have htext : (epochs.map fun e => (e.1, Payload.str e.2)).map (fun e => (e.1, e.2.text)) =
        epochs := by
      rw [List.map_map]
      exact List.map_id epochs
    simp only [requireStringMapping, hall, if_true, htext]
  | @object _ e hnodup hkeys hvalues =>
    have hvalue : ∀ k w, Entries.find? e k = some w →
        ∃ s, Entries.find? epochs k = some s ∧ w = .str s := by
      intro k w hw
      have hsome := hkeys k
      rw [hw, Entries.find?_map Payload.str, Option.isSome_map, Option.isSome_some] at hsome
      obtain ⟨s, hs⟩ := Option.isSome_iff_exists.mp hsome
      refine ⟨s, hs, (hvalues k (.str s) w ?_ hw).str_eq⟩
      rw [Entries.find?_map Payload.str, hs]
      rfl
    have hall : e.all (fun x => x.2.isStr) = true := by
      refine List.all_eq_true.mpr fun x hx => ?_
      obtain ⟨s, -, hs⟩ := hvalue x.1 x.2 (Entries.find?_of_mem hnodup hx)
      rw [hs]
      rfl
    refine ⟨e.map fun x => (x.1, x.2.text), by simp only [requireStringMapping, hall, if_true],
      fun k => ?_⟩
    rw [Entries.find?_map Payload.text]
    cases hw : Entries.find? e k with
    | none =>
      have hnone := hkeys k
      rw [hw, Entries.find?_map Payload.str, Option.isSome_map] at hnone
      exact (Option.isNone_iff_eq_none.mp (by simpa using hnone)).symm
    | some w =>
      obtain ⟨s, hs, rfl⟩ := hvalue k w hw
      exact hs.symm

/-- Two states with the same members and the same owners. -/
structure LedgerState.Same (st st' : LedgerState) : Prop where
  nonces : st'.consumedNonces = st.consumedNonces
  approvals : st'.consumedApprovalIds = st.consumedApprovalIds
  epochs : ∀ k, Entries.find? st'.bindingEpochs k = Entries.find? st.bindingEpochs k

/-- The three fields of a payload decide what is read. -/
theorem fromJson_fields {e : List (Str × Payload)} {st : LedgerState} {w : Payload}
    (hnonces : Entries.find? e (py "consumed_nonces") =
      some (.list (st.consumedNonces.sort.map .str)))
    (happrovals : Entries.find? e (py "consumed_approval_ids") =
      some (.list (st.consumedApprovalIds.sort.map .str)))
    (hepochs : Entries.find? e (py "binding_epochs") = some w)
    (hw : Reordered (.object (st.bindingEpochs.map fun e => (e.1, .str e.2))) w) :
    ∃ st', LedgerState.fromJson (.object e) = .ok st' ∧ st.Same st' := by
  obtain ⟨read, hread, hfind⟩ := requireStringMapping_reordered hw "binding_epochs"
  refine ⟨⟨st.consumedNonces, st.consumedApprovalIds, read⟩, ?_, rfl, rfl, hfind⟩
  simp only [LedgerState.fromJson, hnonces, happrovals, hepochs, Option.getD_some,
    requireStringList_map, hread, ok_bind, Finset.sort_toFinset]
  rfl

/-- **Every state that was written is read back.** -/
theorem load_dump {st : LedgerState} (h : RoundTrips J st) :
    ∃ st', load J (J.dump st.toJson) = some st' ∧ st.Same st' := by
  obtain ⟨hblank, payload, hloads, hre⟩ := h
  have hfields : ∃ e, payload = .object e ∧
      ∃ st', LedgerState.fromJson (.object e) = .ok st' ∧ st.Same st' := by
    cases hre with
    | refl =>
      refine ⟨_, rfl, fromJson_fields (w := .object (st.bindingEpochs.map fun e => (e.1, .str e.2)))
        ?_ ?_ ?_ (.refl _)⟩
      all_goals simp [Entries.find?_cons]
    | @object _ e hnodup hkeys hvalues =>
      have hfield : ∀ k v, Entries.find? [(py "consumed_nonces",
            Payload.list (st.consumedNonces.sort.map .str)),
          (py "consumed_approval_ids", .list (st.consumedApprovalIds.sort.map .str)),
          (py "binding_epochs", .object (st.bindingEpochs.map fun e => (e.1, .str e.2)))] k =
            some v → ∃ w, Entries.find? e k = some w ∧ Reordered v w := by
        intro k v hv
        have hsome := hkeys k
        rw [hv, Option.isSome_some] at hsome
        obtain ⟨w, hw⟩ := Option.isSome_iff_exists.mp hsome.symm
        exact ⟨w, hw, hvalues k v w hv hw⟩
      obtain ⟨w₁, h₁, hr₁⟩ := hfield (py "consumed_nonces") _ (by simp [Entries.find?_cons]; rfl)
      obtain ⟨w₂, h₂, hr₂⟩ := hfield (py "consumed_approval_ids") _
        (by simp [Entries.find?_cons]; rfl)
      obtain ⟨w₃, h₃, hr₃⟩ := hfield (py "binding_epochs") _ (by simp [Entries.find?_cons]; rfl)
      rw [hr₁.list_eq] at h₁
      rw [hr₂.list_eq] at h₂
      exact ⟨e, rfl, fromJson_fields h₁ h₂ h₃ hr₃⟩
  obtain ⟨e, rfl, st', hread, hsame⟩ := hfields
  refine ⟨st', ?_, hsame⟩
  simp only [load, List.isEmpty_iff, hblank, if_false, hloads, Option.bind_some, hread]
  rfl

/-! ## What the file holds -/

/-- The ledger in the file, if it is readable. -/
def reading (J : Json) : Contents → Option LedgerState
  | .text raw => load J raw
  | _ => none

/-- Text that is not blank and not a ledger. -/
def Malformed (J : Json) (data : Contents) : Prop :=
  ∃ raw, data = .text raw ∧ strip raw ≠ [] ∧ load J raw = none

structure Recorded (st : LedgerState) (a : Admission) : Prop where
  nonce : a.nonceDigest ∈ st.consumedNonces
  approval : a.approvalIdDigest ∈ st.consumedApprovalIds
  owner : Entries.find? st.bindingEpochs a.bindingKey = some a.approvalIdDigest

/-- Two admissions that may both be granted. -/
structure Exclusive (a b : Admission) : Prop where
  nonce : a.nonceDigest ≠ b.nonceDigest
  approval : a.approvalIdDigest ≠ b.approvalIdDigest
  owner : a.bindingDigest = b.bindingDigest → a.epoch = b.epoch →
    a.approvalIdDigest = b.approvalIdDigest

theorem Exclusive.symm {a b : Admission} (h : Exclusive a b) : Exclusive b a :=
  ⟨h.nonce.symm, h.approval.symm, fun hb he => (h.owner hb.symm he.symm).symm⟩

theorem Recorded.same {st st' : LedgerState} {a : Admission} (h : Recorded st a)
    (hsame : st.Same st') : Recorded st' a :=
  ⟨hsame.nonces ▸ h.nonce, hsame.approvals ▸ h.approval, (hsame.epochs _).trans h.owner⟩

section Judge

variable {a b : Admission} {st st' : LedgerState}

/-- What `judge` checked and what it adds. -/
structure Judged (a : Admission) (st st' : LedgerState) : Prop where
  nonce : a.nonceDigest ∉ st.consumedNonces
  approval : a.approvalIdDigest ∉ st.consumedApprovalIds
  owner : ∀ x, Entries.find? st.bindingEpochs a.bindingKey = some x → x = a.approvalIdDigest
  eq : st' = ⟨insert a.nonceDigest st.consumedNonces,
    insert a.approvalIdDigest st.consumedApprovalIds,
    Entries.set st.bindingEpochs a.bindingKey a.approvalIdDigest⟩

theorem judge_eq_some (h : judge a st = some st') : Judged a st st' := by
  unfold judge at h
  split at h
  · cases h
  · split at h
    · cases h
    · split at h
      · cases h
      · rename_i hn ha ho
        refine ⟨hn, ha, fun x hx => ?_, (Option.some.inj h).symm⟩
        simpa [hx] using ho

theorem Judged.recorded (h : Judged a st st') : Recorded st' a := by
  rw [h.eq]
  exact ⟨Finset.mem_insert_self .., Finset.mem_insert_self .., by simp [Entries.find?_set]⟩

theorem Judged.kept (h : Judged a st st') (hb : Recorded st b) : Recorded st' b := by
  rw [h.eq]
  refine ⟨Finset.mem_insert_of_mem hb.nonce, Finset.mem_insert_of_mem hb.approval, ?_⟩
  rw [Entries.find?_set]
  split
  · rename_i hkey
    exact congrArg some (h.owner _ (hkey ▸ hb.owner)).symm
  · exact hb.owner

theorem Judged.exclusive (h : Judged a st st') (hb : Recorded st b) : Exclusive b a := by
  refine ⟨fun heq => h.nonce (heq ▸ hb.nonce), fun heq => h.approval (heq ▸ hb.approval),
    fun hbinding hepoch => h.owner _ ?_⟩
  rw [← hb.owner, Admission.bindingKey, Admission.bindingKey, hbinding, hepoch]

end Judge

/-! ## One step -/

/-- In the block that holds the lock. -/
def Phase.InBlock : Phase → Prop
  | .locked _ | .deciding _ _ | .written _ _ | .unlocking _ _ => True
  | _ => False

@[simp] theorem move_data (w : World) (p : ℕ) (next : Phase) : (w.move p next).data = w.data := rfl
@[simp] theorem move_holder (w : World) (p : ℕ) (next : Phase) :
    (w.move p next).holder = w.holder := rfl
@[simp] theorem move_phase (w : World) (p q : ℕ) (next : Phase) :
    (w.move p next).phase q = if q = p then next else w.phase q := rfl
@[simp] theorem release_data (w : World) (p : ℕ) : (w.release p).data = w.data := by
  unfold World.release
  split <;> rfl
@[simp] theorem release_phase (w : World) (p : ℕ) : (w.release p).phase = w.phase := by
  unfold World.release
  split <;> rfl

theorem release_holder (w : World) (p q : ℕ) :
    (w.release p).holder = some q ↔ w.holder = some q ∧ q ≠ p := by
  unfold World.release
  split
  · rename_i h
    rw [h]
    simp only [reduceCtorEq, Option.some.injEq, ne_eq, false_iff, not_and, not_not]
    exact Eq.symm
  · rename_i h
    refine ⟨fun hq => ⟨hq, ?_⟩, And.left⟩
    rintro rfl
    exact h hq

abbrev LogEvent := Event World Action (Option Returned)

/-- The admission that an event wrote into the file. -/
def commit? (e : LogEvent) : Option (ℕ × Admission) :=
  match e.call with
  | .replace p =>
    match e.pre.phase p with
    | .written a _ => some (p, a)
    | _ => none
  | _ => none

def commits (log : List LogEvent) : List (ℕ × Admission) := log.filterMap commit?

/-- The calls that returned `True`. -/
def granted? (e : LogEvent) : Option Returned := e.resp.filter fun r => r.result

def granted (log : List LogEvent) : List Returned := log.filterMap granted?

/-- What a step does: it moves one call to its next phase, and only a touch and a replace
change the file. -/
inductive Moved (J : Json) (w : World) : Action → World × Option Returned → Prop
  | stay (action) (hno : ∀ p a st, action = .replace p → w.phase p ≠ .written a st) :
      Moved J w action (w, none)
  | begin (p a) (hp : w.phase p = .idle) : Moved J w (.admitCall p a) (w.move p (.started a), none)
  | touch (p a) (data : Contents) (hp : w.phase p = .started a)
      (hdata : data = w.data ∨ w.data = .absent ∧ data = .text []) :
      Moved J w (.touch p) ({ w with data := data }.move p (.waiting a), none)
  | lock (p a) (hp : w.phase p = .waiting a) (hfree : w.holder = none) :
      Moved J w (.lock p) ({ w with holder := some p }.move p (.locked a), none)
  | plan (p a) (st st' : LedgerState) (hp : w.phase p = .locked a)
      (hread : reading J w.data = some st) (hjudge : judge a st = some st') :
      Moved J w (.read p) (w.move p (.deciding a st'), none)
  | refuse (p a) (hp : w.phase p = .locked a) : Moved J w (.read p)
      (w.move p (.unlocking a false), none)
  | raise (p a) (hp : w.phase p = .locked a) :
      Moved J w (.read p) ((w.release p).move p .ended, none)
  | temp (p a st) (hp : w.phase p = .deciding a st) :
      Moved J w (.writeTemp p) (w.move p (.written a st), none)
  | replace (p a st) (hp : w.phase p = .written a st) :
      Moved J w (.replace p)
        ({ w with data := .text (J.dump st.toJson) }.move p (.unlocking a true), none)
  | unlock (p a result) (hp : w.phase p = .unlocking a result) :
      Moved J w (.unlock p) ((w.release p).move p (.returning a result), none)
  | answer (p a result) (hp : w.phase p = .returning a result) :
      Moved J w (.answer p) (w.move p .ended, some ⟨p, a, result⟩)
  | stop (p) : Moved J w (.stop p) ((w.release p).move p .ended, none)

theorem step_moved (J : Json) (w : World) (action : Action) :
    Moved J w action (step J w action) := by
  cases action with
  | admitCall p a =>
    simp only [step]
    split
    · rename_i hp
      exact .begin p a hp
    · exact .stay _ (by rintro _ _ _ ⟨⟩)
  | touch p =>
    simp only [step]
    split
    · rename_i a hp
      split
      · rename_i hdata
        exact .touch p a (.text []) hp (.inr ⟨hdata, rfl⟩)
      · exact .touch p a w.data hp (.inl rfl)
    · exact .stay _ (by rintro _ _ _ ⟨⟩)
  | lock p =>
    simp only [step]
    split
    · rename_i a hp hfree
      exact .lock p a hp hfree
    · exact .stay _ (by rintro _ _ _ ⟨⟩)
  | read p =>
    simp only [step]
    split
    · rename_i a raw hp hdata
      split
      · rename_i st' hplan
        obtain ⟨st, hread, hjudge⟩ := Option.bind_eq_some_iff.mp hplan
        exact .plan p a st st' hp (by rw [hdata]; exact hread) hjudge
      · exact .refuse p a hp
    · rename_i a hp _
      exact .raise p a hp
    · exact .stay _ (by rintro _ _ _ ⟨⟩)
  | writeTemp p =>
    simp only [step]
    split
    · rename_i a st hp
      exact .temp p a st hp
    · exact .stay _ (by rintro _ _ _ ⟨⟩)
  | replace p =>
    simp only [step]
    split
    · rename_i a st hp
      exact .replace p a st hp
    · rename_i hno
      refine .stay _ ?_
      rintro _ a st ⟨⟩ hp
      exact hno a st hp
  | unlock p =>
    simp only [step]
    split
    · rename_i a result hp
      exact .unlock p a result hp
    · exact .stay _ (by rintro _ _ _ ⟨⟩)
  | answer p =>
    simp only [step]
    split
    · rename_i a result hp
      exact .answer p a result hp
    · exact .stay _ (by rintro _ _ _ ⟨⟩)
  | stop p => exact .stop p

/-! ## The invariant -/

/-- What holds of the log and the world after every run. -/
structure Coherent (J : Json) (log : List LogEvent) (w : World) : Prop where
  exclusion : ∀ p, (w.phase p).InBlock ↔ w.holder = some p
  /-- A plan was made from what the file holds. -/
  planned : ∀ p a st', w.phase p = .deciding a st' ∨ w.phase p = .written a st' →
    ∃ st, reading J w.data = some st ∧ judge a st = some st'
  recorded : ∀ c ∈ commits log, ∃ st, reading J w.data = some st ∧ Recorded st c.2
  exclusive : (commits log).Pairwise fun c d => Exclusive c.2 d.2
  /-- Who is about to return `True` wrote its admission. -/
  committed : ∀ p a, w.phase p = .unlocking a true ∨ w.phase p = .returning a true →
    (p, a) ∈ commits log
  answered : ∀ r ∈ granted log, (r.p, r.a) ∈ commits log ∧ w.phase r.p = .ended
  once : ((granted log).map Returned.p).Nodup

theorem Coherent.start (J : Json) (data : Contents) : Coherent J [] (World.start data) where
  exclusion p := by simp [World.start, Phase.InBlock]
  planned p a st' h := by rcases h with h | h <;> cases h
  recorded c hc := by cases hc
  exclusive := .nil
  committed p a h := by rcases h with h | h <;> cases h
  answered r hr := by cases hr
  once := .nil

section Steps

variable {log : List LogEvent} {w w' : World}

theorem commits_push (log : List LogEvent) {e : LogEvent} (he : commit? e = none) :
    commits (log ++ [e]) = commits log := by
  simp [commits, List.filterMap_append, he]

theorem granted_push (log : List LogEvent) {e : LogEvent} (he : granted? e = none) :
    granted (log ++ [e]) = granted log := by
  simp [granted, List.filterMap_append, he]

theorem Coherent.move (h : Coherent J log w) {e : LogEvent} {p : ℕ} (next : Phase)
    (hcommit : commit? e = none) (hgranted : granted? e = none)
    (hphase : ∀ q, w'.phase q = if q = p then next else w.phase q)
    (hdata : ∀ st, reading J w.data = some st → reading J w'.data = some st)
    (hblock : ∀ q, (w'.phase q).InBlock ↔ w'.holder = some q)
    (hplan : ∀ a st', next = .deciding a st' ∨ next = .written a st' →
      ∃ st, reading J w.data = some st ∧ judge a st = some st')
    (hdone : ∀ a, next = .unlocking a true ∨ next = .returning a true → (p, a) ∈ commits log)
    (hend : w.phase p = .ended → next = .ended) : Coherent J (log ++ [e]) w' where
  exclusion := hblock
  planned q a st' hq := by
    simp only [hphase] at hq
    have hread : ∃ st, reading J w.data = some st ∧ judge a st = some st' := by
      split at hq
      · exact hplan a st' hq
      · exact h.planned q a st' hq
    obtain ⟨st, hst, hjudge⟩ := hread
    exact ⟨st, hdata st hst, hjudge⟩
  recorded c hc := by
    rw [commits_push log hcommit] at hc
    obtain ⟨st, hst, hrec⟩ := h.recorded c hc
    exact ⟨st, hdata st hst, hrec⟩
  exclusive := by
    rw [commits_push log hcommit]
    exact h.exclusive
  committed q a hq := by
    rw [commits_push log hcommit]
    simp only [hphase] at hq
    split at hq
    · rename_i heq
      subst heq
      exact hdone a hq
    · exact h.committed q a hq
  answered r hr := by
    rw [granted_push log hgranted] at hr
    rw [commits_push log hcommit, hphase]
    obtain ⟨hmem, hended⟩ := h.answered r hr
    refine ⟨hmem, ?_⟩
    split
    · rename_i heq
      exact hend (heq ▸ hended)
    · exact hended
  once := by
    rw [granted_push log hgranted]
    exact h.once

theorem Coherent.block_same (h : Coherent J log w) {p : ℕ} {next : Phase}
    (hsame : (w.phase p).InBlock ↔ next.InBlock) (q : ℕ) :
    ((w.move p next).phase q).InBlock ↔ w.holder = some q := by
  rw [← h.exclusion q, move_phase]
  split
  · rename_i heq
    rw [heq, hsame]
  · rfl

/-- A call that gives the lock back, if it has it. -/
theorem Coherent.block_leave (h : Coherent J log w) {p : ℕ} {next : Phase}
    (hout : ¬ next.InBlock) (q : ℕ) :
    (((w.release p).move p next).phase q).InBlock ↔
      ((w.release p).move p next).holder = some q := by
  rw [move_holder, release_holder, move_phase, release_phase]
  split
  · rename_i heq
    simp [hout, heq]
  · rename_i hne
    rw [h.exclusion q]
    simp [hne]

theorem Coherent.lock (h : Coherent J log w) (hfree : w.holder = none) {p : ℕ} {next : Phase}
    (hin : next.InBlock) (q : ℕ) :
    ((World.move { w with holder := some p } p next).phase q).InBlock ↔ some p = some q := by
  rw [move_phase, Option.some.injEq]
  split
  · rename_i heq
    exact ⟨fun _ => heq.symm, fun _ => hin⟩
  · rename_i hne
    rw [h.exclusion q, hfree]
    simp [Ne.symm hne]

theorem Coherent.replace (h : Coherent J log w) {p : ℕ} {a : Admission} {st : LedgerState}
    (hp : w.phase p = .written a st) (hjson : RoundTrips J st) {w' : World}
    (hw' : w' = World.move { w with data := .text (J.dump st.toJson) } p (.unlocking a true)) :
    Coherent J (log ++ [⟨w, .replace p, none, w'⟩]) w' := by
  obtain ⟨st₀, hread, hjudge⟩ := h.planned p a st (.inr hp)
  have hjudged := judge_eq_some hjudge
  obtain ⟨st', hload, hsame⟩ := load_dump hjson
  have hread' : reading J w'.data = some st' := by
    rw [hw']
    exact hload
  have hcommits : commits (log ++ [⟨w, .replace p, none, w'⟩]) = commits log ++ [(p, a)] := by
    simp [commits, List.filterMap_append, commit?, hp]
  have hgranted : granted (log ++ [⟨w, .replace p, none, w'⟩]) = granted log :=
    granted_push log rfl
  have hmine : w.holder = some p := (h.exclusion p).mp (by simp [hp, Phase.InBlock])
  have hphase : ∀ q, w'.phase q = if q = p then .unlocking a true else w.phase q := by
    intro q
    rw [hw']
    rfl
  have hrec : ∀ c ∈ commits log, Recorded st₀ c.2 := by
    intro c hc
    obtain ⟨st₁, hst₁, hrec⟩ := h.recorded c hc
    obtain rfl : st₁ = st₀ := Option.some.inj (hst₁.symm.trans hread)
    exact hrec
  refine ⟨?_, ?_, ?_, ?_, ?_, ?_, ?_⟩
  · intro q
    rw [hw']
    exact h.block_same (by simp [hp, Phase.InBlock]) q
  · -- nobody else plans: the holder alone is in the block
    intro q b st₁ hq
    rw [hphase] at hq
    split at hq
    · rcases hq with hq | hq <;> cases hq
    · rename_i hne
      have hin : (w.phase q).InBlock := by rcases hq with hq | hq <;> simp [hq, Phase.InBlock]
      have hother := (h.exclusion q).mp hin
      rw [hmine, Option.some.injEq] at hother
      exact absurd hother.symm hne
  · intro c hc
    rw [hcommits, List.mem_append, List.mem_singleton] at hc
    refine ⟨st', hread', Recorded.same ?_ hsame⟩
    rcases hc with hc | rfl
    · exact hjudged.kept (hrec c hc)
    · exact hjudged.recorded
  · rw [hcommits, List.pairwise_append]
    refine ⟨h.exclusive, List.pairwise_singleton .., fun c hc d hd => ?_⟩
    rw [List.mem_singleton.mp hd]
    exact hjudged.exclusive (hrec c hc)
  · intro q b hq
    rw [hcommits, List.mem_append, List.mem_singleton]
    rw [hphase] at hq
    split at hq
    · rename_i heq
      rcases hq with hq | hq
      · cases hq
        exact .inr (by rw [heq])
      · cases hq
    · exact .inl (h.committed q b hq)
  · intro r hr
    rw [hgranted] at hr
    obtain ⟨hmem, hended⟩ := h.answered r hr
    rw [hcommits, hphase]
    refine ⟨List.mem_append_left _ hmem, ?_⟩
    split
    · rename_i heq
      rw [heq, hp] at hended
      cases hended
    · exact hended
  · rw [hgranted]
    exact h.once

theorem Coherent.answer (h : Coherent J log w) {p : ℕ} {a : Admission}
    (hp : w.phase p = .returning a true) :
    Coherent J (log ++ [⟨w, .answer p, some ⟨p, a, true⟩, w.move p .ended⟩]) (w.move p .ended) := by
  have hcommits : commits (log ++ [⟨w, .answer p, some ⟨p, a, true⟩, w.move p .ended⟩]) =
      commits log := commits_push log rfl
  have hgranted : granted (log ++ [⟨w, .answer p, some ⟨p, a, true⟩, w.move p .ended⟩]) =
      granted log ++ [⟨p, a, true⟩] := by
    rw [granted, List.filterMap_append]
    rfl
  refine ⟨h.block_same (by simp [hp, Phase.InBlock]), ?_, ?_, ?_, ?_, ?_, ?_⟩
  · intro q b st' hq
    rw [move_phase] at hq
    split at hq
    · rcases hq with hq | hq <;> cases hq
    · exact h.planned q b st' hq
  · rw [hcommits]
    exact h.recorded
  · rw [hcommits]
    exact h.exclusive
  · intro q b hq
    rw [hcommits]
    rw [move_phase] at hq
    split at hq
    · rcases hq with hq | hq <;> cases hq
    · exact h.committed q b hq
  · intro r hr
    rw [hgranted, List.mem_append, List.mem_singleton] at hr
    rw [hcommits, move_phase]
    rcases hr with hr | rfl
    · obtain ⟨hmem, hended⟩ := h.answered r hr
      refine ⟨hmem, ?_⟩
      split
      · rfl
      · exact hended
    · exact ⟨h.committed p a (.inr hp), if_pos rfl⟩
  · rw [hgranted, List.map_append, List.map_singleton, List.nodup_append]
    refine ⟨h.once, List.nodup_singleton _, fun x hx y hy => ?_⟩
    obtain ⟨r, hr, rfl⟩ := List.mem_map.mp hx
    rw [List.mem_singleton.mp hy]
    intro heq
    have hended := (h.answered r hr).2
    rw [heq, hp] at hended
    cases hended

/-- The states that an event writes are read back. -/
def ReadsBack (J : Json) (e : LogEvent) : Prop :=
  ∀ p a st, e.call = .replace p → e.pre.phase p = .written a st → RoundTrips J st

/-- **Every step keeps the invariant.** -/
theorem Coherent.step (h : Coherent J log w) (action : Action)
    (hjson : ReadsBack J ((Ledger.step J).event w action)) :
    Coherent J (log ++ [(Ledger.step J).event w action]) (Ledger.step J w action).1 := by
  have hmoved := step_moved J w action
  change Coherent J (log ++ [⟨w, action, (Ledger.step J w action).2, (Ledger.step J w action).1⟩]) _
  generalize Ledger.step J w action = out at hmoved
  cases hmoved with
  | stay action hno =>
    refine h.move (p := 0) (w.phase 0) ?_ rfl ?_ (fun _ hst => hst) h.exclusion
      (h.planned 0) (h.committed 0) id
    · unfold commit?
      split
      · split
        · rename_i hcall _ _ _ hwritten
          exact absurd hwritten (hno _ _ _ hcall)
        · rfl
      · rfl
    · intro q
      split
      · rename_i heq
        rw [heq]
      · rfl
  | begin p a hp =>
    refine h.move (p := p) _ rfl rfl (move_phase w p · _) (fun _ hst => hst)
      (h.block_same (by simp [hp, Phase.InBlock])) ?_ ?_ ?_
    all_goals simp [hp]
  | touch p a data hp hdata =>
    refine h.move (p := p) _ rfl rfl (move_phase { w with data := data } p · _) ?_
      (h.block_same (by simp [hp, Phase.InBlock])) ?_ ?_ ?_
    · rcases hdata with rfl | ⟨habsent, -⟩
      · exact fun _ hst => hst
      · intro st hst
        rw [habsent] at hst
        cases hst
    all_goals simp [hp]
  | lock p a hp hfree =>
    refine h.move (p := p) _ rfl rfl (move_phase { w with holder := some p } p · _)
      (fun _ hst => hst) (h.lock hfree trivial) ?_ ?_ ?_
    all_goals simp [hp]
  | plan p a st st' hp hread hjudge =>
    refine h.move (p := p) _ rfl rfl (move_phase w p · _) (fun _ hst => hst)
      (h.block_same (by simp [hp, Phase.InBlock])) ?_ ?_ ?_
    · intro b st₁ hb
      simp only [Phase.deciding.injEq, reduceCtorEq, or_false] at hb
      obtain ⟨rfl, rfl⟩ := hb
      exact ⟨st, hread, hjudge⟩
    all_goals simp [hp]
  | refuse p a hp =>
    refine h.move (p := p) _ rfl rfl (move_phase w p · _) (fun _ hst => hst)
      (h.block_same (by simp [hp, Phase.InBlock])) ?_ ?_ ?_
    all_goals simp [hp]
  | raise p a hp =>
    refine h.move (p := p) .ended rfl rfl (by simp) (by simp) (h.block_leave (by simp [Phase.InBlock]))
      ?_ ?_ ?_
    all_goals simp
  | temp p a st hp =>
    refine h.move (p := p) _ rfl rfl (move_phase w p · _) (fun _ hst => hst)
      (h.block_same (by simp [hp, Phase.InBlock])) ?_ ?_ ?_
    · intro b st₁ hb
      simp only [reduceCtorEq, Phase.written.injEq, false_or] at hb
      obtain ⟨rfl, rfl⟩ := hb
      exact h.planned p a st (.inl hp)
    all_goals simp [hp]
  | replace p a st hp => exact h.replace hp (hjson p a st rfl hp) rfl
  | unlock p a result hp =>
    refine h.move (p := p) (.returning a result) rfl rfl (by simp) (by simp) (h.block_leave (by simp [Phase.InBlock]))
      ?_ ?_ ?_
    · simp
    · intro b hb
      simp only [reduceCtorEq, Phase.returning.injEq, false_or] at hb
      obtain ⟨rfl, rfl⟩ := hb
      exact h.committed p a (.inl hp)
    · simp [hp]
  | answer p a result hp =>
    cases result with
    | true => exact h.answer hp
    | false =>
      refine h.move (p := p) _ rfl rfl (move_phase w p · _) (fun _ hst => hst)
        (h.block_same (by simp [hp, Phase.InBlock])) ?_ ?_ ?_
      all_goals simp
  | stop p =>
    refine h.move (p := p) .ended rfl rfl (by simp) (by simp) (h.block_leave (by simp [Phase.InBlock]))
      ?_ ?_ ?_
    all_goals simp

end Steps

/-! ## Runs -/

theorem Coherent.run {data : Contents} {actions : List Action}
    (hjson : ∀ e ∈ (Ledger.step J).log (World.start data) actions, ReadsBack J e) :
    Coherent J ((Ledger.step J).log (World.start data) actions)
      ((Ledger.step J).run (World.start data) actions) :=
  (Ledger.step J).log_inv (G := ReadsBack J) (I := Coherent J) (Coherent.start J data)
    (fun _ _ action h hG => h.step action hG) actions hjson

/-- What is said of the admissions on one path, over a log of all calls. -/
structure AdmittedOnce (J : Json) (log : List LogEvent) : Prop where
  /-- No two calls with one nonce or one approval return `True`, and all that do for one
  binding and epoch have one approval. -/
  exclusive : (granted log).Pairwise fun r r' => Exclusive r.a r'.a
  /-- What was admitted is recorded in every ledger read later. -/
  kept : ∀ l₁ e l₂, log = l₁ ++ e :: l₂ → ∀ r, e.resp = some r → r.result = true →
    ∀ f ∈ e :: l₂, ∀ st, reading J f.post.data = some st → Recorded st r.a
  /-- A file that is no ledger stays as it is, and whoever reads or returns is refused. -/
  malformed : ∀ e ∈ log, Malformed J e.pre.data →
    e.post.data = e.pre.data ∧ (∀ r, e.resp = some r → r.result = false) ∧
      ∀ p a, e.call = .read p → e.pre.phase p = .locked a → e.post.phase p = .unlocking a false

/-- Nothing was ever written into a file that is no ledger now. -/
theorem Coherent.commits_nil {log : List LogEvent} {w : World} (h : Coherent J log w)
    (hbad : Malformed J w.data) : commits log = [] := by
  obtain ⟨raw, hdata, -, hload⟩ := hbad
  refine List.eq_nil_iff_forall_not_mem.mpr fun c hc => ?_
  obtain ⟨st, hst, -⟩ := h.recorded c hc
  rw [hdata, reading, hload] at hst
  cases hst

theorem Coherent.malformed {log : List LogEvent} {w : World} (h : Coherent J log w)
    (hbad : Malformed J w.data) (action : Action) :
    (Ledger.step J w action).1.data = w.data ∧
      (∀ r, (Ledger.step J w action).2 = some r → r.result = false) ∧
      ∀ p a, action = .read p → w.phase p = .locked a →
        (Ledger.step J w action).1.phase p = .unlocking a false := by
  have hnil := h.commits_nil hbad
  obtain ⟨raw, hdata, -, hload⟩ := hbad
  have hread : reading J w.data = none := by rw [hdata, reading, hload]
  have hrefused : ∀ p a, action = .read p → w.phase p = .locked a →
      (Ledger.step J w action).1.phase p = .unlocking a false := by
    rintro p a rfl hp
    simp only [Ledger.step, hp, hdata, hload, Option.bind_none, move_phase, if_true]
  have hmoved := step_moved J w action
  refine ⟨?_, ?_, hrefused⟩
  · generalize Ledger.step J w action = out at hmoved
    cases hmoved with
    | touch p a data hp hsame =>
      rcases hsame with rfl | ⟨habsent, -⟩
      · rfl
      · rw [habsent] at hdata
        cases hdata
    | replace p a st hp =>
      obtain ⟨st₀, hst₀, -⟩ := h.planned p a st (.inr hp)
      rw [hread] at hst₀
      cases hst₀
    | raise => exact release_data ..
    | unlock => exact release_data ..
    | stop => exact release_data ..
    | _ => rfl
  · generalize Ledger.step J w action = out at hmoved
    cases hmoved with
    | answer p a result hp =>
      rintro r ⟨⟩
      cases result with
      | true =>
        have hmem := h.committed p a (.inr hp)
        rw [hnil] at hmem
        cases hmem
      | false => rfl
    | _ =>
      rintro r ⟨⟩

theorem Coherent.exclusive_granted {log : List LogEvent} {w : World} (h : Coherent J log w) :
    (granted log).Pairwise fun r r' => Exclusive r.a r'.a := by
  have : Std.Symm fun c d : ℕ × Admission => Exclusive c.2 d.2 := ⟨fun _ _ => Exclusive.symm⟩
  refine (List.pairwise_map.mp h.once).imp_of_mem fun {r r'} hr hr' hne => ?_
  exact h.exclusive.forall (h.answered r hr).1 (h.answered r' hr').1
    fun heq => hne (congrArg Prod.fst heq)

/-- **Approvals are admitted once**, across processes and crashes: for every interleaving of
any calls on one path, from any contents of the file. -/
theorem approvals_once (J : Json) (data : Contents) (actions : List Action)
    (hjson : ∀ e ∈ (step J).log (World.start data) actions, ReadsBack J e) :
    AdmittedOnce J ((step J).log (World.start data) actions) := by
  refine ⟨(Coherent.run hjson).exclusive_granted, ?_, ?_⟩
  · intro l₁ e l₂ hlog r hresp htrue f hf st hst
    -- the log up to `f` has the grant, so what it wrote is recorded there
    obtain ⟨m₁, m₂, hsplit⟩ := List.append_of_mem hf
    have hcut : (step J).log (World.start data) actions = (l₁ ++ m₁) ++ f :: m₂ := by
      rw [hlog, hsplit, List.append_assoc]
    obtain ⟨cs₁, c, cs₂, rfl, hearlier, rfl, -⟩ := (step J).log_eq_append_cons hcut
    have hrun : Coherent J ((step J).log (World.start data) (cs₁ ++ [c]))
        ((step J).run (World.start data) (cs₁ ++ [c])) := by
      refine Coherent.run fun e he => hjson e ?_
      rw [Machine.log_append] at he ⊢
      rcases List.mem_append.mp he with he | he
      · exact List.mem_append_left _ he
      · refine List.mem_append_right _ ?_
        rw [List.mem_singleton.mp he]
        exact List.mem_cons_self
    have hmem : r ∈ granted ((step J).log (World.start data) (cs₁ ++ [c])) := by
      have hin : e ∈ (step J).log (World.start data) (cs₁ ++ [c]) := by
        rw [Machine.log_append, ← hearlier]
        simp only [Machine.log_cons, Machine.log_nil, List.append_assoc]
        refine List.mem_append_right _ ?_
        cases m₁ with
        | nil =>
          rw [List.nil_append, List.cons.injEq] at hsplit
          rw [hsplit.1]
          exact List.mem_cons_self
        | cons g m₁ =>
          rw [List.cons_append, List.cons.injEq] at hsplit
          rw [hsplit.1]
          exact List.mem_cons_self
      exact List.mem_filterMap.mpr ⟨e, hin, by simp [granted?, hresp, htrue]⟩
    obtain ⟨st', hst', hrec⟩ := hrun.recorded _ (hrun.answered r hmem).1
    rw [Machine.run_append] at hst'
    obtain rfl : st' = st := Option.some.inj (hst'.symm.trans hst)
    exact hrec
  · intro e he hbad
    obtain ⟨cs₁, c, cs₂, rfl, rfl⟩ := (step J).mem_log he
    refine (Coherent.run fun e he => hjson e ?_).malformed hbad c
    rw [Machine.log_append]
    exact List.mem_append_left _ he

def exampleAdmission : Admission := ⟨py "n", py "a", py "b", 1⟩

def exampleState : LedgerState := ⟨{py "n"}, {py "a"}, [(py "b:1", py "a")]⟩

def exampleText : Str :=
  py "\x7b\n  \"binding_epochs\": \x7b\n    \"b:1\": \"a\"\n  \x7d,\n" ++
    py "  \"consumed_approval_ids\": [\n    \"a\"\n  ],\n" ++
    py "  \"consumed_nonces\": [\n    \"n\"\n  ]\n\x7d"

def examplePayload : Payload :=
  .object
    [(py "binding_epochs", .object [(py "b:1", .str (py "a"))]),
     (py "consumed_approval_ids", .list [.str (py "a")]),
     (py "consumed_nonces", .list [.str (py "n")])]

def exampleJson : Json where
  loads := fun s => if s = strip exampleText then some examplePayload else none
  dump := fun _ => exampleText

theorem exampleState_roundTrips : RoundTrips exampleJson exampleState := by
  refine ⟨by decide, examplePayload, by simp [exampleJson], ?_⟩
  simp only [examplePayload, LedgerState.toJson, exampleState, Finset.sort_singleton, List.map_cons, List.map_nil]
  refine .object (by simp [Entries.keys]) (fun k => ?_) fun k v w hv hw => ?_
  · simp only [Entries.find?_cons, Entries.find?_nil]
    by_cases h₁ : py "consumed_nonces" = k
    · subst h₁
      simp
    · by_cases h₂ : py "binding_epochs" = k
      · subst h₂
        simp
      · simp [h₁, h₂]
  · simp only [Entries.find?_cons, Entries.find?_nil] at hv hw
    by_cases h₁ : py "consumed_nonces" = k
    · subst h₁
      simp only [py_inj, String.reduceEq, if_true, if_false, Option.some.injEq] at hv hw
      subst hv hw
      exact .refl _
    · by_cases h₂ : py "binding_epochs" = k
      · subst h₂
        simp only [py_inj, String.reduceEq, if_true, if_false, Option.some.injEq] at hv hw
        subst hv hw
        exact .refl _
      · simp only [h₁, h₂, if_false] at hv hw
        rw [hv] at hw
        cases hw
        exact .refl _

def exampleActions : List Action :=
  [.admitCall 0 exampleAdmission, .touch 0, .lock 0, .read 0, .writeTemp 0, .replace 0, .unlock 0,
    .answer 0]

theorem approvals_once_alone :
    AdmittedOnce exampleJson ((step exampleJson).log (World.start .absent) exampleActions) := by
  refine approvals_once exampleJson .absent exampleActions fun e he p a st hcall hp => ?_
  simp only [exampleActions, Machine.log_cons, Machine.log_nil, List.mem_cons,
    List.not_mem_nil, or_false] at he
  rcases he with rfl | rfl | rfl | rfl | rfl | rfl | rfl | rfl
  all_goals first | cases hcall; done | skip
  cases hcall
  cases hp
  exact exampleState_roundTrips

end HeyKevin.L10.Ledger
