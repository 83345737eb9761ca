import HeyKevin.L4Worker.BackgroundJobs
import Mathlib.Data.List.Nodup
/-!
# The job ledger admits each run once

`RowTurn` is the life of one ledger row: an admission needs an absent row, or
a completed one that is due, and leaves it running; a finish needs the running
row with its nonce and leaves it completed or in need of attention. `step_row`
is the refinement: whatever call is made, by stores of either kind or by the
cutover, a row takes the turn named by `deed`, or stays.

* `Pending`: running with one nonce, or in need of attention. It ends only
  with the accepted finish of that nonce, and no admission starts in it.
* `DueFrom`: the due time stored at admission survives the finish, so a later
  admission lies in a later slot. The program rounds the division before it
  takes the floor; from 2^53 slots on the rounded slot can be the previous
  one (`same_slot_twice`), below that it is never too small.
-/
namespace HeyKevin.L4.BackgroundJobs

open HeyKevin.Core Binary64 L1 L1.Text

/-- What a call did to the row of one job. -/
inductive Deed
  | none
  | admitJob (nonce : Str) (clock : Value)
  | finish (nonce : Str) (completed : Bool)

def deed (job : Job) (e : Event Ledger Call Resp) : Deed :=
  match e.call, e.resp with
  | .admitJob _ j nonce clock, .admission (.admitted ..) => if j = job then .admitJob nonce clock else .none
  | .finish j nonce completed .., .bool true => if j = job then .finish nonce completed else .none
  | _, _ => .none

theorem deed_of_admitted {job : Job} {e : Event Ledger Call Resp} {g : Option Generation}
    {nonce : Str} {clock : Value} (hc : e.call = .admitJob g job nonce clock)
    (hr : e.resp.isAdmitted = true) : deed job e = .admitJob nonce clock := by
  obtain ⟨pre, call, resp, post⟩ := e
  simp only at hc hr
  subst hc
  cases resp with
  | admission a =>
    cases a with
    | admitted => simp [deed]
    | _ => cases hr
  | _ => cases hr

inductive RowTurn (job : Job) : Option Dict → Deed → Option Dict → Prop
  | keep (row : Option Dict) : RowTurn job row .none row
  | admitJob {row : Option Dict} {clock : Value} {now : Number} (hclock : clock.finite? = some now)
      (h : Admissible row now) (nonce : Str) (continuation : Dict) :
      RowTurn job row (.admitJob nonce clock) (some (runningRow job now nonce continuation))
  | finish {data : Dict} {nonce : Str} (hs : data.get "status" = .text "running")
      (hn : data.get "nonce" = .str nonce) (completed : Bool) (continuation : Value) :
      RowTurn job (some data) (.finish nonce completed)
        (some (data.update (finishUpdates completed continuation)))

/-- **Refinement.** Every call takes the turn its result names in every row. -/
theorem step_row (job : Job) (s : Ledger) (c : Call) :
    RowTurn job (s.row job) (deed job (step.event s c)) ((step s c).1.row job) := by
  simp only [Machine.event, deed]
  cases c with
  | prepareExternal g lease drained verified clock =>
    simp only [step]
    rcases prepareExternal_cases g lease drained verified clock s with ⟨_, he⟩ | ⟨-, d, -, he⟩ <;>
      rw [he] <;> exact .keep _
  | activateExternal g clock =>
    simp only [step]
    rcases activateExternal_cases g clock s with ⟨r, he, -⟩ | ⟨-, d, -, he⟩ <;>
      rw [he] <;> exact .keep _
  | beginEmbedded =>
    simp only [step]
    rcases beginEmbedded_cases s with ⟨d, -, he⟩ | he | ⟨-, s', hrow, -, he⟩ <;> rw [he]
    · exact .keep _
    · exact .keep _
    · simp only [hrow]; exact .keep _
  | admitJob generation j nonce clock =>
    simp only [step]
    rcases admit_cases generation j nonce clock s with
      ⟨r, he, hr⟩ | ⟨now, continuation, hnow, hadm, -, he⟩ <;> rw [he]
    · split
      · simp_all [Resp.isAdmitted]
      · simp_all
      · exact .keep _
    · simp only
      split
      · rename_i hj
        subst hj
        rw [Ledger.setRow_row_self]
        exact .admitJob hnow hadm nonce continuation
      · rename_i hj
        rw [Ledger.setRow_row_ne _ _ (Ne.symm hj)]
        exact .keep _
  | finish j nonce completed continuation clock =>
    simp only [step]
    rcases finish_cases j nonce completed continuation clock s with
      ⟨r, he, hr⟩ | ⟨data, hrow, hs, hn, he⟩ <;> rw [he]
    · split
      · simp_all
      · simp_all
      · exact .keep _
    · simp only
      split
      · rename_i hj
        subst hj
        rw [Ledger.setRow_row_self, hrow]
        exact .finish hs hn completed continuation
      · rename_i hj
        rw [Ledger.setRow_row_ne _ _ (Ne.symm hj)]
        exact .keep _

theorem event_row {s : Ledger} {cs : List Call} {e : Event Ledger Call Resp}
    (he : e ∈ step.log s cs) (job : Job) :
    RowTurn job (e.pre.row job) (deed job e) (e.post.row job) := by
  obtain ⟨cs₁, c, -, -, rfl⟩ := step.mem_log he
  exact step_row job (step.run s cs₁) c

/-- A finish that is not accepted writes nothing. -/
theorem finish_refused {job : Job} {s : Ledger} {nonce : Str} {completed : Bool}
    {continuation clock : Value}
    (h : ∀ data, s.row job = some data →
      ¬ (data.get "status" = .text "running" ∧ data.get "nonce" = .str nonce)) :
    finish job nonce completed continuation clock s = (s, .bool false) := by
  unfold finish
  split
  · rfl
  rename_i data hdata
  rw [if_pos]
  simp only [Bool.or_eq_true, Bool.not_eq_true', Bool.eq_false_iff, ne_eq, Value.isStr_iff]
  exact not_and_or.mp (h data hdata)

/-! ## One admission at a time -/

/-- The row is running with this nonce. -/
def RunningWith (nonce : Str) (row : Option Dict) : Prop :=
  ∃ data, row = some data ∧ data.get "status" = .text "running" ∧ data.get "nonce" = .str nonce

def NeedsAttention (row : Option Dict) : Prop := fieldIs row "status" "needs_attention" = true

/-- The row waits for the finish of `nonce`, or for an operator. -/
def Pending (nonce : Str) (row : Option Dict) : Prop := RunningWith nonce row ∨ NeedsAttention row

theorem RunningWith.fieldIs {nonce : Str} {row : Option Dict} (h : RunningWith nonce row) :
    fieldIs row "status" "running" = true := by
  obtain ⟨data, rfl, hs, -⟩ := h
  rw [fieldIs_some, hs]
  decide

/-- A row runs with one nonce. -/
theorem RunningWith.not_runningWith {n m : Str} {row : Option Dict} (h : RunningWith n row)
    (hne : m ≠ n) : ¬ RunningWith m row := by
  rintro ⟨_, rfl, -, hm⟩
  obtain ⟨_, hdata, -, hn⟩ := h
  cases hdata
  rw [hm] at hn
  cases hn
  exact hne rfl

theorem NeedsAttention.not_runningWith {nonce : Str} {row : Option Dict} (h : NeedsAttention row) :
    ¬ RunningWith nonce row := by
  intro hr
  have := fieldIs_unique h (show "needs_attention" ≠ "running" by decide)
  rw [hr.fieldIs] at this
  cases this

theorem runningWith_runningRow (job : Job) (now : Number) (nonce : Str) (continuation : Dict) :
    RunningWith nonce (some (runningRow job now nonce continuation)) :=
  ⟨_, rfl, by simp [runningRow], by simp [runningRow]⟩

theorem Pending.not_admissible {nonce : Str} {row : Option Dict} (h : Pending nonce row)
    (now : Number) : ¬ Admissible row now := by
  rintro (rfl | ⟨hc, -⟩)
  · rcases h with ⟨_, h, -⟩ | h
    · cases h
    · cases h
  · rcases h with h | h
    · rw [fieldIs_unique h.fieldIs (show "running" ≠ "completed" by decide)] at hc
      cases hc
    · rw [fieldIs_unique h (show "needs_attention" ≠ "completed" by decide)] at hc
      cases hc

variable {job : Job}

/-- A row that needs attention is never written again. -/
theorem RowTurn.attention {row row' : Option Dict} {d : Deed} (t : RowTurn job row d row')
    (h : NeedsAttention row) : row' = row ∧ d = .none := by
  cases t with
  | keep => exact ⟨rfl, rfl⟩
  | admitJob _ hadm nonce _ =>
    have hp : Pending nonce row := .inr h
    exact absurd hadm (hp.not_admissible _)
  | finish hs hn => exact absurd ⟨_, rfl, hs, hn⟩ h.not_runningWith

theorem RowTurn.pending {row row' : Option Dict} {d : Deed} {nonce : Str}
    (t : RowTurn job row d row') (h : Pending nonce row) (hd : d ≠ .finish nonce true) :
    Pending nonce row' := by
  cases t with
  | keep => exact h
  | admitJob _ hadm => exact absurd hadm (h.not_admissible _)
  | @finish data m hs hn completed continuation =>
    rcases h with ⟨_, hdata, -, hm⟩ | h
    · cases hdata
      rw [hm] at hn
      cases hn
      cases completed with
      | true => exact absurd rfl hd
      | false => exact .inr (by rw [NeedsAttention, fieldIs_some, finishUpdates_status]; decide)
    · exact absurd ⟨_, rfl, hs, hn⟩ h.not_runningWith

theorem RowTurn.admissible {row row' : Option Dict} {nonce : Str} {clock : Value}
    (t : RowTurn job row (.admitJob nonce clock) row') :
    ∃ now, clock.finite? = some now ∧ Admissible row now := by
  cases t with
  | admitJob hclock h => exact ⟨_, hclock, h⟩

theorem RowTurn.after_admission {row row' : Option Dict} {nonce : Str} {clock : Value}
    (t : RowTurn job row (.admitJob nonce clock) row') : RunningWith nonce row' := by
  cases t
  exact runningWith_runningRow ..

theorem RowTurn.running {row row' : Option Dict} {d : Deed} {nonce : Str}
    (t : RowTurn job row d row') (h : RunningWith nonce row) (hd : ∀ b, d ≠ .finish nonce b) :
    RunningWith nonce row' := by
  cases t with
  | keep => exact h
  | admitJob _ hadm => exact absurd hadm (Pending.not_admissible (.inl h) _)
  | finish hs hn completed =>
    obtain ⟨_, hdata, -, hm⟩ := h
    cases hdata
    rw [hm] at hn
    cases hn
    exact absurd rfl (hd completed)

theorem RowTurn.before_finish {row row' : Option Dict} {nonce : Str} {completed : Bool}
    (t : RowTurn job row (.finish nonce completed) row') : RunningWith nonce row := by
  cases t with
  | finish hs hn => exact ⟨_, rfl, hs, hn⟩

theorem RowTurn.after_finish {row row' : Option Dict} {nonce : Str} {completed : Bool}
    (t : RowTurn job row (.finish nonce completed) row') :
    fieldIs row' "status" (if completed then "completed" else "needs_attention") = true := by
  cases t
  rw [fieldIs_some, finishUpdates_status, Value.isStr_text]
  exact decide_eq_true rfl

theorem RowTurn.not_running_after_finish {row row' : Option Dict} {nonce n : Str}
    {completed : Bool} (t : RowTurn job row (.finish nonce completed) row') :
    ¬ RunningWith n row' := by
  intro h
  have := fieldIs_unique t.after_finish (b := "running") (by cases completed <;> decide)
  rw [h.fieldIs] at this
  cases this

theorem RowTurn.not_running {row row' : Option Dict} {d : Deed} {n : Str}
    (t : RowTurn job row d row') (h : ¬ RunningWith n row) (hd : ∀ clock, d ≠ .admitJob n clock) :
    ¬ RunningWith n row' := by
  cases t with
  | keep => exact h
  | admitJob _ _ nonce _ =>
    rintro ⟨_, hdata, -, hn⟩
    cases hdata
    simp only [runningRow, Dict.get_cons, String.reduceEq, if_false, if_true,
      Value.str.injEq] at hn
    exact absurd (by rw [hn]) (hd _)
  | finish hs hn completed continuation =>
    have t : RowTurn job _ _ _ := .finish hs hn completed continuation
    exact t.not_running_after_finish

theorem finish_between (s : Ledger) {cs : List Call} {l₁ l₂ l₃ : List (Event Ledger Call Resp)}
    {a b : Event Ledger Call Resp} {n m : Str} {t u : Value}
    (h : step.log s cs = l₁ ++ a :: l₂ ++ b :: l₃) (ha : deed job a = .admitJob n t)
    (hb : deed job b = .admitJob m u) : ∃ f ∈ l₂, deed job f = .finish n true := by
  rw [List.append_assoc, List.cons_append] at h
  obtain ⟨cs₁, c, cs₂, -, -, rfl, hl⟩ := step.log_eq_append_cons h
  have t := step_row job (step.run s cs₁) c
  rw [ha] at t
  exact step.unless_log (P := fun s => Pending n (s.row job))
    (Q := fun e => deed job e = .finish n true) (R := fun e => deed job e = .admitJob m u)
    (fun s c hp hq => (step_row job s c).pending hp hq)
    (fun s c hp he => by
      obtain ⟨now, -, hadm⟩ := (he ▸ step_row job s c).admissible
      exact hp.not_admissible now hadm)
    (.inl t.after_admission) hl.symm hb

theorem attention_run (s : Ledger) (h : NeedsAttention (s.row job)) (cs : List Call) :
    (step.run s cs).row job = s.row job ∧ ∀ e ∈ step.log s cs, deed job e = .none := by
  induction cs generalizing s with
  | nil => simp
  | cons c cs ih =>
    obtain ⟨hrow, hd⟩ := (step_row job s c).attention h
    obtain ⟨ih₁, ih₂⟩ := ih (step s c).1 (by rw [hrow]; exact h)
    refine ⟨ih₁.trans hrow, fun e he => ?_⟩
    rcases List.mem_cons.mp he with rfl | he
    · exact hd
    · exact ih₂ e he

/-! ## Finishes that change nothing -/

theorem finish_event {s : Ledger} {cs : List Call} {l₁ l₂ : List (Event Ledger Call Resp)}
    {f : Event Ledger Call Resp} {m : Str} {completed : Bool} {continuation clock : Value}
    (h : step.log s cs = l₁ ++ f :: l₂) (hf : f.call = .finish job m completed continuation clock)
    (hrow : ¬ RunningWith m (f.pre.row job)) : f.post = f.pre ∧ f.resp = .bool false := by
  obtain ⟨cs₁, c, cs₂, -, -, rfl, -⟩ := step.log_eq_append_cons h
  rw [Machine.event_call] at hf
  subst hf
  have hrefused : step (step.run s cs₁) (.finish job m completed continuation clock) =
      (step.run s cs₁, .bool false) := finish_refused fun data hd hc => hrow ⟨data, hd, hc⟩
  rw [Machine.event_post, Machine.event_resp, hrefused]
  exact ⟨rfl, rfl⟩

/-- The nonces `admit` drew for this job, in order. -/
def admitNonces (job : Job) (cs : List Call) : List Str :=
  cs.filterMap fun
    | .admitJob _ j nonce _ => if j = job then some nonce else none
    | _ => none

/-- The nonce in the row, left by the last admission. -/
def RowNonce (nonce : Str) (row : Option Dict) : Prop := (row.getD []).get "nonce" = .str nonce

theorem RunningWith.rowNonce {nonce : Str} {row : Option Dict} (h : RunningWith nonce row) :
    RowNonce nonce row := by
  obtain ⟨data, rfl, -, hn⟩ := h
  exact hn

/-- Nonces are drawn once, and none of them is in the ledger already. -/
structure FreshNonces (job : Job) (s : Ledger) (cs : List Call) : Prop where
  nodup : (admitNonces job cs).Nodup
  unused : ∀ n ∈ admitNonces job cs, ¬ RowNonce n (s.row job)

theorem admitNonces_append (cs ds : List Call) :
    admitNonces job (cs ++ ds) = admitNonces job cs ++ admitNonces job ds :=
  List.filterMap_append

/-- A turn changes the nonce only by an admission. -/
theorem RowTurn.nonce {row row' : Option Dict} {d : Deed} {n : Str} (t : RowTurn job row d row')
    (h : RowNonce n row') : RowNonce n row ∨ ∃ clock, d = .admitJob n clock := by
  cases t with
  | keep => exact .inl h
  | admitJob _ _ nonce continuation =>
    right
    simp only [RowNonce, runningRow, Option.getD_some, Dict.get_cons] at h
    simp only [String.reduceEq, if_false, if_true, Value.str.injEq] at h
    exact ⟨_, by rw [h]⟩
  | finish hs hn completed continuation =>
    left
    simpa only [RowNonce, Option.getD_some, finishUpdates_get "nonce" _ _ _ (by decide)
      (by decide)] using h

theorem mem_admitNonces {s : Ledger} {c : Call} {n : Str} {clock : Value}
    (h : deed job (step.event s c) = .admitJob n clock) : n ∈ admitNonces job [c] := by
  simp only [deed, Machine.event_call, Machine.event_resp] at h
  split at h
  · split at h
    · cases h
      simp [admitNonces, *]
    · cases h
  · split at h <;> cases h
  · cases h

theorem mem_admitNonces_log {s : Ledger} {cs : List Call} {e : Event Ledger Call Resp} {n : Str}
    {clock : Value} (he : e ∈ step.log s cs) (h : deed job e = .admitJob n clock) :
    n ∈ admitNonces job cs := by
  obtain ⟨cs₁, c, cs₂, rfl, rfl⟩ := step.mem_log he
  rw [admitNonces_append]
  exact List.mem_append_right _ (by
    rw [show c :: cs₂ = [c] ++ cs₂ from rfl, admitNonces_append]
    exact List.mem_append_left _ (mem_admitNonces h))

theorem nonce_origin {s : Ledger} {n : Str} (cs : List Call)
    (h : RowNonce n ((step.run s cs).row job)) :
    RowNonce n (s.row job) ∨ n ∈ admitNonces job cs := by
  induction cs generalizing s with
  | nil => exact .inl h
  | cons c cs ih =>
    have happ : admitNonces job (c :: cs) = admitNonces job [c] ++ admitNonces job cs :=
      admitNonces_append [c] cs
    rw [happ, List.mem_append]
    rcases ih h with h | h
    · rcases (step_row job s c).nonce h with h | ⟨clock, h⟩
      · exact .inl h
      · exact .inr (.inl (mem_admitNonces h))
    · exact .inr (.inr h)

theorem second_finish {s : Ledger} {cs : List Call} (hfresh : FreshNonces job s cs)
    {l₁ l₂ l₃ : List (Event Ledger Call Resp)} {f g : Event Ledger Call Resp} {n : Str}
    {completed : Bool} (h : step.log s cs = l₁ ++ f :: l₂ ++ g :: l₃)
    (hf : deed job f = .finish n completed) : ¬ RunningWith n (g.pre.row job) := by
  have h' := h
  rw [List.append_assoc, List.cons_append] at h'
  obtain ⟨cs₁, c, cs₂, rfl, -, rfl, hl⟩ := step.log_eq_append_cons h'
  have t := step_row job (step.run s cs₁) c
  rw [hf] at t
  -- the nonce is in the ledger or drawn before, so the rest of the run draws it no more
  have hn : RowNonce n ((step.run s cs₁).row job) := t.before_finish.rowNonce
  have hlater : n ∉ admitNonces job cs₂ := by
    have hcs : admitNonces job (cs₁ ++ c :: cs₂) =
        admitNonces job cs₁ ++ (admitNonces job [c] ++ admitNonces job cs₂) := by
      rw [← admitNonces_append, ← admitNonces_append]; rfl
    rcases nonce_origin cs₁ hn with h0 | h0
    · exact fun hm => hfresh.unused n (by simp [hcs, hm]) h0
    · have hnodup := hfresh.nodup
      rw [hcs, List.nodup_append] at hnodup
      exact fun hm => hnodup.2.2 n h0 n (List.mem_append_right _ hm) rfl
  refine step.log_between (I := fun s => ¬ RunningWith n (s.row job))
    (G := fun e => ∀ clock, deed job e ≠ .admitJob n clock)
    (fun s c hi hG => (step_row job s c).not_running hi hG) h t.not_running_after_finish ?_
  intro e he clock hd
  exact hlater (mem_admitNonces_log (hl ▸ List.mem_append_left _ he) hd)

/-! ## Calendar slots -/

theorem Job.interval_pos_rat (job : Job) : (0 : ℚ) < job.interval := by
  exact_mod_cast job.interval_pos

theorem le_nextDueAt {now : Number} {n : ℤ} (h0 : 0 ≤ n) (hn : n ≤ 2 ^ 53)
    (h : n * job.interval ≤ now.val) : (n + 1) * job.interval ≤ nextDueAt job now := by
  have hq : (n : ℚ) ≤ now.val / job.interval := (le_div_iff₀ job.interval_pos_rat).mpr h
  have hfloor : n ≤ Number.floor (now.divInt job.interval) :=
    Int.le_floor.mpr (intCast_le_rnd hn h0 hq)
  exact mul_le_mul_of_nonneg_right (by omega) job.interval_pos.le

/-- The row is due no earlier than the start of slot `k`. -/
def DueFrom (job : Job) (k : ℤ) (row : Option Dict) : Prop :=
  ∃ data due, row = some data ∧ data.get "next_due_at" = .int due ∧ k * job.interval ≤ due

theorem DueFrom.le_of_admissible {k : ℤ} {row : Option Dict} {now : Number}
    (h : DueFrom job k row) (ha : Admissible row now) : k * job.interval ≤ now.val := by
  obtain ⟨data, due, rfl, hdue, hk⟩ := h
  rcases ha with h | ⟨-, due', hd, hnow⟩
  · cases h
  · simp only [Option.getD_some, dueOf, hdue, Value.finite?_int] at hd
    split at hd
    · cases hd
    · cases hd
      calc (k : ℚ) * job.interval ≤ due := by exact_mod_cast hk
        _ ≤ now.val := hnow

theorem RowTurn.dueFrom_after_admission {row row' : Option Dict} {nonce : Str} {clock : Value}
    {now : Number} {n : ℤ} (t : RowTurn job row (.admitJob nonce clock) row')
    (hclock : clock.finite? = some now) (h0 : 0 ≤ n) (hn : n ≤ 2 ^ 53)
    (h : n * job.interval ≤ now.val) : DueFrom job (n + 1) row' := by
  cases t with
  | admitJob hc =>
    rw [hclock] at hc
    cases hc
    exact ⟨_, _, rfl, by simp [runningRow], le_nextDueAt h0 hn h⟩

theorem RowTurn.dueFrom {row row' : Option Dict} {d : Deed} {k : ℤ} (t : RowTurn job row d row')
    (h : DueFrom job k row) (h0 : 0 ≤ k) (hk : k ≤ 2 ^ 53) : DueFrom job k row' := by
  cases t with
  | keep => exact h
  | @admitJob _ clock now hclock hadm nonce continuation =>
    obtain ⟨data, due, hdata, hdue, hle⟩ := (RowTurn.admitJob hclock hadm nonce
      continuation).dueFrom_after_admission hclock h0 hk (h.le_of_admissible hadm)
    refine ⟨data, due, hdata, hdue, le_trans ?_ hle⟩
    exact mul_le_mul_of_nonneg_right (by omega) job.interval_pos.le
  | finish hs hn completed continuation =>
    obtain ⟨data, due, hdata, hdue, hle⟩ := h
    cases hdata
    exact ⟨_, due, rfl, by rw [finishUpdates_get _ _ _ _ (by decide) (by decide), hdue], hle⟩

/-- A later admission lies in a later slot. -/
theorem slot_lt {s : Ledger} {cs : List Call} {l₁ l₂ l₃ : List (Event Ledger Call Resp)}
    {a b : Event Ledger Call Resp} {n m : Str} {clock clock' : Value} {t u : Number}
    (h : step.log s cs = l₁ ++ a :: l₂ ++ b :: l₃) (ha : deed job a = .admitJob n clock)
    (hb : deed job b = .admitJob m clock') (ht : clock.finite? = some t)
    (hu : clock'.finite? = some u) (h0 : 0 ≤ t.val) (hlt : t.val < 2 ^ 53 * job.interval) :
    ⌊t.val / job.interval⌋ < ⌊u.val / job.interval⌋ := by
  have hI := job.interval_pos_rat
  have hk0 : 0 ≤ ⌊t.val / job.interval⌋ := Int.floor_nonneg.mpr (div_nonneg h0 hI.le)
  have hk : ⌊t.val / job.interval⌋ < 2 ^ 53 := by
    rw [Int.floor_lt]
    push_cast
    exact (div_lt_iff₀ hI).mpr hlt
  have hle : (⌊t.val / job.interval⌋ : ℚ) * job.interval ≤ t.val :=
    (le_div_iff₀ hI).mp (Int.floor_le _)
  have ta := event_row (e := a) (by rw [h]; simp) job
  have tb := event_row (e := b) (by rw [h]; simp) job
  rw [ha] at ta
  rw [hb] at tb
  have hdue : DueFrom job (⌊t.val / job.interval⌋ + 1) (b.pre.row job) :=
    step.log_between (I := fun s => DueFrom job (⌊t.val / job.interval⌋ + 1) (s.row job))
      (G := fun _ => True) (fun s c hi _ => (step_row job s c).dueFrom hi (by omega) (by omega))
      h (ta.dueFrom_after_admission ht hk0 hk.le hle) fun _ _ => trivial
  obtain ⟨now, hnow, hadm⟩ := tb.admissible
  obtain rfl : now = u := by rw [hnow] at hu; exact Option.some.inj hu
  have hnext := hdue.le_of_admissible hadm
  rw [← Int.add_one_le_iff, Int.le_floor]
  exact (le_div_iff₀ hI).mpr hnext

/-- **The ledger contract.** In every run of the ledger's calls from any
ledger, for every job: between two admissions lies the accepted completing
finish of the first; a finish with another nonce than the running one, a
finish before the next admission, a finish after `completed=False`, and with
fresh nonces a second finish change nothing; a row that needs attention is
never admitted or written again; and a later admission lies in a later slot,
when the earlier reading lies below 2^53 slots. -/
theorem ledger_admits_each_slot_once (job : Job) (s : Ledger) (cs : List Call) :
    (∀ l₁ a l₂ b l₃ n t m u, step.log s cs = l₁ ++ a :: l₂ ++ b :: l₃ → deed job a = .admitJob n t →
      deed job b = .admitJob m u → ∃ f ∈ l₂, deed job f = .finish n true) ∧
    (∀ l₁ a l₂ f l₃ n t m completed continuation clock,
      step.log s cs = l₁ ++ a :: l₂ ++ f :: l₃ → deed job a = .admitJob n t →
      (∀ e ∈ l₂, ∀ b, deed job e ≠ .finish n b) →
      f.call = .finish job m completed continuation clock → m ≠ n →
      f.post = f.pre ∧ f.resp = .bool false) ∧
    (∀ l₁ f l₂ g l₃ n b m completed continuation clock,
      step.log s cs = l₁ ++ f :: l₂ ++ g :: l₃ → deed job f = .finish n b →
      (∀ e ∈ l₂, ∀ n t, deed job e ≠ .admitJob n t) →
      g.call = .finish job m completed continuation clock →
      g.post = g.pre ∧ g.resp = .bool false) ∧
    (∀ l₁ f l₂ g l₃ n m completed continuation clock,
      step.log s cs = l₁ ++ f :: l₂ ++ g :: l₃ → deed job f = .finish n false →
      g.call = .finish job m completed continuation clock →
      g.post = g.pre ∧ g.resp = .bool false) ∧
    (FreshNonces job s cs → ∀ l₁ f l₂ g l₃ n b completed continuation clock,
      step.log s cs = l₁ ++ f :: l₂ ++ g :: l₃ → deed job f = .finish n b →
      g.call = .finish job n completed continuation clock →
      g.post = g.pre ∧ g.resp = .bool false) ∧
    (∀ cs₁ cs₂, cs = cs₁ ++ cs₂ → NeedsAttention ((step.run s cs₁).row job) →
      (step.run s cs).row job = (step.run s cs₁).row job ∧
      ∀ e ∈ step.log (step.run s cs₁) cs₂, deed job e = .none) ∧
    (∀ l₁ a l₂ b l₃ n clock t m clock' u, step.log s cs = l₁ ++ a :: l₂ ++ b :: l₃ →
      deed job a = .admitJob n clock → deed job b = .admitJob m clock' → clock.finite? = some t →
      clock'.finite? = some u → 0 ≤ t.val → t.val < 2 ^ 53 * job.interval →
      ⌊t.val / job.interval⌋ < ⌊u.val / job.interval⌋) := by
  refine ⟨?_, ?_, ?_, ?_, ?_, ?_, ?_⟩
  · intro l₁ a l₂ b l₃ n t m u h ha hb
    exact finish_between s h ha hb
  · intro l₁ a l₂ f l₃ n t m completed continuation clock h ha hl₂ hf hne
    have ta := event_row (e := a) (by rw [h]; simp) job
    rw [ha] at ta
    have hrun : RunningWith n (f.pre.row job) :=
      step.log_between (I := fun s => RunningWith n (s.row job))
        (G := fun e => ∀ b, deed job e ≠ .finish n b)
        (fun s c hi hG => (step_row job s c).running hi hG) h ta.after_admission hl₂
    exact finish_event h hf (hrun.not_runningWith hne)
  · intro l₁ f l₂ g l₃ n b m completed continuation clock h hf hl₂ hg
    have tf := event_row (e := f) (by rw [h]; simp) job
    rw [hf] at tf
    have hrun : ¬ RunningWith m (g.pre.row job) :=
      step.log_between (I := fun s => ¬ RunningWith m (s.row job))
        (G := fun e => ∀ n t, deed job e ≠ .admitJob n t)
        (fun s c hi hG => (step_row job s c).not_running hi (hG m)) h
        tf.not_running_after_finish hl₂
    exact finish_event h hg hrun
  · intro l₁ f l₂ g l₃ n m completed continuation clock h hf hg
    have tf := event_row (e := f) (by rw [h]; simp) job
    rw [hf] at tf
    have hatt : NeedsAttention (g.pre.row job) :=
      step.log_between (I := fun s => NeedsAttention (s.row job)) (G := fun _ => True)
        (fun s c hi _ => by rw [((step_row job s c).attention hi).1]; exact hi) h tf.after_finish
        fun _ _ => trivial
    exact finish_event h hg hatt.not_runningWith
  · intro hfresh l₁ f l₂ g l₃ n b completed continuation clock h hf hg
    exact finish_event h hg (second_finish hfresh h hf)
  · rintro cs₁ cs₂ rfl hatt
    rw [Machine.run_append]
    exact attention_run _ hatt cs₂
  · intro l₁ a l₂ b l₃ n clock t m clock' u h ha hb ht hu h0 hlt
    exact slot_lt h ha hb ht hu h0 hlt

def ordinaryRun : List Call :=
  [.admitJob none .post_calls (py "n1") (.int 100), .finish .post_calls (py "n1") true .none (.int 130),
    .admitJob none .post_calls (py "n2") (.int 170)]

theorem ledger_admits_each_slot_once_ordinaryRun :
    (∃ f ∈ ((step.log emptyLedger ordinaryRun).drop 1).take 1,
      deed .post_calls f = .finish (py "n1") true) ∧
    ⌊(Number.int 100).val / (Job.post_calls).interval⌋ <
      ⌊(Number.int 170).val / (Job.post_calls).interval⌋ := by
  have key := ledger_admits_each_slot_once .post_calls emptyLedger ordinaryRun
  have ha : deed .post_calls (step.event emptyLedger
      (.admitJob none .post_calls (py "n1") (.int 100))) = .admitJob (py "n1") (.int 100) :=
    deed_of_admitted rfl (by decide +kernel)
  exact ⟨key.1 [] _ [_] _ [] _ _ _ _ rfl ha (deed_of_admitted rfl (by decide +kernel)),
    key.2.2.2.2.2.2 [] _ [_] _ [] _ _ _ _ _ _ rfl ha (deed_of_admitted rfl (by decide +kernel))
      rfl rfl (by decide +kernel) (by decide +kernel)⟩

/-! ## Beyond 2^53 slots -/

/-- 2^60 + 768, a double; a sixtieth of it rounds down past a whole slot. -/
def farReading : Number := .float ⟨2 ^ 60 + 768, by decide +kernel⟩

def repeatedSlot : List Call :=
  [.admitJob none .post_calls (py "n1") (.number farReading),
    .finish .post_calls (py "n1") true .none (.number farReading),
    .admitJob none .post_calls (py "n2") (.number farReading)]

/-- Far beyond any calendar the same reading is admitted twice. -/
theorem same_slot_twice :
    ¬ ∀ (job : Job) (s : Ledger) (cs : List Call) l₁ a l₂ b l₃ n clock t m clock' u,
      FreshNonces job s cs → step.log s cs = l₁ ++ a :: l₂ ++ b :: l₃ →
      deed job a = .admitJob n clock → deed job b = .admitJob m clock' → clock.finite? = some t →
      clock'.finite? = some u → 0 ≤ t.val → 0 ≤ u.val →
      ⌊t.val / job.interval⌋ < ⌊u.val / job.interval⌋ := by
  intro h
  have hfresh : FreshNonces .post_calls emptyLedger repeatedSlot :=
    ⟨by decide, fun n _ hn => by cases hn⟩
  have := h .post_calls emptyLedger repeatedSlot [] _ [_] _ [] (py "n1") (.number farReading)
    farReading (py "n2") (.number farReading) farReading hfresh rfl
    (deed_of_admitted rfl (by decide +kernel)) (deed_of_admitted rfl (by decide +kernel))
    rfl rfl (by decide +kernel) (by decide +kernel)
  exact lt_irrefl _ this

end HeyKevin.L4.BackgroundJobs
