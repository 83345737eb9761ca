import HeyKevin.L4Worker.Admission
/-!
# Settled rows

Embedded fallback starts only past ledger rows that `_settled_job_snapshot`
accepts; the worker goes by `_admit_from_snapshot`. Both validate the same
stored row by hand.

* `settled_iff`: they accept the same rows, at every clock reading.
* `finish_settled_iff`: what a finish leaves is settled where the running row
  had a due time, as every row has that an admission wrote.
-/
namespace HeyKevin.L4.BackgroundJobs

open HeyKevin.Core Binary64 L1 L1.Text

/-- `admitted` or `not_due` -/
def Resp.isOpen : Resp → Bool
  | .admission (.admitted ..) | .admission .notDue => true
  | _ => false

theorem validateContinuation_empty (job : Job) : validateContinuation job (.dict []) = .ok [] := by
  cases job <;> rfl

theorem settled_iff (job : Job) (now : Number) (nonce : Str) (s : Ledger) :
    settledJobSnapshot job (s.row job) = true ↔
      (admitFromSnapshot job now nonce s).2.isOpen = true := by
  unfold settledJobSnapshot admitFromSnapshot
  cases hrow : s.row job with
  | none =>
    have hvalid : validateContinuation job (continuationOf []) = .ok [] :=
      validateContinuation_empty job
    simp [hvalid, Resp.isOpen]
  | some data =>
    simp only [Option.getD_some, Option.isSome_some, if_true]
    by_cases hcompleted : (data.get "status").isStr (py "completed") = true
    · have hrunning : (data.get "status").isStr (py "running") = false := by
        rw [(Value.isStr_iff _ _).mp hcompleted]
        decide
      rw [hcompleted, hrunning]
      cases hdue : dueOf data with
      | none => cases validateContinuation job (continuationOf data) <;> simp [Resp.isOpen]
      | some due =>
        cases validateContinuation job (continuationOf data) with
        | error e => simp [Resp.isOpen]
        | ok continuation =>
          by_cases hnow : now.val < due.val <;> simp [hnow, Resp.isOpen]
    · rw [Bool.not_eq_true] at hcompleted
      rw [hcompleted]
      cases validateContinuation job (continuationOf data) with
      | error e => simp [Resp.isOpen]
      | ok continuation =>
        by_cases hrunning : (data.get "status").isStr (py "running") = true
        · by_cases hrecent : startedRecently data now = true <;>
            simp [hrunning, hrecent, Resp.isOpen]
        · simp [hrunning, Resp.isOpen]

/-! ## Rows that a finish leaves -/

/-- What a caller passes to `finish`: nothing, or what `run_child` has validated.
mirrors app/worker_main.py:113-116, app/services/background_dispatch.py:142-147 -/
def CanPass (job : Job) (continuation : Value) : Prop :=
  continuation = .none ∨ ∃ d, validateContinuation job continuation = .ok d

theorem CanPass.valid {job : Job} {continuation : Value} (h : CanPass job continuation) :
    ∃ d, validateContinuation job (continuationOrEmpty continuation) = .ok d := by
  unfold continuationOrEmpty
  split
  · rcases h with rfl | h
    · cases ‹Value.none.truthy = true›
    · exact h
  · exact ⟨[], validateContinuation_empty job⟩

theorem finish_settled_iff {job : Job} {nonce : Str} {continuation clock : Value} {s s' : Ledger}
    (hpass : CanPass job continuation)
    (h : finish job nonce true continuation clock s = (s', .bool true)) :
    settledJobSnapshot job (s'.row job) = true ↔
      (dueOf ((s.row job).getD [])).isSome = true := by
  rcases finish_cases job nonce true continuation clock s with ⟨r, hr, hno⟩ |
    ⟨data, hdata, -, -, heq⟩
  · rw [h] at hr
    exact absurd (congrArg Prod.snd hr).symm hno
  · rw [h] at heq
    obtain ⟨d, hvalid⟩ := hpass.valid
    have hstatus := finishUpdates_status data true continuation
    have hdue : dueOf (data.update (finishUpdates true continuation)) = dueOf data := by
      unfold dueOf
      rw [finishUpdates_get _ _ _ _ (by decide) (by decide)]
    have hcont : continuationOf (data.update (finishUpdates true continuation)) =
        continuationOrEmpty continuation := by
      simp [continuationOf, finishUpdates]
    have hs' : s' = s.setRow job (data.update (finishUpdates true continuation)) :=
      congrArg Prod.fst heq
    rw [hs', hdata]
    simp only [Ledger.setRow_row_self, Option.getD_some, settledJobSnapshot, hstatus, hdue, hcont,
      hvalid]
    cases dueOf data <;> simp

theorem admitted_due {job : Job} {now : Number} {nonce n : Str} {continuation : Dict}
    {s s' : Ledger} (h0 : 0 ≤ now.val)
    (h : admitFromSnapshot job now nonce s = (s', .admission (.admitted n continuation))) :
    (dueOf ((s'.row job).getD [])).isSome = true := by
  rcases admitFromSnapshot_cases job now nonce s with ⟨r, hr, hno⟩ | ⟨-, d, heq⟩
  · rw [h] at hr
    cases hr
    cases hno
  · rw [h] at heq
    have hdue : (0 + 1) * job.interval ≤ nextDueAt job now :=
      le_nextDueAt le_rfl (by decide) (by simpa using h0)
    have hpos : ¬ (nextDueAt job now < 0) := by
      have := job.interval_pos
      omega
    have hs' : s' = s.setRow job (runningRow job now nonce d) := congrArg Prod.fst heq
    rw [hs']
    simp [dueOf, runningRow, Number.val, hpos]

/-- Fallback and admission agree on every row at every clock reading; what a finish leaves is
settled exactly where the running row had a due time, and admission gives it one. -/
theorem fallback_agrees (job : Job) (s : Ledger) :
    (∀ now nonce, settledJobSnapshot job (s.row job) = true ↔
      (admitFromSnapshot job now nonce s).2.isOpen = true) ∧
    (∀ nonce continuation clock s', CanPass job continuation →
      finish job nonce true continuation clock s = (s', .bool true) →
      (settledJobSnapshot job (s'.row job) = true ↔
        (dueOf ((s.row job).getD [])).isSome = true)) ∧
    ∀ now nonce n continuation s', 0 ≤ now.val →
      admitFromSnapshot job now nonce s = (s', .admission (.admitted n continuation)) →
      (dueOf ((s'.row job).getD [])).isSome = true :=
  ⟨fun now nonce => settled_iff job now nonce s,
    fun _ _ _ _ hpass h => finish_settled_iff hpass h,
    fun _ _ _ _ _ h0 h => admitted_due h0 h⟩

def undatedRow : Dict := [("status", .text "running"), ("nonce", .text "n")]

/-- Finished, it is not settled. -/
theorem undatedRow_unsettled :
    (finish .estimates (py "n") true .none (.int 1000)
        (emptyLedger.setRow .estimates undatedRow)).2 = .bool true ∧
      settledJobSnapshot .estimates ((finish .estimates (py "n") true .none (.int 1000)
        (emptyLedger.setRow .estimates undatedRow)).1.row .estimates) = false := by
  constructor <;> rfl

end HeyKevin.L4.BackgroundJobs
