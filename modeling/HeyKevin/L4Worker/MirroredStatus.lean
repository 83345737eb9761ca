import HeyKevin.L4Worker.PostCallHandoff
/-!
# The handoff status that a call shows

`run_post_call_handoff` of app/services/post_call_handoff.py from the claim on.
The handoff is one record and the call another, and no transaction spans both:
each write may take effect without an answer, fail, or be cancelled while it
is awaited. No one else writes the handoff in between.

The checks before the claim and the measurement after it write neither status
and are left out.

* `finish_wins`, `mark_wins`, `mark_settled`: the two writes on a claimed record.
* `giveUp_agrees`, `cancel_agrees`: giving up is consistent unless the record is complete.
* `status_agrees_iff`: **the call shows the durable status** exactly unless the
  completion took effect unheard and the call was then given up.

Line numbers are those of app/services/post_call_handoff.py.
-/
namespace HeyKevin.L4.PostCallHandoff

open HeyKevin.Core Binary64 L1 L1.Text

/-! ## Writes -/

inductive Attempt
  | answered
  /-- an exception, which the operation turns into `False` -/
  | lost (applied : Bool)
  /-- `CancelledError` while the write is awaited -/
  | cancelled (applied : Bool)
deriving DecidableEq

def Attempt.applied : Attempt → Bool
  | .answered => true
  | .lost applied => applied
  | .cancelled applied => applied

def Attempt.isCancelled : Attempt → Bool
  | .cancelled _ => true
  | _ => false

def Attempt.unheard : Attempt → Bool
  | .answered => false
  | .lost applied => applied
  | .cancelled applied => applied

def Attempt.answer (a : Attempt) (accepted : Bool) : Option Bool :=
  match a with
  | .answered => some accepted
  | .lost _ => some false
  | .cancelled _ => none

def awaited {σ : Type} (a : Attempt) (op : σ → σ × Bool) (s : σ) : σ × Option Bool :=
  (if a.applied then (op s).1 else s, a.answer (op s).2)

structure Stores where
  handoff : Record
  saves : List Dict

/-- mirrors 60-65 -/
def mirrorUpdates (status failureCode : String) (completedEffects failedEffects : List Str) :
    Dict :=
  [("post_call_status", .text status), ("post_call_failure_code", .text failureCode),
    ("post_call_completed_effects", .list (completedEffects.map .str)),
    ("post_call_failed_effects", .list (failedEffects.map .str))]

/-- mirrors 52-74 -/
def mirrorStatus (a : Attempt) (updates : Dict) (w : Stores) : Stores × Option Bool :=
  let (saves, saved) := awaited a (fun saves => (saves ++ [updates], true)) w.saves
  ({ w with saves := saves }, saved)

/-! ## The run -/

inductive Processing
  | finished (result : Result)
  | timedOut
  | cancelled
  | raised

inductive Outcome
  | returned (status : String)
  /-- `CancelledError` -/
  | raised
deriving DecidableEq

structure Fates where
  claim : Attempt
  finish : Attempt
  /-- where the finish was refused -/
  mark : Attempt
  mirror : Attempt
  /-- in the exception handler -/
  handlerMark : Attempt
  handlerMirror : Attempt
  claimNow : Number
  finishNow : Number
  markNow : Number
  handlerNow : Number

/-- Marks the handoff and mirrors that, whatever the answer; `false` where cancelled.
mirrors 300-305, 314-319, 323-328 -/
def attend (failureCode : String) (f : Fates) (w : Stores) : Stores × Bool :=
  match awaited f.handlerMark (markNeedsAttention (py failureCode) f.handlerNow) w.handoff with
  | (handoff, none) => ({ w with handoff := handoff }, false)
  | (handoff, some _) =>
    let (w, saved) := mirrorStatus f.handlerMirror
      (mirrorUpdates "needs_attention" failureCode [] []) { w with handoff := handoff }
    (w, saved.isSome)

def giveUp (failureCode : String) (f : Fates) (w : Stores) : Stores × Outcome :=
  let (w, done) := attend failureCode f w
  (w, if done then .returned "needs_attention" else .raised)

def cancel (f : Fates) (terminalPersisted : Bool) (w : Stores) : Stores × Outcome :=
  if terminalPersisted then (w, .raised)
  else ((attend "processing_cancelled" f w).1, .raised)

/-- Mirrors the status of the run and returns it.
mirrors 283-298 -/
def conclude (status failureCode : String) (result : Result) (terminalPersisted : Bool) (f : Fates)
    (w : Stores) : Stores × Outcome :=
  match mirrorStatus f.mirror
      (mirrorUpdates status failureCode result.completed_effects result.failed_effects) w with
  | (w, none) => cancel f terminalPersisted w
  | (w, some _) => (w, .returned status)

/-- After a refused finish. mirrors 253-259, 283-298 -/
def finishFailed (result : Result) (f : Fates) (w : Stores) : Stores × Outcome :=
  match awaited f.mark (markNeedsAttention (py "handoff_finish_failed") f.markNow) w.handoff with
  | (handoff, none) => cancel f false { w with handoff := handoff }
  | (handoff, some terminalPersisted) =>
    conclude "needs_attention" "handoff_finish_failed" result terminalPersisted f
      { w with handoff := handoff }

/-- mirrors 251-298 -/
def finishRun (result : Result) (f : Fates) (w : Stores) : Stores × Outcome :=
  -- `_finish_updates` raises outside of the operation's own handler
  if (finishUpdates result f.finishNow).isNone then giveUp "processing_error" f w
  else
    match awaited f.finish (finishHandoff result f.finishNow) w.handoff with
    | (handoff, none) => cancel f false { w with handoff := handoff }
    | (handoff, some true) =>
      let (status, failureCode) := terminalOutcome result.status
      conclude status failureCode result true f { w with handoff := handoff }
    | (handoff, some false) => finishFailed result f { w with handoff := handoff }

/-- mirrors 229-335, once the claim is won -/
def runClaimed (processing : Processing) (f : Fates) (w : Stores) : Stores × Outcome :=
  match processing with
  | .finished result => finishRun result f w
  | .timedOut => giveUp "processing_timeout" f w
  | .cancelled => cancel f false w
  | .raised => giveUp "processing_error" f w

/-- mirrors 213-335 (`run_post_call_handoff`, from the claim on) -/
def runPostCallHandoff (leaseSeconds : Number) (processing : Processing) (f : Fates) (w : Stores) :
    Stores × Outcome :=
  let (handoff, claimed) := awaited f.claim (claimHandoff f.claimNow leaseSeconds) w.handoff
  let w := { w with handoff := handoff }
  match f.claim, claimed with
  | .answered, some true => runClaimed processing f w
  | .answered, _ => (w, .returned "deduplicated")
  | .lost _, _ => (w, .returned "pending")
  | .cancelled _, _ => (w, .raised)

/-! ## Agreement -/

def HasStatus (r : Record) (status : String) : Prop :=
  ∃ data, r = some data ∧ data.get "status" = .text status

/-- The status that this run showed last on the call. -/
def lastMirrored (w : Stores) : Option Value := w.saves.getLast?.map fun u => u.get "post_call_status"

def Agrees (run : Stores × Outcome) : Prop :=
  ∀ status ∈ TERMINAL_STATUSES, HasStatus run.1.handoff status →
    (∀ shown, lastMirrored run.1 = some shown → shown = .text status) ∧
    ∀ returned, run.2 = .returned returned → returned = status

/-- Something is shown or returned after a finish that was not heard of: by the run itself, which
counts the finish as failed, or by the handler of a cancellation. -/
def Told (f : Fates) : Prop :=
  (f.finish.isCancelled = false ∧ f.mark.isCancelled = false ∧
    (f.mirror.isCancelled = false ∨ f.mirror.applied = true)) ∨
  ((f.finish.isCancelled = true ∨ f.mark.isCancelled = true ∨ f.mirror.isCancelled = true) ∧
    f.handlerMark.isCancelled = false ∧ f.handlerMirror.applied = true)

def GivenUpComplete (processing : Processing) (f : Fates) : Prop :=
  (∃ result, processing = .finished result ∧ result.status = py "complete") ∧
    (retentionDeadline f.finishNow).isSome ∧ f.finish.unheard = true ∧ Told f

/-! ## The writes on a claimed record -/

theorem hasStatus_inj {r : Record} {s t : String} (hs : HasStatus r s) (ht : HasStatus r t) :
    s = t := by
  obtain ⟨data, rfl, hs⟩ := hs
  obtain ⟨data', heq, ht⟩ := ht
  cases heq
  rw [hs] at ht
  exact (py_inj s t).mp (by simpa [Value.text] using ht)

theorem claim_wins {r r' : Record} {now leaseSeconds : Number}
    (h : claimHandoff now leaseSeconds r = (r', true)) : HasStatus r' "in_progress" := by
  cases r with
  | none => cases h
  | some data =>
    obtain ⟨rfl, hclaimed⟩ := Prod.mk.inj h
    rcases claimTransition_spec data now leaseSeconds with hnone | ⟨-, hno, -⟩ | ⟨hpending, -, -⟩
    · rw [hnone] at hclaimed
      cases hclaimed
    · rw [hno] at hclaimed
      cases hclaimed
    · refine ⟨_, rfl, ?_⟩
      rcases status_cases data with ⟨-, hs⟩ | ⟨hp, -⟩ | ⟨hp, -⟩ | ⟨hp, -⟩ | ⟨hp, -⟩ | ⟨hp, -⟩
      · simp [claimTransition, hs, isString_text, isOneOf, TERMINAL_STATUSES]
      all_goals
        rw [hpending] at hp
        cases hp

theorem finish_wins {r : Record} (h : HasStatus r "in_progress") {result : Result} {now : Number}
    {updates : Dict} (hupdates : finishUpdates result now = some updates) :
    HasStatus (finishHandoff result now r).1 (terminalOutcome result.status).1 ∧
      (finishHandoff result now r).2 = true := by
  obtain ⟨data, rfl, hs⟩ := h
  have htransition : finishTransition data updates = (true, updates) := by
    simp [finishTransition, hs, Value.text, isOneOf, TERMINAL_STATUSES]
  simp only [finishHandoff, hupdates, applyUpdates, htransition]
  refine ⟨⟨_, rfl, ?_⟩, trivial⟩
  simp only [finishUpdates] at hupdates
  split at hupdates
  · obtain ⟨expires, -, rfl⟩ := Option.map_eq_some_iff.mp hupdates
    simp [Entries.set]
  · cases hupdates
    simp

theorem mark_wins {r : Record} (h : HasStatus r "in_progress") (failureCode : Str) (now : Number) :
    HasStatus (markNeedsAttention failureCode now r).1 "needs_attention" ∧
      (markNeedsAttention failureCode now r).2 = true := by
  obtain ⟨data, rfl, hs⟩ := h
  have htransition : attentionTransition data (attentionUpdates failureCode now) =
      (true, attentionUpdates failureCode now) := by
    simp [attentionTransition, hs, isString_text, isOneOf]
  simp only [markNeedsAttention, applyUpdates, htransition]
  exact ⟨⟨_, rfl, by simp [attentionUpdates]⟩, trivial⟩

theorem mark_settled {r : Record} {status : String}
    (h : HasStatus r status) (hsettled : status = "needs_attention" ∨ status = "completed")
    (failureCode : Str) (now : Number) :
    markNeedsAttention failureCode now r = (r, decide (status = "needs_attention")) := by
  obtain ⟨data, rfl, hs⟩ := h
  rcases hsettled with rfl | rfl
  · simp [markNeedsAttention, applyUpdates, attentionTransition, hs, isString_text]
  · simp [markNeedsAttention, applyUpdates, attentionTransition, hs, isString_text]

/-! ## Giving up -/

def Modest (w : Stores) : Prop :=
  (HasStatus w.handoff "in_progress" ∨ HasStatus w.handoff "needs_attention") ∧
    ∀ u ∈ w.saves, u.get "post_call_status" = .text "needs_attention"

def GivesUp (o : Outcome) : Prop := o = .raised ∨ o = .returned "needs_attention"

section

variable {w : Stores} {f : Fates} {o : Outcome}

theorem lastMirrored_of_saves (h : ∀ u ∈ w.saves, u.get "post_call_status" = .text "needs_attention")
    {shown : Value} (hshown : lastMirrored w = some shown) : shown = .text "needs_attention" := by
  obtain ⟨u, hu, rfl⟩ := Option.map_eq_some_iff.mp hshown
  exact h u (List.mem_of_getLast? hu)

theorem agrees_of_modest (h : Modest w) (ho : GivesUp o) : Agrees (w, o) := by
  intro status hterminal hstatus
  have hattention : status = "needs_attention" := by
    rcases h.1 with hopen | hattention
    · rw [hasStatus_inj hstatus hopen] at hterminal
      exact absurd hterminal (by decide)
    · exact hasStatus_inj hstatus hattention
  subst hattention
  refine ⟨fun shown hshown => lastMirrored_of_saves h.2 hshown, fun returned hreturned => ?_⟩
  rcases ho with rfl | rfl
  · cases hreturned
  · cases hreturned
    rfl

theorem modest_mark (h : Modest w) (a : Attempt) (failureCode : Str) (now : Number) :
    Modest { w with handoff := (awaited a (markNeedsAttention failureCode now) w.handoff).1 } := by
  refine ⟨?_, h.2⟩
  rw [awaited]
  split
  · rcases h.1 with hopen | hattention
    · exact .inr (mark_wins hopen failureCode now).1
    · rw [mark_settled hattention (.inl rfl)]
      exact .inr hattention
  · exact h.1

theorem mirrorStatus_eq (a : Attempt) (updates : Dict) (w : Stores) :
    mirrorStatus a updates w =
      ({ w with saves := w.saves ++ if a.applied then [updates] else [] }, a.answer true) := by
  rw [mirrorStatus, awaited]
  cases a.applied with
  | true => rfl
  | false => simp

theorem modest_mirror (h : Modest w) (a : Attempt) (failureCode : String)
    (completedEffects failedEffects : List Str) :
    Modest (mirrorStatus a
      (mirrorUpdates "needs_attention" failureCode completedEffects failedEffects) w).1 := by
  rw [mirrorStatus_eq]
  refine ⟨h.1, fun u hu => ?_⟩
  rcases List.mem_append.mp hu with hu | hu
  · exact h.2 u hu
  · split at hu
    · rw [List.mem_singleton] at hu
      subst hu
      rfl
    · cases hu

theorem modest_attend (h : Modest w) (failureCode : String) (f : Fates) :
    Modest (attend failureCode f w).1 := by
  have hmark := modest_mark h f.handlerMark (py failureCode) f.handlerNow
  unfold attend
  split
  · rename_i handoff heq
    rw [heq] at hmark
    exact hmark
  · rename_i handoff _ heq
    rw [heq] at hmark
    exact modest_mirror hmark f.handlerMirror failureCode [] []

theorem giveUp_agrees (h : Modest w) (failureCode : String) (f : Fates) :
    Agrees (giveUp failureCode f w) := by
  have hattend := modest_attend h failureCode f
  unfold giveUp
  generalize attend failureCode f w = attended at hattend
  obtain ⟨w', done⟩ := attended
  cases done with
  | true => exact agrees_of_modest hattend (.inr rfl)
  | false => exact agrees_of_modest hattend (.inl rfl)

theorem cancel_agrees (h : Modest w) (terminalPersisted : Bool) (f : Fates) :
    Agrees (cancel f terminalPersisted w) := by
  unfold cancel
  split
  · exact agrees_of_modest h (.inl rfl)
  · exact agrees_of_modest (modest_attend h "processing_cancelled" f) (.inl rfl)

theorem conclude_agrees (h : Modest w) (failureCode : String) (result : Result)
    (terminalPersisted : Bool) (f : Fates) :
    Agrees (conclude "needs_attention" failureCode result terminalPersisted f w) := by
  have hmirror := modest_mirror h f.mirror failureCode result.completed_effects
    result.failed_effects
  unfold conclude
  split
  · rename_i w' heq
    rw [heq] at hmirror
    exact cancel_agrees hmirror terminalPersisted f
  · rename_i w' _ heq
    rw [heq] at hmirror
    exact agrees_of_modest hmirror (.inr rfl)

/-! ## A completed handoff -/

theorem conclude_completed (h : HasStatus w.handoff "completed") (hsaves : w.saves = [])
    (failureCode : String) (result : Result) (f : Fates) :
    Agrees (conclude "completed" failureCode result true f w) := by
  have hshown : ∀ shown, lastMirrored
      { w with saves := w.saves ++ if f.mirror.applied then [mirrorUpdates "completed" failureCode
        result.completed_effects result.failed_effects] else [] } = some shown →
      shown = .text "completed" := by
    intro shown hlast
    obtain ⟨u, hu, rfl⟩ := Option.map_eq_some_iff.mp hlast
    simp only [hsaves, List.nil_append] at hu
    split at hu
    · cases hu
      rfl
    · cases hu
  rw [conclude, mirrorStatus_eq]
  cases f.mirror.answer true with
  | none =>
    intro status _ hstatus
    obtain rfl := hasStatus_inj hstatus h
    exact ⟨hshown, fun _ hraised => by cases hraised⟩
  | some saved =>
    intro status _ hstatus
    obtain rfl := hasStatus_inj hstatus h
    refine ⟨hshown, fun _ hreturned => ?_⟩
    cases hreturned
    rfl

theorem agrees_completed_iff (h : HasStatus w.handoff "completed")
    (hsaves : ∀ u ∈ w.saves, u.get "post_call_status" = .text "needs_attention") (ho : GivesUp o) :
    Agrees (w, o) ↔ w.saves = [] ∧ o = .raised := by
  constructor
  · intro hagrees
    obtain ⟨hshown, hreturned⟩ := hagrees "completed" (by decide) h
    constructor
    · by_contra hne
      obtain ⟨u, hu⟩ := Option.ne_none_iff_exists'.mp (mt List.getLast?_eq_none_iff.mp hne)
      have hlast : lastMirrored w = some (u.get "post_call_status") := by
        rw [lastMirrored, hu]
        rfl
      have heq := hshown _ hlast
      rw [hsaves u (List.mem_of_getLast? hu)] at heq
      rw [Value.text, Value.text, Value.str.injEq, py_inj] at heq
      exact absurd heq (by decide)
    · rcases ho with rfl | rfl
      · rfl
      · exact absurd (hreturned _ rfl) (by decide)
  · rintro ⟨hnone, rfl⟩ status - -
    refine ⟨fun shown hshown => ?_, fun _ hraised => by cases hraised⟩
    rw [lastMirrored, hnone] at hshown
    cases hshown

theorem attend_completed (h : HasStatus w.handoff "completed") (failureCode : String)
    (f : Fates) :
    (attend failureCode f w).1 = { w with
      saves := w.saves ++ if f.handlerMark.isCancelled = false ∧ f.handlerMirror.applied = true then
        [mirrorUpdates "needs_attention" failureCode [] []] else [] } := by
  have hmark : awaited f.handlerMark (markNeedsAttention (py failureCode) f.handlerNow) w.handoff =
      (w.handoff, f.handlerMark.answer false) := by
    rw [awaited, mark_settled h (.inr rfl), ite_self]
    rfl
  rw [attend, hmark]
  cases f.handlerMark with
  | cancelled _ => simp [Attempt.answer, Attempt.isCancelled]
  | answered => simp [Attempt.answer, Attempt.isCancelled, mirrorStatus_eq]
  | lost _ => simp [Attempt.answer, Attempt.isCancelled, mirrorStatus_eq]

theorem cancel_completed_iff (h : HasStatus w.handoff "completed")
    (hsaves : ∀ u ∈ w.saves, u.get "post_call_status" = .text "needs_attention") (f : Fates) :
    Agrees (cancel f false w) ↔ w.saves = [] ∧
      ¬ (f.handlerMark.isCancelled = false ∧ f.handlerMirror.applied = true) := by
  have hattend := attend_completed h "processing_cancelled" f
  have hstatus : HasStatus (attend "processing_cancelled" f w).1.handoff "completed" := by
    rw [hattend]
    exact h
  have hall : ∀ u ∈ (attend "processing_cancelled" f w).1.saves,
      u.get "post_call_status" = .text "needs_attention" := by
    rw [hattend]
    intro u hu
    rcases List.mem_append.mp hu with hu | hu
    · exact hsaves u hu
    · split at hu
      · rw [List.mem_singleton] at hu
        subst hu
        rfl
      · cases hu
  change Agrees ((attend "processing_cancelled" f w).1, .raised) ↔ _
  rw [agrees_completed_iff hstatus hall (.inl rfl), hattend]
  simp only [List.append_eq_nil_iff, and_true, ite_eq_right_iff, List.cons_ne_nil, imp_false]

theorem conclude_refused_iff (h : HasStatus w.handoff "completed") (hsaves : w.saves = [])
    (failureCode : String) (result : Result) (f : Fates) :
    Agrees (conclude "needs_attention" failureCode result false f w) ↔
      ¬ (f.mirror.isCancelled = false ∨ f.mirror.applied = true) ∧
        ¬ (f.mirror.isCancelled = true ∧ f.handlerMark.isCancelled = false ∧
          f.handlerMirror.applied = true) := by
  have hshown : ∀ u ∈ w.saves ++ (if f.mirror.applied then [mirrorUpdates "needs_attention"
      failureCode result.completed_effects result.failed_effects] else []),
      u.get "post_call_status" = .text "needs_attention" := by
    intro u hu
    rw [hsaves, List.nil_append] at hu
    split at hu
    · rw [List.mem_singleton] at hu
      subst hu
      rfl
    · cases hu
  have hsaved : (w.saves ++ (if f.mirror.applied then [mirrorUpdates "needs_attention"
      failureCode result.completed_effects result.failed_effects] else []) = []) ↔
      f.mirror.applied = false := by
    rw [hsaves]
    cases f.mirror.applied <;> simp
  rw [conclude, mirrorStatus_eq]
  generalize w.saves ++ _ = saves at hshown hsaved ⊢
  have hrefused := agrees_completed_iff (w := { w with saves := saves }) h hshown (.inr rfl)
  cases hmirror : f.mirror with
  | cancelled applied =>
    rw [hmirror] at hsaved
    refine (cancel_completed_iff (w := { w with saves := saves }) h hshown f).trans ?_
    simp only [hsaved, Attempt.isCancelled, Bool.true_eq_false, false_or, Bool.not_eq_true,
      true_and]
  | answered =>
    refine hrefused.trans ?_
    simp [Attempt.isCancelled]
  | lost applied =>
    refine hrefused.trans ?_
    simp [Attempt.isCancelled]

theorem finishFailed_completed_iff (h : HasStatus w.handoff "completed") (hsaves : w.saves = [])
    (result : Result) (f : Fates) :
    Agrees (finishFailed result f w) ↔
      ¬ (f.mark.isCancelled = false ∧ (f.mirror.isCancelled = false ∨ f.mirror.applied = true)) ∧
        ¬ ((f.mark.isCancelled = true ∨ f.mirror.isCancelled = true) ∧
          f.handlerMark.isCancelled = false ∧ f.handlerMirror.applied = true) := by
  have hmark : awaited f.mark (markNeedsAttention (py "handoff_finish_failed") f.markNow) w.handoff =
      (w.handoff, f.mark.answer false) := by
    rw [awaited, mark_settled h (.inr rfl), ite_self]
    rfl
  have hnone : ∀ u ∈ w.saves, u.get "post_call_status" = .text "needs_attention" := by
    rw [hsaves]
    exact List.forall_mem_nil _
  have hrefused := conclude_refused_iff h hsaves "handoff_finish_failed" result f
  rw [finishFailed, hmark]
  cases f.mark with
  | cancelled _ =>
    refine (cancel_completed_iff h hnone f).trans ?_
    simp [hsaves, Attempt.isCancelled]
  | answered =>
    refine hrefused.trans ?_
    simp only [Attempt.isCancelled, true_and, Bool.false_eq_true, false_or]
  | lost _ =>
    refine hrefused.trans ?_
    simp only [Attempt.isCancelled, true_and, Bool.false_eq_true, false_or]

/-! ## Every run -/

theorem finishFailed_agrees (h : Modest w) (result : Result) (f : Fates) :
    Agrees (finishFailed result f w) := by
  have hmark := modest_mark h f.mark (py "handoff_finish_failed") f.markNow
  unfold finishFailed
  split
  · rename_i handoff heq
    rw [heq] at hmark
    exact cancel_agrees hmark false f
  · rename_i handoff terminalPersisted heq
    rw [heq] at hmark
    exact conclude_agrees hmark _ result terminalPersisted f

theorem terminalOutcome_cases (result : Result) :
    (result.status = py "complete" ∧ (terminalOutcome result.status).1 = "completed") ∨
      (result.status ≠ py "complete" ∧ (terminalOutcome result.status).1 = "needs_attention") := by
  unfold terminalOutcome
  by_cases hcomplete : result.status = py "complete"
  · exact .inl ⟨hcomplete, by rw [if_pos hcomplete]⟩
  · refine .inr ⟨hcomplete, ?_⟩
    rw [if_neg hcomplete]
    split <;> rfl

theorem finishUpdates_isSome_iff (result : Result) (now : Number) :
    (finishUpdates result now).isSome ↔
      (result.status = py "complete" → (retentionDeadline now).isSome) := by
  simp only [finishUpdates]
  rcases terminalOutcome_cases result with ⟨hcomplete, hterminal⟩ | ⟨hfailed, hterminal⟩
  · rw [if_pos hterminal, Option.isSome_map]
    exact ⟨fun h _ => h, fun h => h hcomplete⟩
  · have hother : (terminalOutcome result.status).1 ≠ "completed" := by
      rw [hterminal]
      decide
    rw [if_neg hother]
    exact iff_of_true rfl fun hcomplete => absurd hcomplete hfailed

theorem finishRun_agrees_iff (h : HasStatus w.handoff "in_progress") (hsaves : w.saves = [])
    (result : Result) (f : Fates) :
    Agrees (finishRun result f w) ↔ ¬ GivenUpComplete (.finished result) f := by
  have hmodest : ∀ r, HasStatus r "in_progress" ∨ HasStatus r "needs_attention" →
      Modest { w with handoff := r } := by
    intro r hr
    refine ⟨hr, ?_⟩
    simp only [hsaves]
    exact List.forall_mem_nil _
  have hnone : ∀ u ∈ w.saves, u.get "post_call_status" = .text "needs_attention" := by
    rw [hsaves]
    exact List.forall_mem_nil _
  have hsome := finishUpdates_isSome_iff result f.finishNow
  unfold finishRun
  cases hupdates : finishUpdates result f.finishNow with
  | none =>
    rw [hupdates] at hsome
    refine iff_of_true (giveUp_agrees (hmodest _ (.inl h)) _ f) ?_
    rintro ⟨⟨_, heq, hcomplete⟩, hdeadline, -⟩
    cases heq
    exact absurd (hsome.mpr fun _ => hdeadline) Bool.false_ne_true
  | some updates =>
    obtain ⟨hfinished, haccepted⟩ := finish_wins h hupdates
    simp only [Option.isNone_some, Bool.false_eq_true, if_false, awaited, haccepted]
    rcases terminalOutcome_cases result with ⟨hcomplete, hterminal⟩ | ⟨hfailed, hterminal⟩
    · rw [hterminal] at hfinished
      have hdeadline : (retentionDeadline f.finishNow).isSome :=
        hsome.mp (by rw [hupdates]; rfl) hcomplete
      have hgiven : GivenUpComplete (.finished result) f ↔ f.finish.unheard = true ∧ Told f :=
        ⟨fun hg => hg.2.2, fun hg => ⟨⟨result, rfl, hcomplete⟩, hdeadline, hg⟩⟩
      rw [hgiven, Told]
      cases hfinish : f.finish with
      | answered =>
        refine iff_of_true ?_ fun hg => Bool.false_ne_true hg.1
        have hconclude := conclude_completed (w := { w with
          handoff := (finishHandoff result f.finishNow w.handoff).1 }) hfinished hsaves
          (terminalOutcome result.status).2 result f
        rw [← hterminal] at hconclude
        exact hconclude
      | lost applied =>
        cases applied with
        | true =>
          refine (finishFailed_completed_iff (w := { w with handoff := _ }) hfinished hsaves
            result f).trans ?_
          simp [Attempt.isCancelled, Attempt.unheard, not_or]
        | false =>
          refine iff_of_true ?_ fun hg => Bool.false_ne_true hg.1
          exact finishFailed_agrees (hmodest _ (.inl h)) result f
      | cancelled applied =>
        cases applied with
        | true =>
          refine (cancel_completed_iff (w := { w with handoff := _ }) hfinished hnone f).trans ?_
          simp [hsaves, Attempt.isCancelled, Attempt.unheard]
        | false =>
          refine iff_of_true ?_ fun hg => Bool.false_ne_true hg.1
          exact cancel_agrees (hmodest _ (.inl h)) false f
    · rw [hterminal] at hfinished
      refine iff_of_true ?_ ?_
      · have hopen : ∀ applied : Bool, Modest { w with handoff :=
            if applied then (finishHandoff result f.finishNow w.handoff).1 else w.handoff } := by
          intro applied
          cases applied with
          | true => exact hmodest _ (.inr hfinished)
          | false => exact hmodest _ (.inl h)
        cases f.finish with
        | answered =>
          have hconclude := conclude_agrees (hopen true) (terminalOutcome result.status).2 result
            true f
          rw [← hterminal] at hconclude
          exact hconclude
        | lost applied => exact finishFailed_agrees (hopen applied) result f
        | cancelled applied => exact cancel_agrees (hopen applied) false f
      · rintro ⟨⟨_, heq, hcomplete⟩, -⟩
        cases heq
        exact hfailed hcomplete

end

theorem run_of_claimed {f : Fates} {leaseSeconds : Number} {r r' : Record}
    (hclaim : claimHandoff f.claimNow leaseSeconds r = (r', true)) (hwon : f.claim = .answered)
    (processing : Processing) :
    runPostCallHandoff leaseSeconds processing f ⟨r, []⟩ = runClaimed processing f ⟨r', []⟩ := by
  simp only [runPostCallHandoff, hwon, awaited, hclaim, Attempt.applied, Attempt.answer, if_true]

/-- **The status shown on a call contradicts the durable handoff** exactly where the completion of
the handoff was not heard of and the call was given up thereafter. -/
theorem status_agrees_iff {f : Fates} {leaseSeconds : Number} {r r' : Record}
    (hclaim : claimHandoff f.claimNow leaseSeconds r = (r', true)) (hwon : f.claim = .answered)
    (processing : Processing) :
    Agrees (runPostCallHandoff leaseSeconds processing f ⟨r, []⟩) ↔
      ¬ GivenUpComplete processing f := by
  have hstatus : HasStatus r' "in_progress" := claim_wins hclaim
  have hmodest : Modest ⟨r', []⟩ := ⟨.inl hstatus, List.forall_mem_nil _⟩
  rw [run_of_claimed hclaim hwon]
  cases processing with
  | finished result => exact finishRun_agrees_iff hstatus rfl result f
  | timedOut =>
    refine iff_of_true (giveUp_agrees hmodest _ f) ?_
    rintro ⟨⟨_, heq, -⟩, -⟩
    cases heq
  | cancelled =>
    refine iff_of_true (cancel_agrees hmodest false f) ?_
    rintro ⟨⟨_, heq, -⟩, -⟩
    cases heq
  | raised =>
    refine iff_of_true (giveUp_agrees hmodest _ f) ?_
    rintro ⟨⟨_, heq, -⟩, -⟩
    cases heq

/-! ## One lost answer -/

def pendingHandoff : Record := some [("status", .text "pending"), ("attempts", .int 0)]

def answeredBut (finish : Attempt) : Fates where
  claim := .answered
  finish := finish
  mark := .answered
  mirror := .answered
  handlerMark := .answered
  handlerMirror := .answered
  claimNow := .int 1700000000
  finishNow := .int 1700000060
  markNow := .int 1700000061
  handlerNow := .int 1700000061

def completeResult : Result := ⟨py "complete", [py "call_record"], []⟩

/-- All writes are answered. -/
theorem status_agrees_answered :
    Agrees (runPostCallHandoff (.int 600) (.finished completeResult) (answeredBut .answered)
      ⟨pendingHandoff, []⟩) := by
  have hclaim : claimHandoff (.int 1700000000) (.int 600) pendingHandoff = (_, true) := rfl
  exact (status_agrees_iff (f := answeredBut .answered) hclaim rfl _).mpr
    fun h => Bool.false_ne_true h.2.2.1

/-- The answer to the finish is lost: the handoff is completed, and the call needs attention. -/
theorem lostFinish_contradicts :
    ¬ ∀ (f : Fates) (leaseSeconds : Number) (r r' : Record),
      claimHandoff f.claimNow leaseSeconds r = (r', true) → f.claim = .answered →
      ∀ processing, Agrees (runPostCallHandoff leaseSeconds processing f ⟨r, []⟩) := by
  intro hall
  have hagrees := hall (answeredBut (.lost true)) (.int 600) pendingHandoff _ rfl rfl
    (.finished completeResult)
  rw [run_of_claimed (f := answeredBut (.lost true)) rfl rfl] at hagrees
  have hclaim : claimHandoff (.int 1700000000) (.int 600) pendingHandoff = (_, true) := rfl
  refine (finishRun_agrees_iff (claim_wins hclaim) rfl completeResult _).mp hagrees ?_
  refine ⟨⟨completeResult, rfl, rfl⟩, ?_, rfl, .inl ⟨rfl, rfl, .inl rfl⟩⟩
  decide +kernel

end HeyKevin.L4.PostCallHandoff
