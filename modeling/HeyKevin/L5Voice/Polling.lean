import HeyKevin.L5Voice.TurnConservation
/-!
# Polling and the quiescence deadline

A poll (`advance_time`) only lets the assembler notice earlier that a
quiescence window has passed: the turn it reports carries the deadline, not
the time of the poll. So a polled run is the run without polls, caught up to
some time (`catchUp`), and the next accepted event catches up anyway
(`accept_catchUp`).

`finish` is the exception. Unlike `ingest` and `advance_time` it does not let
a passed deadline expire, so a turn whose window is over when the pipeline
stops is reported as cut short, unless a poll came first.
`polling_independent_iff` is the exact condition.
-/
namespace HeyKevin.L5.CallerTurns

open HeyKevin.Core L1.Text

/-- One item of a polled stream. -/
inductive Input
  | event (e : CallerTurnEvent)
  | poll (atMs : ℕ)

def Input.atMs : Input → ℕ
  | .event e => e.atMs
  | .poll t => t

def Input.call : Input → Call
  | .event e => .ingest e
  | .poll t => .advanceTime t

def Input.isEvent : Input → Bool
  | .event _ => true
  | .poll _ => false

/-- The stream without its polls. -/
def unpolled (inputs : List Input) : List Input := inputs.filter Input.isEvent

/-- Times never go back, up to the final call. -/
def TimeOrdered (inputs : List Input) (atMs : ℕ) : Prop :=
  (inputs.map Input.atMs ++ [atMs]).Pairwise (· ≤ ·)

instance (inputs : List Input) (atMs : ℕ) : Decidable (TimeOrdered inputs atMs) :=
  inferInstanceAs (Decidable (List.Pairwise _ _))

section Assembler

variable (nfc : Str → Str) (config : Config)

/-- The state after a stream. -/
def after (inputs : List Input) : State :=
  (step nfc config).run config.start (inputs.map Input.call)

def finishedCalls (inputs : List Input) (atMs : ℕ) (reason : CallerTurnCloseReason) : List Call :=
  inputs.map Input.call ++ [.finish atMs reason]

/-- Everything a stream and the final `finish` report. -/
def turnsOf (inputs : List Input) (atMs : ℕ) (reason : CallerTurnCloseReason) :
    List RetrospectiveCallerTurn :=
  emitted ((step nfc config).log config.start (finishedCalls inputs atMs reason))

/-- The state a poll at `u` would leave, and what it would report. -/
def catchUp (u : ℕ) (s : State) : State × List RetrospectiveCallerTurn :=
  ({ (finalizeExpired nfc s u).1 with lastAtMs := max s.lastAtMs u }, (finalizeExpired nfc s u).2)

/-- The events leave a turn to report, and a poll sees its window over. -/
def PolledPastDeadline (inputs : List Input) : Prop :=
  (after nfc config (unpolled inputs)).pending.transcript nfc ≠ [] ∧
    ∃ deadlineMs t, (after nfc config (unpolled inputs)).pending.deadlineMs = some deadlineMs ∧
      .poll t ∈ inputs ∧ deadlineMs ≤ t

end Assembler

section Assembler

variable {nfc : Str → Str} {config : Config}

/-! ## Closing does not look at the clock or the stale count -/

/-- The fields that neither steer a close nor are touched by one. -/
def State.withClock (s : State) (lastAtMs staleEventCount : ℕ) : State :=
  { s with lastAtMs := lastAtMs, staleEventCount := staleEventCount }

@[simp] theorem withClock_pending (s : State) (l n : ℕ) : (s.withClock l n).pending = s.pending :=
  rfl

@[simp] theorem withClock_withClock (s : State) (l n l' n' : ℕ) :
    (s.withClock l n).withClock l' n' = s.withClock l' n' := rfl

variable (nfc) in
theorem finalize_withClock (s : State) (l n atMs : ℕ) (status : CallerTurnCompletionStatus)
    (reason : CallerTurnCloseReason) (keep : Bool) :
    finalize nfc (s.withClock l n) atMs status reason keep =
      ((finalize nfc s atMs status reason keep).1.withClock l n,
        (finalize nfc s atMs status reason keep).2) := by
  by_cases hblank : s.pending.transcript nfc = [] ∧ status ≠ .dropped
  · rw [finalize_blank hblank.1 hblank.2, finalize_blank (s := s.withClock l n) hblank.1 hblank.2]
    rfl
  cases hp : s.pending.hasPending with
  | false => rw [finalize_idle hblank hp, finalize_idle (s := s.withClock l n) hblank hp]
  | true =>
    rw [finalize_report hblank hp, finalize_report (s := s.withClock l n) hblank hp]
    rfl

variable (nfc) in
theorem finalizeExpired_withClock (s : State) (l n t : ℕ) :
    finalizeExpired nfc (s.withClock l n) t =
      ((finalizeExpired nfc s t).1.withClock l n, (finalizeExpired nfc s t).2) := by
  unfold finalizeExpired
  rw [withClock_pending]
  cases s.pending.deadlineMs with
  | none => rfl
  | some d =>
    simp only
    by_cases h : t < d
    · rw [if_pos h, if_pos h]
    · rw [if_neg h, if_neg h, finalize_withClock _]

variable (nfc config) in
theorem receive_enterEpoch_withClock (s : State) (l : ℕ) (event : CallerTurnEvent) :
    (enterEpoch nfc (s.withClock l s.staleEventCount) event).2 = (enterEpoch nfc s event).2 ∧
      receive nfc config (enterEpoch nfc (s.withClock l s.staleEventCount) event).1 event =
        receive nfc config (enterEpoch nfc s event).1 event := by
  unfold enterEpoch
  simp only [show (s.withClock l s.staleEventCount).activeEpoch = s.activeEpoch from rfl]
  split
  · rw [finalize_withClock _]
    exact ⟨rfl, by
      rw [← (finalize_framed nfc s event.atMs .incomplete .reconnectStarted
        true).staleEventCount]
      rfl⟩
  · exact ⟨rfl, rfl⟩

/-! ## Expiring twice -/

variable (nfc) in
theorem finalizeExpired_early {s : State} {t : ℕ}
    (h : ∀ d, s.pending.deadlineMs = some d → t < d) : finalizeExpired nfc s t = (s, []) := by
  unfold finalizeExpired
  cases hd : s.pending.deadlineMs with
  | none => rfl
  | some d => simp only [h d hd, if_true]

theorem finalize_pending {s : State} (h : 0 < s.pending.eventCount) (atMs : ℕ)
    (status : CallerTurnCompletionStatus) (reason : CallerTurnCloseReason) (keep : Bool) :
    (finalize nfc s atMs status reason keep).1.pending = Pending.empty := by
  have hp : s.pending.hasPending = true := by simp [Pending.hasPending, h]
  by_cases hblank : s.pending.transcript nfc = [] ∧ status ≠ .dropped
  · rw [finalize_blank hblank.1 hblank.2]
  · rw [finalize_report hblank hp]

variable (nfc) in
theorem finalizeExpired_late {s : State} {floor now t d : ℕ} (h : s.pending.Timely floor now)
    (hd : s.pending.deadlineMs = some d) (hle : d ≤ t) :
    finalizeExpired nfc s t = finalize nfc s d .retrospectiveComplete
        (s.pending.closeReason.getD .turnComplete) true ∧
      (finalizeExpired nfc s t).1.pending = Pending.empty := by
  have he : finalizeExpired nfc s t = finalize nfc s d .retrospectiveComplete
      (s.pending.closeReason.getD .turnComplete) true := by
    unfold finalizeExpired
    rw [hd]
    exact if_neg (Nat.not_lt.mpr hle)
  exact ⟨he, by rw [he]; exact finalize_pending (h.deadline d hd).2 _ _ _ _⟩

variable (nfc) in
theorem finalizeExpired_twice {s : State} {floor now u t : ℕ} (h : s.pending.Timely floor now)
    (hle : u ≤ t) :
    (finalizeExpired nfc (finalizeExpired nfc s u).1 t).1 = (finalizeExpired nfc s t).1 ∧
      (finalizeExpired nfc s u).2 ++ (finalizeExpired nfc (finalizeExpired nfc s u).1 t).2 =
        (finalizeExpired nfc s t).2 := by
  by_cases hd : ∃ d, s.pending.deadlineMs = some d ∧ d ≤ u
  · obtain ⟨d, hd, hdu⟩ := hd
    obtain ⟨he, hp⟩ := finalizeExpired_late nfc h hd hdu
    obtain ⟨he', -⟩ := finalizeExpired_late nfc h hd (Nat.le_trans hdu hle)
    rw [finalizeExpired_early _ (s := (finalizeExpired nfc s u).1) (fun d' hd' => by
      rw [hp] at hd'; cases hd')]
    rw [he, he', List.append_nil]
    exact ⟨rfl, rfl⟩
  · rw [finalizeExpired_early _ (t := u) (fun d hd' => Nat.lt_of_not_le fun hle => hd ⟨d, hd', hle⟩)]
    exact ⟨rfl, rfl⟩

theorem catchUp_zero {s : State} {floor : ℕ} (h : s.pending.Timely floor s.lastAtMs) {u : ℕ}
    (hle : u ≤ s.lastAtMs) : catchUp nfc u s = (s, []) := by
  unfold catchUp
  rw [finalizeExpired_early _ fun d hd => by have := (h.deadline d hd).1; omega,
    Nat.max_eq_left hle]

variable (nfc) in
/-- A poll moves the catch-up on. -/
theorem advanceTime_catchUp {s : State} {floor u t : ℕ} (h : s.pending.Timely floor s.lastAtMs)
    (hu : u ≤ t) (hs : s.lastAtMs ≤ t) : ∃ ts,
    advanceTime nfc (catchUp nfc u s).1 t = ((catchUp nfc t s).1, .ok ts) ∧
      (catchUp nfc u s).2 ++ ts = (catchUp nfc t s).2 := by
  obtain ⟨h₁, h₂⟩ := finalizeExpired_twice nfc h hu
  have hstale := (finalizeExpired_framed nfc s u).staleEventCount
  have hexp := finalizeExpired_withClock nfc (finalizeExpired nfc s u).1 t
    (finalizeExpired nfc s u).1.staleEventCount t
  refine ⟨(finalizeExpired nfc (finalizeExpired nfc s u).1 t).2, ?_, h₂⟩
  unfold advanceTime
  rw [if_neg (by simp only [catchUp]; omega)]
  simp only [catchUp]
  rw [show ({ (finalizeExpired nfc s u).1 with lastAtMs := t } : State) =
    (finalizeExpired nfc s u).1.withClock t (finalizeExpired nfc s u).1.staleEventCount from rfl,
    hexp, h₁, Nat.max_eq_right hs, hstale,
    ← (finalizeExpired_framed nfc s t).staleEventCount]
  rfl

variable (nfc config) in
theorem accept_catchUp {s : State} {floor u : ℕ} {event : CallerTurnEvent}
    (h : s.pending.Timely floor s.lastAtMs) (hu : u ≤ event.atMs) :
    (accept nfc config (catchUp nfc u s).1 event).1 = (accept nfc config s event).1 ∧
      (catchUp nfc u s).2 ++ (accept nfc config (catchUp nfc u s).1 event).2 =
        (accept nfc config s event).2 := by
  obtain ⟨h₁, h₂⟩ := finalizeExpired_twice nfc h hu
  have hexp := finalizeExpired_withClock nfc (finalizeExpired nfc s u).1
    (max s.lastAtMs u) (finalizeExpired nfc s u).1.staleEventCount event.atMs
  rw [h₁, (finalizeExpired_framed nfc s u).staleEventCount,
    ← (finalizeExpired_framed nfc s event.atMs).staleEventCount] at hexp
  obtain ⟨h₃, h₄⟩ := receive_enterEpoch_withClock nfc config
    (finalizeExpired nfc s event.atMs).1 (max s.lastAtMs u) event
  have hstate : (catchUp nfc u s).1 = (finalizeExpired nfc s u).1.withClock (max s.lastAtMs u)
      s.staleEventCount := by
    rw [← (finalizeExpired_framed nfc s u).staleEventCount]
    rfl
  have hcaught : finalizeExpired nfc (catchUp nfc u s).1 event.atMs =
      ((finalizeExpired nfc s event.atMs).1.withClock (max s.lastAtMs u)
        (finalizeExpired nfc s event.atMs).1.staleEventCount,
        (finalizeExpired nfc (finalizeExpired nfc s u).1 event.atMs).2) := by
    rw [hstate, ← hexp, (finalizeExpired_framed nfc s event.atMs).staleEventCount]
  unfold accept
  rw [hcaught]
  simp only
  rw [h₃, h₄]
  refine ⟨rfl, ?_⟩
  rw [← List.append_assoc, ← List.append_assoc,
    show (catchUp nfc u s).2 = (finalizeExpired nfc s u).2 from rfl, h₂]

variable (nfc config) in
theorem ingest_stale_catchUp {s : State} {u : ℕ} {event : CallerTurnEvent}
    (h : isStale s event = true) :
    ingest nfc config (catchUp nfc u s).1 event =
      ((catchUp nfc u (ingest nfc config s event).1).1, .ok []) ∧
    (catchUp nfc u (ingest nfc config s event).1).2 = (catchUp nfc u s).2 := by
  have hframe := finalizeExpired_framed nfc s u
  have hstale : isStale (catchUp nfc u s).1 event = true := by
    unfold isStale at h ⊢
    rw [show (catchUp nfc u s).1.activeEpoch = s.activeEpoch from hframe.activeEpoch]
    exact h
  have hexp := finalizeExpired_withClock nfc s s.lastAtMs (s.staleEventCount + 1) u
  rw [ingest_stale hstale, ingest_stale h]
  simp only [catchUp]
  rw [show ({ s with staleEventCount := s.staleEventCount + 1 } : State) =
    s.withClock s.lastAtMs (s.staleEventCount + 1) from rfl, hexp, hframe.staleEventCount]
  exact ⟨rfl, rfl⟩

end Assembler

/-! ## Polled runs -/

section Runs

variable {nfc : Str → Str} {config : Config}

def logOf (nfc : Str → Str) (config : Config) (inputs : List Input) : List AssemblerEvent :=
  (step nfc config).log config.start (inputs.map Input.call)

theorem after_append (inputs : List Input) (i : Input) :
    after nfc config (inputs ++ [i]) = (step nfc config (after nfc config inputs) i.call).1 := by
  unfold after
  rw [List.map_append, Machine.run_append]
  rfl

theorem emitted_logOf_append (inputs : List Input) (i : Input) :
    emitted (logOf nfc config (inputs ++ [i])) = emitted (logOf nfc config inputs) ++
      Outcome.turns (step nfc config (after nfc config inputs) i.call).2 := by
  unfold logOf emitted after
  rw [List.map_append, Machine.log_append, List.flatMap_append]
  simp

theorem turnsOf_eq (inputs : List Input) (atMs : ℕ) (reason : CallerTurnCloseReason) :
    turnsOf nfc config inputs atMs reason = emitted (logOf nfc config inputs) ++
      Outcome.turns (finish nfc (after nfc config inputs) atMs reason).2 := by
  unfold turnsOf finishedCalls logOf emitted after
  rw [Machine.log_append, List.flatMap_append]
  simp [step]

variable (nfc config) in
theorem after_timely (inputs : List Input) : ∃ floor, (after nfc config inputs).pending.Timely floor
    (after nfc config inputs).lastAtMs := by
  obtain ⟨segments, floor, h⟩ := conserved_run nfc config (inputs.map Input.call)
  exact ⟨floor, h.pending⟩

/-- The polled run is the run without polls, caught up to its last poll. -/
structure CaughtUp (nfc : Str → Str) (config : Config) (inputs : List Input) (u : ℕ) : Prop where
  state : after nfc config inputs = (catchUp nfc u (after nfc config (unpolled inputs))).1
  turns : emitted (logOf nfc config inputs) = emitted (logOf nfc config (unpolled inputs)) ++
    (catchUp nfc u (after nfc config (unpolled inputs))).2
  polls : ∀ t, .poll t ∈ inputs → t ≤ u
  polled : u = 0 ∨ .poll u ∈ inputs
  clock : ∀ b, (∀ i ∈ inputs, i.atMs ≤ b) → (after nfc config (unpolled inputs)).lastAtMs ≤ b

theorem CaughtUp.le {inputs : List Input} {u b : ℕ} (h : CaughtUp nfc config inputs u)
    (hb : ∀ i ∈ inputs, i.atMs ≤ b) : u ≤ b := by
  rcases h.polled with rfl | hu
  · exact Nat.zero_le _
  · exact hb _ hu

theorem CaughtUp.poll {inputs : List Input} {u t : ℕ} (h : CaughtUp nfc config inputs u)
    (hle : ∀ i ∈ inputs, i.atMs ≤ t) : CaughtUp nfc config (inputs ++ [.poll t]) t := by
  obtain ⟨floor, htimely⟩ := after_timely nfc config (unpolled inputs)
  obtain ⟨ts, hadv, hts⟩ := advanceTime_catchUp nfc htimely (h.le hle) (h.clock t hle)
  have hun : unpolled (inputs ++ [.poll t]) = unpolled inputs := by
    simp [unpolled, Input.isEvent]
  refine ⟨?_, ?_, ?_, .inr (by simp), ?_⟩
  · rw [after_append, hun, h.state]
    simp only [Input.call, step]
    rw [hadv]
  · rw [emitted_logOf_append, hun, h.state, h.turns, List.append_assoc]
    simp only [Input.call, step]
    rw [hadv, ← hts]
    rfl
  · intro t' ht'
    rcases List.mem_append.mp ht' with ht' | ht'
    · exact hle _ ht'
    · simp only [List.mem_singleton, Input.poll.injEq] at ht'
      omega
  · intro b hb
    rw [hun]
    exact h.clock b fun i hi => hb i (List.mem_append_left _ hi)

theorem CaughtUp.event {inputs : List Input} {u : ℕ} {e : CallerTurnEvent}
    (h : CaughtUp nfc config inputs u) (hle : ∀ i ∈ inputs, i.atMs ≤ e.atMs) :
    CaughtUp nfc config (inputs ++ [.event e]) u := by
  obtain ⟨floor, htimely⟩ := after_timely nfc config (unpolled inputs)
  have hun : unpolled (inputs ++ [.event e]) = unpolled inputs ++ [.event e] := by
    simp [unpolled, Input.isEvent]
  have hpolls : ∀ t, Input.poll t ∈ inputs ++ [.event e] → t ≤ u := by
    intro t ht
    rcases List.mem_append.mp ht with ht | ht
    · exact h.polls t ht
    · simp at ht
  have hpolled : u = 0 ∨ .poll u ∈ inputs ++ [.event e] :=
    h.polled.imp_right (List.mem_append_left _)
  have hu : u ≤ e.atMs := h.le hle
  have hs : (after nfc config (unpolled inputs)).lastAtMs ≤ e.atMs := h.clock _ hle
  cases hstale : isStale (after nfc config (unpolled inputs)) e with
  | true =>
    obtain ⟨h₁, h₂⟩ := ingest_stale_catchUp nfc config (u := u) hstale
    refine ⟨?_, ?_, hpolls, hpolled, ?_⟩
    · rw [after_append, hun, after_append, h.state]
      simp only [Input.call, step]
      rw [h₁]
    · rw [emitted_logOf_append, hun, after_append, emitted_logOf_append, h.state, h.turns]
      simp only [Input.call, step]
      rw [h₁, h₂, ingest_stale hstale]
      simp [Outcome.turns]
    · intro b hb
      rw [hun, after_append]
      simp only [Input.call, step]
      rw [ingest_stale hstale]
      exact h.clock b fun i hi => hb i (List.mem_append_left _ hi)
  | false =>
    obtain ⟨h₁, h₂⟩ := accept_catchUp nfc config htimely hu
    have hframe := finalizeExpired_framed nfc (after nfc config (unpolled inputs)) u
    have hstale' : isStale (catchUp nfc u (after nfc config (unpolled inputs))).1 e = false := by
      unfold isStale at hstale ⊢
      rw [show (catchUp nfc u (after nfc config (unpolled inputs))).1.activeEpoch = _ from
        hframe.activeEpoch]
      exact hstale
    have hq := ingest_accept nfc config hstale' (Nat.max_le.mpr ⟨hs, hu⟩)
    have hp := ingest_accept nfc config hstale hs
    have hlast : (accept nfc config (after nfc config (unpolled inputs)) e).1.lastAtMs = e.atMs :=
      receive_lastAtMs _ _
    have hstate : after nfc config (unpolled (inputs ++ [.event e])) =
        (accept nfc config (after nfc config (unpolled inputs)) e).1 := by
      rw [hun, after_append]
      simp only [Input.call, step]
      rw [hp]
    -- the event overtakes the last poll, so there is nothing left to catch up
    have hcaught : catchUp nfc u (after nfc config (unpolled (inputs ++ [.event e]))) =
        (after nfc config (unpolled (inputs ++ [.event e])), []) := by
      obtain ⟨floor', htimely'⟩ := after_timely nfc config
        (unpolled (inputs ++ [.event e]))
      refine catchUp_zero htimely' ?_
      rw [hstate, hlast]
      exact hu
    refine ⟨?_, ?_, hpolls, hpolled, ?_⟩
    · rw [hcaught, hstate, after_append, h.state]
      simp only [Input.call, step]
      rw [hq, h₁]
    · rw [hcaught, List.append_nil, hun, emitted_logOf_append, emitted_logOf_append, h.state,
        h.turns, List.append_assoc]
      simp only [Input.call, step]
      rw [hq, hp]
      simp only [Outcome.turns]
      rw [h₂]
    · intro b hb
      rw [hstate, hlast]
      exact hb (.event e) (by simp)

variable (nfc config) in
theorem caughtUp_run (inputs : List Input) (h : (inputs.map Input.atMs).Pairwise (· ≤ ·)) :
    ∃ u, CaughtUp nfc config inputs u := by
  induction inputs using List.reverseRecOn with
  | nil =>
    refine ⟨0, ?_, ?_, fun t ht => (by cases ht), .inl rfl, fun b _ => Nat.zero_le b⟩
    · rw [catchUp_zero (s := after nfc config (unpolled [])) (Pending.empty_timely (Nat.le_refl 0))
        (Nat.zero_le _)]
      rfl
    · rw [catchUp_zero (s := after nfc config (unpolled [])) (Pending.empty_timely (Nat.le_refl 0))
        (Nat.zero_le _)]
      rfl
  | append_singleton inputs i ih =>
    rw [List.map_append, List.pairwise_append] at h
    obtain ⟨u, hu⟩ := ih h.1
    have hle : ∀ j ∈ inputs, j.atMs ≤ i.atMs := fun j hj =>
      h.2.2 _ (List.mem_map_of_mem hj) _ (by simp)
    cases i with
    | event e => exact ⟨u, hu.event hle⟩
    | poll t => exact ⟨t, hu.poll hle⟩

/-! ## The final call -/

theorem finish_turns {s : State} {atMs : ℕ} (hle : s.lastAtMs ≤ atMs)
    (reason : CallerTurnCloseReason) :
    Outcome.turns (finish nfc s atMs reason).2 = (finalize nfc s atMs
      (if reason = .toolCallCancelled then .cancelled else .incomplete) reason true).2 := by
  unfold finish
  rw [if_neg (by omega)]
  have h := finalize_withClock nfc s atMs s.staleEventCount atMs
    (if reason = .toolCallCancelled then .cancelled else .incomplete) reason true
  exact (congrArg Prod.snd h).trans rfl

theorem finalize_empty {s : State} (h : s.pending = Pending.empty) (atMs : ℕ)
    (status : CallerTurnCompletionStatus) (reason : CallerTurnCloseReason) (keep : Bool) :
    (finalize nfc s atMs status reason keep).2 = [] := by
  by_cases hblank : s.pending.transcript nfc = [] ∧ status ≠ .dropped
  · rw [finalize_blank hblank.1 hblank.2]
  · rw [finalize_idle hblank (by rw [h]; rfl)]

/-- Finishing a caught-up state reports what finishing the state itself does,
unless the catch-up closed a turn. -/
theorem finish_catchUp {s : State} {floor u atMs : ℕ} (h : s.pending.Timely floor s.lastAtMs)
    (hu : u ≤ atMs) (hs : s.lastAtMs ≤ atMs) (reason : CallerTurnCloseReason) :
    (catchUp nfc u s).2 ++ Outcome.turns (finish nfc (catchUp nfc u s).1 atMs reason).2 =
        Outcome.turns (finish nfc s atMs reason).2 ↔
      ¬ (s.pending.transcript nfc ≠ [] ∧ ∃ d, s.pending.deadlineMs = some d ∧ d ≤ u) := by
  have hstatus : ∀ status : CallerTurnCompletionStatus,
      status = (if reason = .toolCallCancelled then .cancelled else .incomplete) →
      status ≠ .dropped ∧ status ≠ .retrospectiveComplete := by
    intro status he
    rw [he]
    split <;> decide
  rw [finish_turns hs, finish_turns (s := (catchUp nfc u s).1) (Nat.max_le.mpr ⟨hs, hu⟩)]
  generalize hst : (if reason = .toolCallCancelled then CallerTurnCompletionStatus.cancelled
    else .incomplete) = status
  obtain ⟨hdropped, hretro⟩ := hstatus status hst.symm
  by_cases hd : ∃ d, s.pending.deadlineMs = some d ∧ d ≤ u
  · obtain ⟨d, hd, hdu⟩ := hd
    obtain ⟨he, hp⟩ := finalizeExpired_late nfc h hd hdu
    rw [finalize_empty (s := (catchUp nfc u s).1) hp, List.append_nil,
      show (catchUp nfc u s).2 = (finalizeExpired nfc s u).2 from rfl, he]
    by_cases hblank : s.pending.transcript nfc = []
    · rw [finalize_blank hblank hdropped, finalize_blank hblank (by decide)]
      exact iff_of_true rfl fun hh => hh.1 hblank
    · have hpend : s.pending.hasPending = true := by
        simp [Pending.hasPending, (h.deadline d hd).2]
      rw [finalize_report (fun hh => hblank hh.1) hpend,
        finalize_report (fun hh => hblank hh.1) hpend]
      refine iff_of_false (fun heq => ?_) fun hh => hh ⟨hblank, d, hd, hdu⟩
      have := congrArg RetrospectiveCallerTurn.status (List.singleton_inj.mp heq)
      exact hretro this.symm
  · have he := finalizeExpired_early nfc (s := s) (t := u)
      fun d hd' => Nat.lt_of_not_le fun hle => hd ⟨d, hd', hle⟩
    refine iff_of_true ?_ fun hh => hd hh.2
    have hstate : (catchUp nfc u s).1 = s.withClock (max s.lastAtMs u) s.staleEventCount := by
      unfold catchUp
      rw [he]
      rfl
    rw [hstate, finalize_withClock _, show (catchUp nfc u s).2 = (finalizeExpired nfc s u).2 from rfl,
      he]
    rfl

/-- **When polling does not matter.** For every configuration, every stream
whose times never go back, and every final `finish`, the stream with its polls
reports the same turns as without them exactly when no poll saw the window of
the last turn over: when the events leave no text to report, or no deadline,
or no poll at or after it. -/
theorem polling_independent_iff (nfc : Str → Str) (config : Config) (inputs : List Input)
    (atMs : ℕ) (reason : CallerTurnCloseReason) (h : TimeOrdered inputs atMs) :
    turnsOf nfc config inputs atMs reason = turnsOf nfc config (unpolled inputs) atMs reason ↔
      ¬ PolledPastDeadline nfc config inputs := by
  obtain ⟨hord, -, hlast⟩ := List.pairwise_append.mp h
  have hle : ∀ i ∈ inputs, i.atMs ≤ atMs := fun i hi =>
    hlast _ (List.mem_map_of_mem hi) _ (by simp)
  obtain ⟨u, hu⟩ := caughtUp_run nfc config inputs hord
  obtain ⟨floor, htimely⟩ := after_timely nfc config (unpolled inputs)
  rw [turnsOf_eq, turnsOf_eq, hu.turns, hu.state, List.append_assoc, List.append_cancel_left_eq,
    finish_catchUp htimely (hu.le hle) (hu.clock _ hle)]
  refine not_congr (and_congr_right fun _ => ⟨?_, ?_⟩)
  · intro hd
    obtain ⟨d, hd, hdu⟩ := hd
    rcases hu.polled with rfl | hpoll
    · have := (htimely.deadline d hd).1
      omega
    · exact ⟨d, u, hd, hpoll, hdu⟩
  · intro hd
    obtain ⟨d, t, hd, ht, hdt⟩ := hd
    exact ⟨d, hd, Nat.le_trans hdt (hu.polls t ht)⟩

end Runs

def exampleFragment : Fragment := ⟨py "hello", by decide, encodable_py "hello"⟩

def exampleHello : List Input :=
  [.event ⟨.inputTranscriptFragment, 0, 1, 1, exampleFragment, by decide⟩,
    .event ⟨.turnComplete, 100, 2, 1, .empty, fun _ => rfl⟩]

/-- A poll inside the quiescence window does not matter. -/
theorem polling_independent_exampleHello :
    turnsOf id (.default 1) (exampleHello ++ [.poll 300]) 400 .pipelineStopped =
      turnsOf id (.default 1) (unpolled (exampleHello ++ [.poll 300])) 400 .pipelineStopped :=
  (polling_independent_iff id (.default 1) (exampleHello ++ [.poll 300]) 400 .pipelineStopped
    (by decide)).mpr (by
      intro hpast
      obtain ⟨-, d, t, hd, ht, hle⟩ := hpast
      have hd : some 350 = some d := hd
      simp only [exampleHello, List.cons_append, List.nil_append, List.mem_cons, reduceCtorEq,
        Input.poll.injEq, List.not_mem_nil, or_false, false_or] at ht
      cases hd
      omega)

/-- The window closed at 350. A run that finishes at 400 reports the turn as
complete if it polls first, and as cut short at 400 if it does not. -/
theorem finish_skips_deadline :
    TimeOrdered (exampleHello ++ [.poll 400]) 400 ∧
      turnsOf id (.default 1) (exampleHello ++ [.poll 400]) 400 .pipelineStopped ≠
        turnsOf id (.default 1) (unpolled (exampleHello ++ [.poll 400])) 400 .pipelineStopped ∧
      (turnsOf id (.default 1) (exampleHello ++ [.poll 400]) 400 .pipelineStopped).map
          (fun t => (t.status, t.finalizedAtMs)) = [(.retrospectiveComplete, 350)] ∧
      (turnsOf id (.default 1) (unpolled (exampleHello ++ [.poll 400])) 400 .pipelineStopped).map
          (fun t => (t.status, t.finalizedAtMs)) = [(.incomplete, 400)] := by
  decide

end HeyKevin.L5.CallerTurns
