import HeyKevin.L5Voice.SilenceLadder
/-!
# Timers are conserved

Every timer that was announced is fired, cancelled or still armed, and the
phase, the deadline and the receipt agree on which: as long as each call fits,
that is, the action id it builds after it has begun to write is valid.
-/
namespace HeyKevin.L5.Silence

open HeyKevin.Core L1.Text

section Lifecycle

variable {config : Config}

def fits (s : State config) (c : Call config) : Bool := (lateId s c).all config.isId

theorem fits_spec {s : State config} {c : Call config} (h : fits s c = true) {actionId : Str}
    (hlate : lateId s c = some actionId) : config.isId actionId = true := by
  rw [fits, hlate] at h
  exact h

/-- The `ARM_TIMER` intents returned by a run. -/
def armed (l : List (CallEvent config)) : ℕ := (l.map fun e => e.resp.count .armTimer).sum

def cancelled (l : List (CallEvent config)) : ℕ := (l.map fun e => e.resp.count .cancelTimer).sum

/-- The accepted firings of a run. -/
def fired (l : List (CallEvent config)) : ℕ := l.countP fun e => firing e.pre e.call

theorem armed_concat (l : List (CallEvent config)) (e : CallEvent config) :
    armed (l ++ [e]) = armed l + e.resp.count .armTimer := by
  simp [armed]

theorem cancelled_concat (l : List (CallEvent config)) (e : CallEvent config) :
    cancelled (l ++ [e]) = cancelled l + e.resp.count .cancelTimer := by
  simp [cancelled]

theorem fired_concat (l : List (CallEvent config)) (e : CallEvent config) :
    fired (l ++ [e]) = fired l + if firing e.pre e.call then 1 else 0 := by
  simp [fired, List.countP_append, List.countP_singleton]

/-- Phase, deadline and receipt of the timer agree, nothing is outstanding
beside it, and every other timer was fired or cancelled. -/
structure Conserved (l : List (CallEvent config)) (s : State config) : Prop where
  deadline : s.cycle.deadlineMs.isSome = s.phase.armed
  receipt : s.cycle.timerIntent.isSome = s.phase.armed
  alone : s.phase.armed = true → s.cycle.issuedIntents = []
  balance : (armed l : ℤ) - fired l - cancelled l = if s.phase.armed then 1 else 0

theorem lateId_of_toArm {s : State config} {c : Call config} {phase : SilencePhase} {t : ℤ}
    (h : toArm s c = some (phase, t)) :
    lateId s c = some (timerActionId s.revision (t + config.silenceMs phase)) := by
  obtain ⟨actId, hplayed, -⟩ := toArm_spec h
  cases c with
  | playback => simp [lateId, h]
  | observedPlayback => simp [lateId, h]
  | _ => cases hplayed

theorem SilencePhase.not_armed_of_begins {p q : SilencePhase} (h : p.begins = some q) :
    p.armed = false := by
  cases p <;> first | rfl | cases h

theorem firing_armed {s : State config} {c : Call config} (h : firing s c = true) :
    s.phase.armed = true := by
  cases c with
  | timerFired p actionId revision => exact timerDue_armed h
  | _ => cases h

theorem conserved_move {l : List (CallEvent config)} {s s' : State config} {c : Call config}
    {r : Reply} (h : Conserved l s) (htidy : Tidy s') (hfits : fits s c = true)
    (hmove : TimerMove s c r s') : Conserved (l ++ [⟨s, c, r, s'⟩]) s' := by
  have halone : s'.phase.armed = true → s'.cycle.issuedIntents = [] := fun harmed =>
    (htidy.settled (SilencePhase.pending_of_armed harmed)).1
  have hbalance := h.balance
  have hdeadline := h.deadline
  refine ⟨htidy.running, ?_, halone, ?_⟩
  · cases hmove with
    | keep hd ht hp => rw [ht, hp, h.receipt]
    | clear hd ht hp => rw [ht, hp]; rfl
    | fire hd ht hp => rw [ht, hp]; rfl
    | arm phase t actId base harm hp hr ht hfire ha hraise =>
      cases ha with
      | ok i hk => exact hp.symm
      | raised e =>
        rw [fits_spec hfits (lateId_of_toArm harm)] at hraise
        exact absurd (hraise e rfl) (by decide)
    | lost e actionId hr hlate hid => exact absurd ((fits_spec hfits hlate).symm.trans hid) (by decide)
  · rw [armed_concat, cancelled_concat, fired_concat]
    cases hmove with
    | keep hd ht hp harm hcancel hfire =>
      simp only [harm, hcancel, hfire, hp]
      simpa using hbalance
    | clear hd ht hp harm hcancel hfire =>
      -- the cancellation balances the timer, if there was one
      rw [hdeadline] at hcancel
      simp only [harm, hcancel, hfire, hp]
      cases harmed : s.phase.armed <;> simp only [harmed] at hbalance ⊢ <;> simp at hbalance ⊢ <;>
        omega
    | fire hd ht hp harm hcancel hfire =>
      rw [firing_armed hfire] at hbalance
      simp only [harm, hcancel, hfire, hp]
      simp at hbalance ⊢
      omega
    | arm phase t actId base harm hp hr ht hfire ha hraise =>
      obtain ⟨actId', hplayed, hbegins, -⟩ := toArm_spec harm
      rw [SilencePhase.not_armed_of_begins hbegins] at hbalance
      rw [ha.count, ha.fields.1, hp, hfire]
      cases ha with
      | ok i hk =>
        simp [hk] at hbalance ⊢
        omega
      | raised e =>
        rw [fits_spec hfits (lateId_of_toArm harm)] at hraise
        exact absurd (hraise e rfl) (by decide)
    | lost e actionId hr hlate hid => exact absurd ((fits_spec hfits hlate).symm.trans hid) (by decide)

theorem Conserved.start (voice : Voice.State) : Conserved [] (State.start config voice) :=
  ⟨rfl, rfl, fun h => (by cases h), rfl⟩

theorem revision_turn {s s' : State config} {c : Call config} {r : Reply} (hturn : Turn s c r s') :
    s.revision ≤ s'.revision ∧ (s.phase = .terminated → s'.phase = .terminated) := by
  have hno : ∀ {p : SilencePhase}, s.phase = p → p ≠ .terminated →
      s.phase = .terminated → s'.phase = .terminated := by
    intro p hp hne h
    exact absurd (hp.symm.trans h) hne
  have hrunning : s.phase.armed = true → s.phase = .terminated → s'.phase = .terminated := by
    intro harmed h
    rw [h] at harmed
    cases harmed
  cases hturn with
  | stay c r s' t hp hr => exact ⟨hr.ge, fun h => hp.trans h⟩
  | reserve p q s' hphase hp hr => exact ⟨hr.ge, hno hphase (by decide)⟩
  | rollback binding q s' hphase hd hp hr => exact ⟨hr.ge, hno hphase (by decide)⟩
  | confirm eventId sequence event s' hphase hq hp hr => exact ⟨hr.ge, hno hphase (by decide)⟩
  | hardTerminalize l s' hp hr => exact ⟨by omega, fun _ => hp⟩
  | cancel p l s' hphase hp hr => exact ⟨by omega, fun h => absurd h hphase⟩
  | sealed c b s' k hissued hp hr => exact ⟨by omega, fun _ => hp⟩
  | materialize i m actId hissued hawaited =>
    obtain ⟨hp, hr, -⟩ := materialize_fields (s.popIssued i.actionId) i.kind (m.getD actId)
    refine ⟨hr.ge, fun h => ?_⟩
    rw [hp]
    exact h
  | armQuestion c r s' base actId t tr hplayed hheard hphase hq hr hc ha =>
    exact ⟨(ha.fields.2.1.trans hr).ge, hno hphase (by decide)⟩
  | armPresence c r s' base actId t tr hplayed hheard hphase hid hm hr hc ha =>
    exact ⟨(ha.fields.2.1.trans hr).ge, hno hphase (by decide)⟩
  | armMoreTime c r s' base actId t tr hplayed hheard hphase hid hm hr hc ha =>
    exact ⟨(ha.fields.2.1.trans hr).ge, hno hphase (by decide)⟩
  | close c r s' base actId t tr hplayed hphase hid hm hp hr hc hi =>
    exact ⟨(hi.fields.2.1.trans hr).ge, hno hphase (by decide)⟩
  | fallbackPlayed c s' actId t hplayed hphase hp hr => exact ⟨by omega, hno hphase (by decide)⟩
  | firePresence p actionId revision r s' base tr hdue hphase hp hr hc hi =>
    have hr' := hi.fields.2.1
    exact ⟨by omega, hrunning (timerDue_armed hdue)⟩
  | fireClosing p actionId revision r s' base hdue hphase hp hr hc hi =>
    exact ⟨(hi.fields.2.1.trans hr).ge, hrunning (timerDue_armed hdue)⟩
  | fallback kind p turnId n r s' base cancels hallowed hp hr hc harm hcancel hid hi =>
    have hr' := hi.fields.2.1
    simp only [fallbackAllowed, Bool.and_eq_true] at hallowed
    exact ⟨by omega, hrunning hallowed.1.1.1.1.2⟩
  | moreTime p r s' base i hgranted hi hid hp hr hc hissue =>
    refine ⟨(hissue.fields.2.1.trans hr).ge, fun h => ?_⟩
    have heligible := (moreTimeGranted_spec hgranted).1
    rw [h] at heligible
    cases heligible

end Lifecycle

/-- **Timers are conserved.** In every run whose calls all fit: after every
call phase, deadline and receipt agree, nothing is outstanding beside an armed
timer, and the timers announced are those fired, those cancelled and the one
that is armed. In every run the revision never decreases and a terminated
lifecycle stays terminated. -/
theorem timers_conserved (config : Config) (voice : Voice.State) (cs : List (Call config)) :
    ((∀ e ∈ (step config).log (State.start config voice) cs, fits e.pre e.call = true) →
      Conserved ((step config).log (State.start config voice) cs)
        ((step config).run (State.start config voice) cs)) ∧
    ∀ e ∈ (step config).log (State.start config voice) cs,
      e.pre.revision ≤ e.post.revision ∧ (e.pre.phase = .terminated → e.post.phase = .terminated) := by
  constructor
  · intro hfits
    refine ((step config).log_inv (I := fun l s => Conserved l s ∧ Tidy s ∧ Valid s)
      ⟨.start voice, .start voice, .start _ voice⟩ ?_ cs hfits).1
    intro l s c ⟨h, htidy, hvalid⟩ hfit
    have hturn := step_turn s c
    have htidy' := tidy_turn htidy hturn
    exact ⟨conserved_move h htidy' hfit (timer_turn htidy hvalid hturn), htidy',
      valid_turn hvalid (atMs_step s c) hturn⟩
  · intro e he
    obtain ⟨cs₁, c, -, -, rfl⟩ := (step config).mem_log he
    exact revision_turn (step_turn _ c)

def exampleAsked : List (Call exampleConfig) := exampleReserved ++ [exampleQuestionHeard]

theorem timers_conserved_exampleAsked :
    Conserved ((step exampleConfig).log (.start _ (.start Voice.exampleBinding)) exampleAsked)
      ((step exampleConfig).run (.start _ (.start Voice.exampleBinding)) exampleAsked) :=
  (timers_conserved exampleConfig (.start Voice.exampleBinding) exampleAsked).1 (by decide)

/-- The question was heard, then more time is asked for at a position whose
number is too long for an action id. -/
def exampleUnnamed : List (Call exampleConfig) :=
  exampleAsked ++ [.requestMoreTime (exampleAt "e3" (10 ^ 120) 5000)]

/-- The timer is gone, and no `CANCEL_TIMER` was returned. -/
theorem exampleUnnamed_not_conserved :
    ¬ Conserved ((step exampleConfig).log (.start _ (.start Voice.exampleBinding)) exampleUnnamed)
      ((step exampleConfig).run (.start _ (.start Voice.exampleBinding)) exampleUnnamed) := by
  intro h
  exact absurd h.balance (by decide +kernel)

end HeyKevin.L5.Silence
