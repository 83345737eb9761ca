import HeyKevin.L5Voice.ActInFlight
/-!
# The timer of the lifecycle

Seen from the one who runs timers, the lifecycle keeps, arms, fires, clears or
loses its timer. `TimerMove` is this view, and `timer_turn` shows that every
turn is one of these moves. A move is lost when the call raises after the
deadline was dropped: the cancellation it built is not returned.

`toArm` reads off the state before a call which silence begins and when, so
that statements about armed timers are statements about what was played.
-/
namespace HeyKevin.L5.Silence

open HeyKevin.Core L1.Text

/-- The silence that begins when the awaited act of a phase is played. -/
def SilencePhase.begins : SilencePhase → Option SilencePhase
  | .questionConfirmed => some .firstArmed
  | .presencePending => some .secondArmed
  | .moreTimePending => some .moreTimeArmed
  | _ => none

/-- How long a silence is. -/
def Config.silenceMs (config : Config) : SilencePhase → ℤ
  | .firstArmed => config.firstSilenceMs
  | .secondArmed => config.secondSilenceMs
  | _ => config.moreTimeExtensionMs

section Lifecycle

variable {config : Config}

def State.awaitedActId (s : State config) : Option Str :=
  match s.phase with
  | .questionConfirmed => s.cycle.questionActId
  | .presencePending => s.cycle.presenceId
  | .moreTimePending => s.cycle.moreTimeAckId
  | _ => none

/-- The silence that a call begins, and when. -/
def toArm (s : State config) (c : Call config) : Option (SilencePhase × ℤ) :=
  match c.played, s.phase.begins with
  | some (actId, t), some phase =>
    if heard s c = true ∧ s.awaitedActId = some actId then some (phase, t) else none
  | _, _ => none

theorem toArm_of {s : State config} {c : Call config} {actId : Str} {t : ℤ} {phase : SilencePhase}
    (hplayed : c.played = some (actId, t)) (hbegins : s.phase.begins = some phase)
    (hheard : heard s c = true) (hid : s.awaitedActId = some actId) :
    toArm s c = some (phase, t) := by
  simp only [toArm, hplayed, hbegins]
  exact if_pos ⟨hheard, hid⟩

theorem toArm_spec {s : State config} {c : Call config} {phase : SilencePhase} {t : ℤ}
    (h : toArm s c = some (phase, t)) : ∃ actId, c.played = some (actId, t) ∧
      s.phase.begins = some phase ∧ heard s c = true ∧ s.awaitedActId = some actId := by
  unfold toArm at h
  split at h
  · rename_i actId t' phase' hplayed hbegins
    split at h
    · rename_i hcond
      cases h
      exact ⟨actId, hplayed, hbegins, hcond.1, hcond.2⟩
    · cases h
  · cases h

/-- The action id that a call builds after it has begun to write: a raise then
leaves the timer half changed. -/
def lateId (s : State config) (c : Call config) : Option Str :=
  match c with
  | .requestMoreTime p =>
    if moreTimeGranted s p && config.isId (revisionId "more_time_cancel" s.revision) then
      some (moreTimeActId s.revision p.sequence)
    else none
  | .requestFixedFallback kind p turnId turnSequence =>
    if fallbackAllowed s kind p turnId turnSequence &&
        config.isId (revisionId "fallback_cancel_timer" s.revision) then
      some (fallbackActId kind (s.revision + 1))
    else none
  | c => (toArm s c).map fun a => timerActionId s.revision (a.2 + config.silenceMs a.1)

/-! ## When an intent cannot be built -/

theorem intent_raised {s : State config} {kind : CallIntentKind} {actionId actId : Str}
    {deadlineMs : Option ℤ} {e : String} (ht : s.cycle.silenceTurnId.all config.isId = true)
    (hs : s.cycle.silenceTurnId.isSome = true ∨ s.cycle.silenceTurnSequence = none)
    (ha : config.isId actId = true) (hd : ∀ d, deadlineMs = some d → 0 ≤ d)
    (h : s.intent kind actionId (some actId) deadlineMs = .error e) :
    config.isId actionId = false := by
  unfold State.intent at h
  simp only at h
  split at h
  · cases h
  rename_i hv
  by_contra hne
  refine hv ?_
  have hd' : deadlineMs.all (fun d => decide (0 ≤ d)) = true := by
    cases deadlineMs with
    | none => rfl
    | some d => simpa using hd d rfl
  have hs' : (s.cycle.silenceTurnId.isSome || s.cycle.silenceTurnSequence.isNone) = true := by
    rcases hs with hs | hs <;> simp [hs]
  simp only [CallIntent.isValid, Option.all_some, ha, hd', ht, hs', Bool.and_true]
  simpa using hne

/-- An act that is requested bears its own action id. -/
theorem issue_raised {base s' : State config} {kind : CallIntentKind} {actionId : Str}
    {e : String} (ht : base.cycle.silenceTurnId.all config.isId = true)
    (hs : base.cycle.silenceTurnId.isSome = true ∨ base.cycle.silenceTurnSequence = none)
    (h : Issued base kind actionId actionId s' (.raised e)) : config.isId actionId = false := by
  cases h with
  | raised e h =>
    cases hid : config.isId actionId with
    | false => rfl
    | true => exact hid.symm.trans (intent_raised ht hs hid (fun d hd => by cases hd) h)

theorem silenceMs_pos (config : Config) (phase : SilencePhase) : 1 ≤ config.silenceMs phase := by
  cases phase with
  | firstArmed => exact config.first_pos
  | secondArmed => exact config.second_pos
  | _ => exact config.extension_pos

/-- A timer that cannot be armed has no valid id. -/
theorem arm_raised {s base s' : State config} {c : Call config} {phase : SilencePhase}
    {actId : Str} {t : ℤ} {r : Reply} (hvalid : Valid s) (hplayed : c.played = some (actId, t))
    (hheard : heard s c = true) (ha : config.isId actId = true) (hr : base.revision = s.revision)
    (hturn : base.cycle.silenceTurnId = s.cycle.silenceTurnId)
    (hseq : base.cycle.silenceTurnSequence = s.cycle.silenceTurnSequence)
    (h : Armed base phase actId (t + config.silenceMs phase) s' r) (e : String)
    (he : r = .raised e) :
    config.isId (timerActionId s.revision (t + config.silenceMs phase)) = false := by
  cases h with
  | ok i => cases he
  | raised e' hraise =>
    rw [← hr]
    refine intent_raised ?_ ?_ ha (fun d hd => ?_) hraise
    · simp only [hturn]
      exact hvalid.turnId
    · simp only [hturn, hseq]
      exact hvalid.turnSequence
    · cases hd
      have hclock := hvalid.clock
      have hat := (heard_spec hplayed hheard).1
      have hpos := silenceMs_pos config phase
      omega

theorem isId_of_question {s : State config} {actId : Str}
    (h : s.cycle.questionActId = some actId) : config.isId actId = true := by
  unfold Cycle.questionActId at h
  cases hq : s.cycle.question with
  | none => rw [hq] at h; cases h
  | some q =>
    rw [hq] at h
    cases h
    exact q.actId.property

/-! ## Moves -/

/-- What a call does to the timer. -/
inductive TimerMove (s : State config) (c : Call config) (r : Reply) (s' : State config) : Prop
  | keep (hd : s'.cycle.deadlineMs = s.cycle.deadlineMs)
      (ht : s'.cycle.timerIntent = s.cycle.timerIntent) (hp : s'.phase.armed = s.phase.armed)
      (harm : r.count .armTimer = 0) (hcancel : r.count .cancelTimer = 0)
      (hfire : firing s c = false)
  | clear (hd : s'.cycle.deadlineMs = none) (ht : s'.cycle.timerIntent = none)
      (hp : s'.phase.armed = false) (harm : r.count .armTimer = 0)
      (hcancel : r.count .cancelTimer = if s.cycle.deadlineMs.isSome then 1 else 0)
      (hfire : firing s c = false)
  | fire (hd : s'.cycle.deadlineMs = none) (ht : s'.cycle.timerIntent = none)
      (hp : s'.phase.armed = false) (harm : r.count .armTimer = 0)
      (hcancel : r.count .cancelTimer = 0) (hfire : firing s c = true)
  | arm (phase : SilencePhase) (t : ℤ) (actId : Str) (base : State config)
      (harm : toArm s c = some (phase, t)) (hp : phase.armed = true)
      (hr : base.revision = s.revision) (ht : base.cycle.timerIntent = s.cycle.timerIntent)
      (hfire : firing s c = false) (h : Armed base phase actId (t + config.silenceMs phase) s' r)
      (hraise : ∀ e, r = .raised e →
        config.isId (timerActionId s.revision (t + config.silenceMs phase)) = false)
  /-- The call raised when the timer was already gone. -/
  | lost (e : String) (actionId : Str) (hr : r = .raised e) (hlate : lateId s c = some actionId)
      (hid : config.isId actionId = false) (hd : s'.cycle.deadlineMs = none)
      (ht : s'.cycle.timerIntent = none) (hp : s'.phase.armed = false) (hfire : firing s c = false)

theorem Armed.count {base s' : State config} {phase : SilencePhase} {actId : Str} {d : ℤ}
    {r : Reply} (h : Armed base phase actId d s' r) : r.count .cancelTimer = 0 := by
  cases h with
  | ok i hk => simp [hk]
  | raised e => rfl

theorem Issued.count {base s' : State config} {kind other : CallIntentKind} {actionId actId : Str}
    {r : Reply} (h : Issued base kind actionId actId s' r) (hne : kind ≠ other) :
    r.count other = 0 := by
  cases h with
  | ok i hk => simp [hk, hne]
  | raised e => rfl

theorem firing_of_played {s : State config} {c : Call config} {a : Str × ℤ}
    (h : c.played = some a) : firing s c = false :=
  (rung_played (r := .bool false) (u := s) h).2

/-- Every turn is a move of the timer. -/
theorem timer_turn {s s' : State config} {c : Call config} {r : Reply} (htidy : Tidy s)
    (hvalid : Valid s) (hturn : Turn s c r s') : TimerMove s c r s' := by
  have hd : s.phase.armed = false → s.cycle.deadlineMs = none := by
    intro harmed
    have h := htidy.running
    rw [harmed] at h
    exact Option.isNone_iff_eq_none.mp (by simpa using h)
  -- a cleared cycle in a phase without a timer
  have hgone : s.phase.armed = false → s'.cycle = Cycle.clear config → s'.phase.armed = false →
      r.count .armTimer = 0 → r.count .cancelTimer = 0 → firing s c = false →
      TimerMove s c r s' := by
    intro harmed hc hp ha hcancel hfire
    exact .clear (by rw [hc]; rfl) (by rw [hc]; rfl) hp ha (by rw [hd harmed]; exact hcancel) hfire
  cases hturn with
  | stay c r s' t hp hr hc harm hcancel hfire =>
    exact .keep (by rw [hc]) (by rw [hc]) (by rw [hp]) harm hcancel hfire
  | reserve p q s' hphase hp hr hc =>
    exact .keep (by rw [hc]) (by rw [hc]) (by rw [hp, hphase]; rfl) rfl rfl rfl
  | rollback binding q s' hphase _ hp hr hc =>
    exact hgone (by rw [hphase]; rfl) hc (by rw [hp]; rfl) rfl rfl rfl
  | confirm eventId sequence event s' hphase hq hp hr hc =>
    exact .keep (by rw [hc]) (by rw [hc]) (by rw [hp, hphase]; rfl) rfl rfl rfl
  | hardTerminalize l s' hp hr hc harm hcancel =>
    exact .clear (by rw [hc]; rfl) (by rw [hc]; rfl) (by rw [hp]; rfl) harm hcancel rfl
  | cancel p l s' hphase hp hr hc harm hcancel =>
    exact .clear (by rw [hc]; rfl) (by rw [hc]; rfl) (by rw [hp]; rfl) harm hcancel rfl
  | sealed c b s' k hissued hp hr hc hfire =>
    have harmed : s.phase.armed = false := by
      -- with a timer running nothing is issued
      by_contra hne
      have hnil := (htidy.settled (SilencePhase.pending_of_armed (by simpa using hne))).1
      rw [hnil] at hissued
      cases hissued
    exact hgone harmed hc (by rw [hp]; rfl) rfl rfl hfire
  | materialize i m actId hissued hawaited hact hid =>
    obtain ⟨hp, -, -, -, hd', ht', -⟩ :=
      materialize_fields (s.popIssued i.actionId) i.kind (m.getD actId)
    exact .keep hd' ht' (by rw [hp]; rfl) rfl rfl rfl
  | armQuestion c r s' base actId t tr hplayed hheard hphase hq hr hc ha =>
    refine .arm .firstArmed t actId base (toArm_of hplayed ?_ hheard ?_) rfl hr
      (by rw [hc]) (firing_of_played hplayed) ha ?_
    · rw [hphase]
      rfl
    · simp only [State.awaitedActId, hphase]
      exact hq
    · exact arm_raised hvalid hplayed hheard (isId_of_question hq) hr (by rw [hc]) (by rw [hc]) ha
  | armPresence c r s' base actId t tr hplayed hheard hphase hid hm hr hc ha =>
    refine .arm .secondArmed t actId base (toArm_of hplayed ?_ hheard ?_) rfl hr
      (by rw [hc]) (firing_of_played hplayed) ha ?_
    · rw [hphase]
      rfl
    · simp only [State.awaitedActId, hphase]
      exact hid
    · exact arm_raised hvalid hplayed hheard (hvalid.materialized _ (List.contains_iff_mem.mp hm))
        hr (by rw [hc]) (by rw [hc]) ha
  | armMoreTime c r s' base actId t tr hplayed hheard hphase hid hm hr hc ha =>
    refine .arm .moreTimeArmed t actId base (toArm_of hplayed ?_ hheard ?_) rfl hr
      (by rw [hc]) (firing_of_played hplayed) ha ?_
    · rw [hphase]
      rfl
    · simp only [State.awaitedActId, hphase]
      exact hid
    · exact arm_raised hvalid hplayed hheard (hvalid.materialized _ (List.contains_iff_mem.mp hm))
        hr (by rw [hc]) (by rw [hc]) ha
  | close c r s' base actId t tr hplayed hphase hid hm hp hr hc hi =>
    obtain ⟨hp', -, l', hc'⟩ := hi.fields
    exact .keep (by rw [hc', hc]) (by rw [hc', hc]) (by rw [hp', hp, hphase]; rfl)
      (hi.count (by decide)) (hi.count (by decide)) (firing_of_played hplayed)
  | fallbackPlayed c s' actId t hplayed hphase hp hr hc =>
    exact hgone (by rw [hphase]; rfl) hc (by rw [hp]; rfl) rfl rfl (firing_of_played hplayed)
  | firePresence p actionId revision r s' base tr hdue hphase hp hr hc hi =>
    obtain ⟨hp', -, l', hc'⟩ := hi.fields
    exact .fire (by rw [hc', hc]) (by rw [hc', hc]) (by rw [hp', hp]; rfl)
      (hi.count (by decide)) (hi.count (by decide)) hdue
  | fireClosing p actionId revision r s' base hdue hphase hp hr hc hi =>
    obtain ⟨hp', -, l', hc'⟩ := hi.fields
    exact .fire (by rw [hc', hc]) (by rw [hc', hc]) (by rw [hp', hp]; rfl)
      (hi.count (by decide)) (hi.count (by decide)) hdue
  | fallback kind p turnId n r s' base cancels hallowed hp hr hc harm hcancel hid hi =>
    obtain ⟨hp', -, l', hc'⟩ := hi.fields
    simp only [fallbackAllowed, Bool.and_eq_true] at hallowed
    have hkind : kind ≠ .armTimer ∧ kind ≠ .cancelTimer := by
      have hk : kind.isFallback = true := hallowed.1.1.1.1.1.1.1
      constructor <;> rintro rfl <;> cases hk
    have hgone : s'.cycle.deadlineMs = none ∧ s'.cycle.timerIntent = none ∧
        s'.phase.armed = false := by
      rw [hc', hc, hp', hp]
      exact ⟨rfl, rfl, rfl⟩
    obtain ⟨hd', ht', harmed'⟩ := hgone
    cases hi with
    | ok i hk ha hact hv =>
      refine .clear hd' ht' harmed' ?_ ?_ rfl
      · simp only [Reply.prepend, Reply.count_append, harm]
        simp [hk, hkind.1]
      · simp only [Reply.prepend, Reply.count_append, hcancel]
        simp [hk, hkind.2]
    | raised e hraise =>
      have hsome : s.cycle.deadlineMs.isSome = true := htidy.running.trans hallowed.1.1.1.1.2
      refine .lost e _ rfl ?_ (issue_raised ?_ ?_ (.raised e hraise)) hd' ht' harmed' rfl
      · simp only [lateId, fallbackAllowed, hallowed, hid hsome, Bool.and_self, if_true]
      · rw [hc]
        exact hallowed.1.1.1.1.1.1.2
      · rw [hc]
        exact .inl rfl
  | moreTime p r s' base i hgranted hi hid hp hr hc hissue =>
    obtain ⟨hp', -, l', hc'⟩ := hissue.fields
    have hgone : s'.cycle.deadlineMs = none ∧ s'.cycle.timerIntent = none ∧
        s'.phase.armed = false := by
      rw [hc', hc, hp', hp]
      exact ⟨rfl, rfl, rfl⟩
    obtain ⟨hd', ht', harmed'⟩ := hgone
    cases hissue with
    | ok j hk ha hact hv =>
      have hsome := (moreTimeGranted_spec hgranted).2.2
      refine .clear hd' ht' harmed' ?_ ?_ rfl
      · simp [Reply.prepend, hi, hk]
      · simp [Reply.prepend, hi, hk, hsome]
    | raised e hraise =>
      refine .lost e _ rfl ?_ (issue_raised ?_ ?_ (.raised e hraise)) hd' ht' harmed' rfl
      · simp only [lateId, hgranted, hid, Bool.and_self, if_true]
      · rw [hc]
        exact hvalid.turnId
      · rw [hc]
        exact hvalid.turnSequence

/-- A playback that begins a silence arms its timer. -/
theorem toArm_phase {s : State config} {c : Call config} {phase : SilencePhase} {t : ℤ}
    (h : toArm s c = some (phase, t)) : ((step config) s c).1.phase = phase := by
  obtain ⟨actId, hplayed, hbegins, hheard, hid⟩ := toArm_spec h
  rcases played_step hplayed (s := s) with ⟨hno, -⟩ | ⟨-, b, tr, hp, hr, hc, hstep⟩
  · exact absurd (hheard.symm.trans hno) (by decide)
  rw [hstep]
  unfold afterPlayback
  rw [hp, hc]
  simp only
  cases hphase : s.phase with
  | questionConfirmed =>
    simp only [hphase, SilencePhase.begins, State.awaitedActId] at hbegins hid
    cases hbegins
    rw [if_pos ⟨hid, rfl⟩]
    exact (arm_armed _ _ _ _).fields.1
  | presencePending =>
    simp only [hphase, SilencePhase.begins, State.awaitedActId] at hbegins hid
    cases hbegins
    rw [if_neg (by simp), if_pos ⟨hid, rfl⟩]
    exact (arm_armed _ _ _ _).fields.1
  | moreTimePending =>
    simp only [hphase, SilencePhase.begins, State.awaitedActId] at hbegins hid
    cases hbegins
    rw [if_neg (by simp), if_neg (by simp), if_pos ⟨hid, rfl⟩]
    exact (arm_armed _ _ _ _).fields.1
  | _ => simp [hphase, SilencePhase.begins] at hbegins

end Lifecycle

end HeyKevin.L5.Silence
