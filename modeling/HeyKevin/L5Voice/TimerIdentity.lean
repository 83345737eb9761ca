import Mathlib.Data.Prod.Lex
import HeyKevin.L5Voice.SilenceLadder
/-!
# When two timers share an id

A timer is known to whoever runs it by its action id, made of the revision and
the deadline. Within one revision the lifecycle moves through three stages, and
arms a timer on entering the second and the third: first for a silence, then
for the time the caller asked for. So two timers share their id exactly when
the acknowledgement of more time is played such that the extension ends at the
deadline the silence had; and only then can a firing of the first timer, which
was cancelled, be taken for the second.
-/
namespace HeyKevin.L5.Silence

open HeyKevin.Core L1.Text
open HeyKevin.L5.Voice (VoiceSemanticActKind)

/-- The timers a reply announces. -/
def Reply.arms : Reply → List CallIntent
  | .intents l => l.filter fun i => i.kind == .armTimer
  | _ => []

theorem Reply.arms_eq_nil {r : Reply} (h : r.count .armTimer = 0) : r.arms = [] := by
  cases r with
  | intents l =>
    simp only [Reply.count, List.countP_eq_zero] at h
    simpa [Reply.arms] using h
  | _ => rfl

/-- How far a revision has come. -/
def SilencePhase.stage : SilencePhase → ℕ
  | .idle | .questionReserved | .questionConfirmed | .presencePending | .fallbackPending => 0
  | .firstArmed | .secondArmed | .moreTimePending => 1
  | .moreTimeArmed | .closingPending | .terminalEligible | .terminated => 2

section Lifecycle

variable {config : Config}

def DistinctTimers (l : List (CallEvent config)) : Prop :=
  (l.flatMap fun e => e.resp.arms).Pairwise fun i j =>
    ¬ (i.actionId = j.actionId ∧ i.revision = j.revision)

/-- A call after which the timer announced before is no longer awaited: it was
cancelled, it fired, or the cycle was cleared. -/
def Supersedes (e : CallEvent config) : Prop :=
  e.resp.count .cancelTimer ≠ 0 ∨ firing e.pre e.call = true ∨ e.post.cycle.timerIntent = none

/-- A firing of a timer was accepted. -/
def Fires (e : CallEvent config) (i : CallIntent) : Prop :=
  firing e.pre e.call = true ∧ ∃ p, e.call = .timerFired p i.actionId i.revision

/-- Once superseded, a timer never fires. -/
def NeverRefires (l : List (CallEvent config)) : Prop :=
  ∀ l₁ a l₂ x l₃ f l₄, l = l₁ ++ a :: (l₂ ++ x :: (l₃ ++ f :: l₄)) →
    ∀ i ∈ a.resp.arms, Supersedes x → ¬ Fires f i

/-- In one revision, the extension that begins with `b` ends when the silence
that began with `a` would have. -/
def Coincide (a b : CallEvent config) : Prop :=
  a.pre.revision = b.pre.revision ∧ ∃ phase t u, toArm a.pre a.call = some (phase, t) ∧
    phase ≠ .moreTimeArmed ∧ toArm b.pre b.call = some (.moreTimeArmed, u) ∧
    t + config.silenceMs phase = u + config.moreTimeExtensionMs ∧
    config.isId (timerActionId a.pre.revision (t + config.silenceMs phase)) = true

theorem timerActionId_inj {n m : ℕ} {d d' : ℤ} (h : timerActionId n d = timerActionId m d') :
    n = m ∧ d = d' := by
  unfold timerActionId at h
  rw [List.append_assoc, List.append_assoc] at h
  have h' := List.append_cancel_left h
  obtain ⟨hn, hrest⟩ := decimal_append_inj (by decide) (by decide) h'
  simp only [List.cons.injEq, true_and] at hrest
  exact ⟨by exact_mod_cast hn, decimal_injective hrest⟩

theorem arms_move {s s' : State config} {c : Call config} {r : Reply} (h : TimerMove s c r s') :
    r.arms = [] ∨ ∃ i phase t, r.arms = [i] ∧ toArm s c = some (phase, t) ∧
      s'.phase = phase ∧ s'.revision = s.revision ∧ i.revision = s.revision ∧
      i.actionId = timerActionId s.revision (t + config.silenceMs phase) ∧
      config.isId i.actionId = true := by
  cases h with
  | keep hd ht hp harm => exact .inl (Reply.arms_eq_nil harm)
  | clear hd ht hp harm => exact .inl (Reply.arms_eq_nil harm)
  | fire hd ht hp harm => exact .inl (Reply.arms_eq_nil harm)
  | lost e actionId hr => exact .inl (by rw [hr]; rfl)
  | arm phase t actId base harm hp hr ht hfire ha hraise =>
    cases ha with
    | raised e => exact .inl rfl
    | ok i hk hrev hact hv =>
      refine .inr ⟨i, phase, t, ?_, harm, rfl, hr, hrev.trans hr, ?_, hv⟩
      · simp [Reply.arms, hk]
      · rw [hact, hr]

theorem receipt_move {s s' : State config} {c : Call config} {r : Reply} (h : TimerMove s c r s')
    {i : CallIntent} (hi : s'.cycle.timerIntent = some i) :
    s.cycle.timerIntent = some i ∨ i ∈ r.arms := by
  cases h with
  | keep hd ht => exact .inl (ht ▸ hi)
  | clear hd ht => rw [ht] at hi; cases hi
  | fire hd ht => rw [ht] at hi; cases hi
  | lost e actionId hr hlate hid hd ht => rw [ht] at hi; cases hi
  | arm phase t actId base harm hp hr ht hfire ha hraise =>
    cases ha with
    | raised e => exact .inl (ht ▸ hi)
    | ok j hk =>
      cases hi
      exact .inr (by simp [Reply.arms, hk])

theorem superseded_move {s s' : State config} {c : Call config} {r : Reply}
    (h : TimerMove s c r s') (hx : Supersedes ⟨s, c, r, s'⟩) : s'.cycle.timerIntent = none := by
  have hthird : r.count .cancelTimer = 0 → firing s c = false →
      s'.cycle.timerIntent = none := by
    intro hcancel hfire
    rcases hx with hx | hx | hx
    · exact absurd hcancel hx
    · exact absurd (hfire.symm.trans hx) (by decide)
    · exact hx
  cases h with
  | keep hd ht hp harm hcancel hfire => exact hthird hcancel hfire
  | clear hd ht => exact ht
  | fire hd ht => exact ht
  | lost e actionId hr hlate hid hd ht => exact ht
  | arm phase t actId base harm hp hr ht hfire ha hraise => exact hthird ha.count hfire

/-! ## Stages -/

/-- Where a lifecycle stands: its revision, then its stage. -/
def State.standing (s : State config) : ℕ ×ₗ ℕ := toLex (s.revision, s.phase.stage)

theorem standing_le {s s' : State config} (hr : s'.revision = s.revision)
    (hs : s.phase.stage ≤ s'.phase.stage) : s.standing ≤ s'.standing := by
  rw [Prod.Lex.le_iff]
  exact .inr ⟨hr.symm, hs⟩

theorem standing_lt {s s' : State config} (hr : s'.revision = s.revision + 1) :
    s.standing ≤ s'.standing := by
  rw [Prod.Lex.le_iff]
  refine .inl ?_
  show s.revision < s'.revision
  omega

theorem standing_turn {s s' : State config} {c : Call config} {r : Reply} (htidy : Tidy s)
    (hturn : Turn s c r s') : s.standing ≤ s'.standing := by
  cases hturn with
  | stay c r s' t hp hr => exact standing_le hr (by rw [hp])
  | reserve p q s' hphase hp hr => exact standing_le hr (by rw [hphase]; exact Nat.zero_le _)
  | rollback binding q s' hphase hd hp hr =>
    exact standing_le hr (by rw [hphase]; exact Nat.zero_le _)
  | confirm eventId sequence event s' hphase hq hp hr =>
    exact standing_le hr (by rw [hphase]; exact Nat.zero_le _)
  | hardTerminalize l s' hp hr => exact standing_lt hr
  | cancel p l s' hphase hp hr => exact standing_lt hr
  | sealed c b s' k hissued hp hr => exact standing_lt hr
  | materialize i m actId hissued hawaited =>
    obtain ⟨hp, hr, -⟩ := materialize_fields (s.popIssued i.actionId) i.kind (m.getD actId)
    exact standing_le hr (by rw [hp]; exact Nat.le_refl _)
  | armQuestion c r s' base actId t tr hplayed hheard hphase hq hr hc ha =>
    exact standing_le (ha.fields.2.1.trans hr) (by rw [hphase]; exact Nat.zero_le _)
  | armPresence c r s' base actId t tr hplayed hheard hphase hid hm hr hc ha =>
    exact standing_le (ha.fields.2.1.trans hr) (by rw [hphase]; exact Nat.zero_le _)
  | armMoreTime c r s' base actId t tr hplayed hheard hphase hid hm hr hc ha =>
    exact standing_le (ha.fields.2.1.trans hr) (by rw [hphase, ha.fields.1]; decide)
  | close c r s' base actId t tr hplayed hphase hid hm hp hr hc hi =>
    exact standing_le (hi.fields.2.1.trans hr) (by rw [hphase, hi.fields.1, hp]; decide)
  | fallbackPlayed c s' actId t hplayed hphase hp hr => exact standing_lt hr
  | firePresence p actionId revision r s' base tr hdue hphase hp hr hc hi =>
    exact standing_lt (hi.fields.2.1.trans hr)
  | fireClosing p actionId revision r s' base hdue hphase hp hr hc hi =>
    refine standing_le (hi.fields.2.1.trans hr) ?_
    rw [hi.fields.1, hp]
    rcases hphase with hphase | ⟨hphase, -⟩ <;> rw [hphase] <;> decide
  | fallback kind p turnId n r s' base cancels hallowed hp hr hc harm hcancel hid hi =>
    exact standing_lt (hi.fields.2.1.trans hr)
  | moreTime p r s' base i hgranted hi hid hp hr hc hissue =>
    refine standing_le (hissue.fields.2.1.trans hr) ?_
    obtain ⟨heligible, hunused, -⟩ := moreTimeGranted_spec hgranted
    rw [hissue.fields.1, hp]
    have hextended := htidy.extended
    rw [hunused] at hextended
    -- more time was not granted yet, so the caller is in a first or a second silence
    cases hphase : s.phase <;> rw [hphase] at heligible <;> simp_all [moreTimeEligible,
      SilencePhase.stage]

/-! ## Runs -/

structure Ordered (l : List (CallEvent config)) (s : State config) : Prop where
  tidy : Tidy s
  valid : Valid s
  moves : ∀ e ∈ l, TimerMove e.pre e.call e.resp e.post ∧
    ∀ phase t, toArm e.pre e.call = some (phase, t) → e.post.phase = phase
  standing : ∀ e ∈ l, e.post.standing ≤ s.standing
  ordered : l.Pairwise fun a b => a.post.standing ≤ b.pre.standing

theorem ordered_step {l : List (CallEvent config)} {s : State config} (h : Ordered l s)
    (c : Call config) : Ordered (l ++ [(step config).event s c]) ((step config) s c).1 := by
  have hturn := step_turn s c
  have hle := standing_turn h.tidy hturn
  refine ⟨tidy_turn h.tidy hturn, valid_turn h.valid (atMs_step s c) hturn, ?_, ?_, ?_⟩
  · intro e he
    rcases List.mem_append.mp he with he | he
    · exact h.moves e he
    · obtain rfl := List.mem_singleton.mp he
      exact ⟨timer_turn h.tidy h.valid hturn, fun phase t harm => toArm_phase harm⟩
  · intro e he
    rcases List.mem_append.mp he with he | he
    · exact (h.standing e he).trans hle
    · obtain rfl := List.mem_singleton.mp he
      exact le_refl _
  · rw [List.pairwise_append]
    refine ⟨h.ordered, List.pairwise_singleton _ _, fun a ha b hb => ?_⟩
    obtain rfl := List.mem_singleton.mp hb
    exact h.standing a ha

theorem Ordered.nil {s : State config} (htidy : Tidy s) (hvalid : Valid s) : Ordered [] s :=
  ⟨htidy, hvalid, fun _ h => (by cases h), fun _ h => (by cases h), List.Pairwise.nil⟩

theorem ordered_run {s : State config} (htidy : Tidy s) (hvalid : Valid s)
    (cs : List (Call config)) : Ordered ((step config).log s cs) ((step config).run s cs) :=
  (step config).log_inv (I := Ordered) (G := fun _ => True) (.nil htidy hvalid)
    (fun _ _ c h _ => ordered_step h c) cs fun _ _ => trivial

theorem SilencePhase.armed_of_begins {p q : SilencePhase} (h : p.begins = some q) :
    p.armed = false ∧ q.armed = true := by
  cases p <;> cases h <;> exact ⟨rfl, rfl⟩

theorem begins_stage {p p' q q' : SilencePhase} (h : p.begins = some q) (h' : p'.begins = some q')
    (hle : q.stage ≤ p'.stage) : q ≠ .moreTimeArmed ∧ q' = .moreTimeArmed := by
  cases p' with
  | moreTimePending =>
    cases h'
    refine ⟨?_, rfl⟩
    rintro rfl
    exact absurd hle (by decide)
  | _ =>
    cases p <;> cases h <;> cases h' <;> exact absurd hle (by decide)

theorem coincide_of_same {a b : CallEvent config} {i j : CallIntent}
    (ha : TimerMove a.pre a.call a.resp a.post) (hb : TimerMove b.pre b.call b.resp b.post)
    (hle : a.post.standing ≤ b.pre.standing) (hi : i ∈ a.resp.arms) (hj : j ∈ b.resp.arms)
    (hid : i.actionId = j.actionId) : Coincide a b := by
  rcases arms_move ha with hnil | ⟨i', phase, t, harms, harm, hp, hr, hir, hia, hv⟩
  · rw [hnil] at hi
    cases hi
  rcases arms_move hb with hnil | ⟨j', phase', u, harms', harm', hp', hr', hjr, hja, -⟩
  · rw [hnil] at hj
    cases hj
  rw [harms, List.mem_singleton] at hi
  rw [harms', List.mem_singleton] at hj
  subst hi hj
  obtain ⟨hrev, hd⟩ := timerActionId_inj (hia.symm.trans (hid.trans hja))
  have hstage : phase.stage ≤ b.pre.phase.stage := by
    rw [Prod.Lex.le_iff] at hle
    rcases hle with hlt | ⟨-, hle⟩
    · have : a.post.revision < b.pre.revision := hlt
      omega
    · rw [← hp]
      exact hle
  obtain ⟨-, -, hbegins, -⟩ := toArm_spec harm
  obtain ⟨-, -, hbegins', -⟩ := toArm_spec harm'
  obtain ⟨hne, rfl⟩ := begins_stage hbegins hbegins' hstage
  exact ⟨hrev, phase, t, u, harm, hne, harm', hd, hia ▸ hv⟩

theorem arms_of_toArm {s s' : State config} {c : Call config} {r : Reply} {phase : SilencePhase}
    {t : ℤ} (hmove : TimerMove s c r s') (harm : toArm s c = some (phase, t))
    (hphase : s'.phase = phase)
    (hid : config.isId (timerActionId s.revision (t + config.silenceMs phase)) = true) :
    ∃ i ∈ r.arms, i.revision = s.revision ∧
      i.actionId = timerActionId s.revision (t + config.silenceMs phase) := by
  obtain ⟨-, -, hbegins, -⟩ := toArm_spec harm
  obtain ⟨hnot, harmed⟩ := SilencePhase.armed_of_begins hbegins
  rw [← hphase] at harmed
  cases hmove with
  | keep hd ht hp => exact absurd (harmed.symm.trans (hp.trans hnot)) (by decide)
  | clear hd ht hp => exact absurd (harmed.symm.trans hp) (by decide)
  | fire hd ht hp => exact absurd (harmed.symm.trans hp) (by decide)
  | lost m actionId hr hlate hid hd ht hp => exact absurd (harmed.symm.trans hp) (by decide)
  | arm phase' t' actId base harm' hp hr ht hfire ha hraise =>
    rw [harm] at harm'
    cases harm'
    rw [hid] at hraise
    cases ha with
    | ok i hk hrev hact hv =>
      exact ⟨i, by simp [Reply.arms, hk], hrev.trans hr, by rw [hact, hr]⟩
    | raised e => exact absurd (hraise e rfl) (by decide)

theorem distinct_iff {l : List (CallEvent config)} {s : State config} (h : Ordered l s) :
    DistinctTimers l ↔ l.Pairwise fun a b => ¬ Coincide a b := by
  unfold DistinctTimers
  rw [List.pairwise_flatMap]
  constructor
  · rintro ⟨-, hdistinct⟩
    refine hdistinct.imp_of_mem fun ha hb hab => ?_
    rintro ⟨hrev, phase, t, u, harm, hne, harm', hd, hid⟩
    obtain ⟨hmove, hphase⟩ := h.moves _ ha
    obtain ⟨hmove', hphase'⟩ := h.moves _ hb
    obtain ⟨i, hi, hir, hia⟩ := arms_of_toArm hmove harm (hphase _ _ harm) hid
    obtain ⟨j, hj, hjr, hja⟩ := arms_of_toArm hmove' harm' (hphase' _ _ harm')
      (by rw [← hrev]; exact hd ▸ hid)
    refine hab i hi j hj ⟨?_, ?_⟩
    · rw [hia, hja, hrev, hd]
      rfl
    · rw [hir, hjr, hrev]
  · intro hno
    refine ⟨fun e he => ?_, ?_⟩
    · rcases arms_move (h.moves e he).1 with hnil | ⟨i, -, -, harms, -⟩
      · rw [hnil]
        exact List.Pairwise.nil
      · rw [harms]
        exact List.pairwise_singleton _ _
    · refine (hno.and h.ordered).imp_of_mem fun ha hb hab i hi j hj hsame => ?_
      exact hab.1 (coincide_of_same (h.moves _ ha).1 (h.moves _ hb).1 hab.2 hi hj hsame.1)

theorem receipt_run {s : State config} (htidy : Tidy s) (hvalid : Valid s)
    (hnone : s.cycle.timerIntent = none) (cs : List (Call config)) {i : CallIntent}
    (hi : ((step config).run s cs).cycle.timerIntent = some i) :
    ∃ b ∈ (step config).log s cs, i ∈ b.resp.arms := by
  have hrun := (step config).log_inv (G := fun _ => True)
    (I := fun l t => Ordered l t ∧ ∀ i, t.cycle.timerIntent = some i → ∃ b ∈ l, i ∈ b.resp.arms)
    ⟨.nil htidy hvalid, fun i h => by rw [hnone] at h; cases h⟩ ?_ cs fun _ _ => trivial
  · exact hrun.2 i hi
  · intro l t c ⟨hord, hreceipt⟩ _
    refine ⟨ordered_step hord c, fun i hi => ?_⟩
    have hmove := timer_turn hord.tidy hord.valid (step_turn t c)
    rcases receipt_move hmove hi with hi | hi
    · obtain ⟨b, hb, hib⟩ := hreceipt i hi
      exact ⟨b, List.mem_append_left _ hb, hib⟩
    · exact ⟨(step config).event t c, by simp, hi⟩

theorem firing_receipt {s : State config} {p : Position} {actionId : Str} {revision : ℤ}
    (h : timerDue s p actionId revision = true) :
    ∃ i, s.cycle.timerIntent = some i ∧ actionId = i.actionId ∧ revision = i.revision := by
  simp only [timerDue, Bool.and_eq_true, Option.any_eq_true, decide_eq_true_eq] at h
  obtain ⟨⟨⟨⟨-, i, hi, ha, hr⟩, -⟩, -⟩, -⟩ := h
  exact ⟨i, hi, ha, hr⟩

theorem never_refires {s : State config} (htidy : Tidy s) (hvalid : Valid s)
    {cs : List (Call config)} (hdistinct : DistinctTimers ((step config).log s cs)) :
    NeverRefires ((step config).log s cs) := by
  intro l₁ a l₂ x l₃ f l₄ hlog i hi hx ⟨hfire, p, hcall⟩
  have hpairs := hdistinct
  unfold DistinctTimers at hpairs
  rw [List.pairwise_flatMap, hlog, List.pairwise_append, List.pairwise_cons] at hpairs
  have hafter := hpairs.2.2.1.1
  rw [show l₁ ++ a :: (l₂ ++ x :: (l₃ ++ f :: l₄)) = (l₁ ++ a :: l₂) ++ x :: (l₃ ++ f :: l₄) by
    simp] at hlog
  obtain ⟨cs₁, c, cs₂, -, -, rfl, hrest⟩ := (step config).log_eq_append_cons hlog
  obtain ⟨cs₃, d, cs₄, -, rfl, rfl, -⟩ := (step config).log_eq_append_cons hrest.symm
  obtain ⟨htidy', hvalid', -⟩ := ordered_run htidy hvalid cs₁
  have hturn := step_turn ((step config).run s cs₁) c
  have hmove := timer_turn htidy' hvalid' hturn
  have hnone := superseded_move hmove hx
  simp only [Machine.event_call] at hcall
  subst hcall
  obtain ⟨j, hj, hja, hjr⟩ := firing_receipt hfire
  obtain ⟨b, hb, hjb⟩ := receipt_run (tidy_turn htidy' hturn)
    (valid_turn hvalid' (atMs_step _ c) hturn) hnone cs₃ hj
  refine hafter b ?_ i hi j hjb ⟨hja, by exact_mod_cast hjr⟩
  simp [hb]

end Lifecycle

/-- **When a silenced timer can fire.** In every run, no two timers ever
announced share action id and revision, and no timer that was cancelled, fired
or cleared away fires again, exactly when no acknowledgement of more time is
played, in the revision of an earlier silence, such that the extension ends at
the deadline of that silence. -/
theorem timers_distinct_iff (config : Config) (voice : Voice.State) (cs : List (Call config)) :
    (DistinctTimers ((step config).log (State.start config voice) cs) ∧
      NeverRefires ((step config).log (State.start config voice) cs)) ↔
    ((step config).log (State.start config voice) cs).Pairwise fun a b => ¬ Coincide a b := by
  have hrun := ordered_run (Tidy.start voice) (Valid.start config voice) cs
  rw [← distinct_iff hrun]
  exact ⟨fun h => h.1, fun h => ⟨h, never_refires (.start voice) (.start _ voice) h⟩⟩

theorem exampleAcknowledged_valid : py "x2" ≠ [] ∧ (py "x2").length ≤ 128 := by decide

/-- The acknowledgement of more time is consumed and heard, 10 s after the
question: the extension ends when the first silence would have. -/
def exampleAcknowledged : List (Call exampleConfig) :=
  .consumeIntent (exampleIntent .requestMoreTimeAcknowledgement 0 (moreTimeActId 0 3) 3)
    (some (py "x2")) ::
      examplePlayed ⟨py "x2", exampleAcknowledged_valid⟩ .acknowledgement 6 11000 "e4" 4

def exampleExtended : List (Call exampleConfig) :=
  exampleReserved ++ exampleQuestionHeard :: ([] ++ .requestMoreTime (exampleAt "e3" 3 5000) ::
    (exampleAcknowledged ++ [.timerFired (exampleAt "e5" 5 31000) (timerActionId 0 31000) 0]))

def exampleTimer : CallIntent :=
  ⟨.armTimer, Voice.exampleBinding, 0, timerActionId 0 31000, some (py "x1"), some 31000,
    some (py "x1"), none, 2⟩

/-- The timer that was cancelled when more time was granted fires. -/
theorem exampleExtended_refires :
    ¬ NeverRefires ((step exampleConfig).log (.start _ (.start Voice.exampleBinding))
      exampleExtended) := by
  intro h
  unfold exampleExtended at h
  rw [Machine.log_append_cons, Machine.log_append_cons, Machine.log_append_cons] at h
  refine h _ _ _ _ _ _ _ rfl exampleTimer ?_ (.inl ?_) ⟨?_, _, rfl⟩
  · decide
  · decide
  · decide

end HeyKevin.L5.Silence
