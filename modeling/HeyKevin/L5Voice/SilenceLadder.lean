import Mathlib.Data.List.DropRight
import HeyKevin.L5Voice.Timer
import HeyKevin.L5Voice.PlaybackProof
/-!
# Nobody is hung up on before the ladder is climbed

A call becomes eligible for hanging up only in a silence cycle whose rungs are,
in order: a reserved and confirmed question that was played, a silence, a
presence check that was consumed and played, another silence, a closing that
was consumed and played.

**Proof.** `Path` says, for each phase, which rungs the current cycle has taken
and which act is awaited; one turn adds its rung or leaves the cycle
(`path_turn`). `Climbed` adds where the deadline comes from and that more time
was granted at most once, and holds after every run.
-/
namespace HeyKevin.L5.Silence

open HeyKevin.Core L1.Text
open HeyKevin.L5.Voice (VoiceEvent VoiceSessionBinding VoiceSemanticActKind)

/-- The phases of a silence cycle. -/
def SilencePhase.climbing : SilencePhase → Bool
  | .idle | .fallbackPending | .terminated => false
  | _ => true

def Reply.returned : Reply → Bool
  | .raised _ => false
  | _ => true

section Lifecycle

variable {config : Config}

/-- The current silence cycle: the events since the lifecycle was last idle,
in a fallback or terminated. -/
def cycleOf (l : List (CallEvent config)) : List (CallEvent config) :=
  l.rtakeWhile fun e => e.post.phase.climbing

def rungs (l : List (CallEvent config)) : List Rung := (cycleOf l).filterMap rung

/-- More time was granted: the lifecycle now waits for the acknowledgement. -/
def granted (e : CallEvent config) : Bool :=
  e.pre.phase != .moreTimePending && e.post.phase == .moreTimePending

/-- An accepted cancel or fallback. A call that raised did not happen. -/
def restarts (e : CallEvent config) : Bool :=
  e.resp.returned &&
    match e.call with
    | .cancel p => !deadlineExpired e.pre p.atMs && e.pre.canAcceptPosition p
    | .requestFixedFallback kind p turnId turnSequence =>
      fallbackAllowed e.pre kind p turnId turnSequence
    | _ => false

/-- The deadline is the one this cycle armed, by the playback that began the
silence. -/
def ArmedIn (l : List (CallEvent config)) (s : State config) : Prop :=
  ∃ a ∈ cycleOf l, ∃ actId t, a.call.played = some (actId, t) ∧ a.post.phase = s.phase ∧
    s.cycle.deadlineMs = some (t + config.silenceMs s.phase)

/-- The accepted timer of a silence of this cycle that is over. -/
def Due (l : List (CallEvent config)) (e : CallEvent config) : Prop :=
  ArmedIn l e.pre ∧ ∃ p actionId revision, e.call = .timerFired p actionId revision ∧
    timerDue e.pre p actionId revision = true ∧
      ∃ d, e.pre.cycle.deadlineMs = some d ∧ d ≤ p.atMs

/-- The evidence of a playback: the canonical lifecycle accepts that the
caller heard it, or the transport resolved it long enough before. -/
def evidenced (s : State config) : Call config → Bool
  | .playback p actId evidence inferenceId transportId =>
    evidence == .playbackInferred && inferable s actId inferenceId transportId p.atMs
  | .observedPlayback _ _ event => Voice.acceptsCallerPlayback s.voice event
  | _ => false

/-- What stands behind a rung, beyond the phases it joins. -/
def Backed (l : List (CallEvent config)) (e : CallEvent config) : Rung → Prop
  | .questionPlayed _ | .presencePlayed _ | .closingPlayed _ => evidenced e.pre e.call = true
  | .silenceFired => Due l e ∧ (e.pre.phase = .firstArmed ∨ e.pre.phase = .moreTimeArmed)
  | .closingFired => Due l e ∧ (e.pre.phase = .secondArmed ∨ e.pre.phase = .moreTimeArmed)
  | _ => True

/-! ## The rungs of a phase -/

def asked (q : Str) : List Rung := [.reserved q, .confirmed q, .questionPlayed q]

def attended (q p : Str) : List Rung :=
  asked q ++ [.silenceFired, .presenceConsumed p, .presencePlayed p]

/-- The full ladder. -/
def ladder (q p c : Str) : List Rung :=
  attended q p ++ [.closingFired, .closingConsumed c, .closingPlayed c]

/-- An act was requested after the rungs `l₀`: it is not consumed yet, or it is
the one act in flight. -/
def Awaiting (acts : List Str) (id : Option Str) (l₀ : List Rung) (consumed : Str → Rung)
    (l : List Rung) : Prop :=
  (acts = [] ∧ l = l₀) ∨ ∃ a, acts = [a] ∧ id = some a ∧ l = l₀ ++ [consumed a]

/-- The rungs a cycle has taken when it is in a phase. -/
def Path (c : Cycle config) (l : List Rung) : SilencePhase → Prop
  | .idle | .fallbackPending | .terminated => l = []
  | .questionReserved =>
    c.presenceDelivered = false ∧ ∃ q, c.questionActId = some q ∧ l = [.reserved q]
  | .questionConfirmed =>
    c.presenceDelivered = false ∧ ∃ q, c.questionActId = some q ∧ l = [.reserved q, .confirmed q]
  | .firstArmed => c.presenceDelivered = false ∧ ∃ q, l = asked q
  | .secondArmed => c.presenceDelivered = true ∧ ∃ q p, l = attended q p
  | .moreTimePending | .moreTimeArmed =>
    (c.presenceDelivered = false ∧ ∃ q, l = asked q) ∨
      (c.presenceDelivered = true ∧ ∃ q p, l = attended q p)
  | .presencePending => ∃ q,
    Awaiting c.materializedActIds c.presenceId (asked q ++ [.silenceFired]) .presenceConsumed l
  | .closingPending => ∃ q p,
    Awaiting c.materializedActIds c.closingId (attended q p ++ [.closingFired]) .closingConsumed l
  | .terminalEligible => ∃ q p a, l = ladder q p a

theorem Path.outside {c : Cycle config} {phase : SilencePhase} (h : phase.climbing = false) :
    Path c [] phase := by
  cases phase <;> first | rfl | cases h

/-- A turn that takes no rung and keeps the phase keeps the path. -/
theorem Path.stay {c c' : Cycle config} {l : List Rung} {phase : SilencePhase} (h : Path c l phase)
    (hq : c'.question = c.question) (hdel : c'.presenceDelivered = c.presenceDelivered)
    (hm : c'.materializedActIds = c.materializedActIds) (hpid : c'.presenceId = c.presenceId)
    (hcid : c'.closingId = c.closingId) : Path c' l phase := by
  have hq' : c'.questionActId = c.questionActId := by
    unfold Cycle.questionActId
    rw [hq]
  cases phase <;> simp only [Path, hq', hdel, hm, hpid, hcid] at h ⊢ <;> exact h

/-- Consuming the awaited act takes its rung. -/
theorem Awaiting.consume {acts : List Str} {id : Option Str} {l₀ l : List Rung}
    {consumed : Str → Rung} (h : Awaiting acts id l₀ consumed l) (hacts : acts = []) (a : Str) :
    Awaiting [a] (some a) l₀ consumed (l ++ [consumed a]) := by
  rcases h with ⟨-, rfl⟩ | ⟨b, hb, -⟩
  · exact .inr ⟨a, rfl, rfl, rfl⟩
  · rw [hacts] at hb
    cases hb

/-- Playing the awaited act finds it consumed. -/
theorem Awaiting.play {acts : List Str} {id : Option Str} {l₀ l : List Rung}
    {consumed : Str → Rung} {a : Str} (h : Awaiting acts id l₀ consumed l)
    (hid : id = some a) (hm : acts.contains a = true) : l = l₀ ++ [consumed a] := by
  rcases h with ⟨hnone, -⟩ | ⟨b, -, hb, rfl⟩
  · rw [hnone] at hm
    cases hm
  · cases hid.symm.trans hb
    rfl

theorem Path.armed {c : Cycle config} {l : List Rung} {phase : SilencePhase} (h : Path c l phase)
    (hp : phase.armed = true) : (c.presenceDelivered = false ∧ ∃ q, l = asked q) ∨
      (c.presenceDelivered = true ∧ ∃ q p, l = attended q p) := by
  cases phase with
  | firstArmed => exact .inl h
  | secondArmed => exact .inr h
  | moreTimeArmed => exact h
  | _ => cases hp

theorem path_materialize {s : State config} {l : List Rung} {i : CallIntent} {m : Option Str}
    {actId : Str} (h : Path s.cycle l s.phase) (hm : s.cycle.materializedActIds = [])
    (hawaited : awaited s i = true) (hact : i.actId = some actId) :
    let s' := materialize (s.popIssued i.actionId) i.kind (m.getD actId)
    Path s'.cycle (l ++ (rung ⟨s, .consumeIntent i m, .bool true, s'⟩).toList) s'.phase := by
  intro s'
  have hrung : rung ⟨s, .consumeIntent i m, .bool true, s'⟩ =
      consumedRung i.kind (m.getD actId) := by
    simp [rung, hact]
  have hp : s'.phase = s.phase := (materialize_fields _ _ _).1
  rw [hrung, hp]
  simp only [awaited, Bool.or_eq_true, Bool.and_eq_true, beq_iff_eq] at hawaited
  rcases hawaited with ((⟨⟨hk, hphase⟩, -⟩ | ⟨⟨hk, hphase⟩, -⟩) | ⟨⟨hk, hphase⟩, -⟩) |
    ⟨⟨⟨hk, hphase⟩, -⟩, -⟩
  · rw [hphase] at h ⊢
    obtain ⟨q, h⟩ := h
    refine ⟨q, ?_⟩
    simp only [s', hk, materialize, State.popIssued, hm]
    exact h.consume hm _
  · rw [hphase] at h ⊢
    simp only [s', hk, materialize, State.popIssued]
    simpa [consumedRung, Path] using h
  · rw [hphase] at h ⊢
    obtain ⟨q, p, h⟩ := h
    refine ⟨q, p, ?_⟩
    simp only [s', hk, materialize, State.popIssued, hm]
    exact h.consume hm _
  · rw [hphase] at h ⊢
    have hnone : consumedRung i.kind (m.getD actId) = none := by
      simp only [CallIntentKind.isFallback, Bool.or_eq_true, beq_iff_eq] at hk
      rcases hk with hk | hk <;> rw [hk] <;> rfl
    rw [hnone, Option.toList_none, List.append_nil]
    exact h

/-- A turn adds its rung to the path, or leaves the cycle. -/
theorem path_turn {s s' : State config} {c : Call config} {r : Reply} {l : List Rung}
    (h : Path s.cycle l s.phase) (htidy : Tidy s) (hturn : Turn s c r s') :
    s'.phase.climbing = true →
      Path s'.cycle (l ++ (rung ⟨s, c, r, s'⟩).toList) s'.phase := by
  intro hclimb
  cases hturn with
  | stay c r s' t hp hr hc harm hcancel hfire hrung =>
    rw [hrung, Option.toList_none, List.append_nil, hp]
    exact h.stay (by rw [hc]) (by rw [hc]) (by rw [hc]) (by rw [hc]) (by rw [hc])
  | reserve p q s' hphase hp hr hc =>
    rw [hphase] at h
    obtain rfl : l = [] := h
    rw [hp, hc]
    exact ⟨rfl, q.actId.val, rfl, rfl⟩
  | rollback binding q s' hphase hd hp => rw [hp] at hclimb; cases hclimb
  | confirm eventId sequence event s' hphase hq hp hr hc =>
    rw [hphase] at h
    obtain ⟨hdel, q, hq', rfl⟩ := h
    cases hq.symm.trans hq'
    rw [hp, hc]
    exact ⟨hdel, _, hq, rfl⟩
  | hardTerminalize l s' hp => rw [hp] at hclimb; cases hclimb
  | cancel p l s' hphase hp => rw [hp] at hclimb; cases hclimb
  | sealed c b s' k hissued hp => rw [hp] at hclimb; cases hclimb
  | materialize i m actId hissued hawaited hact hid =>
    obtain ⟨-, hm⟩ := htidy.inFlight.pop (k := i.actionId) (by rw [hissued]; rfl)
    exact path_materialize h hm hawaited hact
  | armQuestion c r s' base actId t tr hplayed hheard hphase hq hr hc ha =>
    obtain ⟨hp, -, t', hc'⟩ := ha.fields
    rw [hphase] at h
    obtain ⟨hdel, q, hq', rfl⟩ := h
    cases hq.symm.trans hq'
    rw [(rung_played hplayed).1, hphase, hp]
    refine ⟨?_, actId, rfl⟩
    rw [hc', hc]
    exact hdel
  | armPresence c r s' base actId t tr hplayed hheard hphase hid hm hr hc ha =>
    obtain ⟨hp, -, t', hc'⟩ := ha.fields
    rw [hphase] at h
    obtain ⟨q, h⟩ := h
    rw [h.play hid hm, (rung_played hplayed).1, hphase, hp]
    refine ⟨?_, q, actId, by simp [playedRung, attended]⟩
    rw [hc', hc]
  | armMoreTime c r s' base actId t tr hplayed hheard hphase hid hm hr hc ha =>
    obtain ⟨hp, -, t', hc'⟩ := ha.fields
    rw [hphase] at h
    rw [(rung_played hplayed).1, hphase, hp, hc', hc]
    simpa [playedRung, Path] using h
  | close c r s' base actId t tr hplayed hphase hid hm hp hr hc hi =>
    rw [hphase] at h
    obtain ⟨q, p, h⟩ := h
    rw [h.play hid hm, (rung_played hplayed).1, hphase, hi.fields.1, hp]
    exact ⟨q, p, actId, by simp [playedRung, ladder]⟩
  | fallbackPlayed c s' actId t hplayed hphase hp => rw [hp] at hclimb; cases hclimb
  | firePresence p actionId revision r s' base tr hdue hphase hp hr hc hi =>
    obtain ⟨hp', -, l', hc'⟩ := hi.fields
    have hasked : ∃ q, l = asked q := by
      rcases hphase with hphase | ⟨hphase, hdel⟩
      · rw [hphase] at h
        exact h.2
      · rcases h.armed (timerDue_armed hdue) with h | h
        · exact h.2
        · rw [hdel] at h
          cases h.1
    obtain ⟨q, rfl⟩ := hasked
    have hm := (htidy.settled (SilencePhase.pending_of_armed (timerDue_armed hdue))).2
    rw [hp', hp, hc', hc]
    refine ⟨q, .inl ⟨hm, ?_⟩⟩
    simp [rung, firedRung, timerDue_armed hdue, hp', hp]
  | fireClosing p actionId revision r s' base hdue hphase hp hr hc hi =>
    obtain ⟨hp', -, l', hc'⟩ := hi.fields
    have hattended : ∃ q p, l = attended q p := by
      rcases hphase with hphase | ⟨hphase, hdel⟩
      · rw [hphase] at h
        exact h.2
      · rcases h.armed (timerDue_armed hdue) with h | h
        · rw [hdel] at h
          cases h.1
        · exact h.2
    obtain ⟨q, a, rfl⟩ := hattended
    have hm := (htidy.settled (SilencePhase.pending_of_armed (timerDue_armed hdue))).2
    rw [hp', hp, hc', hc]
    refine ⟨q, a, .inl ⟨hm, ?_⟩⟩
    simp [rung, firedRung, timerDue_armed hdue, hp', hp]
  | fallback kind p turnId turnSequence r s' base cancels hallowed hp hr hc harm hcancel hid hi =>
    rw [hi.fields.1, hp] at hclimb
    cases hclimb
  | moreTime p r s' base i hgranted hi hid hp hr hc hissue =>
    obtain ⟨hp', -, l', hc'⟩ := hissue.fields
    rw [hp', hp, hc', hc]
    simpa [rung, Path] using h.armed (htidy.running ▸ (moreTimeGranted_spec hgranted).2.2)

/-! ## More time and the deadline -/

theorem extension_turn {s s' : State config} {c : Call config} {r : Reply}
    (hturn : Turn s c r s') (hclimb : s'.phase.climbing = true) :
    (s.phase = .idle ∧ granted ⟨s, c, r, s'⟩ = false) ∨
      (granted ⟨s, c, r, s'⟩ = false ∧ s'.cycle.moreTimeUsed = s.cycle.moreTimeUsed) ∨
      (s.cycle.moreTimeUsed = false ∧ s'.cycle.moreTimeUsed = true) := by
  have hother : s'.phase ≠ .moreTimePending → granted ⟨s, c, r, s'⟩ = false := by
    intro hne
    simp [granted, hne]
  have hkept : s'.phase = s.phase → granted ⟨s, c, r, s'⟩ = false := by
    intro heq
    simp [granted, heq]
  cases hturn with
  | stay c r s' t hp hr hc => exact .inr (.inl ⟨hkept hp, by rw [hc]⟩)
  | reserve p q s' hphase hp => exact .inl ⟨hphase, hother (by rw [hp]; decide)⟩
  | rollback binding q s' hphase hd hp => rw [hp] at hclimb; cases hclimb
  | confirm eventId sequence event s' hphase hq hp hr hc =>
    exact .inr (.inl ⟨hother (by rw [hp]; decide), by rw [hc]⟩)
  | hardTerminalize l s' hp => rw [hp] at hclimb; cases hclimb
  | cancel p l s' hphase hp => rw [hp] at hclimb; cases hclimb
  | sealed c b s' k hissued hp => rw [hp] at hclimb; cases hclimb
  | materialize i m actId hissued hawaited hact hid =>
    obtain ⟨hp, -, -, -, -, -, hu, -⟩ :=
      materialize_fields (s.popIssued i.actionId) i.kind (m.getD actId)
    exact .inr (.inl ⟨hkept hp, hu⟩)
  | armQuestion c r s' base actId t tr hplayed hheard hphase hq hr hc ha =>
    obtain ⟨hp, -, t', hc'⟩ := ha.fields
    exact .inr (.inl ⟨hother (by rw [hp]; decide), by rw [hc', hc]⟩)
  | armPresence c r s' base actId t tr hplayed hheard hphase hid hm hr hc ha =>
    obtain ⟨hp, -, t', hc'⟩ := ha.fields
    exact .inr (.inl ⟨hother (by rw [hp]; decide), by rw [hc', hc]⟩)
  | armMoreTime c r s' base actId t tr hplayed hheard hphase hid hm hr hc ha =>
    obtain ⟨hp, -, t', hc'⟩ := ha.fields
    exact .inr (.inl ⟨hother (by rw [hp]; decide), by rw [hc', hc]⟩)
  | close c r s' base actId t tr hplayed hphase hid hm hp hr hc hi =>
    obtain ⟨hp', -, l', hc'⟩ := hi.fields
    exact .inr (.inl ⟨hother (by rw [hp', hp]; decide), by rw [hc', hc]⟩)
  | fallbackPlayed c s' actId t hplayed hphase hp => rw [hp] at hclimb; cases hclimb
  | firePresence p actionId revision r s' base tr hdue hphase hp hr hc hi =>
    obtain ⟨hp', -, l', hc'⟩ := hi.fields
    exact .inr (.inl ⟨hother (by rw [hp', hp]; decide), by rw [hc', hc]⟩)
  | fireClosing p actionId revision r s' base hdue hphase hp hr hc hi =>
    obtain ⟨hp', -, l', hc'⟩ := hi.fields
    exact .inr (.inl ⟨hother (by rw [hp', hp]; decide), by rw [hc', hc]⟩)
  | fallback kind p turnId turnSequence r s' base cancels hallowed hp hr hc harm hcancel hid hi =>
    rw [hi.fields.1, hp] at hclimb
    cases hclimb
  | moreTime p r s' base i hgranted hi hid hp hr hc hissue =>
    obtain ⟨hp', -, l', hc'⟩ := hissue.fields
    exact .inr (.inr ⟨(moreTimeGranted_spec hgranted).2.1, by rw [hc', hc]⟩)

/-- In an armed phase a turn keeps the deadline, or armed it. -/
theorem deadline_turn {s s' : State config} {c : Call config} {r : Reply}
    (hturn : Turn s c r s') (harmed : s'.phase.armed = true) :
    (s'.phase = s.phase ∧ s'.cycle.deadlineMs = s.cycle.deadlineMs) ∨
      ∃ actId t, c.played = some (actId, t) ∧
        s'.cycle.deadlineMs = some (t + config.silenceMs s'.phase) := by
  cases hturn with
  | stay c r s' t hp hr hc => exact .inl ⟨hp, by rw [hc]⟩
  | reserve p q s' hphase hp => rw [hp] at harmed; cases harmed
  | rollback binding q s' hphase hd hp => rw [hp] at harmed; cases harmed
  | confirm eventId sequence event s' hphase hq hp => rw [hp] at harmed; cases harmed
  | hardTerminalize l s' hp => rw [hp] at harmed; cases harmed
  | cancel p l s' hphase hp => rw [hp] at harmed; cases harmed
  | sealed c b s' k hissued hp => rw [hp] at harmed; cases harmed
  | materialize i m actId hissued hawaited hact hid =>
    obtain ⟨hp, -, -, -, hd, -⟩ := materialize_fields (s.popIssued i.actionId) i.kind (m.getD actId)
    exact .inl ⟨hp, hd⟩
  | armQuestion c r s' base actId t tr hplayed hheard hphase hq hr hc ha =>
    obtain ⟨hp, -, t', hc'⟩ := ha.fields
    exact .inr ⟨actId, t, hplayed, by rw [hc', hp]; rfl⟩
  | armPresence c r s' base actId t tr hplayed hheard hphase hid hm hr hc ha =>
    obtain ⟨hp, -, t', hc'⟩ := ha.fields
    exact .inr ⟨actId, t, hplayed, by rw [hc', hp]; rfl⟩
  | armMoreTime c r s' base actId t tr hplayed hheard hphase hid hm hr hc ha =>
    obtain ⟨hp, -, t', hc'⟩ := ha.fields
    exact .inr ⟨actId, t, hplayed, by rw [hc', hp]; rfl⟩
  | close c r s' base actId t tr hplayed hphase hid hm hp hr hc hi =>
    rw [hi.fields.1, hp] at harmed
    cases harmed
  | fallbackPlayed c s' actId t hplayed hphase hp => rw [hp] at harmed; cases harmed
  | firePresence p actionId revision r s' base tr hdue hphase hp hr hc hi =>
    rw [hi.fields.1, hp] at harmed
    cases harmed
  | fireClosing p actionId revision r s' base hdue hphase hp hr hc hi =>
    rw [hi.fields.1, hp] at harmed
    cases harmed
  | fallback kind p turnId turnSequence r s' base cancels hallowed hp hr hc harm hcancel hid hi =>
    rw [hi.fields.1, hp] at harmed
    cases harmed
  | moreTime p r s' base i hgranted hi hid hp hr hc hissue =>
    rw [hissue.fields.1, hp] at harmed
    cases harmed

theorem SilencePhase.climbing_of_armed {p : SilencePhase} (h : p.armed = true) :
    p.climbing = true := by
  cases p <;> first | rfl | cases h

/-! ## The cycle so far -/

structure Climbed (l : List (CallEvent config)) (s : State config) : Prop where
  tidy : Tidy s
  path : Path s.cycle (rungs l) s.phase
  outside : s.phase.climbing = false → cycleOf l = []
  extension : (cycleOf l).countP granted ≤ if s.cycle.moreTimeUsed then 1 else 0
  armedIn : s.phase.armed = true → ArmedIn l s

theorem Climbed.start (voice : Voice.State) : Climbed [] (State.start config voice) :=
  ⟨Tidy.start voice, rfl, fun _ => rfl, Nat.le_refl 0, fun h => (by cases h)⟩

theorem climbed_step {l : List (CallEvent config)} {s : State config} (h : Climbed l s)
    (c : Call config) :
    Climbed (l ++ [(step config).event s c]) ((step config) s c).1 := by
  have hturn := step_turn s c
  have htidy := tidy_turn h.tidy hturn
  cases hclimb : ((step config) s c).1.phase.climbing with
  | false =>
    have hnil : cycleOf (l ++ [(step config).event s c]) = [] := by
      unfold cycleOf
      exact List.rtakeWhile_concat_neg _ _ _ (by simp [hclimb])
    refine ⟨htidy, ?_, fun _ => hnil, ?_, fun harmed => ?_⟩
    · unfold rungs
      rw [hnil]
      exact .outside hclimb
    · rw [hnil]
      exact Nat.zero_le _
    · rw [SilencePhase.climbing_of_armed harmed] at hclimb
      cases hclimb
  | true =>
    have hcons : cycleOf (l ++ [(step config).event s c]) =
        cycleOf l ++ [(step config).event s c] := by
      unfold cycleOf
      exact List.rtakeWhile_concat_pos _ _ _ hclimb
    refine ⟨htidy, ?_, fun hout => ?_, ?_, fun harmed => ?_⟩
    · unfold rungs
      rw [hcons, List.filterMap_append]
      have hpath := path_turn h.path h.tidy hturn hclimb
      cases hrung : rung ((step config).event s c) with
      | none =>
        rw [show rung ⟨s, c, _, _⟩ = none from hrung] at hpath
        simpa [hrung, rungs] using hpath
      | some r =>
        rw [show rung ⟨s, c, _, _⟩ = some r from hrung] at hpath
        simpa [hrung, rungs] using hpath
    · rw [hclimb] at hout
      cases hout
    · rw [hcons, List.countP_append, List.countP_singleton]
      have hext := h.extension
      have hone : (if granted ((step config).event s c) then 1 else 0) ≤ 1 := by
        split <;> omega
      rcases extension_turn hturn hclimb with ⟨hidle, hno⟩ | ⟨hno, hu⟩ | ⟨hu, hu'⟩
      · -- the cycle begins here, with a reservation
        rw [h.outside (by rw [hidle]; rfl), show granted ((step config).event s c) = false from hno]
        exact Nat.zero_le _
      · rw [show granted ((step config).event s c) = false from hno, hu]
        exact hext
      · rw [hu] at hext
        rw [hu']
        simp only [Bool.false_eq_true, if_false, if_true] at hext ⊢
        omega
    · rcases deadline_turn hturn harmed with ⟨hp, hd⟩ | ⟨actId, t, hplayed, hd⟩
      · obtain ⟨a, ha, actId, t, hplayed, hphase, hdead⟩ := h.armedIn (hp ▸ harmed)
        refine ⟨a, by rw [hcons]; exact List.mem_append_left _ ha, actId, t, hplayed, ?_, ?_⟩
        · rw [hp]
          exact hphase
        · rw [hd, hp]
          exact hdead
      · refine ⟨(step config).event s c, ?_, actId, t, hplayed, rfl, hd⟩
        rw [hcons]
        exact List.mem_append_right _ List.mem_cons_self

theorem climbed_run (voice : Voice.State) (cs : List (Call config)) :
    Climbed ((step config).log (State.start config voice) cs)
      ((step config).run (State.start config voice) cs) :=
  (step config).log_inv (G := fun _ => True) (Climbed.start voice)
    (fun _ _ c h _ => climbed_step h c) cs fun _ _ => trivial

theorem Climbed.rungs_done {l : List (CallEvent config)} {s : State config} (h : Climbed l s)
    (hp : s.phase = .terminalEligible) : ∃ q p c, rungs l = ladder q p c := by
  have hpath := h.path
  rw [hp] at hpath
  exact hpath

/-! ## What stands behind a rung -/

/-- What was heard has its evidence. -/
theorem evidenced_of_heard {s : State config} {c : Call config} (h : heard s c = true) :
    evidenced s c = true := by
  cases c with
  | playback p actId evidence inferenceId transportId =>
    simp only [heard, Bool.and_eq_true] at h
    obtain ⟨⟨⟨hev, -⟩, hinf⟩, -⟩ := h
    simp only [evidenced, Bool.and_eq_true]
    exact ⟨hev, hinf⟩
  | observedPlayback eventId sequence event =>
    simp only [heard, Bool.and_eq_true] at h
    exact h.1.2
  | _ => cases h

theorem playedRung_cases {pre post : SilencePhase} {actId : Str} {r : Rung}
    (h : playedRung pre post actId = some r) :
    r = .questionPlayed actId ∨ r = .presencePlayed actId ∨ r = .closingPlayed actId := by
  unfold playedRung at h
  split at h
  · exact .inl (Option.some.inj h).symm
  · exact .inr (.inl (Option.some.inj h).symm)
  · exact .inr (.inr (Option.some.inj h).symm)
  · cases h

theorem backed_played {l : List (CallEvent config)} {s : State config} {c : Call config}
    {actId : Str} {t : ℤ} {r : Rung} (hplayed : c.played = some (actId, t))
    (h : rung ((step config).event s c) = some r) : Backed l ((step config).event s c) r := by
  rw [show rung ((step config).event s c) = _ from (rung_played hplayed).1] at h
  have hevidenced : evidenced s c = true := by
    rcases played_step hplayed (s := s) with ⟨-, hstep⟩ | ⟨hheard, -⟩
    · rw [hstep, playedRung_self] at h
      cases h
    · exact evidenced_of_heard hheard
  rcases playedRung_cases h with rfl | rfl | rfl <;> exact hevidenced

/-- The phase a firing leads to. -/
theorem timerFired_phase (s : State config) (p : Position) (actionId : Str) (revision : ℤ)
    (hdue : timerDue s p actionId revision = true) :
    (((step config) s (.timerFired p actionId revision)).1.phase = .presencePending →
      s.phase = .firstArmed ∨ s.phase = .moreTimeArmed) ∧
    (((step config) s (.timerFired p actionId revision)).1.phase = .closingPending →
      s.phase = .secondArmed ∨ s.phase = .moreTimeArmed) := by
  have hturn := step_turn s (.timerFired p actionId revision)
  generalize (step config s (.timerFired p actionId revision)).2 = r at hturn
  generalize (step config s (.timerFired p actionId revision)).1 = s' at hturn
  cases hturn with
  | stay c r s' t hp hr hc harm hcancel hfire => exact absurd (hdue.symm.trans hfire) (by decide)
  | sealed c b s' k hissued hp hr hc hfire => exact absurd (hdue.symm.trans hfire) (by decide)
  | firePresence p actionId revision r s' base tr hdue hphase hp hr hc hi =>
    rw [hi.fields.1, hp]
    refine ⟨fun _ => ?_, fun h => by cases h⟩
    rcases hphase with hphase | ⟨hphase, -⟩
    · exact .inl hphase
    · exact .inr hphase
  | fireClosing p actionId revision r s' base hdue hphase hp hr hc hi =>
    rw [hi.fields.1, hp]
    refine ⟨fun h => (by cases h), fun _ => ?_⟩
    rcases hphase with hphase | ⟨hphase, -⟩
    · exact .inl hphase
    · exact .inr hphase
  | armQuestion c r s' base actId t tr hplayed => cases hplayed
  | armPresence c r s' base actId t tr hplayed => cases hplayed
  | armMoreTime c r s' base actId t tr hplayed => cases hplayed
  | close c r s' base actId t tr hplayed => cases hplayed
  | fallbackPlayed c s' actId t hplayed => cases hplayed

theorem backed_fired {l : List (CallEvent config)} {s : State config} {p : Position}
    {actionId : Str} {revision : ℤ} {r : Rung} (hl : Climbed l s)
    (h : rung ((step config).event s (.timerFired p actionId revision)) = some r) :
    Backed l ((step config).event s (.timerFired p actionId revision)) r := by
  set e := (step config).event s (.timerFired p actionId revision) with he
  have hrung : rung e = firedRung s.phase ((step config) s (.timerFired p actionId revision)).1.phase :=
    rfl
  rw [hrung] at h
  cases hdue : timerDue s p actionId revision with
  | false =>
    have hsame : ((step config) s (.timerFired p actionId revision)).1 = s := by
      show (timerFired s p actionId revision).1 = s
      unfold timerFired
      rw [if_pos hdue]
    rw [hsame, firedRung_self] at h
    cases h
  | true =>
    have harmed := timerDue_armed hdue
    have hdead : ∃ d, s.cycle.deadlineMs = some d ∧ d ≤ p.atMs := by
      simp only [timerDue, Bool.and_eq_true, Option.any_eq_true, decide_eq_true_eq] at hdue
      obtain ⟨⟨-, d, hd, hle⟩, -⟩ := hdue
      exact ⟨d, hd, hle⟩
    have hdue' : Due l e := ⟨hl.armedIn harmed, p, actionId, revision, rfl, hdue, hdead⟩
    obtain ⟨hpresence, hclosing⟩ := timerFired_phase s p actionId revision hdue
    unfold firedRung at h
    split at h
    · rename_i hpost
      cases h
      exact ⟨hdue', hpresence hpost⟩
    · rename_i hpost
      cases h
      exact ⟨hdue', hclosing hpost⟩
    · cases h

/-- Every rung of a run is backed. -/
theorem backed_of_climbed {l : List (CallEvent config)} {s : State config} (hl : Climbed l s)
    {c : Call config} {r : Rung} (h : rung ((step config).event s c) = some r) :
    Backed l ((step config).event s c) r := by
  cases c with
  | playback p actId evidence inferenceId transportId => exact backed_played rfl h
  | observedPlayback eventId sequence event => exact backed_played rfl h
  | timerFired p actionId revision => exact backed_fired hl h
  | reserveQuestion p question =>
    simp only [rung, Machine.event_call] at h
    split at h
    · cases h
      trivial
    · cases h
  | semanticConfirmed eventId sequence event =>
    simp only [rung, Machine.event_call] at h
    split at h
    · cases h
      trivial
    · cases h
  | consumeIntent intent m =>
    simp only [rung, Machine.event_call] at h
    split at h
    · obtain ⟨actId, -, h⟩ := Option.bind_eq_some_iff.mp h
      unfold consumedRung at h
      split at h <;> cases h <;> trivial
    · cases h
  | _ => cases h

theorem restarts_ends {s : State config} {c : Call config}
    (h : restarts ((step config).event s c) = true) :
    ((step config) s c).1.phase.climbing = false := by
  simp only [restarts, Bool.and_eq_true, Machine.event_resp, Machine.event_call] at h
  obtain ⟨hret, h⟩ := h
  cases c with
  | cancel p =>
    simp only [Machine.event_pre, Bool.and_eq_true, Bool.not_eq_true'] at h
    change (cancel s p).2.returned = true at hret
    show (cancel s p).1.phase.climbing = false
    unfold cancel at hret ⊢
    rw [if_neg (by simp [h.1, h.2])] at hret ⊢
    simp only at hret ⊢
    split
    · rename_i hterm
      rw [hterm]
      rfl
    · rename_i hterm
      rw [if_neg hterm] at hret
      split
      · rename_i e herr
        simp only [herr] at hret
        cases hret
      · rfl
  | requestFixedFallback kind p turnId turnSequence =>
    simp only [Machine.event_pre] at h
    change (requestFixedFallback s kind p turnId turnSequence).2.returned = true at hret
    show (requestFixedFallback s kind p turnId turnSequence).1.phase.climbing = false
    unfold requestFixedFallback at hret ⊢
    rw [if_neg (by simp [h])] at hret ⊢
    simp only at hret ⊢
    split
    · rename_i e herr
      simp only [herr] at hret
      cases hret
    · rw [(issueIntent_issued _ _ _ _).fields.1]
      rfl
  | _ => cases h

end Lifecycle

/-- **The full ladder.** In every run of the lifecycle, at every call:

* when the call becomes eligible for hanging up, the current silence cycle
  took the rungs of the ladder in order, each once and no other;
* a rung has its evidence: a playback that was observed or inferred, a timer of
  this cycle that was accepted at or after its deadline, from the phase whose
  silence it ends;
* more time was granted at most once in the current cycle;
* an accepted cancel or fallback starts the cycle over. -/
theorem ladder_climbed (config : Config) (voice : Voice.State) (cs : List (Call config))
    (l₁ l₂ : List (CallEvent config)) (e : CallEvent config)
    (h : (step config).log (State.start config voice) cs = l₁ ++ e :: l₂) :
    (e.post.phase = .terminalEligible → ∃ q p c, rungs (l₁ ++ [e]) = ladder q p c) ∧
    (∀ r, rung e = some r → Backed l₁ e r) ∧
    (cycleOf (l₁ ++ [e])).countP granted ≤ 1 ∧
    (restarts e = true → cycleOf (l₁ ++ [e]) = []) := by
  obtain ⟨cs₁, c, cs₂, rfl, rfl, rfl, -⟩ := (step config).log_eq_append_cons h
  have hpre := climbed_run voice cs₁
  have hpost := climbed_step hpre c
  refine ⟨fun hp => hpost.rungs_done hp, fun r hr => backed_of_climbed hpre hr, ?_,
    fun hr => hpost.outside (restarts_ends hr)⟩
  refine hpost.extension.trans ?_
  split <;> omega

theorem exampleDelay_pos : (1 : ℤ) ≤ 1 := by decide

def exampleConfig : Config where
  otherAlnum := fun _ => false
  binding := Voice.exampleBinding
  firstSilenceMs := 30000
  secondSilenceMs := 15000
  inferenceDelayMs := 1
  moreTimeExtensionMs := 20000
  first_pos := by decide
  second_pos := by decide
  inference_pos := exampleDelay_pos
  extension_pos := by decide

def exampleEvent (act : Voice.Identifier) (kind : VoiceSemanticActKind) (atMs n : ℕ)
    (e : Voice.VoiceEventKind × Bool × Bool) : VoiceEvent :=
  { Voice.exampleEvent e.1 n e.2.1 e.2.2 with
    semanticActId := act
    semanticActKind := kind
    atMs := atMs }

def exampleSent (act : Voice.Identifier) (kind : VoiceSemanticActKind) (first atMs : ℕ) :
    List VoiceEvent :=
  [(.responseAuthorized, false, false), (.semanticActConfirmed, false, false),
    (.ttsBound, true, false), (.playoutBound, true, true),
    (.transportResolved, true, true)].zipIdx.map fun (e, i) =>
      exampleEvent act kind atMs (first + i) e

def exampleHeard (act : Voice.Identifier) (kind : VoiceSemanticActKind) (first atMs : ℕ) :
    VoiceEvent :=
  exampleEvent act kind atMs (first + 5) (.callerPlaybackObserved, true, true)

def examplePlayed (act : Voice.Identifier) (kind : VoiceSemanticActKind) (first atMs : ℕ)
    (eventId : String) (sequence : ℤ) : List (Call exampleConfig) :=
  (exampleSent act kind first atMs).map .voice ++
    [.voice (exampleHeard act kind first atMs),
      .observedPlayback (py eventId) sequence (exampleHeard act kind first atMs)]

def exampleAt (eventId : String) (sequence atMs : ℤ) : Position :=
  ⟨Voice.exampleBinding, py eventId, sequence, atMs⟩

def exampleQuestion : QuestionIntent exampleConfig :=
  ⟨⟨py "slot", by decide⟩, ⟨py "x1", by decide⟩, ⟨py "x1", by decide⟩, none⟩

def exampleReserved : List (Call exampleConfig) :=
  let events := exampleSent Voice.exampleIdentifier .question 0 1000
  .reserveQuestion (exampleAt "e0" 0 0) exampleQuestion :: (events.take 2).map .voice ++
    (events[1]?.map (.semanticConfirmed (py "e1") 1)).toList ++ (events.drop 2).map .voice ++
    [.voice (exampleHeard Voice.exampleIdentifier .question 0 1000)]

def exampleQuestionHeard : Call exampleConfig :=
  .observedPlayback (py "e2") 2 (exampleHeard Voice.exampleIdentifier .question 0 1000)

def exampleIntent (kind : CallIntentKind) (revision : ℕ) (actId : Str) (createdAt : ℤ) :
    CallIntent :=
  ⟨kind, Voice.exampleBinding, revision, actId, some actId, none, some (py "x1"), none, createdAt⟩

def exampleSilent : List (Call exampleConfig) :=
  exampleReserved ++ exampleQuestionHeard ::
  .timerFired (exampleAt "e3" 3 31000) (timerActionId 0 31000) 0 ::
  .consumeIntent (exampleIntent .requestPresenceCheck 1 (revisionId "presence" 1) 3)
    (some (py "x2")) ::
  examplePlayed ⟨py "x2", by decide⟩ .presenceCheck 6 33000 "e4" 4 ++
  .timerFired (exampleAt "e5" 5 48000) (timerActionId 1 48000) 1 ::
  .consumeIntent (exampleIntent .requestClosing 1 (revisionId "closing" 1) 5) (some (py "x3")) ::
  examplePlayed ⟨py "x3", by decide⟩ .closing 12 50000 "e6" 6

def exampleSilentLog : List (CallEvent exampleConfig) :=
  (step exampleConfig).log (State.start exampleConfig (.start Voice.exampleBinding)) exampleSilent

theorem exampleSilentLog_ne_nil : exampleSilentLog ≠ [] := List.cons_ne_nil _ _

theorem ladder_climbed_exampleSilent : ∃ q p c, rungs exampleSilentLog = ladder q p c := by
  have hcut := List.dropLast_append_getLast exampleSilentLog_ne_nil
  have h := (ladder_climbed exampleConfig (.start Voice.exampleBinding) exampleSilent
    exampleSilentLog.dropLast [] (exampleSilentLog.getLast exampleSilentLog_ne_nil) hcut.symm).1
      (by decide +kernel)
  rwa [hcut] at h

end HeyKevin.L5.Silence
