import HeyKevin.L5Voice.PlaybackProof
/-!
# Ending a live act

A coordinator that gives an act up reads its state, and where that is not
terminal sends a failure or a timeout with the payload and the position that
the lifecycle names (app/services/voice_lifecycle.py:616-646;
`_terminalize_authorization`, app/services/voice_bakeoff_turn_composition.py:3497-3534).

* `Sane`: the records and the position of a reachable lifecycle.
* `terminal_accepted_iff`: the lifecycle accepts it, but where the playout
  waits to be bound again.

Line numbers without a file are those of app/services/voice_lifecycle.py.
-/
namespace HeyKevin.L5.Voice

open HeyKevin.Core L1 L1.Text

def State.recordFor (s : State) (event : VoiceEvent) : Option ActRecord :=
  if event.binding ≠ s.binding then none
  else (s.acts.find? event.semanticActId).filter fun r => r.sameAct event

/-- mirrors 616-631 -/
def actState (s : State) (event : VoiceEvent) : Option VoiceEventKind :=
  (s.recordFor event).map (·.kind)

/-- mirrors 633-642 -/
def terminalPayload (s : State) (event : VoiceEvent) : Option VoicePayload :=
  (s.recordFor event).map fun r => ⟨none, none, r.textDigest, r.audioId, r.playoutId⟩

/-- mirrors 644-646 -/
def nextPosition (s : State) (atMs : ℕ) : ℤ × ℤ := (s.sequence + 1, max s.atMs atMs)

/-- The end of the act that `authorization` names.
mirrors app/services/voice_bakeoff_turn_composition.py:3514-3534 -/
def terminalEvent (s : State) (authorization : VoiceEvent) (kind : VoiceEventKind) (atMs : ℕ) :
    Option VoiceEvent :=
  (terminalPayload s authorization).map fun payload =>
    { authorization with
      kind := kind
      source := .localAuthoritative
      sensitivity := .operational
      binding := s.binding
      sequence := (nextPosition s atMs).1.toNat
      atMs := (nextPosition s atMs).2.toNat
      payload := payload }

/-- mirrors app/services/voice_bakeoff_turn_composition.py:3504-3511 -/
def isTerminal (kind : VoiceEventKind) : Bool :=
  decide (kind ∈ [.actFailed, .actTimedOut, .callerPlaybackObserved, .playoutPartial,
    .playoutCleared, VoiceEventKind.playoutInterrupted])

structure Sane (s : State) : Prop where
  kinds : ∀ act r, s.acts.find? act = some r → isObservationalEventKind r.kind = false
  sequence : -1 ≤ s.sequence
  atMs : -1 ≤ s.atMs

theorem Sane.start (binding : VoiceSessionBinding) : Sane (State.start binding) where
  kinds act r h := by cases h
  sequence := le_rfl
  atMs := le_rfl

theorem Sane.step {s : State} (h : Sane s) (event : VoiceEvent) : Sane (Voice.step s event).1 := by
  rcases ingest_cases s event with he | ⟨hseq, hat, ⟨hobs, s', he, hacts, hs, ha⟩ |
    ⟨hobs, -, -, he⟩⟩
  · rw [show (Voice.step s event).1 = s.reject from congrArg Prod.fst he]
    exact ⟨h.kinds, h.sequence, h.atMs⟩
  · rw [show (Voice.step s event).1 = s' from congrArg Prod.fst he]
    refine ⟨hacts ▸ h.kinds, ?_, ?_⟩
    · rw [hs]
      omega
    · rw [ha]
      omega
  · rw [show (Voice.step s event).1 = recordAct s event from congrArg Prod.fst he]
    refine ⟨fun act r hr => ?_, ?_, ?_⟩
    · simp only [recordAct, Entries.find?_set] at hr
      split at hr
      · cases hr
        exact hobs
      · exact h.kinds act r hr
    · show -1 ≤ (event.sequence : ℤ)
      omega
    · show -1 ≤ (event.atMs : ℤ)
      omega

theorem sane_run (binding : VoiceSessionBinding) (es : List VoiceEvent) :
    Sane (step.run (State.start binding) es) :=
  step.run_inv (G := fun _ => True) (Sane.start binding) (fun _ event h _ => h.step event) es
    fun _ _ => trivial

theorem live_expected {kind kind' : VoiceEventKind} (hobs : isObservationalEventKind kind = false)
    (hlive : isTerminal kind = false) (hkind : kind' = .actFailed ∨ kind' = .actTimedOut) :
    kind ∈ expected kind' ↔ kind ≠ .playoutReconnected := by
  rcases hkind with rfl | rfl <;> revert hobs hlive <;> cases kind <;> decide

theorem terminalEvent_spec {s : State} {authorization t : VoiceEvent} {kind : VoiceEventKind}
    {atMs : ℕ} (h : terminalEvent s authorization kind atMs = some t) :
    ∃ r, s.acts.find? t.semanticActId = some r ∧ actState s authorization = some r.kind ∧
      r.sameAct t = true ∧ r.samePayload t = true ∧ t.kind = kind ∧
      t.source = .localAuthoritative ∧ t.binding = s.binding ∧
      t.sequence = (s.sequence + 1).toNat ∧ t.atMs = (max s.atMs atMs).toNat := by
  unfold terminalEvent terminalPayload at h
  rw [Option.map_map] at h
  obtain ⟨r, hr, rfl⟩ := Option.map_eq_some_iff.mp h
  have hrecord := hr
  unfold State.recordFor at hrecord
  split at hrecord
  · cases hrecord
  · obtain ⟨hfind, hsame⟩ := Option.filter_eq_some_iff.mp hrecord
    refine ⟨r, hfind, ?_, hsame, ?_, rfl, rfl, rfl, rfl, rfl⟩
    · rw [actState, hr]
      rfl
    · simp [ActRecord.samePayload]

theorem not_misplaced {s : State} (hsane : Sane s) {t : VoiceEvent} {atMs : ℕ}
    (hbinding : t.binding = s.binding) (hseq : t.sequence = (s.sequence + 1).toNat)
    (hat : t.atMs = (max s.atMs atMs).toNat) : misplaced s t = false := by
  have := hsane.sequence
  have := hsane.atMs
  have hseq' : ¬ ((t.sequence : ℤ) ≤ s.sequence) := by omega
  have hat' : ¬ ((t.atMs : ℤ) < s.atMs) := by omega
  simp [misplaced, hbinding, hseq', hat']

/-- **A live act can be ended**, by a failure or a timeout that carries what the lifecycle names,
exactly where its playout does not wait to be bound again. -/
theorem terminal_accepted_iff (binding : VoiceSessionBinding) (es : List VoiceEvent)
    (authorization : VoiceEvent) (kind state : VoiceEventKind) (atMs : ℕ)
    (hkind : kind = .actFailed ∨ kind = .actTimedOut)
    (hstate : actState (step.run (State.start binding) es) authorization = some state)
    (hlive : isTerminal state = false) :
    ∃ t, terminalEvent (step.run (State.start binding) es) authorization kind atMs = some t ∧
      ((ingest (step.run (State.start binding) es) t).2 = true ↔ state ≠ .playoutReconnected) := by
  have hsane := sane_run binding es
  generalize step.run (State.start binding) es = s at hsane hstate ⊢
  obtain ⟨r', hr', -⟩ := Option.map_eq_some_iff.mp hstate
  obtain ⟨t, ht⟩ : ∃ t, terminalEvent s authorization kind atMs = some t := by
    rw [terminalEvent, terminalPayload, hr']
    exact ⟨_, rfl⟩
  refine ⟨t, ht, ?_⟩
  obtain ⟨r, hfind, hact, hsame, hpayload, hk, hsource, hbinding, hseq, hat⟩ :=
    terminalEvent_spec ht
  obtain rfl : r.kind = state := Option.some.inj (hact.symm.trans hstate)
  rw [← live_expected (hsane.kinds _ _ hfind) hlive hkind]
  have hrequired : requiredSource t.kind = .localAuthoritative := by
    rcases hkind with rfl | rfl <;> rw [hk] <;> rfl
  have hobs : isObservationalEventKind t.kind = false := by
    rcases hkind with rfl | rfl <;> rw [hk] <;> rfl
  have hfits : payloadFits (some r) t = true := by
    rcases hkind with rfl | rfl <;> simp [payloadFits, hk, hpayload]
  have hfollows : follows (some r) t = decide (r.kind ∈ expected kind) := by
    simp [follows, hsame, hk]
  unfold ingest
  rw [not_misplaced hsane hbinding hseq hat, if_neg (by simp), if_neg (by rw [hsource, hrequired]; simp),
    hobs, if_neg (by simp)]
  dsimp only
  rw [hfind, hfollows, hfits]
  by_cases hmem : r.kind ∈ expected kind <;> simp [hmem]

def reconnectedStream : List VoiceEvent :=
  [exampleEvent .responseAuthorized 0 false false, exampleEvent .semanticActConfirmed 1 false false,
    exampleEvent .ttsBound 2 true false, exampleEvent .playoutBound 3 true true,
    exampleEvent .playoutReconnected 4 true true]

/-- Its act is live, and can be ended neither by a timeout nor by a failure. -/
theorem reconnectedStream_stuck :
    let s := step.run (State.start exampleBinding) reconnectedStream
    let authorization := exampleEvent .responseAuthorized 0 false false
    actState s authorization = some .playoutReconnected ∧ isTerminal .playoutReconnected = false ∧
      (∀ t, terminalEvent s authorization .actTimedOut 5 = some t → (ingest s t).2 = false) ∧
      ∀ t, terminalEvent s authorization .actFailed 5 = some t → (ingest s t).2 = false := by
  refine ⟨by decide, rfl, ?_, ?_⟩
  all_goals
    intro t ht
    cases ht
    decide

/-- Before the reconnect its act could be ended. -/
theorem terminal_accepted_iff_playoutBound :
    ∃ t, terminalEvent (step.run (State.start exampleBinding) (reconnectedStream.take 4))
        (exampleEvent .responseAuthorized 0 false false) .actTimedOut 5 = some t ∧
      ((ingest (step.run (State.start exampleBinding) (reconnectedStream.take 4)) t).2 = true ↔
        VoiceEventKind.playoutBound ≠ .playoutReconnected) :=
  terminal_accepted_iff exampleBinding (reconnectedStream.take 4)
    (exampleEvent .responseAuthorized 0 false false) .actTimedOut .playoutBound 5 (.inr rfl)
    (by decide) rfl

end HeyKevin.L5.Voice
