import HeyKevin.L5Voice.VoiceLifecycle
/-!
# Caller playback is proven end to end

The reducer keeps seven fields for an act, yet when it accepts
`CALLER_PLAYBACK_OBSERVED` the whole chain behind it has been accepted before:
authorization, confirmation, the bound speech, its playout with any number of
reconnects, and the transport's receipt, all for the same act and all carrying
the same speech.

* `ingest_cases`: what one event can do; a rejection counts and nothing else.
* `Told`: the accepted events of an act, in order, are the ones its record
  stands for. One lemma extends the story by the event that was accepted.
* `playback_proven` is the contract over whole streams.
-/
namespace HeyKevin.L5.Voice

open HeyKevin.Core L1 L1.Text

abbrev LifecycleEvent := Event State VoiceEvent Bool

/-! ## What one event can do -/

theorem ingestObservation_spec (s : State) (event : VoiceEvent) :
    ingestObservation s event = (s, false) ∨
      ∃ s', ingestObservation s event = (s', true) ∧ s'.acts = s.acts := by
  unfold ingestObservation
  split
  · unfold ingestInput
    split
    · exact .inl rfl
    · exact .inr ⟨_, rfl, rfl⟩
  split
  · unfold ingestGeneration
    split
    · exact .inl rfl
    split
    · exact .inl rfl
    split
    · exact .inl rfl
    split
    · exact .inl rfl
    · exact .inr ⟨_, rfl, rfl⟩
  · unfold ingestSession
    split
    · exact .inl rfl
    · exact .inr ⟨_, rfl, rfl⟩

/-- One event after another, in the order the session accepted them. -/
def Before (a b : VoiceEvent) : Prop := a.sequence < b.sequence ∧ a.atMs ≤ b.atMs

theorem misplaced_false {s : State} {event : VoiceEvent} (h : misplaced s event = false) :
    s.sequence < event.sequence ∧ s.atMs ≤ event.atMs := by
  simp only [misplaced, Bool.or_eq_false_iff, decide_eq_false_iff_not] at h
  omega

/-- **One event.** It is refused and counted; or it is an observation, which
touches no act; or it follows the record of its act and becomes that record. -/
theorem ingest_cases (s : State) (event : VoiceEvent) :
    ingest s event = (s.reject, false) ∨
      (s.sequence < event.sequence ∧ s.atMs ≤ event.atMs ∧
        ((isObservationalEventKind event.kind = true ∧ ∃ s', ingest s event = (s', true) ∧
            s'.acts = s.acts ∧ s'.sequence = event.sequence ∧ s'.atMs = event.atMs) ∨
          (isObservationalEventKind event.kind = false ∧
            follows (s.acts.find? event.semanticActId) event = true ∧
            payloadFits (s.acts.find? event.semanticActId) event = true ∧
            ingest s event = (recordAct s event, true)))) := by
  unfold ingest
  split
  · exact .inl rfl
  rename_i hplace
  obtain ⟨hseq, hat⟩ := misplaced_false (by simpa using hplace)
  split
  · exact .inl rfl
  split
  · rename_i hobs
    rcases ingestObservation_spec s event with h | ⟨s', h, hacts⟩
    · rw [h]; exact .inl rfl
    · rw [h]; exact .inr ⟨hseq, hat, .inl ⟨hobs, _, rfl, hacts, rfl, rfl⟩⟩
  rename_i hobs
  simp only
  split
  · exact .inl rfl
  rename_i hfollows
  split
  · exact .inl rfl
  rename_i hfits
  exact .inr ⟨hseq, hat, .inr ⟨by simpa using hobs, by simpa using hfollows,
    by simpa using hfits, rfl⟩⟩

theorem reject_of_refused {s : State} {event : VoiceEvent} (h : (ingest s event).2 = false) :
    (ingest s event).1 = s.reject := by
  rcases ingest_cases s event with he | ⟨-, -, ⟨-, s', he, -⟩ | ⟨-, -, -, he⟩⟩
  · rw [he]
  · rw [he] at h; cases h
  · rw [he] at h; cases h

/-! ## The story of an act -/

def acceptedEvents (log : List LifecycleEvent) : List VoiceEvent :=
  (log.filter (·.resp)).map (·.call)

/-- The event moves the act `act`. -/
def moves (act : Identifier) (e : VoiceEvent) : Bool :=
  !isObservationalEventKind e.kind && decide (e.semanticActId = act)

/-- The accepted events that moved an act, in order. -/
def actHistory (log : List LifecycleEvent) (act : Identifier) : List VoiceEvent :=
  (acceptedEvents log).filter (moves act)

/-- The events behind a caller receipt. -/
structure PlaybackChain where
  authorized : VoiceEvent
  confirmed : VoiceEvent
  speech : VoiceEvent
  firstPlayout : VoiceEvent
  /-- Each reconnect and the playout bound after it. -/
  rebinds : List (VoiceEvent × VoiceEvent)

namespace PlaybackChain

def events (c : PlaybackChain) : List VoiceEvent :=
  c.authorized :: c.confirmed :: c.speech :: c.firstPlayout ::
    c.rebinds.flatMap fun p => [p.1, p.2]

def lastPlayout (c : PlaybackChain) : VoiceEvent :=
  (c.rebinds.getLast?.map Prod.snd).getD c.firstPlayout

/-- The kinds of the chain, each in its place. -/
structure Kinds (c : PlaybackChain) : Prop where
  authorized : c.authorized.kind = .responseAuthorized
  confirmed : c.confirmed.kind = .semanticActConfirmed
  speech : c.speech.kind = .ttsBound
  firstPlayout : c.firstPlayout.kind = .playoutBound
  rebinds : ∀ p ∈ c.rebinds, p.1.kind = .playoutReconnected ∧ p.2.kind = .playoutBound

/-- Every binding of the chain carries this digest and audio. -/
structure Speech (c : PlaybackChain) (digest : Option Digest) (audio : Option Identifier) :
    Prop where
  speech : c.speech.payload.textDigest = digest ∧ c.speech.payload.audioId = audio
  firstPlayout : c.firstPlayout.payload.textDigest = digest ∧
    c.firstPlayout.payload.audioId = audio
  rebinds : ∀ p ∈ c.rebinds, p.2.payload.textDigest = digest ∧ p.2.payload.audioId = audio

def rebind (c : PlaybackChain) (reconnected bound : VoiceEvent) : PlaybackChain :=
  { c with rebinds := c.rebinds ++ [(reconnected, bound)] }

@[simp] theorem rebind_events (c : PlaybackChain) (r b : VoiceEvent) :
    (c.rebind r b).events = c.events ++ [r, b] := by
  simp [rebind, events]

@[simp] theorem rebind_lastPlayout (c : PlaybackChain) (r b : VoiceEvent) :
    (c.rebind r b).lastPlayout = b := by
  simp [rebind, lastPlayout]

end PlaybackChain

/-- The chain stands behind the record of a bound playout. -/
structure Bound (r : ActRecord) (c : PlaybackChain) : Prop where
  kinds : c.Kinds
  speech : c.Speech r.textDigest r.audioId
  playout : c.lastPlayout.payload.playoutId = r.playoutId

/-- The accepted events of an act, told from its record. -/
def Story (r : ActRecord) (history : List VoiceEvent) : Prop :=
  match r.kind with
  | .responseAuthorized => ∃ a, history = [a] ∧ a.kind = .responseAuthorized
  | .semanticActConfirmed => ∃ a b, history = [a, b] ∧ a.kind = .responseAuthorized ∧
    b.kind = .semanticActConfirmed
  | .ttsBound => ∃ a b c, history = [a, b, c] ∧ a.kind = .responseAuthorized ∧
    b.kind = .semanticActConfirmed ∧ c.kind = .ttsBound ∧ c.payload.textDigest = r.textDigest ∧
    c.payload.audioId = r.audioId
  | .playoutBound => ∃ c : PlaybackChain, history = c.events ∧ Bound r c
  | .playoutReconnected => ∃ (c : PlaybackChain) (e : VoiceEvent), history = c.events ++ [e] ∧
    e.kind = .playoutReconnected ∧ Bound r c
  | .transportResolved => ∃ (c : PlaybackChain) (e : VoiceEvent), history = c.events ++ [e] ∧
    e.kind = .transportResolved ∧ r.samePayload e = true ∧ Bound r c
  | _ => True

/-- What is recorded of an act agrees with what was accepted of it. -/
def Told : Option ActRecord → List VoiceEvent → Prop
  | none, history => history = []
  | some r, history => (∀ e ∈ history, r.sameAct e = true) ∧ Story r history

theorem follows_some {r : ActRecord} {event : VoiceEvent} (h : follows (some r) event = true) :
    r.kind ∈ expected event.kind ∧ r.sameAct event = true := by
  simpa [follows] using h

theorem complete_inherits (prior : Option ActRecord) {event : VoiceEvent}
    (h : event.payload.isComplete = true) :
    (recordOf prior event).textDigest = event.payload.textDigest ∧
      (recordOf prior event).audioId = event.payload.audioId ∧
      (recordOf prior event).playoutId = event.payload.playoutId := by
  simp only [VoicePayload.isComplete, Bool.and_eq_true, Option.isSome_iff_exists] at h
  obtain ⟨⟨⟨d, hd⟩, a, ha⟩, p, hp⟩ := h
  simp [recordOf, hd, ha, hp]

theorem samePayload_inherits {r : ActRecord} {event : VoiceEvent}
    (hc : event.payload.isComplete = true) (h : r.samePayload event = true) :
    (recordOf (some r) event).textDigest = r.textDigest ∧
      (recordOf (some r) event).audioId = r.audioId ∧
      (recordOf (some r) event).playoutId = r.playoutId := by
  obtain ⟨h₁, h₂, h₃⟩ := complete_inherits (some r) hc
  simp only [ActRecord.samePayload, decide_eq_true_eq] at h
  obtain ⟨ht, ha, hp⟩ := h
  exact ⟨h₁.trans ht.symm, h₂.trans ha.symm, h₃.trans hp.symm⟩

theorem Bound.inherit {r r' : ActRecord} {c : PlaybackChain} (h : Bound r c)
    (ht : r'.textDigest = r.textDigest) (ha : r'.audioId = r.audioId)
    (hp : r'.playoutId = r.playoutId) : Bound r' c where
  kinds := h.kinds
  speech := by rw [ht, ha]; exact h.speech
  playout := by rw [hp]; exact h.playout

theorem sameAct_append {prior : Option ActRecord} {history : List VoiceEvent} {event : VoiceEvent}
    (h : Told prior history) (hf : follows prior event = true) :
    ∀ e ∈ history ++ [event], (recordOf prior event).sameAct e = true := by
  intro e he
  rcases List.mem_append.mp he with he | he
  · cases prior with
    | none => rw [show history = [] from h] at he; cases he
    | some r =>
      have h₁ := h.1 e he
      have h₂ := (follows_some hf).2
      simp only [ActRecord.sameAct, decide_eq_true_eq] at h₁ h₂ ⊢
      obtain ⟨a, b, c⟩ := h₁
      obtain ⟨a', b', c'⟩ := h₂
      exact ⟨a'.symm.trans a, b'.symm.trans b, c'.symm.trans c⟩
  · rw [List.mem_singleton.mp he]
    simp [ActRecord.sameAct, recordOf]

theorem record_of_follows {prior : Option ActRecord} {event : VoiceEvent}
    (hf : follows prior event = true) (he : expected event.kind ≠ []) :
    ∃ r, prior = some r ∧ r.kind ∈ expected event.kind := by
  cases prior with
  | none =>
    simp only [follows, List.isEmpty_iff] at hf
    exact absurd hf he
  | some r => exact ⟨r, rfl, (follows_some hf).1⟩

theorem receipt_fits {r : ActRecord} {event : VoiceEvent}
    (hk : event.kind ∈ [VoiceEventKind.transportResolved, .playoutReconnected,
      .callerPlaybackObserved]) (hp : payloadFits (some r) event = true) :
    event.payload.isComplete = true ∧ r.samePayload event = true := by
  simp only [List.mem_cons, List.not_mem_nil, or_false] at hk
  rcases hk with hk | hk | hk <;> simpa [payloadFits, hk] using hp

theorem story_playout {r : ActRecord} {history : List VoiceEvent} {event : VoiceEvent}
    (h : Story r history) (hr : r.kind ∈ expected .playoutBound) (hk : event.kind = .playoutBound)
    (hp : payloadFits (some r) event = true) : Story (recordOf (some r) event) (history ++ [event]) := by
  simp only [payloadFits, hk, Option.any_some, Bool.and_eq_true, decide_eq_true_eq] at hp
  obtain ⟨hc, ht, ha⟩ := hp
  obtain ⟨h₁, h₂, h₃⟩ := complete_inherits (some r) hc
  have hkind : (recordOf (some r) event).kind = .playoutBound := hk
  simp only [Story, hkind]
  simp only [expected, List.mem_cons, List.not_mem_nil, or_false] at hr
  rcases hr with hr | hr
  · simp only [Story, hr] at h
    obtain ⟨a, b, c, rfl, hka, hkb, hkc, hct, hca⟩ := h
    refine ⟨⟨a, b, c, event, []⟩, rfl, ⟨hka, hkb, hkc, hk, fun _ h => (by cases h)⟩,
      ⟨⟨?_, ?_⟩, ⟨h₁.symm, h₂.symm⟩, fun _ h => (by cases h)⟩, h₃.symm⟩
    · exact (hct.trans ht).trans h₁.symm
    · exact (hca.trans ha).trans h₂.symm
  · simp only [Story, hr] at h
    obtain ⟨c, e, rfl, hke, hb⟩ := h
    refine ⟨c.rebind e event, by simp, ⟨hb.kinds.authorized, hb.kinds.confirmed, hb.kinds.speech,
      hb.kinds.firstPlayout, ?_⟩, ⟨?_, ?_, ?_⟩, by rw [PlaybackChain.rebind_lastPlayout]; exact h₃.symm⟩
    · intro p hp
      rcases List.mem_append.mp hp with hp | hp
      · exact hb.kinds.rebinds p hp
      · rw [List.mem_singleton.mp hp]
        exact ⟨hke, hk⟩
    · exact ⟨(hb.speech.speech.1.trans ht).trans h₁.symm,
        (hb.speech.speech.2.trans ha).trans h₂.symm⟩
    · exact ⟨(hb.speech.firstPlayout.1.trans ht).trans h₁.symm,
        (hb.speech.firstPlayout.2.trans ha).trans h₂.symm⟩
    · intro p hp
      rcases List.mem_append.mp hp with hp | hp
      · exact ⟨((hb.speech.rebinds p hp).1.trans ht).trans h₁.symm,
          ((hb.speech.rebinds p hp).2.trans ha).trans h₂.symm⟩
      · rw [List.mem_singleton.mp hp]
        exact ⟨h₁.symm, h₂.symm⟩

theorem story_receipt {r : ActRecord} {history : List VoiceEvent} {event : VoiceEvent}
    (h : Story r history) (hr : r.kind = .playoutBound)
    (hk : event.kind = .transportResolved ∨ event.kind = .playoutReconnected)
    (hp : payloadFits (some r) event = true) : Story (recordOf (some r) event) (history ++ [event]) := by
  obtain ⟨hc, hs⟩ := receipt_fits (by rcases hk with hk | hk <;> simp [hk]) hp
  obtain ⟨h₁, h₂, h₃⟩ := samePayload_inherits hc hs
  obtain ⟨g₁, g₂, g₃⟩ := complete_inherits (some r) hc
  simp only [Story, hr] at h
  obtain ⟨c, rfl, hb⟩ := h
  have hb' : Bound (recordOf (some r) event) c := hb.inherit h₁ h₂ h₃
  rcases hk with hk | hk
  · have hsame : (recordOf (some r) event).samePayload event = true := by
      simp only [ActRecord.samePayload, decide_eq_true_eq]
      exact ⟨g₁, g₂, g₃⟩
    have hkind : (recordOf (some r) event).kind = .transportResolved := hk
    simp only [Story, hkind]
    exact ⟨c, event, rfl, hk, hsame, hb'⟩
  · have hkind : (recordOf (some r) event).kind = .playoutReconnected := hk
    simp only [Story, hkind]
    exact ⟨c, event, rfl, hk, hb'⟩

/-- **Extending the story.** An event that follows its act's record, with a
payload that fits it, tells the next record. -/
theorem told_append {prior : Option ActRecord} {history : List VoiceEvent} {event : VoiceEvent}
    (h : Told prior history) (hobs : isObservationalEventKind event.kind = false)
    (hf : follows prior event = true) (hp : payloadFits prior event = true) :
    Told (some (recordOf prior event)) (history ++ [event]) := by
  refine ⟨sameAct_append h hf, ?_⟩
  have hkind : (recordOf prior event).kind = event.kind := rfl
  cases hk : event.kind
  case responseAuthorized =>
    cases prior with
    | none =>
      rw [show history = [] from h]
      simp only [Story, hkind, hk]
      exact ⟨event, rfl, hk⟩
    | some r =>
      have := (follows_some hf).1
      simp [expected, hk] at this
  case semanticActConfirmed =>
    obtain ⟨r, rfl, hr⟩ := record_of_follows hf (by simp [expected, hk])
    have hs := h.2
    simp only [expected, hk, List.mem_singleton] at hr
    simp only [Story, hr] at hs
    obtain ⟨a, rfl, hka⟩ := hs
    simp only [Story, hkind, hk]
    exact ⟨a, event, rfl, hka, hk⟩
  case ttsBound =>
    obtain ⟨r, rfl, hr⟩ := record_of_follows hf (by simp [expected, hk])
    have hs := h.2
    simp only [expected, hk, List.mem_singleton] at hr
    simp only [Story, hr] at hs
    obtain ⟨a, b, rfl, hka, hkb⟩ := hs
    simp only [payloadFits, hk, Bool.and_eq_true, Option.isSome_iff_exists] at hp
    obtain ⟨⟨⟨d, hd⟩, u, hu⟩, -⟩ := hp
    simp only [Story, hkind, hk]
    exact ⟨a, b, event, rfl, hka, hkb, hk, by simp [recordOf, hd], by simp [recordOf, hu]⟩
  case playoutBound =>
    obtain ⟨r, rfl, hr⟩ := record_of_follows hf (by simp [expected, hk])
    rw [hk] at hr
    exact story_playout h.2 hr hk hp
  case transportResolved =>
    obtain ⟨r, rfl, hr⟩ := record_of_follows hf (by simp [expected, hk])
    simp only [expected, hk, List.mem_singleton] at hr
    exact story_receipt h.2 hr (.inl hk) hp
  case playoutReconnected =>
    obtain ⟨r, rfl, hr⟩ := record_of_follows hf (by simp [expected, hk])
    simp only [expected, hk, List.mem_singleton] at hr
    exact story_receipt h.2 hr (.inr hk) hp
  case playoutPartial | playoutCleared | playoutInterrupted | callerPlaybackObserved | actFailed |
      actTimedOut =>
    simp only [Story, hkind, hk]
  -- the remaining kinds are observations
  all_goals
    rw [hk] at hobs
    exact absurd hobs (by decide)

/-! ## Streams -/

theorem acceptedEvents_append (log : List LifecycleEvent) (s : State) (event : VoiceEvent) :
    acceptedEvents (log ++ [step.event s event]) =
      acceptedEvents log ++ if (ingest s event).2 then [event] else [] := by
  unfold acceptedEvents
  rw [List.filter_append, List.map_append]
  by_cases h : (ingest s event).2 = true
  · simp [step, h]
  · simp [step, h]

/-- What the log of a stream and the state after it have to do with each other. -/
structure Recorded (log : List LifecycleEvent) (s : State) : Prop where
  ordered : (acceptedEvents log).Pairwise Before
  latest : ∀ e ∈ acceptedEvents log, (e.sequence : ℤ) ≤ s.sequence ∧ (e.atMs : ℤ) ≤ s.atMs
  told : ∀ act, Told (s.acts.find? act) (actHistory log act)

theorem Recorded.start (binding : VoiceSessionBinding) : Recorded [] (State.start binding) where
  ordered := List.Pairwise.nil
  latest e he := by cases he
  told act := rfl

theorem Recorded.before {log : List LifecycleEvent} {s : State} (h : Recorded log s)
    {event : VoiceEvent} (hseq : s.sequence < event.sequence) (hat : s.atMs ≤ event.atMs) :
    (acceptedEvents log ++ [event]).Pairwise Before := by
  rw [List.pairwise_append]
  refine ⟨h.ordered, List.pairwise_singleton _ _, ?_⟩
  intro a ha b hb
  rw [List.mem_singleton.mp hb]
  have := h.latest a ha
  unfold Before
  omega

theorem Recorded.latest_append {log : List LifecycleEvent} {s s' : State} (h : Recorded log s)
    {event : VoiceEvent} (hseq : s.sequence < event.sequence) (hat : s.atMs ≤ event.atMs)
    (hs : s'.sequence = event.sequence) (ha : s'.atMs = event.atMs) :
    ∀ e ∈ acceptedEvents log ++ [event], (e.sequence : ℤ) ≤ s'.sequence ∧
      (e.atMs : ℤ) ≤ s'.atMs := by
  intro e he
  rcases List.mem_append.mp he with he | he
  · have := h.latest e he
    omega
  · rw [List.mem_singleton.mp he]
    omega

theorem Recorded.step {log : List LifecycleEvent} {s : State} (h : Recorded log s)
    (event : VoiceEvent) : Recorded (log ++ [Voice.step.event s event]) (Voice.step s event).1 := by
  have happ := acceptedEvents_append log s event
  rcases ingest_cases s event with he | ⟨hseq, hat, ⟨hobs, s', he, hacts, hs, ha⟩ |
    ⟨hobs, hf, hp, he⟩⟩
  · rw [he, if_neg (by simp), List.append_nil] at happ
    refine ⟨by rw [happ]; exact h.ordered, ?_, ?_⟩
    · rw [happ, show (Voice.step s event).1 = s.reject from congrArg Prod.fst he]
      exact h.latest
    · intro act
      rw [actHistory, happ, show (Voice.step s event).1 = s.reject from congrArg Prod.fst he]
      exact h.told act
  · rw [he, if_pos rfl] at happ
    have hpost : (Voice.step s event).1 = s' := congrArg Prod.fst he
    refine ⟨by rw [happ]; exact h.before hseq hat, ?_, ?_⟩
    · rw [happ, hpost]
      exact h.latest_append hseq hat hs ha
    · intro act
      have hmoves : moves act event = false := by simp [moves, hobs]
      rw [actHistory, happ, hpost, hacts, List.filter_append, List.filter_cons_of_neg (by
        simp [hmoves]), List.filter_nil, List.append_nil]
      exact h.told act
  · rw [he, if_pos rfl] at happ
    have hpost : (Voice.step s event).1 = recordAct s event := congrArg Prod.fst he
    refine ⟨by rw [happ]; exact h.before hseq hat, ?_, ?_⟩
    · rw [happ, hpost]
      exact h.latest_append hseq hat rfl rfl
    · intro act
      rw [actHistory, happ, hpost, List.filter_append]
      simp only [recordAct, Entries.find?_set]
      by_cases hact : event.semanticActId = act
      · subst hact
        rw [if_pos rfl, List.filter_cons_of_pos (by simp [moves, hobs]), List.filter_nil]
        exact told_append (h.told _) hobs hf hp
      · rw [if_neg hact, List.filter_cons_of_neg (by simp [moves, hact]), List.filter_nil,
          List.append_nil]
        exact h.told act

theorem recorded_run (binding : VoiceSessionBinding) (es : List VoiceEvent) :
    Recorded (step.log (State.start binding) es) (step.run (State.start binding) es) :=
  step.log_inv (G := fun _ => True) (Recorded.start binding)
    (fun _ _ event h _ => h.step event) es fun _ _ => trivial

/-- The chain, the transport's receipt after it, and the caller's receipt they
stand behind. -/
structure PlaybackChain.Proves (c : PlaybackChain) (resolved observed : VoiceEvent) : Prop where
  kinds : c.Kinds
  resolved_kind : resolved.kind = .transportResolved
  complete : observed.payload.isComplete = true
  speech : c.Speech observed.payload.textDigest observed.payload.audioId
  playout : c.lastPlayout.payload.playoutId = observed.payload.playoutId
  resolved_payload : resolved.payload.textDigest = observed.payload.textDigest ∧
    resolved.payload.audioId = observed.payload.audioId ∧
    resolved.payload.playoutId = observed.payload.playoutId
  act : ∀ e ∈ c.events ++ [resolved], e.semanticActId = observed.semanticActId ∧
    e.inputTurnId = observed.inputTurnId ∧ e.generationId = observed.generationId ∧
    e.semanticActKind = observed.semanticActKind
  ordered : (c.events ++ [resolved, observed]).Pairwise Before

theorem chain_of_observed {log : List LifecycleEvent} {s : State} (h : Recorded log s)
    {event : VoiceEvent} (hk : event.kind = .callerPlaybackObserved)
    (ha : (ingest s event).2 = true) : ∃ (c : PlaybackChain) (resolved : VoiceEvent),
      actHistory log event.semanticActId = c.events ++ [resolved] ∧ c.Proves resolved event := by
  rcases ingest_cases s event with he | ⟨hseq, hat, ⟨hobs, -⟩ | ⟨-, hf, hp, -⟩⟩
  · rw [he] at ha; cases ha
  · rw [hk] at hobs; cases hobs
  obtain ⟨r, hr, hkind⟩ := record_of_follows hf (by simp [expected, hk])
  simp only [expected, hk, List.mem_singleton] at hkind
  have htold := h.told event.semanticActId
  rw [hr] at htold hf hp
  obtain ⟨hsame, hstory⟩ := htold
  simp only [Story, hkind] at hstory
  obtain ⟨c, e, hhist, hke, hpay, hb⟩ := hstory
  obtain ⟨hc, hobs⟩ := receipt_fits (by simp [hk]) hp
  simp only [ActRecord.samePayload, decide_eq_true_eq] at hpay hobs
  obtain ⟨ht, hu, hv⟩ := hobs
  refine ⟨c, e, hhist, hb.kinds, hke, hc, ?_, hb.playout.trans hv, ?_, ?_, ?_⟩
  · rw [← ht, ← hu]
    exact hb.speech
  · exact ⟨hpay.1.symm.trans ht, hpay.2.1.symm.trans hu, hpay.2.2.symm.trans hv⟩
  · intro f hf'
    rw [← hhist] at hf'
    have h₁ := hsame f hf'
    have h₂ := (follows_some hf).2
    have hmoves : moves event.semanticActId f = true := (List.mem_filter.mp hf').2
    simp only [moves, Bool.and_eq_true, decide_eq_true_eq] at hmoves
    simp only [ActRecord.sameAct, decide_eq_true_eq] at h₁ h₂
    exact ⟨hmoves.2, h₁.1.symm.trans h₂.1, h₁.2.1.symm.trans h₂.2.1,
      h₁.2.2.symm.trans h₂.2.2⟩
  · have hall := h.before hseq hat
    have hsub : (c.events ++ [e, event]).Sublist (acceptedEvents log ++ [event]) := by
      rw [show c.events ++ [e, event] = (c.events ++ [e]) ++ [event] by simp, ← hhist]
      exact List.Sublist.append_right List.filter_sublist _
    exact hall.sublist hsub

/-- **Playback is proven.** In every stream of events into an empty lifecycle:
an accepted caller receipt is preceded by the accepted events of its act, which
are exactly an authorization, a confirmation, the bound speech, a playout with
any number of reconnects and rebinds, and the transport's receipt, for the same
act, turn, generation and act kind, with the observed speech and the observed
last playout, in order; and a refused event only counts itself. -/
theorem playback_proven (binding : VoiceSessionBinding) (es : List VoiceEvent) :
    (∀ l₁ e l₂, step.log (State.start binding) es = l₁ ++ e :: l₂ →
      e.call.kind = .callerPlaybackObserved → e.resp = true →
      ∃ (c : PlaybackChain) (resolved : VoiceEvent),
        actHistory l₁ e.call.semanticActId = c.events ++ [resolved] ∧ c.Proves resolved e.call) ∧
    (∀ e ∈ step.log (State.start binding) es, e.resp = false →
      e.post = { e.pre with rejectedEventCount := e.pre.rejectedEventCount + 1 }) := by
  constructor
  · intro l₁ e l₂ h hk ha
    obtain ⟨cs₁, event, cs₂, rfl, rfl, rfl, -⟩ := step.log_eq_append_cons h
    exact chain_of_observed (recorded_run binding cs₁) hk ha
  · intro e he hr
    obtain ⟨cs₁, event, -, -, rfl⟩ := step.mem_log he
    exact reject_of_refused hr

def exampleIdentifier : Identifier := ⟨py "x1", by decide⟩

def exampleBinding : VoiceSessionBinding :=
  ⟨exampleIdentifier, exampleIdentifier, exampleIdentifier, exampleIdentifier, 0⟩

def exampleDigest : Digest := ⟨List.replicate 64 (digit 0), by decide⟩

def exampleEvent (kind : VoiceEventKind) (sequence : ℕ) (speech playout : Bool) : VoiceEvent :=
  { kind := kind
    source := requiredSource kind
    sensitivity := .operational
    binding := exampleBinding
    sequence := sequence
    atMs := sequence
    inputTurnId := exampleIdentifier
    generationId := exampleIdentifier
    semanticActId := exampleIdentifier
    semanticActKind := .question
    payload :=
      { ordinal := none
        durationMs := none
        textDigest := if speech then some exampleDigest else none
        audioId := if speech then some exampleIdentifier else none
        playoutId := if playout then some exampleIdentifier else none } }

def exampleChain : List VoiceEvent :=
  [exampleEvent .responseAuthorized 0 false false, exampleEvent .semanticActConfirmed 1 false false,
    exampleEvent .ttsBound 2 true false, exampleEvent .playoutBound 3 true true,
    exampleEvent .playoutReconnected 4 true true, exampleEvent .playoutBound 5 true true,
    exampleEvent .transportResolved 6 true true]

theorem playback_proven_exampleChain :
    ∃ (c : PlaybackChain) (resolved : VoiceEvent),
      actHistory (step.log (State.start exampleBinding) exampleChain) exampleIdentifier =
        c.events ++ [resolved] ∧
      c.Proves resolved (exampleEvent .callerPlaybackObserved 7 true true) :=
  (playback_proven exampleBinding
    (exampleChain ++ [exampleEvent .callerPlaybackObserved 7 true true])).1 _
    (step.event (step.run (State.start exampleBinding) exampleChain)
      (exampleEvent .callerPlaybackObserved 7 true true)) []
    (step.log_append _ _ _) rfl (by decide)

end HeyKevin.L5.Voice
