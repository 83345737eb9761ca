import HeyKevin.Core.Fallible
import HeyKevin.L5Voice.CallLifecycle
/-!
# What one call can do to the silence ladder

`Turn` lists the ways a call moves the lifecycle, with everything each leaves
behind: the guards it passed, the phase, the revision, the cycle and the reply.
`step_turn` is the inversion of the reducer: every call takes one turn. The
results about timers and about the ladder are case analyses over turns and
never look into the code again.

A turn that builds an intent may end in a raise with part of its writes done;
`Issued` and `Armed` keep both ends.
-/
namespace HeyKevin.L5.Silence

open HeyKevin.Core L1.Text
open HeyKevin.L5.Voice (VoiceEvent VoiceSessionBinding VoiceSemanticActKind)

/-- How many intents of a kind a reply carries. -/
def Reply.count (kind : CallIntentKind) : Reply → ℕ
  | .intents l => l.countP fun i => i.kind == kind
  | _ => 0

@[simp] theorem Reply.count_bool (kind : CallIntentKind) (b : Bool) :
    (Reply.bool b).count kind = 0 := rfl

@[simp] theorem Reply.count_raised (kind : CallIntentKind) (e : String) :
    (Reply.raised e).count kind = 0 := rfl

@[simp] theorem Reply.count_nil (kind : CallIntentKind) : (Reply.intents []).count kind = 0 := rfl

@[simp] theorem Reply.count_cons (kind : CallIntentKind) (i : CallIntent) (l : List CallIntent) :
    (Reply.intents (i :: l)).count kind =
      (Reply.intents l).count kind + if i.kind = kind then 1 else 0 := by
  simp only [Reply.count, List.countP_cons, beq_iff_eq]

@[simp] theorem Reply.count_append (kind : CallIntentKind) (l l' : List CallIntent) :
    (Reply.intents (l ++ l')).count kind =
      (Reply.intents l).count kind + (Reply.intents l').count kind := by
  simp only [Reply.count, List.countP_append]

section Lifecycle

variable {config : Config}

/-! ## Building intents -/

theorem intent_ok {s : State config} {kind : CallIntentKind} {actionId : Str} {actId : Option Str}
    {deadlineMs : Option ℤ} {i : CallIntent} (h : s.intent kind actionId actId deadlineMs = .ok i) :
    i.kind = kind ∧ i.revision = s.revision ∧ i.actionId = actionId ∧ i.actId = actId ∧
      i.isValid config = true := by
  unfold State.intent at h
  simp only at h
  split at h
  · rename_i hv
    cases h
    exact ⟨rfl, rfl, rfl, rfl, hv⟩
  · cases h

theorem isId_of_isValid {i : CallIntent} (h : i.isValid config = true) :
    config.isId i.actionId = true := by
  simp only [CallIntent.isValid, Bool.and_eq_true] at h
  exact h.1.1.1.1

/-- An intent was issued over `base`, or could not be built. -/
inductive Issued (base : State config) (kind : CallIntentKind) (actionId actId : Str) :
    State config → Reply → Prop
  | ok (i : CallIntent) (hk : i.kind = kind) (ha : i.actionId = actionId)
      (hact : i.actId = some actId) (hv : i.isValid config = true) :
      Issued base kind actionId actId { base with cycle := { base.cycle with
        issuedIntents := base.cycle.issuedIntents.set actionId i } } (.intents [i])
  | raised (e : String) (h : base.intent kind actionId (some actId) none = .error e) :
      Issued base kind actionId actId base (.raised e)

theorem issueIntent_issued (s : State config) (kind : CallIntentKind) (actionId actId : Str) :
    Issued s kind actionId actId (s.issueIntent kind actionId actId).1
      (s.issueIntent kind actionId actId).2 := by
  unfold State.issueIntent
  cases h : s.intent kind actionId (some actId) none with
  | error e => exact .raised e h
  | ok i =>
    obtain ⟨hk, -, ha, hact, hv⟩ := intent_ok h
    exact .ok i hk ha hact hv

theorem Issued.fields {base s' : State config} {kind : CallIntentKind} {actionId actId : Str}
    {r : Reply} (h : Issued base kind actionId actId s' r) :
    s'.phase = base.phase ∧ s'.revision = base.revision ∧
      ∃ l, s'.cycle = { base.cycle with issuedIntents := l } := by
  cases h with
  | ok i => exact ⟨rfl, rfl, _, rfl⟩
  | raised e => exact ⟨rfl, rfl, _, rfl⟩

/-- A timer was armed over `base`, or its intent could not be built: then the
phase and the deadline are set all the same. -/
inductive Armed (base : State config) (phase : SilencePhase) (actId : Str) (deadlineMs : ℤ) :
    State config → Reply → Prop
  | ok (i : CallIntent) (hk : i.kind = .armTimer) (hr : i.revision = base.revision)
      (ha : i.actionId = timerActionId base.revision deadlineMs)
      (hv : config.isId i.actionId = true) :
      Armed base phase actId deadlineMs
        { base with phase := phase, cycle := { base.cycle with
          deadlineMs := some deadlineMs, timerIntent := some i } } (.intents [i])
  | raised (e : String) (h : State.intent { base with
        phase := phase, cycle := { base.cycle with deadlineMs := some deadlineMs } }
        .armTimer (timerActionId base.revision deadlineMs) (some actId) (some deadlineMs)
          = .error e) :
      Armed base phase actId deadlineMs
        { base with phase := phase, cycle := { base.cycle with deadlineMs := some deadlineMs } }
        (.raised e)

theorem arm_armed (s : State config) (phase : SilencePhase) (actId : Str) (deadlineMs : ℤ) :
    Armed s phase actId deadlineMs (arm s phase actId deadlineMs).1
      (arm s phase actId deadlineMs).2 := by
  unfold arm
  simp only
  split
  · rename_i e h
    exact .raised e h
  · rename_i i h
    obtain ⟨hk, hr, ha, -, hv⟩ := intent_ok h
    exact .ok i hk hr ha (isId_of_isValid hv)

theorem Armed.fields {base s' : State config} {phase : SilencePhase} {actId : Str}
    {deadlineMs : ℤ} {r : Reply} (h : Armed base phase actId deadlineMs s' r) :
    s'.phase = phase ∧ s'.revision = base.revision ∧
      ∃ t, s'.cycle = { base.cycle with deadlineMs := some deadlineMs, timerIntent := t } := by
  cases h with
  | ok i => exact ⟨rfl, rfl, _, rfl⟩
  | raised e => exact ⟨rfl, rfl, _, rfl⟩

theorem count_of_mapM {α : Type} {f : α → Except String CallIntent} {as : List α}
    {l : List CallIntent} (h : as.mapM f = .ok l) {kind other : CallIntentKind}
    (hk : ∀ a i, f a = .ok i → i.kind = kind) (hne : kind ≠ other) :
    (Reply.intents l).count other = 0 := by
  unfold Reply.count
  rw [List.countP_eq_zero]
  intro i hi
  obtain ⟨a, -, ha⟩ := exists_of_mem_mapM h hi
  rw [hk a i ha]
  simpa using hne

/-- A cancellation names the timer exactly when a deadline is set. -/
theorem cancelIntents_count {s : State config} {timerActionId : Str} {timerActId : Option Str}
    {actActionId : ℕ → Str → Str} {l : List CallIntent}
    (h : cancelIntents s timerActionId timerActId actActionId = .ok l) :
    (Reply.intents l).count .armTimer = 0 ∧
      (Reply.intents l).count .cancelTimer = (if s.cycle.deadlineMs.isSome then 1 else 0) ∧
      (s.cycle.deadlineMs.isSome = true → config.isId timerActionId = true) := by
  unfold cancelIntents at h
  simp only [bind_eq_ok, pure_eq_ok, Except.ok.injEq] at h
  obtain ⟨timer, htimer, acts, hacts, rfl⟩ := h
  have hacts' : ∀ other, CallIntentKind.cancelAct ≠ other →
      (Reply.intents acts).count other = 0 := fun other hne =>
    count_of_mapM hacts (fun a i hi => (intent_ok hi).1) hne
  rw [Reply.count_append, Reply.count_append, hacts' _ (by decide), hacts' _ (by decide)]
  unfold cancelTimerIntent at htimer
  cases hd : s.cycle.deadlineMs.isSome with
  | false =>
    simp only [hd, Bool.false_eq_true, if_false, Except.ok.injEq] at htimer
    subst htimer
    exact ⟨rfl, rfl, fun h => (by cases h)⟩
  | true =>
    simp only [hd, if_true] at htimer
    cases hi : s.intent .cancelTimer timerActionId timerActId none with
    | error e => rw [hi] at htimer; cases htimer
    | ok i =>
      rw [hi] at htimer
      cases htimer
      obtain ⟨hk, -, ha, -, hv⟩ := intent_ok hi
      refine ⟨by simp [hk], by simp [hk], fun _ => ?_⟩
      exact ha ▸ isId_of_isValid hv

/-! ## Labels -/

/-- The rungs of the ladder, each with the act it is about. -/
inductive Rung
  | reserved (actId : Str)
  | confirmed (actId : Str)
  | questionPlayed (actId : Str)
  | silenceFired
  | presenceConsumed (actId : Str)
  | presencePlayed (actId : Str)
  | closingFired
  | closingConsumed (actId : Str)
  | closingPlayed (actId : Str)
deriving DecidableEq

abbrev CallEvent (config : Config) := Event (State config) (Call config) Reply

def playedRung (pre post : SilencePhase) (actId : Str) : Option Rung :=
  match pre, post with
  | .questionConfirmed, .firstArmed => some (.questionPlayed actId)
  | .presencePending, .secondArmed => some (.presencePlayed actId)
  | .closingPending, .terminalEligible => some (.closingPlayed actId)
  | _, _ => none

def firedRung (pre post : SilencePhase) : Option Rung :=
  match pre.armed, post with
  | true, .presencePending => some .silenceFired
  | true, .closingPending => some .closingFired
  | _, _ => none

def consumedRung (kind : CallIntentKind) (actId : Str) : Option Rung :=
  match kind with
  | .requestPresenceCheck => some (.presenceConsumed actId)
  | .requestClosing => some (.closingConsumed actId)
  | _ => none

/-- The rung a call took: read off the call, its reply and the two phases. -/
def rung (e : CallEvent config) : Option Rung :=
  match e.call with
  | .reserveQuestion _ question =>
    if e.resp = .bool true then some (.reserved question.actId.val) else none
  | .semanticConfirmed _ _ event =>
    if e.resp = .bool true then some (.confirmed event.semanticActId.val) else none
  | .playback _ actId _ _ _ => playedRung e.pre.phase e.post.phase actId
  | .observedPlayback _ _ event => playedRung e.pre.phase e.post.phase event.semanticActId.val
  | .timerFired .. => firedRung e.pre.phase e.post.phase
  | .consumeIntent intent materializedActId =>
    if e.resp = .bool true then
      intent.actId.bind fun actId => consumedRung intent.kind (materializedActId.getD actId)
    else none
  | _ => none

@[simp] theorem playedRung_self (p : SilencePhase) (actId : Str) : playedRung p p actId = none := by
  cases p <;> rfl

@[simp] theorem firedRung_self (p : SilencePhase) : firedRung p p = none := by
  cases p <;> rfl

/-- The act a playback call is about, and its time. -/
def Call.played : Call config → Option (Str × ℤ)
  | .playback p actId _ _ _ => some (actId, p.atMs)
  | .observedPlayback _ _ event => some (event.semanticActId.val, event.atMs)
  | _ => none

/-- An accepted firing. -/
def firing (s : State config) : Call config → Bool
  | .timerFired p actionId revision => timerDue s p actionId revision
  | _ => false

theorem rung_played {s u : State config} {c : Call config} {r : Reply} {actId : Str} {t : ℤ}
    (h : c.played = some (actId, t)) :
    rung ⟨s, c, r, u⟩ = playedRung s.phase u.phase actId ∧ firing s c = false := by
  cases c with
  | playback p a evidence inferenceId transportId =>
    simp only [Call.played, Option.some.injEq, Prod.mk.injEq] at h
    obtain ⟨rfl, -⟩ := h
    exact ⟨rfl, rfl⟩
  | observedPlayback eventId sequence event =>
    simp only [Call.played, Option.some.injEq, Prod.mk.injEq] at h
    obtain ⟨rfl, -⟩ := h
    exact ⟨rfl, rfl⟩
  | _ => cases h

/-- The guard of a playback, in whichever way it is reported. -/
def heard (s : State config) : Call config → Bool
  | .playback p actId evidence inferenceId transportId =>
    evidence == .playbackInferred && playbackActive s actId &&
      inferable s actId inferenceId transportId p.atMs && s.canAcceptPosition p
  | .observedPlayback eventId sequence event =>
    observedActive s (expectedKind s event) event.semanticActId.val &&
      some event.semanticActKind == expectedKind s event &&
      Voice.acceptsCallerPlayback s.voice event &&
      s.canAcceptPosition (eventPosition eventId sequence event)
  | _ => false

/-- The guard of a grant of more time. -/
def moreTimeGranted (s : State config) (p : Position) : Bool :=
  moreTimeEligible s.phase && !deadlineExpired s p.atMs && s.canAcceptPosition p &&
    !s.cycle.moreTimeUsed && s.cycle.deadlineMs.isSome

theorem moreTimeGranted_spec {s : State config} {p : Position} (h : moreTimeGranted s p = true) :
    moreTimeEligible s.phase = true ∧ s.cycle.moreTimeUsed = false ∧
      s.cycle.deadlineMs.isSome = true := by
  simp only [moreTimeGranted, Bool.and_eq_true, Bool.not_eq_true'] at h
  exact ⟨h.1.1.1.1, h.1.2, h.2⟩

/-! ## Turns -/

/-- The ways a call moves the lifecycle. -/
inductive Turn (s : State config) : Call config → Reply → State config → Prop
  /-- The cycle stays, but for what the transport resolved. -/
  | stay (c : Call config) (r : Reply) (s' : State config) (t : Entries Str (ℤ × Str))
      (hp : s'.phase = s.phase) (hr : s'.revision = s.revision)
      (hc : s'.cycle = { s.cycle with transport := t })
      (harm : r.count .armTimer = 0) (hcancel : r.count .cancelTimer = 0)
      (hfire : firing s c = false) (hrung : rung ⟨s, c, r, s'⟩ = none) : Turn s c r s'
  | reserve (p : Position) (q : QuestionIntent config) (s' : State config)
      (hphase : s.phase = .idle) (hp : s'.phase = .questionReserved)
      (hr : s'.revision = s.revision)
      (hc : s'.cycle = { s.cycle with
        question := some q
        silenceOriginActId := some q.actId.val
        silenceTurnId := some q.turnId.val
        silenceTurnSequence := q.turnSequence
        presenceDelivered := false
        moreTimeUsed := false }) : Turn s (.reserveQuestion p q) (.bool true) s'
  | rollback (binding : VoiceSessionBinding) (q : QuestionIntent config) (s' : State config)
      (hphase : s.phase = .questionReserved) (hd : s.cycle.deadlineMs = none)
      (hp : s'.phase = .idle) (hr : s'.revision = s.revision)
      (hc : s'.cycle = Cycle.clear config) :
      Turn s (.rollbackQuestionReservation binding q) (.bool true) s'
  | confirm (eventId : Str) (sequence : ℤ) (event : VoiceEvent) (s' : State config)
      (hphase : s.phase = .questionReserved)
      (hq : s.cycle.questionActId = some event.semanticActId.val)
      (hp : s'.phase = .questionConfirmed) (hr : s'.revision = s.revision)
      (hc : s'.cycle = s.cycle) : Turn s (.semanticConfirmed eventId sequence event) (.bool true) s'
  | hardTerminalize (l : List CallIntent) (s' : State config) (hp : s'.phase = .terminated)
      (hr : s'.revision = s.revision + 1) (hc : s'.cycle = Cycle.clear config)
      (harm : (Reply.intents l).count .armTimer = 0)
      (hcancel : (Reply.intents l).count .cancelTimer =
        if s.cycle.deadlineMs.isSome then 1 else 0) : Turn s .hardTerminalize (.intents l) s'
  | cancel (p : Position) (l : List CallIntent) (s' : State config)
      (hphase : s.phase ≠ .terminated) (hp : s'.phase = .idle)
      (hr : s'.revision = s.revision + 1) (hc : s'.cycle = Cycle.clear config)
      (harm : (Reply.intents l).count .armTimer = 0)
      (hcancel : (Reply.intents l).count .cancelTimer =
        if s.cycle.deadlineMs.isSome then 1 else 0) : Turn s (.cancel p) (.intents l) s'
  /-- An issued intent was consumed in a way that seals the lifecycle. -/
  | sealed (c : Call config) (b : Bool) (s' : State config) (k : Str)
      (hissued : (s.cycle.issuedIntents.find? k).isSome = true) (hp : s'.phase = .terminated)
      (hr : s'.revision = s.revision + 1) (hc : s'.cycle = Cycle.clear config)
      (hfire : firing s c = false) (hrung : rung ⟨s, c, .bool b, s'⟩ = none) :
      Turn s c (.bool b) s'
  | materialize (intent : CallIntent) (materializedActId : Option Str) (actId : Str)
      (hissued : s.cycle.issuedIntents.find? intent.actionId = some intent)
      (hawaited : awaited s intent = true) (hact : intent.actId = some actId)
      (hid : materializedActId.all config.isId = true) :
      Turn s (.consumeIntent intent materializedActId) (.bool true)
        (Silence.materialize (s.popIssued intent.actionId) intent.kind
          (materializedActId.getD actId))
  | armQuestion (c : Call config) (r : Reply) (s' base : State config) (actId : Str) (t : ℤ)
      (tr : Entries Str (ℤ × Str)) (hplayed : c.played = some (actId, t))
      (hheard : heard s c = true) (hphase : s.phase = .questionConfirmed)
      (hq : s.cycle.questionActId = some actId) (hr : base.revision = s.revision)
      (hc : base.cycle = { s.cycle with transport := tr })
      (h : Armed base .firstArmed actId (t + config.firstSilenceMs) s' r) : Turn s c r s'
  | armPresence (c : Call config) (r : Reply) (s' base : State config) (actId : Str) (t : ℤ)
      (tr : Entries Str (ℤ × Str)) (hplayed : c.played = some (actId, t))
      (hheard : heard s c = true) (hphase : s.phase = .presencePending)
      (hid : s.cycle.presenceId = some actId)
      (hm : s.cycle.materializedActIds.contains actId = true) (hr : base.revision = s.revision)
      (hc : base.cycle = { s.cycle with
        transport := tr
        materializedActIds := s.cycle.discard actId
        presenceId := none
        presenceDelivered := true })
      (h : Armed base .secondArmed actId (t + config.secondSilenceMs) s' r) : Turn s c r s'
  | armMoreTime (c : Call config) (r : Reply) (s' base : State config) (actId : Str) (t : ℤ)
      (tr : Entries Str (ℤ × Str)) (hplayed : c.played = some (actId, t))
      (hheard : heard s c = true) (hphase : s.phase = .moreTimePending)
      (hid : s.cycle.moreTimeAckId = some actId)
      (hm : s.cycle.materializedActIds.contains actId = true) (hr : base.revision = s.revision)
      (hc : base.cycle = { s.cycle with
        transport := tr
        materializedActIds := s.cycle.discard actId
        moreTimeAckId := none })
      (h : Armed base .moreTimeArmed actId (t + config.moreTimeExtensionMs) s' r) : Turn s c r s'
  | close (c : Call config) (r : Reply) (s' base : State config) (actId : Str) (t : ℤ)
      (tr : Entries Str (ℤ × Str)) (hplayed : c.played = some (actId, t))
      (hphase : s.phase = .closingPending) (hid : s.cycle.closingId = some actId)
      (hm : s.cycle.materializedActIds.contains actId = true) (hp : base.phase = .terminalEligible)
      (hr : base.revision = s.revision)
      (hc : base.cycle = { s.cycle with
        transport := tr
        materializedActIds := s.cycle.discard actId
        closingId := none })
      (h : Issued base .terminalEligible (py "terminal_" ++ actId) actId s' r) : Turn s c r s'
  | fallbackPlayed (c : Call config) (s' : State config) (actId : Str) (t : ℤ)
      (hplayed : c.played = some (actId, t)) (hphase : s.phase = .fallbackPending)
      (hp : s'.phase = .idle) (hr : s'.revision = s.revision + 1)
      (hc : s'.cycle = Cycle.clear config) : Turn s c (.intents []) s'
  | firePresence (p : Position) (actionId : Str) (revision : ℤ) (r : Reply) (s' base : State config)
      (tr : Entries Str (ℤ × Str)) (hdue : timerDue s p actionId revision = true)
      (hphase : s.phase = .firstArmed ∨
        s.phase = .moreTimeArmed ∧ s.cycle.presenceDelivered = false)
      (hp : base.phase = .presencePending) (hr : base.revision = s.revision + 1)
      (hc : base.cycle = { s.cycle with
        deadlineMs := none
        timerIntent := none
        question := none
        transport := tr
        presenceId := some (revisionId "presence" (s.revision + 1)) })
      (h : Issued base .requestPresenceCheck (revisionId "presence" (s.revision + 1))
        (revisionId "presence" (s.revision + 1)) s' r) :
      Turn s (.timerFired p actionId revision) r s'
  | fireClosing (p : Position) (actionId : Str) (revision : ℤ) (r : Reply) (s' base : State config)
      (hdue : timerDue s p actionId revision = true)
      (hphase : s.phase = .secondArmed ∨
        s.phase = .moreTimeArmed ∧ s.cycle.presenceDelivered = true)
      (hp : base.phase = .closingPending) (hr : base.revision = s.revision)
      (hc : base.cycle = { s.cycle with
        deadlineMs := none
        timerIntent := none
        closingId := some (revisionId "closing" s.revision) })
      (h : Issued base .requestClosing (revisionId "closing" s.revision)
        (revisionId "closing" s.revision) s' r) :
      Turn s (.timerFired p actionId revision) r s'
  | fallback (kind : CallIntentKind) (p : Position) (turnId : Str) (turnSequence : ℤ) (r : Reply)
      (s' base : State config) (cancels : List CallIntent)
      (hallowed : fallbackAllowed s kind p turnId turnSequence = true)
      (hp : base.phase = .fallbackPending) (hr : base.revision = s.revision + 1)
      (hc : base.cycle = { Cycle.clear config with
        silenceTurnId := some turnId
        silenceTurnSequence := some turnSequence.toNat
        fallbackKind := some kind
        fallbackId := some (fallbackActId kind (s.revision + 1)) })
      (harm : (Reply.intents cancels).count .armTimer = 0)
      (hcancel : (Reply.intents cancels).count .cancelTimer =
        if s.cycle.deadlineMs.isSome then 1 else 0)
      (hid : s.cycle.deadlineMs.isSome = true →
        config.isId (revisionId "fallback_cancel_timer" s.revision) = true)
      (h : Issued base kind (fallbackActId kind (s.revision + 1))
        (fallbackActId kind (s.revision + 1)) s' r) :
      Turn s (.requestFixedFallback kind p turnId turnSequence) (r.prepend cancels) s'
  | moreTime (p : Position) (r : Reply) (s' base : State config) (i : CallIntent)
      (hgranted : moreTimeGranted s p = true) (hi : i.kind = .cancelTimer)
      (hid : config.isId (revisionId "more_time_cancel" s.revision) = true)
      (hp : base.phase = .moreTimePending) (hr : base.revision = s.revision)
      (hc : base.cycle = { s.cycle with
        deadlineMs := none
        timerIntent := none
        moreTimeUsed := true
        moreTimeAckId := some (moreTimeActId s.revision p.sequence) })
      (h : Issued base .requestMoreTimeAcknowledgement (moreTimeActId s.revision p.sequence)
        (moreTimeActId s.revision p.sequence) s' r) :
      Turn s (.requestMoreTime p) (r.prepend [i]) s'

/-! ## Every call takes a turn -/

theorem rung_unmoved {s s' : State config} {c : Call config} {r : Reply}
    (hp : s'.phase = s.phase) (hr : r ≠ .bool true) : rung ⟨s, c, r, s'⟩ = none := by
  cases c <;> simp [rung, hp, hr]

/-- A call that gets no further than its position. -/
theorem turn_unmoved {s s' : State config} {c : Call config} {r : Reply}
    (hp : s'.phase = s.phase) (hr : s'.revision = s.revision) (hc : s'.cycle = s.cycle)
    (hreply : r ≠ .bool true) (hcount : ∀ kind, r.count kind = 0) (hfire : firing s c = false) :
    Turn s c r s' :=
  .stay c r s' s.cycle.transport hp hr (by rw [hc]) (hcount _) (hcount _) hfire
    (rung_unmoved hp hreply)

theorem turn_refused {s : State config} {c : Call config} (hfire : firing s c = false) :
    Turn s c (.bool false) s ∧ Turn s c (.intents []) s :=
  ⟨turn_unmoved rfl rfl rfl (by simp) (fun _ => rfl) hfire,
    turn_unmoved rfl rfl rfl (by simp) (fun _ => rfl) hfire⟩

theorem reserveQuestion_turn (s : State config) (p : Position) (q : QuestionIntent config) :
    Turn s (.reserveQuestion p q) (reserveQuestion s p q).2 (reserveQuestion s p q).1 := by
  unfold reserveQuestion
  split
  · exact (turn_refused rfl).1
  · rename_i h
    exact .reserve p q _ (by_contra fun hne => h (.inl hne)) rfl rfl rfl

theorem rollbackQuestionReservation_turn (s : State config) (binding : VoiceSessionBinding)
    (q : QuestionIntent config) : Turn s (.rollbackQuestionReservation binding q)
      (rollbackQuestionReservation s binding q).2 (rollbackQuestionReservation s binding q).1 := by
  unfold rollbackQuestionReservation
  split
  · exact (turn_refused rfl).1
  · rename_i h
    simp only [not_or, ne_eq, not_not] at h
    exact .rollback binding q _ h.2.1 h.2.2.2.1 rfl rfl rfl

theorem semanticConfirmed_turn (s : State config) (eventId : Str) (sequence : ℤ)
    (event : VoiceEvent) : Turn s (.semanticConfirmed eventId sequence event)
      (semanticConfirmed s eventId sequence event).2
      (semanticConfirmed s eventId sequence event).1 := by
  unfold semanticConfirmed
  simp only
  split
  · exact (turn_refused rfl).1
  · rename_i h
    simp only [not_or, Bool.not_eq_false] at h
    obtain ⟨hcan, -⟩ := h
    simp only [canSemanticConfirm, Bool.and_eq_true, beq_iff_eq] at hcan
    obtain ⟨⟨⟨hphase, hq⟩, -⟩, -⟩ := hcan
    cases hqs : s.cycle.question with
    | none => rw [hqs] at hq; cases hq
    | some q =>
      rw [hqs] at hq
      simp only [Option.any_some, decide_eq_true_eq] at hq
      refine .confirm eventId sequence event _ hphase ?_ rfl rfl rfl
      simp [Cycle.questionActId, hqs, hq.1]

theorem hardTerminalize_turn (s : State config) :
    Turn s .hardTerminalize (hardTerminalize s).2 (hardTerminalize s).1 := by
  unfold hardTerminalize
  split
  · exact turn_unmoved rfl rfl rfl (by simp) (fun _ => rfl) rfl
  · rename_i l h
    obtain ⟨harm, hcancel, -⟩ := cancelIntents_count h
    exact .hardTerminalize l _ rfl rfl rfl harm hcancel

/-- Nothing was issued under this id: looking it up changed nothing. -/
theorem popIssued_turn {s : State config} {c : Call config} {k : Str} {b : Bool}
    (h : s.cycle.issuedIntents.find? k = none) (hb : b = false) (hfire : firing s c = false) :
    Turn s c (.bool b) (s.popIssued k) := by
  subst hb
  refine turn_unmoved rfl rfl ?_ (by simp) (fun _ => rfl) hfire
  unfold State.popIssued
  rw [Entries.pop_of_find?_none h]

theorem consumeIntent_turn (s : State config) (intent : CallIntent) (m : Option Str) :
    Turn s (.consumeIntent intent m) (consumeIntent s intent m).2 (consumeIntent s intent m).1 := by
  unfold consumeIntent
  split
  · exact (turn_refused rfl).1
  rename_i hid
  simp only
  generalize haccepted : (s.cycle.issuedIntents.find? intent.actionId == some intent &&
    intent.binding == config.binding && intent.revision == s.revision && awaited s intent) = accepted
  cases hissued : s.cycle.issuedIntents.find? intent.actionId with
  | none =>
    have hfalse : accepted = false := by
      rw [← haccepted, hissued]
      simp
    subst hfalse
    exact popIssued_turn hissued rfl rfl
  | some i =>
    cases accepted with
    | false => exact .sealed _ _ _ intent.actionId (by simp [hissued]) rfl rfl rfl rfl (by simp [rung])
    | true =>
      simp only [Bool.and_eq_true, beq_iff_eq] at haccepted
      obtain ⟨⟨⟨hsame, -⟩, -⟩, hawaited⟩ := haccepted
      cases hact : intent.actId with
      | none =>
        -- an accepted intent without an act names no rung
        exact .sealed _ _ _ intent.actionId (by simp [hissued]) rfl rfl rfl rfl
          (by simp [rung, hact])
      | some actId => exact .materialize intent m actId hsame hawaited hact (by simpa using hid)

theorem terminalize_turn (s : State config) (intent : CallIntent) :
    Turn s (.terminalize intent) (terminalize s intent).2 (terminalize s intent).1 := by
  unfold terminalize
  simp only
  generalize haccepted : (s.cycle.issuedIntents.find? intent.actionId == some intent &&
    intent.kind == .terminalEligible && intent.binding == config.binding &&
    intent.revision == s.revision && s.phase == .terminalEligible) = accepted
  cases hissued : s.cycle.issuedIntents.find? intent.actionId with
  | none =>
    have hfalse : accepted = false := by
      rw [← haccepted, hissued]
      simp
    subst hfalse
    exact popIssued_turn hissued rfl rfl
  | some i =>
    cases accepted with
    | false => exact .sealed _ _ _ intent.actionId (by simp [hissued]) rfl rfl rfl rfl rfl
    | true => exact .sealed _ _ _ intent.actionId (by simp [hissued]) rfl rfl rfl rfl rfl

theorem transportResolved_turn (s : State config) (eventId : Str) (sequence : ℤ)
    (event : VoiceEvent) : Turn s (.transportResolved eventId sequence event)
      (transportResolved s eventId sequence event).2
      (transportResolved s eventId sequence event).1 := by
  unfold transportResolved
  simp only
  split
  · exact (turn_refused rfl).1
  · exact .stay _ _ _ _ rfl rfl rfl rfl rfl rfl rfl

theorem canAcceptPosition_spec {s : State config} {p : Position}
    (h : s.canAcceptPosition p = true) : s.sequence < p.sequence ∧ s.atMs ≤ p.atMs := by
  simp only [State.canAcceptPosition, Bool.and_eq_true, decide_eq_true_eq] at h
  exact ⟨h.1.2, h.2⟩

/-- What follows an accepted playback of an act that is the question's or was
consumed. -/
theorem afterPlayback_turn {s b : State config} {c : Call config} {actId : Str} {t : ℤ}
    {tr : Entries Str (ℤ × Str)} (hplayed : c.played = some (actId, t)) (hheard : heard s c = true)
    (hm : s.phase = .questionConfirmed ∨ s.cycle.materializedActIds.contains actId = true)
    (hp : b.phase = s.phase) (hr : b.revision = s.revision)
    (hc : b.cycle = { s.cycle with transport := tr }) :
    Turn s c (afterPlayback b actId t).2 (afterPlayback b actId t).1 := by
  have hm' : ∀ phase, s.phase = phase → phase ≠ .questionConfirmed →
      s.cycle.materializedActIds.contains actId = true := by
    intro phase h hne
    rcases hm with hm | hm
    · exact absurd (h.symm.trans hm) hne
    · exact hm
  unfold afterPlayback
  rw [hp, hc]
  simp only
  split
  · rename_i h
    exact .armQuestion c _ _ b actId t tr hplayed hheard h.2 h.1 hr hc (arm_armed _ _ _ _)
  split
  · rename_i h
    refine .armPresence c _ _ _ actId t tr hplayed hheard h.2 h.1 (hm' _ h.2 (by decide)) ?_ ?_
      (arm_armed _ _ _ _)
    · exact hr
    · rfl
  split
  · rename_i h
    refine .armMoreTime c _ _ _ actId t tr hplayed hheard h.2 h.1 (hm' _ h.2 (by decide)) ?_ ?_
      (arm_armed _ _ _ _)
    · exact hr
    · rfl
  split
  · rename_i h
    refine .close c _ _ _ actId t tr hplayed h.2 h.1 (hm' _ h.2 (by decide)) ?_ ?_ ?_
      (issueIntent_issued _ _ _ _)
    · rfl
    · exact hr
    · rfl
  split
  · rename_i h
    exact .fallbackPlayed c _ actId t hplayed h.2 rfl (by rw [hr]) rfl
  · exact .stay c _ _ tr hp hr hc rfl rfl (rung_played (r := .bool false) (u := s) hplayed).2
      (rung_unmoved hp (by simp))

/-- What was heard is the question, or an act that was consumed, and it was
heard no earlier than anything before. -/
theorem heard_spec {s : State config} {c : Call config} {actId : Str} {t : ℤ}
    (hplayed : c.played = some (actId, t)) (h : heard s c = true) :
    s.atMs ≤ t ∧
      (s.phase = .questionConfirmed ∨ s.cycle.materializedActIds.contains actId = true) := by
  cases c with
  | playback p a evidence inferenceId transportId =>
    cases hplayed
    simp only [heard, playbackActive, pendingAct, Bool.and_eq_true, Bool.or_eq_true,
      beq_iff_eq] at h
    obtain ⟨⟨⟨-, hactive⟩, -⟩, hpos⟩ := h
    refine ⟨(canAcceptPosition_spec hpos).2, ?_⟩
    rcases hactive with (((h | h) | h) | h) | h
    · exact .inl h.2
    · exact .inr h.2
    · exact .inr h.2
    · exact .inr h.2
    · exact .inr h.2
  | observedPlayback eventId sequence event =>
    cases hplayed
    simp only [heard, observedActive, Bool.and_eq_true, Bool.or_eq_true, beq_iff_eq] at h
    obtain ⟨⟨⟨hactive, -⟩, -⟩, hpos⟩ := h
    refine ⟨(canAcceptPosition_spec hpos).2, ?_⟩
    rcases hactive with (((h | h) | h) | h) | h
    · exact .inl h.2
    · exact .inr h.2
    · exact .inr h.2
    · exact .inr h.2
    · exact .inr h.2
  | _ => cases hplayed

theorem playback_step (s : State config) (p : Position) (actId : Str)
    (evidence : PlaybackEvidence) (inferenceId transportId : Option Str) :
    step config s (.playback p actId evidence inferenceId transportId) =
      if heard s (.playback p actId evidence inferenceId transportId) then
        afterPlayback { s.accept p with cycle := { s.cycle with
          transport := s.cycle.transport.pop actId } } actId p.atMs
      else (s, .intents []) := by
  show playback s p actId evidence inferenceId transportId = _
  unfold playback
  split
  · rename_i h
    rw [if_neg (by simp [heard, h])]
  split
  · rename_i h
    rcases h with h | h <;> rw [if_neg (by simp [heard, h])]
  split
  · rename_i h
    rw [if_neg (by simp [heard, h])]
  · rename_i h₁ h₂ h₃
    simp only [not_or, Bool.not_eq_false, ne_eq, not_not] at h₁ h₂ h₃
    rw [if_pos (by simp [heard, h₁, h₂, h₃])]
    rfl

theorem observedPlayback_step (s : State config) (eventId : Str) (sequence : ℤ)
    (event : VoiceEvent) : step config s (.observedPlayback eventId sequence event) =
      if heard s (.observedPlayback eventId sequence event) then
        afterPlayback (s.accept (eventPosition eventId sequence event)) event.semanticActId.val
          event.atMs
      else (s, .intents []) := by
  show observedPlayback s eventId sequence event = _
  unfold observedPlayback
  simp only
  split
  · rename_i h
    rw [if_neg]
    simp only [heard, Bool.and_eq_true, beq_iff_eq]
    rintro ⟨⟨⟨h₁, h₂⟩, h₃⟩, h₄⟩
    simp [h₁, h₂, h₃, h₄] at h
  · rename_i h
    simp only [not_or, Bool.not_eq_false, ne_eq, not_not] at h
    rw [if_pos (by simp [heard, h])]

/-- A playback that is not heard changes nothing; both reports of one that is
end in the same lines. -/
theorem played_step {s : State config} {c : Call config} {actId : Str} {t : ℤ}
    (hplayed : c.played = some (actId, t)) :
    (heard s c = false ∧ step config s c = (s, .intents [])) ∨
    (heard s c = true ∧ ∃ (b : State config) (tr : Entries Str (ℤ × Str)), b.phase = s.phase ∧
      b.revision = s.revision ∧ b.cycle = { s.cycle with transport := tr } ∧
      step config s c = afterPlayback b actId t) := by
  cases c with
  | playback p a evidence inferenceId transportId =>
    cases hplayed
    rw [playback_step]
    split
    · rename_i h
      refine .inr ⟨h, _, s.cycle.transport.pop actId, ?_, ?_, ?_, rfl⟩ <;> rfl
    · rename_i h
      exact .inl ⟨Bool.eq_false_iff.mpr h, rfl⟩
  | observedPlayback eventId sequence event =>
    cases hplayed
    rw [observedPlayback_step]
    split
    · rename_i h
      refine .inr ⟨h, _, s.cycle.transport, ?_, ?_, ?_, rfl⟩ <;> rfl
    · rename_i h
      exact .inl ⟨Bool.eq_false_iff.mpr h, rfl⟩
  | _ => cases hplayed

theorem played_turn {s : State config} {c : Call config} {actId : Str} {t : ℤ}
    (hplayed : c.played = some (actId, t)) : Turn s c (step config s c).2 (step config s c).1 := by
  rcases played_step hplayed (s := s) with ⟨-, hstep⟩ | ⟨hheard, b, tr, hp, hr, hc, hstep⟩
  · rw [hstep]
    exact (turn_refused (rung_played (r := .bool false) (u := s) hplayed).2).2
  · rw [hstep]
    exact afterPlayback_turn hplayed hheard (heard_spec hplayed hheard).2 hp hr hc

theorem requestPresence_turn {s : State config} {p : Position} {actionId : Str} {revision : ℤ}
    (hdue : timerDue s p actionId revision = true)
    (hphase : s.phase = .firstArmed ∨
      s.phase = .moreTimeArmed ∧ s.cycle.presenceDelivered = false) :
    Turn s (.timerFired p actionId revision) (requestPresence (takeDown s p)).2
      (requestPresence (takeDown s p)).1 := by
  refine .firePresence p actionId revision _ _ _ (takeDown s p).supersedeQuestion.cycle.transport
    hdue hphase ?_ ?_ ?_ (issueIntent_issued _ _ _ _)
  · rfl
  · rfl
  · rfl

theorem requestClosing_turn {s : State config} {p : Position} {actionId : Str} {revision : ℤ}
    (hdue : timerDue s p actionId revision = true)
    (hphase : s.phase = .secondArmed ∨
      s.phase = .moreTimeArmed ∧ s.cycle.presenceDelivered = true) :
    Turn s (.timerFired p actionId revision) (requestClosing (takeDown s p)).2
      (requestClosing (takeDown s p)).1 := by
  refine .fireClosing p actionId revision _ _ _ hdue hphase ?_ ?_ ?_ (issueIntent_issued _ _ _ _)
  · rfl
  · rfl
  · rfl

theorem timerDue_armed {s : State config} {p : Position} {actionId : Str} {revision : ℤ}
    (h : timerDue s p actionId revision = true) : s.phase.armed = true := by
  simp only [timerDue, Bool.and_eq_true] at h
  exact h.1.1.1.1

theorem timerFired_turn (s : State config) (p : Position) (actionId : Str) (revision : ℤ) :
    Turn s (.timerFired p actionId revision) (timerFired s p actionId revision).2
      (timerFired s p actionId revision).1 := by
  unfold timerFired
  split
  · rename_i h
    exact (turn_refused (c := .timerFired p actionId revision) h).2
  rename_i h
  have hdue : timerDue s p actionId revision = true := by simpa using h
  have harmed := timerDue_armed hdue
  split
  · rename_i hphase
    exact requestPresence_turn hdue (.inl hphase)
  · rename_i hphase
    exact requestClosing_turn hdue (.inl hphase)
  · rename_i hphase
    cases hdel : s.cycle.presenceDelivered with
    | true => exact requestClosing_turn hdue (.inr ⟨hphase, hdel⟩)
    | false => exact requestPresence_turn hdue (.inr ⟨hphase, hdel⟩)
  · -- no other phase is armed
    rename_i h₁ h₂ h₃
    cases hphase : s.phase with
    | firstArmed => exact absurd hphase h₁
    | secondArmed => exact absurd hphase h₂
    | moreTimeArmed => exact absurd hphase h₃
    | _ => rw [hphase] at harmed; cases harmed

theorem requestFixedFallback_turn (s : State config) (kind : CallIntentKind) (p : Position)
    (turnId : Str) (turnSequence : ℤ) : Turn s (.requestFixedFallback kind p turnId turnSequence)
      (requestFixedFallback s kind p turnId turnSequence).2
      (requestFixedFallback s kind p turnId turnSequence).1 := by
  unfold requestFixedFallback
  split
  · exact (turn_refused rfl).2
  rename_i hallowed
  simp only
  split
  · exact turn_unmoved rfl rfl rfl (by simp) (fun _ => rfl) rfl
  · rename_i cancels h
    obtain ⟨harm, hcancel, hid⟩ := cancelIntents_count h
    exact .fallback kind p turnId turnSequence _ _ _ cancels (by simpa using hallowed) rfl rfl rfl
      harm hcancel hid (issueIntent_issued _ _ _ _)

theorem requestMoreTime_turn (s : State config) (p : Position) :
    Turn s (.requestMoreTime p) (requestMoreTime s p).2 (requestMoreTime s p).1 := by
  unfold requestMoreTime
  split
  · exact (turn_refused rfl).2
  rename_i h
  simp only [not_or, Bool.not_eq_false] at h
  simp only
  have hidle : Turn s (.requestMoreTime p) (.intents []) (s.accept p) :=
    turn_unmoved rfl rfl rfl (by simp) (fun _ => rfl) rfl
  split
  · exact hidle
  rename_i hused
  split
  · exact hidle
  rename_i hd
  unfold grantMoreTime
  split
  · exact turn_unmoved rfl rfl rfl (by simp) (fun _ => rfl) rfl
  · rename_i i hi
    have hgranted : moreTimeGranted s p = true := by
      have hunused : s.cycle.moreTimeUsed = false := Bool.eq_false_iff.mpr hused
      have hsome : s.cycle.deadlineMs.isSome = true := Option.isSome_iff_ne_none.mpr hd
      simp [moreTimeGranted, h, hunused, hsome]
    obtain ⟨hk, -, ha, -, hv⟩ := intent_ok hi
    have hid : config.isId (revisionId "more_time_cancel" s.revision) = true :=
      ha ▸ isId_of_isValid hv
    refine .moreTime p _ _ _ i hgranted hk hid ?_ ?_ ?_ (issueIntent_issued _ _ _ _)
    · rfl
    · rfl
    · rfl

theorem cancel_turn (s : State config) (p : Position) :
    Turn s (.cancel p) (cancel s p).2 (cancel s p).1 := by
  unfold cancel
  split
  · exact (turn_refused rfl).2
  simp only
  split
  · exact turn_unmoved rfl rfl rfl (by simp) (fun _ => rfl) rfl
  rename_i hphase
  split
  · exact turn_unmoved rfl rfl rfl (by simp) (fun _ => rfl) rfl
  · rename_i l h
    obtain ⟨harm, hcancel, -⟩ := cancelIntents_count h
    exact .cancel p l _ hphase rfl rfl rfl harm hcancel

/-- **Every call takes a turn.** -/
theorem step_turn (s : State config) (c : Call config) :
    Turn s c (step config s c).2 (step config s c).1 := by
  cases c with
  | voice event =>
    exact .stay _ _ _ s.cycle.transport rfl rfl rfl rfl rfl rfl rfl
  | reserveQuestion p question => exact reserveQuestion_turn s p question
  | rollbackQuestionReservation binding question =>
    exact rollbackQuestionReservation_turn s binding question
  | semanticConfirmed eventId sequence event => exact semanticConfirmed_turn s eventId sequence event
  | hardTerminalize => exact hardTerminalize_turn s
  | consumeIntent intent m => exact consumeIntent_turn s intent m
  | terminalize intent => exact terminalize_turn s intent
  | transportResolved eventId sequence event => exact transportResolved_turn s eventId sequence event
  | playback p actId evidence inferenceId transportId => exact played_turn rfl
  | observedPlayback eventId sequence event => exact played_turn rfl
  | timerFired p actionId revision => exact timerFired_turn s p actionId revision
  | requestFixedFallback kind p turnId turnSequence =>
    exact requestFixedFallback_turn s kind p turnId turnSequence
  | requestMoreTime p => exact requestMoreTime_turn s p
  | cancel p => exact cancel_turn s p

end Lifecycle

end HeyKevin.L5.Silence
