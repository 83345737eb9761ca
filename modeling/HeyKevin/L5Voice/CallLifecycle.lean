import HeyKevin.L5Voice.VoiceLifecycle
/-!
# The silence ladder of a call

mirrors app/services/voice_call_lifecycle.py. After a question was played the
lifecycle waits for the caller: a first silence asks whether anyone is there,
a second one offers to close, and once the closing was played the call may be
hung up. The caller can ask for more time once. The reducer returns intents;
timers and acts are run by others, who come back with what happened.

**Model.** `State` is the object, with the fields `_clear_silence_cycle` resets
gathered in `Cycle`. It shares the canonical lifecycle of `VoiceLifecycle`,
whose events are calls of the same machine. An intent is built by
`State.intent`, which raises as the constructor of `CallIntent` does; what was
assigned before a raise stays assigned. Python compares issued intents by
identity, which `CallIntent.createdAt` stands for: an object is kept only when
its call was accepted, and no two accepted calls have one position.

**Left out.** The checks on arguments of a wrong type, and `str()` of integers
beyond the interpreter's digit limit.

Line numbers are those of app/services/voice_call_lifecycle.py.
-/
namespace HeyKevin.L5.Silence

open HeyKevin.Core L1.Text
open HeyKevin.L5.Voice (VoiceEvent VoiceSessionBinding VoiceSemanticActKind Identifier)

inductive SilencePhase
  | idle
  | questionReserved
  | questionConfirmed
  | firstArmed
  | presencePending
  | secondArmed
  | moreTimePending
  | moreTimeArmed
  | fallbackPending
  | closingPending
  | terminalEligible
  | terminated
deriving DecidableEq, Repr

inductive PlaybackEvidence
  | callerPlaybackObserved
  | playbackInferred
deriving DecidableEq, Repr

inductive CallIntentKind
  | armTimer
  | cancelTimer
  | cancelAct
  | requestPresenceCheck
  | requestMoreTimeAcknowledgement
  | requestUnsupportedAccessMode
  | requestSimulatedVoicemail
  | requestClosing
  | terminalEligible
deriving DecidableEq, Repr

def CallIntentKind.value : CallIntentKind → String
  | .armTimer => "arm_timer"
  | .cancelTimer => "cancel_timer"
  | .cancelAct => "cancel_act"
  | .requestPresenceCheck => "request_presence_check"
  | .requestMoreTimeAcknowledgement => "request_more_time_acknowledgement"
  | .requestUnsupportedAccessMode => "request_unsupported_access_mode"
  | .requestSimulatedVoicemail => "request_simulated_voicemail"
  | .requestClosing => "request_closing"
  | .terminalEligible => "terminal_eligible"

/-- The two kinds `request_fixed_fallback` accepts. -/
def CallIntentKind.isFallback (k : CallIntentKind) : Bool :=
  k == .requestUnsupportedAccessMode || k == .requestSimulatedVoicemail

/-- `character.isalnum()`; beyond ASCII the interpreter's table decides. -/
def isAlnum (otherAlnum : CodePoint → Bool) (c : CodePoint) : Bool :=
  if c.val < 128 then
    (48 ≤ c.val && c.val < 58) || (65 ≤ c.val && c.val < 91) || (97 ≤ c.val && c.val < 123)
  else otherAlnum c

def underscore : CodePoint := 95

/-- mirrors 999-1000 (`_id`). -/
def callId (otherAlnum : CodePoint → Bool) (s : Str) : Bool :=
  let rest := s.filter (· ≠ underscore)
  !s.isEmpty && decide (s.length ≤ 128) && !rest.isEmpty && rest.all (isAlnum otherAlnum)

/-- The checked arguments of `CallLifecycle`. -/
structure Config where
  otherAlnum : CodePoint → Bool
  binding : VoiceSessionBinding
  firstSilenceMs : ℤ
  secondSilenceMs : ℤ
  inferenceDelayMs : ℤ
  moreTimeExtensionMs : ℤ
  first_pos : 1 ≤ firstSilenceMs
  second_pos : 1 ≤ secondSilenceMs
  inference_pos : 1 ≤ inferenceDelayMs
  extension_pos : 1 ≤ moreTimeExtensionMs

def Config.isId (config : Config) (s : Str) : Bool := callId config.otherAlnum s

abbrev CallId (config : Config) := { s : Str // config.isId s = true }

structure CallIntent where
  kind : CallIntentKind
  binding : VoiceSessionBinding
  revision : ℕ
  actionId : Str
  actId : Option Str
  deadlineMs : Option ℤ
  turnId : Option Str
  turnSequence : Option ℕ
  /-- The identity of the object: the position of the call that created it. -/
  createdAt : ℤ
deriving DecidableEq

/-- mirrors 65-93 (`CallIntent.__post_init__`). -/
def CallIntent.isValid (config : Config) (i : CallIntent) : Bool :=
  config.isId i.actionId && i.actId.all config.isId && i.deadlineMs.all (fun d => decide (0 ≤ d)) &&
    i.turnId.all config.isId && (i.turnId.isSome || i.turnSequence.isNone)

structure QuestionIntent (config : Config) where
  slot : CallId config
  turnId : CallId config
  actId : CallId config
  turnSequence : Option ℕ
deriving DecidableEq

/-- What `_clear_silence_cycle` resets. -/
structure Cycle (config : Config) where
  question : Option (QuestionIntent config)
  silenceOriginActId : Option Str
  silenceTurnId : Option Str
  silenceTurnSequence : Option ℕ
  presenceId : Option Str
  presenceDelivered : Bool
  moreTimeUsed : Bool
  moreTimeAckId : Option Str
  fallbackId : Option Str
  fallbackKind : Option CallIntentKind
  closingId : Option Str
  deadlineMs : Option ℤ
  timerIntent : Option CallIntent
  /-- `_transport`: when and as which playout an act was resolved. -/
  transport : Entries Str (ℤ × Str)
  issuedIntents : Entries Str CallIntent
  materializedActIds : List Str

def Cycle.clear (config : Config) : Cycle config :=
  ⟨none, none, none, none, none, false, false, none, none, none, none, none, none, [], [], []⟩

structure State (config : Config) where
  voice : Voice.State
  phase : SilencePhase
  revision : ℕ
  cycle : Cycle config
  seenEvents : List Str
  sequence : ℤ
  atMs : ℤ

/-- `CallLifecycle(binding=…, voice_lifecycle=voice, …)` -/
def State.start (config : Config) (voice : Voice.State) : State config :=
  ⟨voice, .idle, 0, Cycle.clear config, [], -1, -1⟩

/-- Where a caller places an event: `binding`, `event_id`, `sequence`, `at_ms`. -/
structure Position where
  binding : VoiceSessionBinding
  eventId : Str
  sequence : ℤ
  atMs : ℤ

inductive Reply
  | bool (b : Bool)
  | intents (l : List CallIntent)
  | raised (message : String)
deriving DecidableEq

def Reply.prepend (l : List CallIntent) : Reply → Reply
  | .intents l' => .intents (l ++ l')
  | r => r

section Lifecycle

variable {config : Config}

/-- `self._question.act_id if self._question is not None else None` -/
def Cycle.questionActId (c : Cycle config) : Option Str := c.question.map (·.actId.val)

/-- `self._materialized_act_ids.discard(act_id)` -/
def Cycle.discard (c : Cycle config) (actId : Str) : List Str :=
  c.materializedActIds.filter (· ≠ actId)

namespace State

/-- mirrors 227-243. -/
def canAcceptPosition (s : State config) (p : Position) : Bool :=
  p.binding == config.binding && config.isId p.eventId && !s.seenEvents.contains p.eventId &&
    decide (s.sequence < p.sequence) && decide (s.atMs ≤ p.atMs)

/-- The writes of `_accept` (app/services/voice_call_lifecycle.py:994-996). -/
def accept (s : State config) (p : Position) : State config :=
  { s with seenEvents := p.eventId :: s.seenEvents, sequence := p.sequence, atMs := p.atMs }

/-- mirrors 925-929. -/
def supersedeQuestion (s : State config) : State config :=
  { s with
    revision := s.revision + 1
    cycle := { s.cycle with
      question := none
      transport :=
        match s.cycle.questionActId with
        | some actId => s.cycle.transport.pop actId
        | none => s.cycle.transport } }

/-- mirrors 931-947. -/
def clearSilenceCycle (s : State config) : State config := { s with cycle := Cycle.clear config }

def sealed (s : State config) : State config :=
  { s.clearSilenceCycle with phase := .terminated, revision := s.revision + 1 }

/-- mirrors 952-969. -/
def intent (s : State config) (kind : CallIntentKind) (actionId : Str) (actId : Option Str)
    (deadlineMs : Option ℤ) : Except String CallIntent :=
  let i : CallIntent :=
    { kind := kind
      binding := config.binding
      revision := s.revision
      actionId := actionId
      actId := actId
      deadlineMs := deadlineMs
      turnId := s.cycle.silenceTurnId
      turnSequence := s.cycle.silenceTurnSequence
      createdAt := s.sequence }
  if i.isValid config then .ok i else .error "call intent is invalid"

/-- mirrors 971-984,
returned as the only intent of a call. -/
def issueIntent (s : State config) (kind : CallIntentKind) (actionId actId : Str) :
    State config × Reply :=
  match s.intent kind actionId (some actId) none with
  | .error e => (s, .raised e)
  | .ok i =>
    ({ s with cycle := { s.cycle with issuedIntents := s.cycle.issuedIntents.set actionId i } },
      .intents [i])

end State

/-- mirrors 949-950. -/
def timerActionId (revision : ℕ) (deadlineMs : ℤ) : Str :=
  py "timer_" ++ decimal revision ++ underscore :: decimal deadlineMs

/-- `f"{name}_{self.revision}"` -/
def revisionId (name : String) (revision : ℕ) : Str := py name ++ underscore :: decimal revision

/-- mirrors 915-923. -/
def arm (s : State config) (phase : SilencePhase) (actId : Str) (deadlineMs : ℤ) :
    State config × Reply :=
  let s' : State config :=
    { s with phase := phase, cycle := { s.cycle with deadlineMs := some deadlineMs } }
  match s'.intent .armTimer (timerActionId s.revision deadlineMs) (some actId) (some deadlineMs) with
  | .error e => (s', .raised e)
  | .ok i => ({ s' with cycle := { s'.cycle with timerIntent := some i } }, .intents [i])

/-- mirrors 169-188. -/
def reserveQuestion (s : State config) (p : Position) (question : QuestionIntent config) :
    State config × Reply :=
  if s.phase ≠ .idle ∨ s.canAcceptPosition p = false then (s, .bool false)
  else
    let s' := s.accept p
    ({ s' with
      phase := .questionReserved
      cycle := { s'.cycle with
        question := some question
        silenceOriginActId := some question.actId.val
        silenceTurnId := some question.turnId.val
        silenceTurnSequence := question.turnSequence
        presenceDelivered := false
        moreTimeUsed := false } }, .bool true)

/-- mirrors 190-201. -/
def rollbackQuestionReservation (s : State config) (binding : VoiceSessionBinding)
    (question : QuestionIntent config) : State config × Reply :=
  if binding ≠ config.binding ∨ s.phase ≠ .questionReserved ∨ s.cycle.question ≠ some question ∨
      s.cycle.deadlineMs ≠ none ∨ s.cycle.transport.isEmpty = false then (s, .bool false)
  else ({ s.clearSilenceCycle with phase := .idle }, .bool true)

/-- mirrors 215-225. -/
def canSemanticConfirm (s : State config) (event : VoiceEvent) : Bool :=
  s.phase == .questionReserved &&
    (s.cycle.question.any fun q =>
      decide (event.semanticActId.val = q.actId.val ∧ event.inputTurnId.val = q.turnId.val)) &&
    event.semanticActKind == .question && Voice.acceptsSemanticConfirmation s.voice event

def eventPosition (eventId : Str) (sequence : ℤ) (event : VoiceEvent) : Position :=
  ⟨event.binding, eventId, sequence, event.atMs⟩

/-- mirrors 203-213. -/
def semanticConfirmed (s : State config) (eventId : Str) (sequence : ℤ) (event : VoiceEvent) :
    State config × Reply :=
  let p := eventPosition eventId sequence event
  if canSemanticConfirm s event = false ∨ s.canAcceptPosition p = false then (s, .bool false)
  else ({ s.accept p with phase := .questionConfirmed }, .bool true)

def Cycle.liveActIds (c : Cycle config) : List (Option Str) :=
  [c.questionActId, c.presenceId, c.moreTimeAckId, c.fallbackId, c.closingId]

def cancelTimerIntent (s : State config) (timerActionId : Str) (timerActId : Option Str) :
    Except String (List CallIntent) :=
  if s.cycle.deadlineMs.isSome then
    (s.intent .cancelTimer timerActionId timerActId none).map fun i => [i]
  else .ok []

/-- The intents of a cancellation: the timer if a deadline is set, then every
live act. The three cancelling calls differ in the action ids only. -/
def cancelIntents (s : State config) (timerActionId : Str) (timerActId : Option Str)
    (actActionId : ℕ → Str → Str) : Except String (List CallIntent) := do
  let timer ← cancelTimerIntent s timerActionId timerActId
  let live := s.cycle.liveActIds.zipIdx.filterMap fun a => a.1.map fun actId => (actId, a.2)
  let acts ← live.mapM fun a => s.intent .cancelAct (actActionId a.2 a.1) (some a.1) none
  return timer ++ acts

/-- mirrors 274-311. -/
def hardTerminalize (s : State config) : State config × Reply :=
  match cancelIntents s (revisionId "hard_cancel_timer" s.revision) s.cycle.questionActId
      (fun _ actId => py "hard_cancel_" ++ actId ++ underscore :: decimal s.revision) with
  | .error e => (s, .raised e)
  | .ok intents => (s.sealed, .intents intents)

/-- The intent is the one its phase waits for
(app/services/voice_call_lifecycle.py:337-365). -/
def awaited (s : State config) (intent : CallIntent) : Bool :=
  (intent.kind == .requestPresenceCheck && s.phase == .presencePending &&
      intent.actId == s.cycle.presenceId) ||
    (intent.kind == .requestMoreTimeAcknowledgement && s.phase == .moreTimePending &&
      intent.actId == s.cycle.moreTimeAckId) ||
    (intent.kind == .requestClosing && s.phase == .closingPending &&
      intent.actId == s.cycle.closingId) ||
    (intent.kind.isFallback && s.phase == .fallbackPending &&
      some intent.kind == s.cycle.fallbackKind && intent.actId == s.cycle.fallbackId)

/-- Name the act of a consumed intent (app/services/voice_call_lifecycle.py:367-389). -/
def materialize (s : State config) (kind : CallIntentKind) (actId : Str) : State config :=
  let c : Cycle config :=
    match kind with
    | .requestPresenceCheck => { s.cycle with presenceId := some actId }
    | .requestMoreTimeAcknowledgement => { s.cycle with moreTimeAckId := some actId }
    | .requestUnsupportedAccessMode | .requestSimulatedVoicemail =>
      { s.cycle with fallbackId := some actId }
    | _ => { s.cycle with closingId := some actId }
  { s with cycle := { c with materializedActIds := actId :: c.materializedActIds } }

/-- `self._issued_intents.pop(intent.action_id, None)` -/
def State.popIssued (s : State config) (actionId : Str) : State config :=
  { s with cycle := { s.cycle with issuedIntents := s.cycle.issuedIntents.pop actionId } }

/-- mirrors 313-393. -/
def consumeIntent (s : State config) (intent : CallIntent) (materializedActId : Option Str) :
    State config × Reply :=
  if materializedActId.all config.isId = false then (s, .bool false)
  else
    let issued := s.cycle.issuedIntents.find? intent.actionId
    let s' := s.popIssued intent.actionId
    let accepted := issued == some intent && intent.binding == config.binding &&
      intent.revision == s.revision && awaited s intent
    match accepted, intent.actId with
    | true, some actId => (materialize s' intent.kind (materializedActId.getD actId), .bool true)
    | _, _ => if issued.isSome then (s'.sealed, .bool accepted) else (s', .bool accepted)

/-- mirrors 395-419. -/
def terminalize (s : State config) (intent : CallIntent) : State config × Reply :=
  let issued := s.cycle.issuedIntents.find? intent.actionId
  let s' := s.popIssued intent.actionId
  let accepted := issued == some intent && intent.kind == .terminalEligible &&
    intent.binding == config.binding && intent.revision == s.revision &&
    s.phase == .terminalEligible
  if accepted then (s'.sealed, .bool true)
  else if issued.isSome then (s'.sealed, .bool false)
  else (s', .bool false)

def pendingAct (s : State config) (phase : SilencePhase) (id : Option Str) (actId : Str) : Bool :=
  id == some actId && s.phase == phase && s.cycle.materializedActIds.contains actId

/-- mirrors 431-476 (`transport_resolved`). -/
def transportExpected (s : State config) (event : VoiceEvent) : Bool :=
  let actId := event.semanticActId.val
  ((s.cycle.question.any fun q =>
      decide (actId = q.actId.val ∧ event.inputTurnId.val = q.turnId.val)) &&
      s.phase == .questionConfirmed && event.semanticActKind == .question) ||
    (pendingAct s .presencePending s.cycle.presenceId actId &&
      event.semanticActKind == .presenceCheck) ||
    (pendingAct s .moreTimePending s.cycle.moreTimeAckId actId &&
      event.semanticActKind == .acknowledgement) ||
    (pendingAct s .closingPending s.cycle.closingId actId && event.semanticActKind == .closing) ||
    (pendingAct s .fallbackPending s.cycle.fallbackId actId &&
      s.cycle.fallbackKind.any (·.isFallback) && event.semanticActKind == .acknowledgement)

def transportResolved (s : State config) (eventId : Str) (sequence : ℤ) (event : VoiceEvent) :
    State config × Reply :=
  let p := eventPosition eventId sequence event
  if transportExpected s event = false ∨ Voice.acceptsTransportResolution s.voice event = false ∨
      s.canAcceptPosition p = false then (s, .bool false)
  else
    let s' := s.accept p
    ({ s' with cycle := { s'.cycle with
        transport := s'.cycle.transport.set event.semanticActId.val
          (event.atMs, (event.payload.playoutId.map (·.val)).getD []) } }, .bool true)

/-- What follows an accepted playback; `playback` and `observed_playback` end
in the same lines (app/services/voice_call_lifecycle.py:528-558, 606-636). -/
def afterPlayback (s : State config) (actId : Str) (atMs : ℤ) : State config × Reply :=
  let c := s.cycle
  if c.questionActId = some actId ∧ s.phase = .questionConfirmed then
    arm s .firstArmed actId (atMs + config.firstSilenceMs)
  else if c.presenceId = some actId ∧ s.phase = .presencePending then
    arm { s with cycle := { c with
        materializedActIds := c.discard actId, presenceId := none, presenceDelivered := true } }
      .secondArmed actId (atMs + config.secondSilenceMs)
  else if c.moreTimeAckId = some actId ∧ s.phase = .moreTimePending then
    arm { s with cycle := { c with
        materializedActIds := c.discard actId, moreTimeAckId := none } }
      .moreTimeArmed actId (atMs + config.moreTimeExtensionMs)
  else if c.closingId = some actId ∧ s.phase = .closingPending then
    State.issueIntent { s with
        phase := .terminalEligible
        cycle := { c with materializedActIds := c.discard actId, closingId := none } }
      .terminalEligible (py "terminal_" ++ actId) actId
  else if c.fallbackId = some actId ∧ s.phase = .fallbackPending then
    ({ s.clearSilenceCycle with phase := .idle, revision := s.revision + 1 }, .intents [])
  else (s, .intents [])

/-- `active` of `playback` (app/services/voice_call_lifecycle.py:494-520). -/
def playbackActive (s : State config) (actId : Str) : Bool :=
  (s.cycle.questionActId == some actId && s.phase == .questionConfirmed) ||
    pendingAct s .presencePending s.cycle.presenceId actId ||
    pendingAct s .moreTimePending s.cycle.moreTimeAckId actId ||
    pendingAct s .closingPending s.cycle.closingId actId ||
    pendingAct s .fallbackPending s.cycle.fallbackId actId

/-- The evidence behind an inferred playback: the act was resolved by the
transport, long enough ago. -/
def inferable (s : State config) (actId : Str) (inferenceId transportId : Option Str) (atMs : ℤ) :
    Bool :=
  inferenceId.any config.isId && (s.cycle.transport.find? actId).any fun t =>
    transportId == some t.2 && decide (t.1 + config.inferenceDelayMs ≤ atMs)

/-- mirrors 478-558. -/
def playback (s : State config) (p : Position) (actId : Str) (evidence : PlaybackEvidence)
    (inferenceId transportId : Option Str) : State config × Reply :=
  if evidence ≠ .playbackInferred then (s, .intents [])
  else if playbackActive s actId = false ∨
      inferable s actId inferenceId transportId p.atMs = false then (s, .intents [])
  else if s.canAcceptPosition p = false then (s, .intents [])
  else
    let s' := s.accept p
    afterPlayback { s' with cycle := { s'.cycle with
      transport := s'.cycle.transport.pop actId } } actId p.atMs

/-- `expected_kind` (app/services/voice_call_lifecycle.py:561-575). -/
def expectedKind (s : State config) (event : VoiceEvent) : Option VoiceSemanticActKind :=
  let actId := event.semanticActId.val
  if s.cycle.question.any fun q =>
      decide (actId = q.actId.val ∧ event.inputTurnId.val = q.turnId.val) then some .question
  else if s.cycle.presenceId = some actId then some .presenceCheck
  else if s.cycle.moreTimeAckId = some actId then some .acknowledgement
  else if s.cycle.closingId = some actId then some .closing
  else if s.cycle.fallbackId = some actId then some .acknowledgement
  else none

/-- `active` of `observed_playback` (app/services/voice_call_lifecycle.py:576-601). -/
def observedActive (s : State config) (kind : Option VoiceSemanticActKind) (actId : Str) : Bool :=
  let materialized := s.cycle.materializedActIds.contains actId
  (kind == some .question && s.phase == .questionConfirmed) ||
    (kind == some .presenceCheck && s.phase == .presencePending && materialized) ||
    (kind == some .acknowledgement && s.phase == .moreTimePending && materialized) ||
    (kind == some .closing && s.phase == .closingPending && materialized) ||
    (kind == some .acknowledgement && s.phase == .fallbackPending && materialized)

/-- mirrors 560-636. -/
def observedPlayback (s : State config) (eventId : Str) (sequence : ℤ) (event : VoiceEvent) :
    State config × Reply :=
  let p := eventPosition eventId sequence event
  let kind := expectedKind s event
  if observedActive s kind event.semanticActId.val = false ∨ some event.semanticActKind ≠ kind ∨
      Voice.acceptsCallerPlayback s.voice event = false ∨ s.canAcceptPosition p = false then
    (s, .intents [])
  else afterPlayback (s.accept p) event.semanticActId.val event.atMs

def SilencePhase.armed : SilencePhase → Bool
  | .firstArmed | .secondArmed | .moreTimeArmed => true
  | _ => false

/-- Ask whether the caller is there (app/services/voice_call_lifecycle.py:661-670). -/
def requestPresence (s : State config) : State config × Reply :=
  let s := s.supersedeQuestion
  let presenceId := revisionId "presence" s.revision
  State.issueIntent { s with
      phase := .presencePending
      cycle := { s.cycle with presenceId := some presenceId } }
    .requestPresenceCheck presenceId presenceId

/-- Offer to close (app/services/voice_call_lifecycle.py:671-674). -/
def requestClosing (s : State config) : State config × Reply :=
  let closingId := revisionId "closing" s.revision
  State.issueIntent { s with
      phase := .closingPending
      cycle := { s.cycle with closingId := some closingId } }
    .requestClosing closingId closingId

/-- The guard of `timer_fired` (app/services/voice_call_lifecycle.py:649-655). -/
def timerDue (s : State config) (p : Position) (actionId : Str) (revision : ℤ) : Bool :=
  s.phase.armed && (s.cycle.timerIntent.any fun i =>
      decide (actionId = i.actionId) && decide (revision = i.revision)) &&
    decide (revision = s.revision) && (s.cycle.deadlineMs.any fun d => decide (d ≤ p.atMs)) &&
    s.canAcceptPosition p

def takeDown (s : State config) (p : Position) : State config :=
  { s.accept p with cycle := { s.cycle with deadlineMs := none, timerIntent := none } }

/-- mirrors 638-693. -/
def timerFired (s : State config) (p : Position) (actionId : Str) (revision : ℤ) :
    State config × Reply :=
  if timerDue s p actionId revision = false then (s, .intents [])
  else
    match s.phase with
    | .firstArmed => requestPresence (takeDown s p)
    | .secondArmed => requestClosing (takeDown s p)
    | .moreTimeArmed =>
      if s.cycle.presenceDelivered then requestClosing (takeDown s p)
      else requestPresence (takeDown s p)
    | _ => (takeDown s p, .intents [])

/-- `deadline_expired` of the requests of the caller. -/
def deadlineExpired (s : State config) (atMs : ℤ) : Bool :=
  s.phase.armed && s.cycle.deadlineMs.any fun d => decide (d < atMs)

/-- `f"fallback_{kind.value}_{self.revision}"` -/
def fallbackActId (kind : CallIntentKind) (revision : ℕ) : Str :=
  py "fallback_" ++ py kind.value ++ underscore :: decimal revision

/-- The guard of `request_fixed_fallback`
(app/services/voice_call_lifecycle.py:706-742). -/
def fallbackAllowed (s : State config) (kind : CallIntentKind) (p : Position) (turnId : Str)
    (turnSequence : ℤ) : Bool :=
  kind.isFallback && config.isId turnId && decide (0 ≤ turnSequence) && s.phase.armed &&
    s.cycle.silenceTurnId == some turnId &&
    (s.cycle.silenceTurnSequence.any fun n => decide ((n : ℤ) = turnSequence)) &&
    !deadlineExpired s p.atMs && s.canAcceptPosition p

/-- mirrors 695-796. -/
def requestFixedFallback (s : State config) (kind : CallIntentKind) (p : Position) (turnId : Str)
    (turnSequence : ℤ) : State config × Reply :=
  if fallbackAllowed s kind p turnId turnSequence = false then (s, .intents [])
  else
    let s' := s.accept p
    match cancelIntents s' (revisionId "fallback_cancel_timer" s.revision)
        (s.cycle.questionActId.or s.cycle.silenceOriginActId)
        (fun index _ => revisionId "fallback_cancel_act" s.revision ++
          underscore :: decimal index) with
    | .error e => (s', .raised e)
    | .ok cancels =>
      let fallbackId := fallbackActId kind (s.revision + 1)
      let c : Cycle config := Cycle.clear config
      let (s'', r) := State.issueIntent { s' with
          phase := .fallbackPending
          revision := s.revision + 1
          cycle := { c with
            silenceTurnId := some turnId
            silenceTurnSequence := some turnSequence.toNat
            fallbackKind := some kind
            fallbackId := some fallbackId } }
        kind fallbackId fallbackId
      (s'', r.prepend cancels)

/-- `eligible` of `request_more_time`. -/
def moreTimeEligible : SilencePhase → Bool
  | .firstArmed | .secondArmed | .moreTimePending | .moreTimeArmed => true
  | _ => false

/-- `f"more_time_{self.revision}_{sequence}"` -/
def moreTimeActId (revision : ℕ) (sequence : ℤ) : Str :=
  revisionId "more_time" revision ++ underscore :: decimal sequence

/-- The granted part of `request_more_time`
(app/services/voice_call_lifecycle.py:844-864). -/
def grantMoreTime (s : State config) (sequence : ℤ) : State config × Reply :=
  match s.intent .cancelTimer (revisionId "more_time_cancel" s.revision)
      s.cycle.silenceOriginActId none with
  | .error e => (s, .raised e)
  | .ok cancel =>
    let ackId := moreTimeActId s.revision sequence
    let (s', r) := State.issueIntent { s with
        phase := .moreTimePending
        cycle := { s.cycle with
          deadlineMs := none
          timerIntent := none
          moreTimeUsed := true
          moreTimeAckId := some ackId } }
      .requestMoreTimeAcknowledgement ackId ackId
    (s', r.prepend [cancel])

/-- mirrors 798-864. -/
def requestMoreTime (s : State config) (p : Position) : State config × Reply :=
  if moreTimeEligible s.phase = false ∨ deadlineExpired s p.atMs = true ∨
      s.canAcceptPosition p = false then (s, .intents [])
  else
    let s' := s.accept p
    if s'.cycle.moreTimeUsed then (s', .intents [])
    else if s'.cycle.deadlineMs = none then (s', .intents [])
    else grantMoreTime s' p.sequence

/-- mirrors 866-913. -/
def cancel (s : State config) (p : Position) : State config × Reply :=
  if deadlineExpired s p.atMs = true ∨ s.canAcceptPosition p = false then (s, .intents [])
  else
    let s' := s.accept p
    if s'.phase = .terminated then (s', .intents [])
    else
      match cancelIntents s' (revisionId "cancel_timer" s.revision) s.cycle.questionActId
          (fun _ actId => py "cancel_" ++ actId ++ underscore :: decimal s.revision) with
      | .error e => (s', .raised e)
      | .ok intents =>
        ({ s'.clearSilenceCycle with phase := .idle, revision := s.revision + 1 }, .intents intents)

end Lifecycle

inductive Call (config : Config)
  | voice (event : VoiceEvent)
  | reserveQuestion (p : Position) (question : QuestionIntent config)
  | rollbackQuestionReservation (binding : VoiceSessionBinding) (question : QuestionIntent config)
  | semanticConfirmed (eventId : Str) (sequence : ℤ) (event : VoiceEvent)
  | hardTerminalize
  | consumeIntent (intent : CallIntent) (materializedActId : Option Str)
  | terminalize (intent : CallIntent)
  | transportResolved (eventId : Str) (sequence : ℤ) (event : VoiceEvent)
  | playback (p : Position) (actId : Str) (evidence : PlaybackEvidence)
      (inferenceId transportId : Option Str)
  | observedPlayback (eventId : Str) (sequence : ℤ) (event : VoiceEvent)
  | timerFired (p : Position) (actionId : Str) (revision : ℤ)
  | requestFixedFallback (kind : CallIntentKind) (p : Position) (turnId : Str) (turnSequence : ℤ)
  | requestMoreTime (p : Position)
  | cancel (p : Position)

def step (config : Config) : Machine (State config) (Call config) Reply := fun s c =>
  match c with
  | .voice event =>
    let r := Voice.ingest s.voice event
    ({ s with voice := r.1 }, .bool r.2)
  | .reserveQuestion p question => reserveQuestion s p question
  | .rollbackQuestionReservation binding question =>
    rollbackQuestionReservation s binding question
  | .semanticConfirmed eventId sequence event => semanticConfirmed s eventId sequence event
  | .hardTerminalize => hardTerminalize s
  | .consumeIntent intent materializedActId => consumeIntent s intent materializedActId
  | .terminalize intent => terminalize s intent
  | .transportResolved eventId sequence event => transportResolved s eventId sequence event
  | .playback p actId evidence inferenceId transportId =>
    playback s p actId evidence inferenceId transportId
  | .observedPlayback eventId sequence event => observedPlayback s eventId sequence event
  | .timerFired p actionId revision => timerFired s p actionId revision
  | .requestFixedFallback kind p turnId turnSequence =>
    requestFixedFallback s kind p turnId turnSequence
  | .requestMoreTime p => requestMoreTime s p
  | .cancel p => cancel s p

end HeyKevin.L5.Silence
