import HeyKevin.Core.Entries
import HeyKevin.Core.Machine
import HeyKevin.L1Encoding.Python
/-!
# The canonical voice lifecycle

mirrors app/services/voice_lifecycle.py. The reducer takes the events of one
call in order and keeps, for each semantic act, the kind of its last event,
the turn, generation and act kind it is bound to, and the digest and ids its
payloads have shown. Every other fact about an act is read off this summary.

**Model.** `ingest` is the whole of `VoiceLifecycle.ingest`, each rejection in
its place. Events are values whose fields passed their constructor
(`Identifier`, `Digest`); the schema version, which has one value, is left out.

**Left out.** `accept_command` and the queries over input observations and
session receipts, which `ingest` does not read; the dictionary form of events.

Line numbers are those of app/services/voice_lifecycle.py.
-/
namespace HeyKevin.L5.Voice

open HeyKevin.Core L1 L1.Text

inductive VoiceSource
  | twilioAuthenticated
  | providerUntrusted
  | localAuthoritative
deriving DecidableEq, Repr

inductive VoiceSensitivity
  | operational
  | restricted
deriving DecidableEq, Repr

inductive VoiceEventKind
  | inputActivityStarted
  | inputActivityEnded
  | inputTurnPartial
  | inputTurnFinal
  | responseAuthorized
  | generationStarted
  | textSegmentEmitted
  | audioFrameGenerated
  | generationCompleted
  | generationCancelled
  | providerTurnCompleted
  | sessionDisconnected
  | sessionReestablished
  | sessionResumed
  | sessionGoAway
  | semanticActConfirmed
  | ttsBound
  | playoutBound
  | transportResolved
  | playoutPartial
  | playoutCleared
  | playoutInterrupted
  | playoutReconnected
  | callerPlaybackObserved
  | actFailed
  | actTimedOut
deriving DecidableEq, Repr

inductive VoiceSemanticActKind
  | answer
  | question
  | safety
  | acknowledgement
  | presenceCheck
  | repair
  | closing
  | repeat
  | slowerSpeech
  | longerWait
  | optOut
  | voicemail
  | languageChoice
deriving DecidableEq, Repr

/-- What `_identifier` lets through. -/
abbrev Identifier := { s : Str // s ≠ [] ∧ s.length ≤ 128 }

/-- What the constructor of a payload lets through as `text_digest`. -/
abbrev Digest := { s : Str // Python.isDigest s = true }

structure VoiceSessionBinding where
  environment : Identifier
  contractorBinding : Identifier
  callBinding : Identifier
  streamBinding : Identifier
  epoch : ℕ
deriving DecidableEq

structure VoicePayload where
  ordinal : Option ℕ
  durationMs : Option ℕ
  textDigest : Option Digest
  audioId : Option Identifier
  playoutId : Option Identifier
deriving DecidableEq

structure VoiceEvent where
  kind : VoiceEventKind
  source : VoiceSource
  sensitivity : VoiceSensitivity
  binding : VoiceSessionBinding
  sequence : ℕ
  atMs : ℕ
  inputTurnId : Identifier
  generationId : Identifier
  semanticActId : Identifier
  semanticActKind : VoiceSemanticActKind
  payload : VoicePayload
deriving DecidableEq

/-- The value of `_acts` for one act. -/
structure ActRecord where
  kind : VoiceEventKind
  inputTurnId : Identifier
  generationId : Identifier
  semanticActKind : VoiceSemanticActKind
  textDigest : Option Digest
  audioId : Option Identifier
  playoutId : Option Identifier
deriving DecidableEq

structure GenerationKey where
  inputTurnId : Identifier
  generationId : Identifier
  semanticActId : Identifier
  semanticActKind : VoiceSemanticActKind
deriving DecidableEq

structure State where
  binding : VoiceSessionBinding
  sequence : ℤ
  atMs : ℤ
  acts : Entries Identifier ActRecord
  inputStates : Entries Identifier VoiceEventKind
  inputObservations : Entries Identifier VoiceEvent
  inputObservationHistory : List VoiceEvent
  inputObservationHistoryFloor : ℤ
  inputFinals : Entries Identifier VoiceEvent
  generationStates : Entries GenerationKey VoiceEventKind
  sessionEvent : Option VoiceEvent
  responseAuthorizations : Entries Identifier VoiceEvent
  semanticConfirmations : Entries Identifier VoiceEvent
  actTerminals : Entries Identifier VoiceEvent
  rejectedEventCount : ℕ
  pendingQuestionActive : Bool

/-- `VoiceLifecycle(binding=binding)` -/
def State.start (binding : VoiceSessionBinding) : State :=
  ⟨binding, -1, -1, [], [], [], [], -1, [], [], none, [], [], [], 0, false⟩

/-- `self.rejected_event_count += 1; return False` -/
def State.reject (s : State) : State := { s with rejectedEventCount := s.rejectedEventCount + 1 }

/-- `required_source` (app/services/voice_lifecycle.py:328-355) -/
def requiredSource : VoiceEventKind → VoiceSource
  | .inputActivityStarted | .inputActivityEnded => .localAuthoritative
  | .inputTurnPartial | .inputTurnFinal => .providerUntrusted
  | .responseAuthorized => .localAuthoritative
  | .generationStarted | .textSegmentEmitted | .audioFrameGenerated | .generationCompleted
  | .generationCancelled | .providerTurnCompleted => .providerUntrusted
  | .sessionDisconnected | .sessionReestablished | .sessionResumed
  | .sessionGoAway => .providerUntrusted
  | .semanticActConfirmed | .ttsBound | .playoutBound => .localAuthoritative
  | .transportResolved | .playoutPartial | .playoutCleared
  | .playoutInterrupted => .twilioAuthenticated
  | .playoutReconnected | .callerPlaybackObserved | .actFailed | .actTimedOut => .localAuthoritative

def isInputEventKind : VoiceEventKind → Bool
  | .inputActivityStarted | .inputActivityEnded | .inputTurnPartial | .inputTurnFinal => true
  | _ => false

def isGenerationEventKind : VoiceEventKind → Bool
  | .generationStarted | .textSegmentEmitted | .audioFrameGenerated | .generationCompleted
  | .generationCancelled | .providerTurnCompleted => true
  | _ => false

def isSessionEventKind : VoiceEventKind → Bool
  | .sessionDisconnected | .sessionReestablished | .sessionResumed | .sessionGoAway => true
  | _ => false

def isObservationalEventKind (k : VoiceEventKind) : Bool :=
  isInputEventKind k || isGenerationEventKind k || isSessionEventKind k

/-- `expected` (app/services/voice_lifecycle.py:367-399): the kinds an act may
be in when an event of this kind arrives. -/
def expected : VoiceEventKind → List VoiceEventKind
  | .semanticActConfirmed => [.responseAuthorized]
  | .ttsBound => [.semanticActConfirmed]
  | .playoutBound => [.ttsBound, .playoutReconnected]
  | .transportResolved | .playoutPartial | .playoutCleared | .playoutInterrupted
  | .playoutReconnected => [.playoutBound]
  | .callerPlaybackObserved => [.transportResolved]
  | .actFailed | .actTimedOut =>
    [.responseAuthorized, .semanticActConfirmed, .ttsBound, .playoutBound, .transportResolved]
  | _ => []

/-! ## Observations -/

/-- The input kinds that may follow `prior`
(app/services/voice_lifecycle.py:650-662). -/
def inputAllowed (kind : VoiceEventKind) (prior : Option VoiceEventKind) : Bool :=
  match kind with
  | .inputActivityStarted =>
    decide (prior ∈ [none, some .inputActivityEnded, some .inputTurnPartial])
  | .inputActivityEnded => prior == some .inputActivityStarted
  | _ => prior != some .inputTurnFinal

def maxInputObservationHistory : ℕ := 256

def ingestInput (s : State) (event : VoiceEvent) : State × Bool :=
  if !inputAllowed event.kind (s.inputStates.find? event.inputTurnId) ||
      event.payload.audioId.isSome || event.payload.playoutId.isSome then (s, false)
  else
    let history := s.inputObservationHistory ++ [event]
    let full := history.length > maxInputObservationHistory
    ({ s with
      inputStates := s.inputStates.set event.inputTurnId event.kind
      inputObservations := s.inputObservations.set event.inputTurnId event
      inputObservationHistory := if full then history.tail else history
      inputObservationHistoryFloor :=
        if full then (history.head?.map (fun e => (e.sequence : ℤ))).getD
          s.inputObservationHistoryFloor
        else s.inputObservationHistoryFloor
      inputFinals :=
        if event.kind = .inputTurnFinal then s.inputFinals.set event.inputTurnId event
        else s.inputFinals }, true)

/-- `allowed_prior` of the generation events. -/
def generationAllowed : VoiceEventKind → Option VoiceEventKind → Bool
  | .generationStarted, prior => prior == none
  | .textSegmentEmitted, prior =>
    prior == some .generationStarted || prior == some .textSegmentEmitted
  | .audioFrameGenerated, prior =>
    prior == some .generationStarted || prior == some .audioFrameGenerated
  | .generationCompleted, prior | .generationCancelled, prior =>
    prior == some .generationStarted || prior == some .textSegmentEmitted ||
      prior == some .audioFrameGenerated
  | .providerTurnCompleted, prior => prior == some .generationCompleted
  | _, _ => false

def VoiceEvent.generationKey (e : VoiceEvent) : GenerationKey :=
  ⟨e.inputTurnId, e.generationId, e.semanticActId, e.semanticActKind⟩

/-- `record[1:4] == (event.input_turn_id, event.generation_id, event.semantic_act_kind)` -/
def ActRecord.sameAct (r : ActRecord) (e : VoiceEvent) : Bool :=
  decide (r.inputTurnId = e.inputTurnId ∧ r.generationId = e.generationId ∧
    r.semanticActKind = e.semanticActKind)

/-- `record[4:7] == (text_digest, audio_id, playout_id)` of the payload. -/
def ActRecord.samePayload (r : ActRecord) (e : VoiceEvent) : Bool :=
  decide (r.textDigest = e.payload.textDigest ∧ r.audioId = e.payload.audioId ∧
    r.playoutId = e.payload.playoutId)

def generationOpen (r : ActRecord) : Bool :=
  decide (r.kind ∈ [.responseAuthorized, .semanticActConfirmed, .ttsBound, .playoutBound,
    VoiceEventKind.transportResolved])

def ingestGeneration (s : State) (event : VoiceEvent) : State × Bool :=
  if !(s.acts.find? event.semanticActId).any (fun r => r.sameAct event && generationOpen r) then
    (s, false)
  else if !generationAllowed event.kind (s.generationStates.find? event.generationKey) then
    (s, false)
  else if event.kind = .textSegmentEmitted ∧ event.payload.textDigest = none then (s, false)
  else if event.kind = .audioFrameGenerated ∧ event.payload.audioId = none then (s, false)
  else ({ s with
    generationStates := s.generationStates.set event.generationKey event.kind }, true)

/-- `allowed_prior` of the session events. -/
def sessionAllowed : VoiceEventKind → Option VoiceEventKind → Bool
  | .sessionDisconnected, prior | .sessionGoAway, prior =>
    prior == none || prior == some .sessionReestablished || prior == some .sessionResumed
  | .sessionReestablished, prior => prior == some .sessionDisconnected
  | .sessionResumed, prior => prior == some .sessionGoAway || prior == some .sessionDisconnected
  | _, _ => false

def ingestSession (s : State) (event : VoiceEvent) : State × Bool :=
  if !sessionAllowed event.kind (s.sessionEvent.map (·.kind)) then (s, false)
  else ({ s with sessionEvent := some event }, true)

/-- mirrors 648-765. -/
def ingestObservation (s : State) (event : VoiceEvent) : State × Bool :=
  if isInputEventKind event.kind then ingestInput s event
  else if isGenerationEventKind event.kind then ingestGeneration s event
  else ingestSession s event

/-! ## Acts -/

/-- The event follows what is recorded of its act: the kind is one of
`expected`, and turn, generation and act kind are those of the record. -/
def follows (prior : Option ActRecord) (event : VoiceEvent) : Bool :=
  match prior with
  | none => (expected event.kind).isEmpty
  | some r => decide (r.kind ∈ expected event.kind) && r.sameAct event

def VoicePayload.isComplete (p : VoicePayload) : Bool :=
  p.textDigest.isSome && p.audioId.isSome && p.playoutId.isSome

/-- The checks on the payload, by kind
(app/services/voice_lifecycle.py:410-444). -/
def payloadFits (prior : Option ActRecord) (event : VoiceEvent) : Bool :=
  match event.kind with
  | .ttsBound =>
    event.payload.textDigest.isSome && event.payload.audioId.isSome &&
      event.payload.playoutId.isNone
  | .playoutBound =>
    event.payload.isComplete && prior.any fun r =>
      decide (r.textDigest = event.payload.textDigest ∧ r.audioId = event.payload.audioId)
  | .transportResolved | .playoutPartial | .playoutCleared | .playoutInterrupted
  | .playoutReconnected | .callerPlaybackObserved =>
    event.payload.isComplete && prior.any fun r => r.samePayload event
  | .actFailed | .actTimedOut =>
    prior.all fun r => r.textDigest.isNone || r.samePayload event
  | _ => true

def recordOf (prior : Option ActRecord) (event : VoiceEvent) : ActRecord where
  kind := event.kind
  inputTurnId := event.inputTurnId
  generationId := event.generationId
  semanticActKind := event.semanticActKind
  textDigest := event.payload.textDigest.or (prior.bind (·.textDigest))
  audioId := event.payload.audioId.or (prior.bind (·.audioId))
  playoutId := event.payload.playoutId.or (prior.bind (·.playoutId))

/-- The writes of an accepted act event
(app/services/voice_lifecycle.py:445-461). -/
def recordAct (s : State) (event : VoiceEvent) : State :=
  { s with
    sequence := event.sequence
    atMs := event.atMs
    acts := s.acts.set event.semanticActId
      (recordOf (s.acts.find? event.semanticActId) event)
    responseAuthorizations :=
      if event.kind = .responseAuthorized then s.responseAuthorizations.set event.semanticActId event
      else s.responseAuthorizations
    semanticConfirmations :=
      if event.kind = .semanticActConfirmed then
        s.semanticConfirmations.set event.semanticActId event
      else s.semanticConfirmations
    actTerminals :=
      if event.kind = .actFailed ∨ event.kind = .actTimedOut then
        s.actTerminals.set event.semanticActId event
      else s.actTerminals
    pendingQuestionActive :=
      if event.kind = .callerPlaybackObserved ∧ event.semanticActKind = .question then true
      else s.pendingQuestionActive }

def misplaced (s : State) (event : VoiceEvent) : Bool :=
  event.binding != s.binding || decide ((event.sequence : ℤ) ≤ s.sequence) ||
    decide ((event.atMs : ℤ) < s.atMs)

/-- mirrors 324-461. -/
def ingest (s : State) (event : VoiceEvent) : State × Bool :=
  if misplaced s event then (s.reject, false)
  else if event.source ≠ requiredSource event.kind then (s.reject, false)
  else if isObservationalEventKind event.kind then
    match ingestObservation s event with
    | (s', false) => (s'.reject, false)
    | (s', true) => ({ s' with sequence := event.sequence, atMs := event.atMs }, true)
  else
    let prior := s.acts.find? event.semanticActId
    if !follows prior event then (s.reject, false)
    else if !payloadFits prior event then (s.reject, false)
    else (recordAct s event, true)

def step : Machine State VoiceEvent Bool := ingest

/-! ## Receipts -/

/-- mirrors 553-556. -/
def acceptsCallerPlayback (s : State) (event : VoiceEvent) : Bool :=
  event.binding == s.binding && event.kind == .callerPlaybackObserved &&
    event.source == .localAuthoritative && (s.acts.find? event.semanticActId).any fun r =>
      r.kind == .callerPlaybackObserved && r.sameAct event && r.samePayload event

/-- mirrors 558-560. -/
def acceptsTransportResolution (s : State) (event : VoiceEvent) : Bool :=
  event.binding == s.binding && event.kind == .transportResolved &&
    event.source == .twilioAuthenticated && (s.acts.find? event.semanticActId).any fun r =>
      (r.kind == .transportResolved || r.kind == .callerPlaybackObserved) && r.sameAct event &&
        r.samePayload event

/-- mirrors 562-565. -/
def acceptsSemanticConfirmation (s : State) (event : VoiceEvent) : Bool :=
  event.binding == s.binding && event.kind == .semanticActConfirmed &&
    event.source == .localAuthoritative &&
    s.semanticConfirmations.find? event.semanticActId == some event &&
    (s.acts.find? event.semanticActId).any fun r =>
      r.kind == .semanticActConfirmed && r.sameAct event

end HeyKevin.L5.Voice
