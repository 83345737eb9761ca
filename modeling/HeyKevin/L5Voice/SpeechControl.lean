import HeyKevin.Core.Fallible
import HeyKevin.L1Encoding.Json
import HeyKevin.L5Voice.VoiceLifecycle
import Mathlib.Data.Finset.Insert
import Mathlib.Data.Finset.Erase
/-!
# Speech authorization

mirrors app/services/voice_speech_control.py. A plan of semantic acts is
reserved as one batch; a question in it takes its slot, so that no other plan
asks the same question. Each act is then authorized, bound to audio and to a
playout, and observed; it can be cancelled, rolled back or terminalized.

The policy is fixed for the life of the reducer. Casefolding and SHA-256 belong
to the interpreter.

**Left out.** Arguments of a wrong type; the queries that no operation uses.

Line numbers are those of app/services/voice_speech_control.py.
-/
namespace HeyKevin.L5.Speech

open HeyKevin.Core L1 L1.Text
open HeyKevin.L1.Json (quotedAscii)
open HeyKevin.L5.Voice (VoiceSessionBinding VoiceSemanticActKind)

/-- `_IDENTIFIER`: `[A-Za-z0-9_]{1,128}` -/
def IsIdentifier (s : Str) : Prop :=
  1 ≤ s.length ∧ s.length ≤ 128 ∧ s.all (fun c =>
    (65 ≤ c.val && c.val ≤ 90) || (97 ≤ c.val && c.val ≤ 122) || (48 ≤ c.val && c.val ≤ 57) ||
      c.val == 95) = true

instance (s : Str) : Decidable (IsIdentifier s) := inferInstanceAs (Decidable (_ ∧ _))

inductive FailureClass
  | recoverable | security | uncertain | irrecoverable
deriving DecidableEq

inductive CancellationReason
  | callerActivity | interruption | reconnect | epochSuperseded
deriving DecidableEq

inductive ReplayMode
  | exact | slower
deriving DecidableEq

def ReplayMode.text : ReplayMode → String
  | .exact => "exact"
  | .slower => "slower"

/-- `_TERMINAL_KINDS` -/
def isTerminalKind : VoiceSemanticActKind → Bool
  | .closing | .optOut | .voicemail => true
  | _ => false

/-- `_NON_REPLAYABLE_KINDS` -/
def isNonReplayableKind (kind : VoiceSemanticActKind) : Bool :=
  isTerminalKind kind || kind = .languageChoice

structure SemanticAct where
  kind : VoiceSemanticActKind
  text : Str
  questionSlot : Option Str
  privateDisclosure : Bool
  unsupportedPromise : Bool
  complete : Bool
  text_valid : strip text ≠ [] ∧ text.length ≤ 4096
  slot_valid : ∀ slot ∈ questionSlot, IsIdentifier slot
  slot_isSome : questionSlot.isSome ↔ kind = .question
deriving DecidableEq

def SemanticAct.isQuestion (a : SemanticAct) : Bool := a.kind = .question
def SemanticAct.isAnswer (a : SemanticAct) : Bool := a.kind = .answer

structure SpokenPlan where
  planId : Str
  acts : List SemanticAct
  id_valid : IsIdentifier planId
  nonempty : acts ≠ []
  one_question : (acts.filter SemanticAct.isQuestion).length ≤ 1
  answer_first : acts.any SemanticAct.isQuestion = true → acts.any SemanticAct.isAnswer = true →
    acts.findIdx SemanticAct.isAnswer ≤ acts.findIdx SemanticAct.isQuestion

structure SpeechPolicy where
  normalWordBudget : ℕ
  safetyWordBudget : ℕ
  requiredSafetyFragments : List Str
  terminalFragments : List Str
  localizedSafetyFragments : Entries Str (List Str)

/-- mirrors 146-151
(`SpeechPolicy.safety_fragments`) -/
def SpeechPolicy.safetyFragments (policy : SpeechPolicy) (locale : Str) : List Str :=
  (policy.localizedSafetyFragments.find? locale).getD policy.requiredSafetyFragments

structure SpeechAuthorization where
  binding : VoiceSessionBinding
  turnId : Str
  authorizedKinds : List VoiceSemanticActKind
  terminalAllowed : Bool
  answeredSlots : List Str
  locale : Str
  turn_valid : IsIdentifier turnId

structure ReservedSpeech where
  actId : Str
  reservationId : Option Str
  kind : VoiceSemanticActKind
  text : Str
  binding : VoiceSessionBinding
  turnId : Str
deriving DecidableEq

structure AudioBinding where
  actId : Str
  textDigest : Str
  audioId : Str
  binding : VoiceSessionBinding
deriving DecidableEq

structure PlayoutBinding where
  actId : Str
  textDigest : Str
  audioId : Str
  playoutId : Str
  binding : VoiceSessionBinding
deriving DecidableEq

structure ReplaySource where
  actId : Str
  kind : VoiceSemanticActKind
  text : Str
  textDigest : Str
  binding : VoiceSessionBinding
  turnId : Str
  questionSlot : Option Str
  locale : Str
deriving DecidableEq

structure RepairIntent where
  originalActId : Str
  repairActId : Str
  turnId : Str
  epoch : ℕ
  confirmedFactIds : List Str

/-- `_Record` -/
structure ActRecord where
  reserved : ReservedSpeech
  questionSlot : Option Str
  ownsQuestionSlotReservation : Bool
  locale : Str
  authorized : Bool
  cancelled : Bool
  audio : Option AudioBinding
  playout : Option PlayoutBinding
  streamedText : Str
  callerObservedOrdinal : Option ℕ
  replayMode : Option ReplayMode
  replaySourceActId : Option Str
  replayRequestId : Option Str

abbrev SlotKey := VoiceSessionBinding × Str

structure State where
  records : Entries Str ActRecord
  reservationBatches : Finset (List Str)
  reservedSlots : Finset SlotKey
  repairs : Finset SlotKey
  replayRequests : Finset SlotKey
  callerObservationCounter : ℕ

/-- `SpeechControl(policy)` -/
def State.start : State := ⟨[], ∅, ∅, ∅, ∅, 0⟩

def ActRecord.slotKey? (r : ActRecord) : Option SlotKey :=
  if r.ownsQuestionSlotReservation then r.questionSlot.map fun slot => (r.reserved.binding, slot)
  else none

/-- `self._reserved_slots.discard(...)` of an act that owns a reservation -/
def discard (slots : Finset SlotKey) (r : ActRecord) : Finset SlotKey :=
  match r.slotKey? with
  | some k => slots.erase k
  | none => slots

variable (P : Python) (policy : SpeechPolicy)

/-! ## Policy -/

/-- mirrors 919-926
(`SpeechControl._validate_text`) -/
def validateText (kind : VoiceSemanticActKind) (text : Str) : Except String Unit := do
  ensure (strip text ≠ []) "semantic act text is invalid"
  ensure ((split text).length ≤
      (if kind = .safety then policy.safetyWordBudget else policy.normalWordBudget))
    "semantic act exceeds speech budget"
  ensure (¬ (isTerminalKind kind = false ∧
      ∃ fragment ∈ policy.terminalFragments, P.casefold fragment <:+: P.casefold text))
    "terminal wording is not authorized"

/-- mirrors 900-917
(`SpeechControl._validate_act`) -/
def validateAct (act : SemanticAct) (authorization : SpeechAuthorization) :
    Except String Unit := do
  ensure (¬ (isTerminalKind act.kind = true ∧ authorization.terminalAllowed = false))
    "terminal semantic act is not authorized"
  ensure (act.kind ∈ authorization.authorizedKinds) "semantic act is not authorized"
  ensure (act.privateDisclosure = false ∧ act.unsupportedPromise = false ∧ act.complete = true)
    "semantic act violates policy"
  validateText P policy act.kind act.text
  ensure (act.kind = .safety → ∀ fragment ∈ policy.safetyFragments authorization.locale,
      P.casefold fragment <:+: P.casefold act.text)
    "safety semantic act is incomplete"

/-! ## Identities -/

def bindingJson (b : VoiceSessionBinding) : Str :=
  py "\x7b\"call_binding\":" ++ quotedAscii b.callBinding.val ++
    py ",\"contractor_binding\":" ++ quotedAscii b.contractorBinding.val ++
    py ",\"environment\":" ++ quotedAscii b.environment.val ++
    py ",\"epoch\":" ++ decimal b.epoch ++
    py ",\"stream_binding\":" ++ quotedAscii b.streamBinding.val ++ py "\x7d"

/-- `"act_" + sha256(text).hexdigest()` of an ASCII text, which always encodes -/
def actDigest (text : Str) : Str := py "act_" ++ P.sha256 ((encodeUtf8 text).getD [])

/-- mirrors 33-46 -/
def actId (binding : VoiceSessionBinding) (turnId planId : Str) (index : ℕ) : Str :=
  actDigest P (py "\x7b\"binding\":" ++ bindingJson binding ++ py ",\"index\":" ++ decimal index ++
    py ",\"plan_id\":" ++ quotedAscii planId ++ py ",\"turn_id\":" ++ quotedAscii turnId ++
    py "\x7d")

/-- The act id of a replay (app/services/voice_speech_control.py:706-729). -/
def replayActId (source : ReplaySource) (requestId : Str) (mode : ReplayMode) (turnId : Str) : Str :=
  actDigest P (py "\x7b\"binding\":" ++ bindingJson source.binding ++
    py ",\"domain\":\"hey-kevin/offline-speech-replay/v1\",\"mode\":" ++
    quotedAscii (py mode.text) ++ py ",\"request_id\":" ++ quotedAscii requestId ++
    py ",\"source_act_id\":" ++ quotedAscii source.actId ++
    py ",\"text_digest\":" ++ quotedAscii source.textDigest ++
    py ",\"turn_id\":" ++ quotedAscii turnId ++ py "\x7d")

/-- `f"reservation_{act_id}"` of a question -/
def reservationId (kind : VoiceSemanticActKind) (id : Str) : Option Str :=
  if kind = .question then some (py "reservation_" ++ id) else none

/-- `sha256(text.encode("utf-8")).hexdigest()`; a lone surrogate raises. -/
def textDigest (text : Str) : Except String Str := do
  let bs ← require (encodeUtf8 text) "surrogates not allowed"
  pure (P.sha256 bs)

/-! ## Reservation -/

/-- The first loop of `reserve`, which only checks. -/
def checkActs (s : State) (authorization : SpeechAuthorization) (planId : Str) :
    ℕ → List SemanticAct → Except String Unit
  | _, [] => .ok ()
  | index, act :: acts => do
    validateAct P policy act authorization
    ensure (s.records.find? (actId P authorization.binding authorization.turnId planId index)).isNone
      "speech act is already reserved"
    ensure (∀ slot ∈ act.questionSlot, slot ∉ authorization.answeredSlots)
      "question slot is already answered"
    ensure (∀ slot ∈ act.questionSlot, (authorization.binding, slot) ∉ s.reservedSlots)
      "question slot is already reserved"
    checkActs s authorization planId (index + 1) acts

def reservedSpeech (authorization : SpeechAuthorization) (act : SemanticAct) (id : Str) :
    ReservedSpeech :=
  ⟨id, reservationId act.kind id, act.kind, act.text, authorization.binding, authorization.turnId⟩

def newRecord (reserved : ReservedSpeech) (questionSlot : Option Str) (owns : Bool)
    (locale : Str) : ActRecord :=
  ⟨reserved, questionSlot, owns, locale, false, false, none, none, [], none, none, none, none⟩

/-- One pass of the second loop of `reserve`. -/
def reserveAct (authorization : SpeechAuthorization) (act : SemanticAct) (id : Str) (s : State) :
    State :=
  { s with
    records := s.records.set id (newRecord (reservedSpeech authorization act id) act.questionSlot
      act.questionSlot.isSome authorization.locale)
    reservedSlots :=
      match act.questionSlot with
      | some slot => insert (authorization.binding, slot) s.reservedSlots
      | none => s.reservedSlots }

/-- The second loop of `reserve`. -/
def reserveActs (authorization : SpeechAuthorization) (planId : Str) :
    ℕ → List SemanticAct → State → State × List ReservedSpeech
  | _, [], s => (s, [])
  | index, act :: acts, s =>
    let id := actId P authorization.binding authorization.turnId planId index
    let (s, batch) := reserveActs authorization planId (index + 1) acts
      (reserveAct authorization act id s)
    (s, reservedSpeech authorization act id :: batch)

def actIds (reserved : List ReservedSpeech) : List Str := reserved.map ReservedSpeech.actId

/-- mirrors 352-396 -/
def reserve (plan : SpokenPlan) (authorization : SpeechAuthorization) (s : State) :
    Except String (State × List ReservedSpeech) := do
  checkActs P policy s authorization plan.planId 0 plan.acts
  let (s, batch) := reserveActs P authorization plan.planId 0 plan.acts s
  pure ({ s with reservationBatches := insert (actIds batch) s.reservationBatches }, batch)

def Pristine (s : State) (item : ReservedSpeech) (r : ActRecord) : Prop :=
  r.reserved = item ∧ r.authorized = false ∧ r.cancelled = false ∧ r.audio = none ∧
    r.playout = none ∧ r.streamedText = [] ∧ (r.reserved.binding, item.actId) ∉ s.repairs

instance (s : State) (item : ReservedSpeech) (r : ActRecord) : Decidable (Pristine s item r) :=
  inferInstanceAs (Decidable (_ ∧ _))

/-- Every item has a record that meets `p`. -/
def AllRecorded (s : State) (reserved : List ReservedSpeech)
    (p : ReservedSpeech → ActRecord → Prop) : Prop :=
  ∀ item ∈ reserved, ∃ r ∈ s.records.find? item.actId, p item r

instance (s : State) (reserved : List ReservedSpeech) (p : ReservedSpeech → ActRecord → Prop)
    [∀ item r, Decidable (p item r)] : Decidable (AllRecorded s reserved p) :=
  inferInstanceAs (Decidable (∀ _ ∈ _, _))

def rollbackRecord (r : ActRecord) (s : State) : State :=
  { s with
    records := s.records.pop r.reserved.actId
    reservedSlots := discard s.reservedSlots r
    replayRequests :=
      match r.replayRequestId with
      | some requestId => s.replayRequests.erase (r.reserved.binding, requestId)
      | none => s.replayRequests }

/-- mirrors 398-432
(`SpeechControl.rollback_reservation`) -/
def rollbackReservation (reserved : List ReservedSpeech) (s : State) : State × Bool :=
  if reserved ≠ [] ∧ (actIds reserved).Nodup ∧ actIds reserved ∈ s.reservationBatches ∧
      AllRecorded s reserved (Pristine s) then
    let records := reserved.filterMap fun item => s.records.find? item.actId
    let t := records.foldl (fun t r => rollbackRecord r t) s
    ({ t with reservationBatches := t.reservationBatches.erase (actIds reserved) }, true)
  else (s, false)

def removeBatch (reserved : List ReservedSpeech) (s : State) : State :=
  { s with reservationBatches := s.reservationBatches.erase (actIds reserved) }

/-- mirrors 434-447
(`SpeechControl.complete_reservation`) -/
def completeReservation (reserved : List ReservedSpeech) (s : State) : State × Bool :=
  if actIds reserved ∈ s.reservationBatches ∧
      AllRecorded s reserved (fun item r => r.reserved = item ∧ r.cancelled = false) then
    (removeBatch reserved s, true)
  else (s, false)

/-- mirrors 449-461
(`SpeechControl.retire_reservation`) -/
def retireReservation (reserved : List ReservedSpeech) (s : State) : State × Bool :=
  if actIds reserved ∈ s.reservationBatches ∧
      AllRecorded s reserved (fun item r => r.reserved = item) then
    (removeBatch reserved s, true)
  else (s, false)

/-- mirrors 463-502
(`SpeechControl.force_retire_reservation`) -/
def forceRetireReservation (reserved : List ReservedSpeech) (s : State) : State × Bool :=
  if reserved ≠ [] ∧ (actIds reserved).Nodup ∧ actIds reserved ∈ s.reservationBatches ∧
      AllRecorded s reserved (fun item r => r.reserved = item ∧ r.cancelled = true) then
    (removeBatch reserved s, true)
  else (s, false)

/-! ## From text to playback -/

def State.setRecord (s : State) (id : Str) (r : ActRecord) : State :=
  { s with records := s.records.set id r }

/-- mirrors 541-550
(`SpeechControl.authorize_text`) -/
def authorizeText (id text : Str) (s : State) : State × Bool :=
  match s.records.find? id with
  | some r =>
    if r.cancelled = false ∧ r.authorized = false ∧ text = r.reserved.text ∧
        (validateText P policy r.reserved.kind text).toBool = true then
      (s.setRecord id { r with authorized := true }, true)
    else (s, false)
  | none => (s, false)

/-- mirrors 552-574
(`SpeechControl.accept_segment`) -/
def acceptSegment (id segment : Str) (final : Bool) (s : State) : State × Bool :=
  match s.records.find? id with
  | some r =>
    let combined := r.streamedText ++ segment
    if r.cancelled = false ∧ r.authorized = true ∧ isTerminalKind r.reserved.kind = false ∧
        r.reserved.kind ≠ .question ∧ r.reserved.kind ≠ .safety ∧ segment ≠ [] ∧
        combined <+: r.reserved.text ∧
        (validateText P policy r.reserved.kind combined).toBool = true ∧
        final = decide (combined = r.reserved.text) then
      (s.setRecord id { r with streamedText := combined }, true)
    else (s, false)
  | none => (s, false)

/-- mirrors 576-590 -/
def bindTts (id audioId : Str) (s : State) : Except String (State × Bool) :=
  match s.records.find? id with
  | some r =>
    if r.cancelled = false ∧ r.authorized = true ∧ r.audio = none ∧ IsIdentifier audioId then do
      let digest ← textDigest P r.reserved.text
      pure (s.setRecord id { r with audio := some ⟨id, digest, audioId, r.reserved.binding⟩ }, true)
    else .ok (s, false)
  | none => .ok (s, false)

/-- mirrors 610-625
(`SpeechControl.bind_playout`) -/
def bindPlayout (id playoutId : Str) (s : State) : State × Bool :=
  match s.records.find? id with
  | some r =>
    match r.audio with
    | some audio =>
      if r.cancelled = false ∧ r.playout = none ∧ IsIdentifier playoutId then
        (s.setRecord id { r with
          playout := some ⟨id, audio.textDigest, audio.audioId, playoutId, audio.binding⟩ }, true)
      else (s, false)
    | none => (s, false)
  | none => (s, false)

/-- mirrors 631-653
(`SpeechControl.record_caller_playback_observed`) -/
def recordCallerPlaybackObserved (id playoutId : Str) (s : State) : State × Bool :=
  match s.records.find? id with
  | some r =>
    if r.cancelled = false ∧ r.authorized = true ∧
        r.playout.map PlayoutBinding.playoutId = some playoutId ∧ r.callerObservedOrdinal = none then
      ({ s.setRecord id { r with callerObservedOrdinal := some (s.callerObservationCounter + 1) } with
        callerObservationCounter := s.callerObservationCounter + 1 }, true)
    else (s, false)
  | none => (s, false)

/-! ## Replay and repair -/

def ActRecord.replaySource? (binding : VoiceSessionBinding) (r : ActRecord) :
    Option (ℕ × ReplaySource) :=
  match r.callerObservedOrdinal, r.playout with
  | some ordinal, some playout =>
    if r.reserved.binding = binding ∧ r.authorized = true ∧ r.cancelled = false ∧
        isNonReplayableKind r.reserved.kind = false then
      some (ordinal, ⟨r.reserved.actId, r.reserved.kind, r.reserved.text, playout.textDigest,
        r.reserved.binding, r.reserved.turnId, r.questionSlot, r.locale⟩)
    else none
  | _, _ => none

/-- mirrors 655-687
(`SpeechControl.latest_replay_source`); `max` keeps the first of equals -/
def latestReplaySource (s : State) (binding : VoiceSessionBinding) : Option ReplaySource :=
  ((s.records.filterMap fun e => e.2.replaySource? binding).foldl
    (fun best e =>
      match best with
      | some b => if b.1 < e.1 then some e else some b
      | none => some e) none).map Prod.snd

/-- mirrors 689-757
(`SpeechControl.reserve_replay`) -/
def reserveReplay (source : ReplaySource) (requestId : Str) (mode : ReplayMode)
    (authorization : SpeechAuthorization) (s : State) :
    Except String (State × List ReservedSpeech) := do
  ensure (IsIdentifier requestId) "replay request id is invalid"
  let id := replayActId P source requestId mode authorization.turnId
  if latestReplaySource s source.binding = some source ∧ authorization.binding = source.binding ∧
      authorization.turnId ≠ source.turnId ∧ authorization.authorizedKinds = [source.kind] ∧
      authorization.terminalAllowed = false ∧ authorization.answeredSlots = [] ∧
      authorization.locale = source.locale ∧ (source.binding, requestId) ∉ s.replayRequests ∧
      (s.records.find? id).isNone then
    let reserved : ReservedSpeech := ⟨id, reservationId source.kind id, source.kind, source.text,
      source.binding, authorization.turnId⟩
    pure ({ s with
      records := s.records.set id
        { newRecord reserved source.questionSlot false source.locale with
          replayMode := some mode
          replaySourceActId := some source.actId
          replayRequestId := some requestId }
      reservationBatches := insert [id] s.reservationBatches
      replayRequests := insert (source.binding, requestId) s.replayRequests }, [reserved])
  else pure (s, [])

/-- The constructor of `RepairIntent`. -/
def RepairIntent.IsValid (i : RepairIntent) : Prop :=
  IsIdentifier i.originalActId ∧ IsIdentifier i.repairActId ∧ IsIdentifier i.turnId ∧
    ∀ fact ∈ i.confirmedFactIds, IsIdentifier fact

instance (i : RepairIntent) : Decidable i.IsValid := inferInstanceAs (Decidable (_ ∧ _))

/-- mirrors 867-898
(`SpeechControl.reserve_repair`). A reservation whose intent is refused stays. -/
def reserveRepair (originalActId : Str) (failure : FailureClass) (plan : SpokenPlan)
    (authorization : SpeechAuthorization) (confirmedFactIds : List Str) (s : State) :
    State × Option RepairIntent :=
  match s.records.find? originalActId with
  | some r =>
    if failure = .recoverable ∧ r.reserved.kind ≠ .repair ∧
        (r.reserved.binding, originalActId) ∉ s.repairs ∧
        plan.acts.map SemanticAct.kind = [.repair] ∧
        authorization.binding = r.reserved.binding ∧ authorization.turnId = r.reserved.turnId then
      match reserve P policy plan authorization s with
      | .ok (t, repair :: _) =>
        let intent : RepairIntent := ⟨originalActId, repair.actId, r.reserved.turnId,
          r.reserved.binding.epoch, confirmedFactIds⟩
        if intent.IsValid then
          ({ t with repairs := insert (r.reserved.binding, originalActId) t.repairs }, some intent)
        else (t, none)
      | .ok (t, []) => (t, none)
      | .error _ => (s, none)
    else (s, none)
  | none => (s, none)

/-! ## Termination -/

def terminate (id : Str) (r : ActRecord) (s : State) : State :=
  { s with
    records := s.records.set id { r with cancelled := true }
    reservedSlots := discard s.reservedSlots r }

/-- mirrors 780-792 -/
def cancel (id : Str) (reason : CancellationReason) (supersedingEpoch : Option ℤ) (s : State) :
    State × Bool :=
  match s.records.find? id with
  | some r =>
    if r.cancelled = false ∧
        (reason = .epochSuperseded → ∃ e ∈ supersedingEpoch, (r.reserved.binding.epoch : ℤ) < e) ∧
        (reason ≠ .epochSuperseded → supersedingEpoch = none) then
      (terminate id r s, true)
    else (s, false)
  | none => (s, false)

/-- mirrors 794-809
(`SpeechControl.hard_terminalize`): it terminates an act whatever its state. -/
def hardTerminalize (id : Str) (s : State) : State :=
  match s.records.find? id with
  | some r => terminate id r s
  | none => s

/-- mirrors 823-834
(`SpeechControl.act_ids_for_binding`) -/
def actIdsForBinding (s : State) (binding : VoiceSessionBinding) : List Str :=
  (s.records.filter fun e => e.2.reserved.binding = binding).map Prod.fst

/-- mirrors 811-821
(`SpeechControl.hard_terminalize_binding`) -/
def hardTerminalizeBinding (binding : VoiceSessionBinding) (s : State) : State :=
  (actIdsForBinding s binding).foldl (fun t id => hardTerminalize id t) s

/-- mirrors 840-848 -/
def isLive (s : State) (id : Str) : Bool :=
  match s.records.find? id with
  | some r => r.authorized && !r.cancelled
  | none => false

/-! ## The reducer -/

inductive Op
  | reserve (plan : SpokenPlan) (authorization : SpeechAuthorization)
  | rollbackReservation (reserved : List ReservedSpeech)
  | completeReservation (reserved : List ReservedSpeech)
  | retireReservation (reserved : List ReservedSpeech)
  | forceRetireReservation (reserved : List ReservedSpeech)
  | authorizeText (id text : Str)
  | acceptSegment (id segment : Str) (final : Bool)
  | bindTts (id audioId : Str)
  | bindPlayout (id playoutId : Str)
  | recordCallerPlaybackObserved (id playoutId : Str)
  | reserveReplay (source : ReplaySource) (requestId : Str) (mode : ReplayMode)
      (authorization : SpeechAuthorization)
  | reserveRepair (originalActId : Str) (failure : FailureClass) (plan : SpokenPlan)
      (authorization : SpeechAuthorization) (confirmedFactIds : List Str)
  | cancel (id : Str) (reason : CancellationReason) (supersedingEpoch : Option ℤ)
  | hardTerminalize (id : Str)
  | hardTerminalizeBinding (binding : VoiceSessionBinding)

inductive Response
  | raised (m : String)
  | done (ok : Bool)
  | batch (reserved : List ReservedSpeech)
  | repair (intent : Option RepairIntent)

def attempt {α : Type} (s : State) (x : Except String (State × α)) (f : α → Response) :
    State × Response :=
  match x with
  | .ok (t, a) => (t, f a)
  | .error m => (s, .raised m)

def step : Machine State Op Response := fun s op =>
  match op with
  | .reserve plan authorization => attempt s (reserve P policy plan authorization s) .batch
  | .rollbackReservation reserved => (rollbackReservation reserved s).map id .done
  | .completeReservation reserved => (completeReservation reserved s).map id .done
  | .retireReservation reserved => (retireReservation reserved s).map id .done
  | .forceRetireReservation reserved => (forceRetireReservation reserved s).map id .done
  | .authorizeText actId text => (authorizeText P policy actId text s).map id .done
  | .acceptSegment actId segment final => (acceptSegment P policy actId segment final s).map id .done
  | .bindTts actId audioId => attempt s (bindTts P actId audioId s) .done
  | .bindPlayout actId playoutId => (bindPlayout actId playoutId s).map id .done
  | .recordCallerPlaybackObserved actId playoutId =>
    (recordCallerPlaybackObserved actId playoutId s).map id .done
  | .reserveReplay source requestId mode authorization =>
    attempt s (reserveReplay P source requestId mode authorization s) .batch
  | .reserveRepair originalActId failure plan authorization confirmedFactIds =>
    (reserveRepair P policy originalActId failure plan authorization confirmedFactIds s).map id .repair
  | .cancel actId reason supersedingEpoch => (cancel actId reason supersedingEpoch s).map id .done
  | .hardTerminalize actId =>
    let t := hardTerminalize actId s
    (t, .done ((s.records.find? actId).isSome && !isLive t actId))
  | .hardTerminalizeBinding binding =>
    let t := hardTerminalizeBinding binding s
    (t, .done ((actIdsForBinding s binding).all fun actId => !isLive t actId))

end HeyKevin.L5.Speech
