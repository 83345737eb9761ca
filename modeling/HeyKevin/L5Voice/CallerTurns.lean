import HeyKevin.Core.Fallible
import HeyKevin.Core.Machine
import HeyKevin.L1Encoding.Text
/-!
# Caller turns, assembled in retrospect

mirrors app/services/caller_turns.py. The assembler groups the transcript
fragments of one caller between terminal events. A terminal event opens a
quiescence window; the group is reported when the window has passed, which
the assembler notices lazily, at the next event or poll.

**Model.** `State` is the object: the window of retained sequence numbers
(the `set` and the `deque` of the source always hold the same numbers), the
counters, and the pending group. `ingest`, `advanceTime` and `finish` are the
three entry points; a call that raises changes nothing. NFC is a parameter.

**Left out.** The `TypeError` guards on arguments of a wrong type, and the
dictionary forms of events and turns.

Line numbers are those of app/services/caller_turns.py.
-/
namespace HeyKevin.L5.CallerTurns

open HeyKevin.Core L1.Text

inductive CallerTurnEventKind
  | inputTranscriptFragment
  | modelOutputStarted
  | generationComplete
  | turnComplete
  | interrupted
  | toolCallStarted
  | toolCallCancelled
  | connectionClosed
  | reconnectStarted
  | pipelineStopped
deriving DecidableEq, Repr

/-- `PARTIAL` of the source is `incomplete` here. -/
inductive CallerTurnCompletionStatus
  | retrospectiveComplete
  | incomplete
  | cancelled
  | dropped
deriving DecidableEq, Repr

inductive CallerTurnCloseReason
  | modelOutputStarted
  | generationComplete
  | turnComplete
  | interrupted
  | toolCallStarted
  | toolCallCancelled
  | connectionClosed
  | reconnectStarted
  | pipelineStopped
  | resourceLimit
deriving DecidableEq, Repr

/-- `_TERMINAL_REASONS.get(kind)` -/
def terminalReason : CallerTurnEventKind → Option CallerTurnCloseReason
  | .modelOutputStarted => some .modelOutputStarted
  | .generationComplete => some .generationComplete
  | .turnComplete => some .turnComplete
  | .interrupted => some .interrupted
  | .toolCallStarted => some .toolCallStarted
  | _ => none

/-- `_IMMEDIATE_REASONS.get(kind)` -/
def immediateReason : CallerTurnEventKind → Option CallerTurnCloseReason
  | .toolCallCancelled => some .toolCallCancelled
  | .connectionClosed => some .connectionClosed
  | .reconnectStarted => some .reconnectStarted
  | .pipelineStopped => some .pipelineStopped
  | _ => none

/-- `any(ord(character) < 32 for character in normalized)` -/
def hasControl (s : Str) : Bool := s.any fun c => c.val < 32

/-- Text of one fragment: what `_normalize_fragment` lets through. -/
structure Fragment where
  text : Str
  no_control : hasControl text = false
  encodable : Encodable text

def Fragment.empty : Fragment := ⟨[], rfl, by simp⟩

/-- `len(s.encode("utf-8"))` of an encodable string. -/
def utf8Length (s : Str) : ℕ := ((encodeUtf8 s).getD []).length

/-- `"".join(fragments)` -/
def join (fragments : List Fragment) : Str := fragments.flatMap (·.text)

@[simp] theorem join_nil : join [] = [] := rfl

theorem encodable_join (fragments : List Fragment) : Encodable (join fragments) := by
  intro c hc
  obtain ⟨f, -, hf⟩ := List.mem_flatMap.mp hc
  exact f.encodable c hf

def defaultMaxTranscriptCodepoints : ℕ := 4000
def defaultMaxTranscriptUtf8Bytes : ℕ := 16000

/-- mirrors 75-90. -/
def normalizeFragment (nfc : Str → Str) (value : Str) : Except String Fragment :=
  let normalized := nfc value
  if hc : hasControl normalized = false then
    if he : Encodable normalized then
      if normalized.length > defaultMaxTranscriptCodepoints ∨
          utf8Length normalized > defaultMaxTranscriptUtf8Bytes then
        .error "text fragment exceeds the event bound"
      else .ok ⟨normalized, hc, he⟩
    else .error "text must be valid Unicode"
  else .error "text contains a control character"

/-- mirrors 93-115. -/
structure CallerTurnEvent where
  kind : CallerTurnEventKind
  atMs : ℕ
  sequence : ℕ
  epoch : ℕ
  text : Fragment
  text_empty : kind ≠ .inputTranscriptFragment → text.text = []

/-- mirrors 67-72. -/
def boundedNonnegativeInt (value : ℤ) (name : String) : Except String ℕ :=
  if value < 0 then .error (name ++ " must be nonnegative") else .ok value.toNat

def CallerTurnEvent.make (nfc : Str → Str) (kind : CallerTurnEventKind) (atMs sequence epoch : ℤ)
    (text : Str) : Except String CallerTurnEvent := do
  let atMs ← boundedNonnegativeInt atMs "at_ms"
  let sequence ← boundedNonnegativeInt sequence "sequence"
  let epoch ← boundedNonnegativeInt epoch "epoch"
  let normalized ← normalizeFragment nfc text
  if h : kind ≠ .inputTranscriptFragment → normalized.text = [] then
    .ok ⟨kind, atMs, sequence, epoch, normalized, h⟩
  else .error "only transcript fragment events may contain text"

/-- mirrors 137-149,
without its constant schema version. -/
structure RetrospectiveCallerTurn where
  epoch : ℕ
  turnId : ℕ
  transcript : Str
  status : CallerTurnCompletionStatus
  closeReason : CallerTurnCloseReason
  firstEventAtMs : ℕ
  lastTranscriptAtMs : ℕ
  terminalAtMs : ℕ
  finalizedAtMs : ℕ
  eventCount : ℕ
deriving DecidableEq, Repr

/-- The checked arguments of `CallerTurnAssembler`. -/
structure Config where
  activeEpoch : ℕ
  quiescenceMs : ℕ
  maxEvents : ℕ
  maxCodepoints : ℕ
  maxUtf8Bytes : ℕ
  maxRetainedSequences : ℕ
  quiescence_pos : 0 < quiescenceMs
  limits_pos : 0 < maxEvents ∧ 0 < maxCodepoints ∧ 0 < maxUtf8Bytes
  retained_pos : 0 < maxRetainedSequences

def Config.default (activeEpoch : ℕ) : Config where
  activeEpoch := activeEpoch
  quiescenceMs := 250
  maxEvents := 128
  maxCodepoints := defaultMaxTranscriptCodepoints
  maxUtf8Bytes := defaultMaxTranscriptUtf8Bytes
  maxRetainedSequences := 1024
  quiescence_pos := by decide
  limits_pos := by decide
  retained_pos := by decide

/-- What `_reset_pending` resets. -/
structure Pending where
  fragments : List Fragment
  eventCount : ℕ
  firstEventAtMs : Option ℕ
  lastTranscriptAtMs : Option ℕ
  terminalAtMs : Option ℕ
  closeReason : Option CallerTurnCloseReason
  deadlineMs : Option ℕ

def Pending.empty : Pending := ⟨[], 0, none, none, none, none, none⟩

def Pending.hasPending (p : Pending) : Bool := 0 < p.eventCount || !p.fragments.isEmpty

structure State where
  activeEpoch : ℕ
  nextTurnId : ℕ
  /-- `_seen_sequence_order`, oldest first; `_seen_sequences` is its set. -/
  seenSequences : List ℕ
  lastAtMs : ℕ
  duplicateEventCount : ℕ
  staleEventCount : ℕ
  pending : Pending

def Config.start (c : Config) : State := ⟨c.activeEpoch, 1, [], 0, 0, 0, Pending.empty⟩

section Assembler

variable (nfc : Str → Str) (config : Config)

def Pending.transcript (p : Pending) : Str := strip (nfc (join p.fragments))

/-- The turn `_finalize` reports (app/services/caller_turns.py:418-436). -/
def State.turn (s : State) (atMs : ℕ) (status : CallerTurnCompletionStatus)
    (reason : CallerTurnCloseReason) (retainTranscript : Bool) : RetrospectiveCallerTurn :=
  let p := s.pending
  let firstEventAtMs := p.firstEventAtMs.getD atMs
  { epoch := s.activeEpoch
    turnId := s.nextTurnId
    transcript := if retainTranscript then p.transcript nfc else []
    status := status
    closeReason := reason
    firstEventAtMs := firstEventAtMs
    lastTranscriptAtMs := p.lastTranscriptAtMs.getD firstEventAtMs
    terminalAtMs := p.terminalAtMs.getD atMs
    finalizedAtMs := atMs
    eventCount := p.eventCount }

/-- mirrors 404-439. -/
def finalize (s : State) (atMs : ℕ) (status : CallerTurnCompletionStatus)
    (reason : CallerTurnCloseReason) (retainTranscript : Bool) :
    State × List RetrospectiveCallerTurn :=
  if s.pending.transcript nfc = [] ∧ status ≠ .dropped then
    ({ s with pending := Pending.empty }, [])
  else if s.pending.hasPending = false then (s, [])
  else ({ s with nextTurnId := s.nextTurnId + 1, pending := Pending.empty },
    [s.turn nfc atMs status reason retainTranscript])

/-- mirrors 380-386. -/
def dropForResourceLimit (s : State) (atMs : ℕ) : State × List RetrospectiveCallerTurn :=
  finalize nfc s atMs .dropped .resourceLimit false

/-- mirrors 388-402. -/
def finalizeExpired (s : State) (observedAtMs : ℕ) : State × List RetrospectiveCallerTurn :=
  match s.pending.deadlineMs with
  | none => (s, [])
  | some deadlineMs =>
    if observedAtMs < deadlineMs then (s, [])
    else finalize nfc s deadlineMs .retrospectiveComplete
      (s.pending.closeReason.getD .turnComplete) true

/-- mirrors 374-378. -/
def transcriptExceedsLimit (fragments : List Fragment) : Bool :=
  (join fragments).length > config.maxCodepoints ||
    utf8Length (join fragments) > config.maxUtf8Bytes

/-- A reconnect with a later epoch closes the group of the old one
(app/services/caller_turns.py:269-280). -/
def enterEpoch (s : State) (event : CallerTurnEvent) : State × List RetrospectiveCallerTurn :=
  if s.activeEpoch < event.epoch then
    let (s', emitted) := finalize nfc s event.atMs .incomplete .reconnectStarted true
    ({ s' with activeEpoch := event.epoch, seenSequences := [], lastAtMs := event.atMs }, emitted)
  else (s, [])

/-- The retained sequence numbers after `sequence` was seen. -/
def retain (seen : List ℕ) (sequence : ℕ) : List ℕ :=
  let order := seen ++ [sequence]
  if order.length > config.maxRetainedSequences then order.tail else order

/-- mirrors 365-368. -/
def recordEvent (p : Pending) (event : CallerTurnEvent) : Pending :=
  { p with
    firstEventAtMs := some (p.firstEventAtMs.getD event.atMs)
    eventCount := p.eventCount + 1 }

/-- `deadline_ms` after a fragment: an open quiescence window starts anew. -/
def extendDeadline (p : Pending) (atMs : ℕ) : Option ℕ :=
  if p.terminalAtMs.isSome then some (atMs + config.quiescenceMs) else p.deadlineMs

/-- The recorded event within the event limit, by its kind
(app/services/caller_turns.py:309-337). -/
def dispatch (s : State) (event : CallerTurnEvent) : State × List RetrospectiveCallerTurn :=
  let p := s.pending
  if event.kind = .inputTranscriptFragment then
    let p' := { p with
      fragments := p.fragments ++ [event.text]
      lastTranscriptAtMs := some event.atMs }
    if transcriptExceedsLimit config p'.fragments then
      dropForResourceLimit nfc { s with pending := p' } event.atMs
    else ({ s with pending := { p' with deadlineMs := extendDeadline config p event.atMs } }, [])
  else
    match terminalReason event.kind with
    | some reason =>
      ({ s with pending := { p with
          terminalAtMs := some event.atMs
          closeReason := some reason
          deadlineMs := some (event.atMs + config.quiescenceMs) } }, [])
    | none =>
      match immediateReason event.kind with
      | some reason =>
        finalize nfc s event.atMs
          (if event.kind = .toolCallCancelled then .cancelled else .incomplete) reason true
      | none => (s, [])

/-- An event of the active epoch (app/services/caller_turns.py:282-337). -/
def receive (s : State) (event : CallerTurnEvent) : State × List RetrospectiveCallerTurn :=
  let s := { s with lastAtMs := event.atMs }
  if event.sequence ∈ s.seenSequences then
    ({ s with duplicateEventCount := s.duplicateEventCount + 1 }, [])
  else
    let s := { s with seenSequences := retain config s.seenSequences event.sequence }
    if event.kind = .reconnectStarted then
      if s.pending.hasPending then finalize nfc s event.atMs .incomplete .reconnectStarted true
      else (s, [])
    else
      let s := { s with pending := recordEvent s.pending event }
      if s.pending.eventCount > config.maxEvents then dropForResourceLimit nfc s event.atMs
      else dispatch nfc config s event

/-- The events `ingest` only counts. -/
def isStale (s : State) (event : CallerTurnEvent) : Bool :=
  event.epoch < s.activeEpoch || (s.activeEpoch < event.epoch && event.kind != .reconnectStarted)

def accept (s : State) (event : CallerTurnEvent) : State × List RetrospectiveCallerTurn :=
  let (s₁, expired) := finalizeExpired nfc s event.atMs
  let (s₂, closed) := enterEpoch nfc s₁ event
  let (s₃, emitted) := receive nfc config s₂ event
  (s₃, expired ++ closed ++ emitted)

abbrev Outcome := Except String (List RetrospectiveCallerTurn)

/-- mirrors 251-337. -/
def ingest (s : State) (event : CallerTurnEvent) : State × Outcome :=
  if isStale s event then ({ s with staleEventCount := s.staleEventCount + 1 }, .ok [])
  else if event.atMs < s.lastAtMs then
    (s, .error "event time must be monotonic within an epoch")
  else
    let (s', emitted) := accept nfc config s event
    (s', .ok emitted)

/-- mirrors 339-344. -/
def advanceTime (s : State) (atMs : ℕ) : State × Outcome :=
  if atMs < s.lastAtMs then (s, .error "time must be monotonic")
  else
    let (s', emitted) := finalizeExpired nfc { s with lastAtMs := atMs } atMs
    (s', .ok emitted)

/-- mirrors 346-363. -/
def finish (s : State) (atMs : ℕ) (reason : CallerTurnCloseReason) : State × Outcome :=
  if atMs < s.lastAtMs then (s, .error "time must be monotonic")
  else
    let (s', emitted) := finalize nfc { s with lastAtMs := atMs } atMs
      (if reason = .toolCallCancelled then .cancelled else .incomplete) reason true
    (s', .ok emitted)

inductive Call
  | ingest (event : CallerTurnEvent)
  | advanceTime (atMs : ℕ)
  | finish (atMs : ℕ) (reason : CallerTurnCloseReason)

def step : Machine State Call Outcome := fun s c =>
  match c with
  | .ingest event => ingest nfc config s event
  | .advanceTime atMs => advanceTime nfc s atMs
  | .finish atMs reason => finish nfc s atMs reason

end Assembler

/-! ## What closing a group leaves alone -/

/-- `s'` differs from `s` in the pending group and the next turn id only. -/
def Framed (s s' : State) : Prop := ∃ n p, s' = { s with nextTurnId := n, pending := p }

theorem Framed.refl (s : State) : Framed s s := ⟨s.nextTurnId, s.pending, rfl⟩

theorem Framed.activeEpoch {s s' : State} (h : Framed s s') : s'.activeEpoch = s.activeEpoch := by
  obtain ⟨n, p, rfl⟩ := h; rfl

theorem Framed.seenSequences {s s' : State} (h : Framed s s') :
    s'.seenSequences = s.seenSequences := by
  obtain ⟨n, p, rfl⟩ := h; rfl

theorem Framed.lastAtMs {s s' : State} (h : Framed s s') : s'.lastAtMs = s.lastAtMs := by
  obtain ⟨n, p, rfl⟩ := h; rfl

theorem Framed.staleEventCount {s s' : State} (h : Framed s s') :
    s'.staleEventCount = s.staleEventCount := by
  obtain ⟨n, p, rfl⟩ := h; rfl

section Frames

variable {nfc : Str → Str} {config : Config}

theorem finalize_blank {s : State} {status : CallerTurnCompletionStatus}
    (h : s.pending.transcript nfc = []) (hs : status ≠ .dropped) (atMs : ℕ)
    (reason : CallerTurnCloseReason) (retainTranscript : Bool) :
    finalize nfc s atMs status reason retainTranscript =
      ({ s with pending := Pending.empty }, []) := by
  unfold finalize
  rw [if_pos ⟨h, hs⟩]

theorem finalize_idle {s : State} {status : CallerTurnCompletionStatus}
    (h : ¬ (s.pending.transcript nfc = [] ∧ status ≠ .dropped))
    (hp : s.pending.hasPending = false) (atMs : ℕ) (reason : CallerTurnCloseReason)
    (retainTranscript : Bool) :
    finalize nfc s atMs status reason retainTranscript = (s, []) := by
  unfold finalize
  rw [if_neg h, if_pos hp]

theorem finalize_report {s : State} {status : CallerTurnCompletionStatus}
    (h : ¬ (s.pending.transcript nfc = [] ∧ status ≠ .dropped))
    (hp : s.pending.hasPending = true) (atMs : ℕ) (reason : CallerTurnCloseReason)
    (retainTranscript : Bool) :
    finalize nfc s atMs status reason retainTranscript =
      ({ s with nextTurnId := s.nextTurnId + 1, pending := Pending.empty },
        [s.turn nfc atMs status reason retainTranscript]) := by
  unfold finalize
  rw [if_neg h, if_neg (by simp [hp])]

variable (nfc) in
theorem finalize_framed (s : State) (atMs : ℕ) (status : CallerTurnCompletionStatus)
    (reason : CallerTurnCloseReason) (retainTranscript : Bool) :
    Framed s (finalize nfc s atMs status reason retainTranscript).1 := by
  unfold finalize
  split
  · exact ⟨s.nextTurnId, Pending.empty, rfl⟩
  · split
    · exact .refl s
    · exact ⟨s.nextTurnId + 1, Pending.empty, rfl⟩

variable (nfc) in
theorem finalizeExpired_framed (s : State) (atMs : ℕ) :
    Framed s (finalizeExpired nfc s atMs).1 := by
  unfold finalizeExpired
  split
  · exact .refl s
  · split
    · exact .refl s
    · exact finalize_framed _ _ _ _ _ _

theorem dispatch_framed (s : State) (event : CallerTurnEvent) :
    Framed s (dispatch nfc config s event).1 := by
  unfold dispatch
  simp only
  split
  · split
    · obtain ⟨n, p, h⟩ := finalize_framed nfc { s with pending := { s.pending with
        fragments := s.pending.fragments ++ [event.text]
        lastTranscriptAtMs := some event.atMs } } event.atMs .dropped .resourceLimit false
      exact ⟨n, p, h⟩
    · exact ⟨s.nextTurnId, _, rfl⟩
  · split
    · exact ⟨s.nextTurnId, _, rfl⟩
    · split
      · exact finalize_framed _ _ _ _ _ _
      · exact .refl s

theorem receive_lastAtMs (s : State) (event : CallerTurnEvent) :
    (receive nfc config s event).1.lastAtMs = event.atMs := by
  unfold receive
  simp only
  split
  · rfl
  split
  · split
    · exact (finalize_framed _ _ _ _ _ _).lastAtMs
    · rfl
  split
  · exact (finalize_framed _ _ _ _ _ _).lastAtMs
  · exact (dispatch_framed _ _).lastAtMs

/-! ## The three outcomes of an event -/

theorem ingest_stale {s : State} {event : CallerTurnEvent} (h : isStale s event = true) :
    ingest nfc config s event = ({ s with staleEventCount := s.staleEventCount + 1 }, .ok []) := by
  unfold ingest
  rw [if_pos h]

theorem ingest_early {s : State} {event : CallerTurnEvent} (h : isStale s event = false)
    (hlt : event.atMs < s.lastAtMs) : ingest nfc config s event =
      (s, .error "event time must be monotonic within an epoch") := by
  unfold ingest
  rw [if_neg (by simp [h]), if_pos hlt]

variable (nfc config) in
theorem ingest_accept {s : State} {event : CallerTurnEvent} (h : isStale s event = false)
    (hle : s.lastAtMs ≤ event.atMs) : ingest nfc config s event =
      ((accept nfc config s event).1, .ok (accept nfc config s event).2) := by
  unfold ingest
  rw [if_neg (by simp [h]), if_neg (by omega)]

end Frames

def Outcome.turns : Outcome → List RetrospectiveCallerTurn
  | .ok turns => turns
  | .error _ => []

abbrev AssemblerEvent := Event State Call Outcome

def emitted (log : List AssemblerEvent) : List RetrospectiveCallerTurn :=
  log.flatMap fun e => Outcome.turns e.resp

end HeyKevin.L5.CallerTurns
