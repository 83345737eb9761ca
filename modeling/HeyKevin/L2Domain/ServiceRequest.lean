import HeyKevin.L2Domain.Normalization
import Mathlib.Data.List.Sort
/-!
# The service-request aggregate

`app/services/service_request.py`. A request is an immutable aggregate with
the list of every command applied to it. The constructors validate, so an
`Outcome`, a `Record` and a `ServiceRequest` carry the proof that
`__post_init__` passed: a value it rejects cannot be built.

Each command method first clears its guards (`Cleared`: the arguments
normalize, a recorded key replays, the revision is current, the request is
open, the change is legal) and then builds the next aggregate (`build`,
nothing but the constructors). `_next` is its time guard, at the end of the
first part, and `build`.

`L2Domain.History` compares the validator with the commands,
`L2Domain.Idempotency` proves what runs of commands do.

Line numbers are those of app/services/service_request.py.
-/
namespace HeyKevin.L2

open HeyKevin.Core L1 L1.Text L1.Datetime

variable (P : Python)

/-! ## Values -/

/-- The fields of `ServiceRequestCommandOutcome`. -/
structure OutcomeData where
  request_id : Str
  operation : Operation
  revision : ℤ
  status : Status
  services : List Str
  scheduled_start : DateTime
  scheduled_end : DateTime
  applied_at : DateTime
deriving DecidableEq

/-- mirrors 83-96 -/
def OutcomeData.postInit (d : OutcomeData) : Except Err Unit := do
  validateIdentifier d.request_id "request_id" MAX_REQUEST_ID_LENGTH
  let _ ← validateRevision d.revision "revision" 1
  validateCanonicalServices P d.services
  validateCanonicalSchedule d.scheduled_start d.scheduled_end
  validateCanonicalUtc d.applied_at "applied_at"

/-- `ServiceRequestCommandOutcome` -/
@[ext] structure Outcome where
  data : OutcomeData
  valid : data.postInit P = .ok ()
deriving DecidableEq

/-- The fields of `ServiceRequestIdempotencyRecord`. -/
structure RecordData where
  idempotency_key : Str
  command_fingerprint : Str
  outcome : Outcome P
deriving DecidableEq

variable {P} in
/-- mirrors 152-167 -/
def RecordData.postInit (d : RecordData P) : Except Err Unit := do
  validateIdentifier d.idempotency_key "idempotency_key" MAX_IDEMPOTENCY_KEY_LENGTH
  ensure (Python.isDigest d.command_fingerprint = true)
    (.validation "command_fingerprint must be a lowercase SHA-256 digest")

/-- `ServiceRequestIdempotencyRecord` -/
@[ext] structure Record where
  data : RecordData P
  valid : data.postInit = .ok ()
deriving DecidableEq

/-- The fields of `ServiceRequest`. -/
structure RequestData where
  request_id : Str
  status : Status
  revision : ℤ
  services : List Str
  scheduled_start : DateTime
  scheduled_end : DateTime
  created_at : DateTime
  updated_at : DateTime
  idempotency_records : List (Record P)
  schema_version : ℤ := SERVICE_REQUEST_SCHEMA_VERSION
deriving DecidableEq

/-- mirrors 647-697 -/
def validateHistoryTransition (previous : Option OutcomeData) (current : OutcomeData) :
    Except Err Unit := do
  match previous with
  | none =>
    ensure (current.revision = 1 ∧ current.status = .OPEN)
      (.validation "create must produce revision one in open state")
  | some previous =>
    ensure (previous.applied_at.instant ≤ current.applied_at.instant)
      (.validation "command timestamps must be monotonic")
    ensure (previous.status = .OPEN) (.validation "cancelled service requests are terminal")
    match current.operation with
    | .CREATE => .error (.validation "create may occur only at revision one")
    | .CANCEL =>
      ensure (current.status = .CANCELLED ∧ current.services = previous.services ∧
          current.scheduled_start = previous.scheduled_start ∧
          current.scheduled_end = previous.scheduled_end)
        (.validation "cancel outcome is inconsistent")
    | .RESCHEDULE =>
      ensure (current.status = .OPEN) (.validation "non-cancel commands must remain open")
      ensure (current.services = previous.services ∧
          (current.scheduled_start, current.scheduled_end) ≠
            (previous.scheduled_start, previous.scheduled_end))
        (.validation "reschedule outcome is inconsistent")
    | .ADD_SERVICE =>
      ensure (current.status = .OPEN) (.validation "non-cancel commands must remain open")
      ensure (current.scheduled_start = previous.scheduled_start ∧
          current.scheduled_end = previous.scheduled_end ∧
          current.services.length = previous.services.length + 1 ∧
          current.services.dropLast = previous.services)
        (.validation "add-service outcome is inconsistent")

namespace RequestData

variable {P}

/-- `sorted(self.idempotency_records, key=lambda record: record.outcome.revision)` -/
def sortedRecords (records : List (Record P)) : List (Record P) :=
  records.insertionSort fun a b => a.1.outcome.1.revision ≤ b.1.outcome.1.revision

/-- The loop over the sorted records; the result is the last `previous`.
mirrors 616-628 -/
def validateSteps (d : RequestData P) (previous : Option OutcomeData) :
    List OutcomeData → Except Err (Option OutcomeData)
  | [] => .ok previous
  | outcome :: rest => do
    ensure (outcome.request_id = d.request_id)
      (.validation "idempotency outcome request_id does not match aggregate")
    ensure (d.created_at.instant ≤ outcome.applied_at.instant ∧
        outcome.applied_at.instant ≤ d.updated_at.instant)
      (.validation "idempotency outcome timestamp is outside aggregate history")
    validateHistoryTransition previous outcome
    validateSteps d (some outcome) rest

/-- `list(range(1, revision + 1))` -/
def revisions (n : ℕ) : List ℤ := (List.range' 1 n).map Int.ofNat

/-- mirrors 589-645; the
`isinstance` checks hold by type, and a request has a first record. -/
def validateHistory (d : RequestData P) : Except Err Unit := do
  ensure (d.idempotency_records.length = d.revision)
    (.validation "revision must equal the number of applied idempotent commands")
  ensure (d.idempotency_records.map fun r => r.1.idempotency_key).Nodup
    (.validation "idempotency keys must be unique")
  let outcomes := (sortedRecords d.idempotency_records).map fun r => r.1.outcome.1
  ensure (outcomes.map OutcomeData.revision = revisions d.idempotency_records.length)
    (.validation "idempotency outcomes must cover each aggregate revision exactly once")
  let first ← require outcomes.head? (.valueError "list index out of range")
  ensure (first.operation = .CREATE) (.validation "revision one must be the create command")
  let previous ← d.validateSteps none outcomes
  let previous ← require previous (.valueError "assertion failed")
  ensure (d.created_at = first.applied_at)
    (.validation "created_at must match the create outcome")
  ensure (d.updated_at = previous.applied_at)
    (.validation "updated_at must match the latest outcome")
  ensure ((d.status, d.services, d.scheduled_start, d.scheduled_end) =
      (previous.status, previous.services, previous.scheduled_start, previous.scheduled_end))
    (.validation "aggregate state must match the latest command outcome")

variable (P) in
/-- mirrors 213-237 -/
def postInit (d : RequestData P) : Except Err Unit := do
  ensure (d.schema_version = SERVICE_REQUEST_SCHEMA_VERSION)
    (.validation s!"unsupported service-request schema version: {d.schema_version}")
  validateIdentifier d.request_id "request_id" MAX_REQUEST_ID_LENGTH
  let _ ← validateRevision d.revision "revision" 1
  validateCanonicalServices P d.services
  validateCanonicalSchedule d.scheduled_start d.scheduled_end
  validateCanonicalUtc d.created_at "created_at"
  validateCanonicalUtc d.updated_at "updated_at"
  ensure (d.created_at.instant ≤ d.updated_at.instant)
    (.validation "updated_at cannot precede created_at")
  d.validateHistory

end RequestData

@[ext] structure ServiceRequest where
  data : RequestData P
  valid : data.postInit P = .ok ()
deriving DecidableEq

/-- `ServiceRequestCommandResult` -/
structure CommandResult where
  request : ServiceRequest P
  outcome : Outcome P
deriving DecidableEq

/-- The check of a constructor: `__post_init__` with its outcome kept. -/
def checked (postInit : Except Err Unit) : Except Err (PLift (postInit = .ok ())) :=
  match postInit with
  | .ok () => .ok ⟨rfl⟩
  | .error e => .error e

theorem checked_of {postInit : Except Err Unit} (h : postInit = .ok ()) :
    checked postInit = .ok ⟨h⟩ := by
  subst h; rfl

def Outcome.make (d : OutcomeData) : Except Err (Outcome P) := do
  let h ← checked (d.postInit P)
  return ⟨d, h.down⟩

def Record.make (d : RecordData P) : Except Err (Record P) := do
  let h ← checked d.postInit
  return ⟨d, h.down⟩

def ServiceRequest.make (d : RequestData P) : Except Err (ServiceRequest P) := do
  let h ← checked (d.postInit P)
  return ⟨d, h.down⟩

variable {P} in
theorem Outcome.make_eq_ok {d : OutcomeData} {o : Outcome P} :
    Outcome.make P d = .ok o ↔ o.data = d := by
  simp only [Outcome.make, bind_eq_ok, pure_eq_ok, Except.ok.injEq]
  constructor
  · rintro ⟨h, -, rfl⟩; rfl
  · rintro rfl; exact ⟨_, checked_of o.valid, rfl⟩

variable {P} in
theorem Record.make_eq_ok {d : RecordData P} {r : Record P} :
    Record.make P d = .ok r ↔ r.data = d := by
  simp only [Record.make, bind_eq_ok, pure_eq_ok, Except.ok.injEq]
  constructor
  · rintro ⟨h, -, rfl⟩; rfl
  · rintro rfl; exact ⟨_, checked_of r.valid, rfl⟩

variable {P} in
theorem ServiceRequest.make_eq_ok {d : RequestData P} {r : ServiceRequest P} :
    ServiceRequest.make P d = .ok r ↔ r.data = d := by
  simp only [ServiceRequest.make, bind_eq_ok, pure_eq_ok, Except.ok.injEq]
  constructor
  · rintro ⟨h, -, rfl⟩; rfl
  · rintro rfl; exact ⟨_, checked_of r.valid, rfl⟩

/-! ## Commands in normal form -/

structure CreateArguments where
  request_id : Str
  services : List Str
  scheduled_start : DateTime
  scheduled_end : DateTime
deriving DecidableEq

inductive Arguments
  | create (a : CreateArguments)
  | cancel
  | reschedule (scheduled_start scheduled_end : DateTime)
  | addService (service : Str)
deriving DecidableEq

namespace Arguments

def operation : Arguments → Operation
  | create _ => .CREATE
  | cancel => .CANCEL
  | reschedule .. => .RESCHEDULE
  | addService .. => .ADD_SERVICE

def payload : Arguments → Except Err Json
  | create a => do
    let start ← serializeDatetime a.scheduled_start
    let stop ← serializeDatetime a.scheduled_end
    return .obj [("request_id", .str a.request_id), ("scheduled_end", .str stop),
      ("scheduled_start", .str start), ("services", .arr (a.services.map .str))]
  | cancel => return .obj []
  | reschedule scheduled_start scheduled_end => do
    let start ← serializeDatetime scheduled_start
    let stop ← serializeDatetime scheduled_end
    return .obj [("scheduled_end", .str stop), ("scheduled_start", .str start)]
  | addService service => return .obj [("service", .str service)]

end Arguments

structure Normalized where
  arguments : Arguments
  revision : ℤ
  key : Str
  applied_at : DateTime
  fingerprint : Str
deriving DecidableEq

structure Envelope where
  expected_revision : ℤ
  idempotency_key : Str
  occurred_at : DateTime

/-- The common tail of the four normalizations: revision, key, time, fingerprint.
mirrors 260-277, 322-334, 360-375, 403-415 -/
def normalizeEnvelope (arguments : Arguments) (e : Envelope) : Except Err Normalized := do
  let revision ← normalizeExpectedRevision e.expected_revision
  let key ← normalizeIdentifier e.idempotency_key "idempotency_key" MAX_IDEMPOTENCY_KEY_LENGTH
  let applied_at ← normalizeUtc e.occurred_at "occurred_at"
  let payload ← arguments.payload
  let fingerprint ← commandFingerprint P arguments.operation revision payload
  return ⟨arguments, revision, key, applied_at, fingerprint⟩

/-- mirrors 252-259 -/
def normalizeCreate (request_id : Str) (services : List Str)
    (scheduled_start scheduled_end : DateTime) : Except Err CreateArguments := do
  let request_id ← normalizeIdentifier request_id "request_id" MAX_REQUEST_ID_LENGTH
  let services ← normalizeServices P services
  let (start, stop) ← normalizeSchedule scheduled_start scheduled_end
  return ⟨request_id, services, start, stop⟩

variable {P} in
theorem normalizeEnvelope_arguments {arguments : Arguments} {e : Envelope} {n : Normalized}
    (h : normalizeEnvelope P arguments e = .ok n) : n.arguments = arguments := by
  simp only [normalizeEnvelope, bind_eq_ok, pure_eq_ok, Except.ok.injEq] at h
  obtain ⟨_, -, _, -, _, -, _, -, _, -, rfl⟩ := h
  rfl

/-- The arguments of `_next`. -/
structure Change where
  operation : Operation
  key : Str
  fingerprint : Str
  applied_at : DateTime
  status : Status
  services : List Str
  scheduled_start : DateTime
  scheduled_end : DateTime

inductive Cleared
  | replay (result : CommandResult P)
  | change (c : Change)

/-! ## The aggregate's methods -/

namespace ServiceRequest

variable {P}

def keys (r : ServiceRequest P) : List Str :=
  r.data.idempotency_records.map fun item => item.data.idempotency_key

/-- mirrors 516-532 -/
def replay (r : ServiceRequest P) (key fingerprint : Str) :
    Except Err (Option (CommandResult P)) :=
  match r.data.idempotency_records.find? fun item => item.data.idempotency_key = key with
  | none => .ok none
  | some record =>
    if record.data.command_fingerprint ≠ fingerprint then
      .error (.idempotencyConflict "idempotency key was already used for a different command")
    else .ok (some ⟨r, record.data.outcome⟩)

/-- mirrors 534-539 -/
def requireRevision (r : ServiceRequest P) (expected_revision : ℤ) : Except Err Unit :=
  ensure (expected_revision = r.data.revision) (.concurrency expected_revision r.data.revision)

/-- mirrors 541-545 -/
def requireOpen (r : ServiceRequest P) (operation : Operation) : Except Err Unit :=
  ensure (r.data.status = .OPEN)
    (.transition s!"cannot {operation.value} a {r.data.status.value} service request")

/-- What a command on an existing request asks `_next` for, behind its guards.
mirrors 279-285, 337-349, 378-391, 418-436 -/
def change (r : ServiceRequest P) (n : Normalized) : Except Err Change :=
  let c : Change :=
    { operation := n.arguments.operation, key := n.key, fingerprint := n.fingerprint
      applied_at := n.applied_at, status := r.data.status, services := r.data.services
      scheduled_start := r.data.scheduled_start, scheduled_end := r.data.scheduled_end }
  match n.arguments with
  | .create _ => .error (.transition "service request already exists")
  | .cancel => do
    r.requireRevision n.revision
    r.requireOpen .CANCEL
    return { c with status := .CANCELLED }
  | .reschedule start stop => do
    r.requireRevision n.revision
    r.requireOpen .RESCHEDULE
    ensure (¬ (start = r.data.scheduled_start ∧ stop = r.data.scheduled_end))
      (.transition "reschedule must change the scheduled time")
    return { c with scheduled_start := start, scheduled_end := stop }
  | .addService service => do
    r.requireRevision n.revision
    r.requireOpen .ADD_SERVICE
    ensure (r.data.services.length < MAX_SERVICE_COUNT)
      (.validation s!"a service request may contain at most {MAX_SERVICE_COUNT} services")
    ensure (P.casefold service ∉ r.data.services.map P.casefold)
      (.transition "service is already present on the request")
    return { c with services := r.data.services ++ [service] }

/-- The guards of a command on an existing request, down to the time guard of
`_next` (app/services/service_request.py:559-560). -/
def clear (r : ServiceRequest P) (n : Normalized) : Except Err (Cleared P) := do
  match ← r.replay n.key n.fingerprint with
  | some result => return .replay result
  | none =>
    let c ← r.change n
    ensure (r.data.updated_at.instant ≤ c.applied_at.instant)
      (.validation "occurred_at cannot precede updated_at")
    return .change c

def nextOutcome (r : ServiceRequest P) (c : Change) : OutcomeData :=
  { request_id := r.data.request_id, operation := c.operation, revision := r.data.revision + 1
    status := c.status, services := c.services, scheduled_start := c.scheduled_start
    scheduled_end := c.scheduled_end, applied_at := c.applied_at }

def nextRequest (r : ServiceRequest P) (c : Change) (record : Record P) : RequestData P :=
  { request_id := r.data.request_id, status := c.status, revision := r.data.revision + 1
    services := c.services, scheduled_start := c.scheduled_start
    scheduled_end := c.scheduled_end, created_at := r.data.created_at, updated_at := c.applied_at
    idempotency_records := r.data.idempotency_records ++ [record] }

/-- The constructors `_next` calls.
mirrors 561-587 -/
def build (r : ServiceRequest P) (c : Change) : Except Err (CommandResult P) := do
  let outcome ← Outcome.make P (r.nextOutcome c)
  let record ← Record.make P ⟨c.key, c.fingerprint, outcome⟩
  let request ← ServiceRequest.make P (r.nextRequest c record)
  return ⟨request, outcome⟩

def settle (r : ServiceRequest P) : Cleared P → Except Err (CommandResult P)
  | .replay result => .ok result
  | .change c => r.build c

def firstOutcome (a : CreateArguments) (n : Normalized) : OutcomeData :=
  { request_id := a.request_id, operation := .CREATE, revision := 1, status := .OPEN
    services := a.services, scheduled_start := a.scheduled_start
    scheduled_end := a.scheduled_end, applied_at := n.applied_at }

def firstRequest (a : CreateArguments) (n : Normalized) (record : Record P) : RequestData P :=
  { request_id := a.request_id, status := .OPEN, revision := 1, services := a.services
    scheduled_start := a.scheduled_start, scheduled_end := a.scheduled_end
    created_at := n.applied_at, updated_at := n.applied_at, idempotency_records := [record] }

variable (P) in
/-- The constructors `create` calls.
mirrors 293-313 -/
def buildFirst (a : CreateArguments) (n : Normalized) : Except Err (CommandResult P) := do
  let outcome ← Outcome.make P (firstOutcome a n)
  let record ← Record.make P ⟨n.key, n.fingerprint, outcome⟩
  let request ← ServiceRequest.make P (firstRequest a n record)
  return ⟨request, outcome⟩

/-- mirrors 239-313 -/
def create (request_id : Str) (services : List Str) (scheduled_start scheduled_end : DateTime)
    (e : Envelope) (existing : Option (ServiceRequest P)) : Except Err (CommandResult P) := do
  let a ← normalizeCreate P request_id services scheduled_start scheduled_end
  let n ← normalizeEnvelope P (.create a) e
  match existing with
  | some r => r.settle (← r.clear n)
  | none =>
    ensure (n.revision = 0) (.concurrency n.revision 0)
    buildFirst P a n

/-- mirrors 315-350 -/
def cancel (r : ServiceRequest P) (e : Envelope) : Except Err (CommandResult P) := do
  let n ← normalizeEnvelope P .cancel e
  r.settle (← r.clear n)

/-- mirrors 352-392 -/
def reschedule (r : ServiceRequest P) (scheduled_start scheduled_end : DateTime) (e : Envelope) :
    Except Err (CommandResult P) := do
  let (start, stop) ← normalizeSchedule scheduled_start scheduled_end
  let n ← normalizeEnvelope P (.reschedule start stop) e
  r.settle (← r.clear n)

/-- mirrors 394-437 -/
def addService (r : ServiceRequest P) (service : Str) (e : Envelope) :
    Except Err (CommandResult P) := do
  let service ← normalizeServiceLabel P service
  let n ← normalizeEnvelope P (.addService service) e
  r.settle (← r.clear n)

end ServiceRequest

/-! ## Commands as data -/

inductive Command
  | create (request_id : Str) (services : List Str) (scheduled_start scheduled_end : DateTime)
      (e : Envelope)
  | cancel (e : Envelope)
  | reschedule (scheduled_start scheduled_end : DateTime) (e : Envelope)
  | addService (service : Str) (e : Envelope)

namespace Command

/-- The call on the current aggregate, if there is one. `_require_present`
(app/services/service_request_repository.py:1730-1733) guards the three methods. -/
def apply (c : Command) (current : Option (ServiceRequest P)) : Except Err (CommandResult P) :=
  match c, current with
  | create request_id services start stop e, current =>
    ServiceRequest.create request_id services start stop e current
  | _, none => .error (.repositoryConflict "service request disappeared")
  | cancel e, some r => r.cancel e
  | reschedule start stop e, some r => r.reschedule start stop e
  | addService service e, some r => r.addService service e

def normalize : Command → Except Err Normalized
  | create request_id services start stop e => do
    let a ← normalizeCreate P request_id services start stop
    normalizeEnvelope P (.create a) e
  | cancel e => normalizeEnvelope P .cancel e
  | reschedule start stop e => do
    let (start, stop) ← normalizeSchedule start stop
    normalizeEnvelope P (.reschedule start stop) e
  | addService service e => do
    let service ← normalizeServiceLabel P service
    normalizeEnvelope P (.addService service) e

end Command

/-! ## What each method can do -/

section Specs

variable {P}

def recordsOf : Option (ServiceRequest P) → List (Record P)
  | none => []
  | some r => r.data.idempotency_records

def keysOf (s : Option (ServiceRequest P)) : List Str :=
  (recordsOf s).map fun x => x.data.idempotency_key

def revisionOf : Option (ServiceRequest P) → ℤ
  | none => 0
  | some r => r.data.revision

namespace ServiceRequest

variable {r : ServiceRequest P} {n : Normalized}

theorem replay_eq_none {key fingerprint : Str} :
    r.replay key fingerprint = .ok none ↔ key ∉ r.keys := by
  unfold replay keys
  split
  · rename_i h
    simp only [List.find?_eq_none, decide_eq_true_eq] at h
    simpa using h
  · rename_i record h
    have hmem := List.mem_of_find?_eq_some h
    have hkey : record.data.idempotency_key = key := by simpa using List.find?_some h
    have hin : key ∈ r.data.idempotency_records.map fun item => item.data.idempotency_key :=
      List.mem_map.mpr ⟨record, hmem, hkey⟩
    split <;> simp_all

theorem replay_eq_some {key fingerprint : Str} {result : CommandResult P}
    (h : r.replay key fingerprint = .ok (some result)) :
    ∃ record ∈ r.data.idempotency_records, record.data.idempotency_key = key ∧
      record.data.command_fingerprint = fingerprint ∧ result = ⟨r, record.data.outcome⟩ := by
  unfold replay at h
  split at h
  · cases h
  · rename_i record hfind
    split at h
    · cases h
    · rename_i hfp
      cases h
      exact ⟨record, List.mem_of_find?_eq_some hfind, by simpa using List.find?_some hfind,
        not_not.mp hfp, rfl⟩

/-- The guards either replay a record or let a legal change of an open request
at its current revision through. -/
theorem clear_cases {cl : Cleared P} (h : r.clear n = .ok cl) :
    (∃ record ∈ r.data.idempotency_records, record.data.idempotency_key = n.key ∧
      record.data.command_fingerprint = n.fingerprint ∧
      cl = .replay ⟨r, record.data.outcome⟩) ∨
    (n.key ∉ r.keys ∧ ∃ c, r.change n = .ok c ∧
      r.data.updated_at.instant ≤ c.applied_at.instant ∧ cl = .change c) := by
  unfold clear at h
  obtain ⟨replayed, hreplay, h⟩ := bind_eq_ok.mp h
  cases replayed with
  | some result =>
    cases h
    obtain ⟨record, hmem, hkey, hfp, rfl⟩ := replay_eq_some hreplay
    exact .inl ⟨record, hmem, hkey, hfp, rfl⟩
  | none =>
    simp only [bind_eq_ok, ensure_eq_ok, exists_unit, pure_eq_ok, Except.ok.injEq] at h
    obtain ⟨c, hc, htime, rfl⟩ := h
    exact .inr ⟨replay_eq_none.mp hreplay, c, hc, htime, rfl⟩

/-- What `_next` is asked for: `n` at the current revision of an open request,
and one of three effects. -/
structure ChangeSpec (r : ServiceRequest P) (n : Normalized) (c : Change) : Prop where
  revision : n.revision = r.data.revision
  isOpen : r.data.status = .OPEN
  operation : c.operation = n.arguments.operation
  key : c.key = n.key
  fingerprint : c.fingerprint = n.fingerprint
  applied_at : c.applied_at = n.applied_at
  effect :
    (n.arguments = .cancel ∧ c.status = .CANCELLED ∧ c.services = r.data.services ∧
      c.scheduled_start = r.data.scheduled_start ∧ c.scheduled_end = r.data.scheduled_end) ∨
    (n.arguments = .reschedule c.scheduled_start c.scheduled_end ∧ c.status = .OPEN ∧
      c.services = r.data.services ∧
      ¬ (c.scheduled_start = r.data.scheduled_start ∧ c.scheduled_end = r.data.scheduled_end)) ∨
    (∃ service, n.arguments = .addService service ∧ c.status = .OPEN ∧
      c.services = r.data.services ++ [service] ∧ r.data.services.length < MAX_SERVICE_COUNT ∧
      P.casefold service ∉ r.data.services.map P.casefold ∧
      c.scheduled_start = r.data.scheduled_start ∧ c.scheduled_end = r.data.scheduled_end)

theorem change_spec {c : Change} (h : r.change n = .ok c) : ChangeSpec r n c := by
  obtain ⟨arguments, revision, key, applied_at, fingerprint⟩ := n
  cases arguments with
  | create a => cases h
  | cancel =>
    simp only [change, requireRevision, requireOpen, bind_eq_ok, ensure_eq_ok, exists_unit,
      pure_eq_ok, Except.ok.injEq] at h
    obtain ⟨hrev, hopen, rfl⟩ := h
    exact ⟨hrev, hopen, rfl, rfl, rfl, rfl, .inl ⟨rfl, rfl, rfl, rfl, rfl⟩⟩
  | reschedule start stop =>
    simp only [change, requireRevision, requireOpen, bind_eq_ok, ensure_eq_ok, exists_unit,
      pure_eq_ok, Except.ok.injEq] at h
    obtain ⟨hrev, hopen, hne, rfl⟩ := h
    exact ⟨hrev, hopen, rfl, rfl, rfl, rfl, .inr (.inl ⟨rfl, hopen, rfl, hne⟩)⟩
  | addService service =>
    simp only [change, requireRevision, requireOpen, bind_eq_ok, ensure_eq_ok, exists_unit,
      pure_eq_ok, Except.ok.injEq] at h
    obtain ⟨hrev, hopen, hlen, hnew, rfl⟩ := h
    exact ⟨hrev, hopen, rfl, rfl, rfl, rfl,
      .inr (.inr ⟨service, rfl, hopen, rfl, hlen, hnew, rfl, rfl⟩)⟩

/-- `ChangeSpec` says everything: a change that meets it is the one the guards
let through. -/
theorem change_of_spec {c : Change} (h : ChangeSpec r n c) : r.change n = .ok c := by
  obtain ⟨arguments, revision, key, applied_at, fingerprint⟩ := n
  obtain ⟨operation, ckey, cfp, capplied, status, services, start, stop⟩ := c
  obtain ⟨hrev, hopen, hop, hkey, hfp, happlied, heffect⟩ := h
  simp only at hrev hop hkey hfp happlied heffect
  subst hop hkey hfp happlied
  have hreq : ∀ operation, r.requireOpen operation = .ok () := fun _ => ensure_of _ hopen
  rcases heffect with ⟨rfl, rfl, rfl, rfl, rfl⟩ | ⟨rfl, rfl, rfl, hne⟩ |
    ⟨service, rfl, rfl, rfl, hlen, hnew, rfl, rfl⟩
  · simp only [change, requireRevision, ensure_of _ hrev, hreq, ok_bind, pure_eq_ok]
  · simp only [change, requireRevision, ensure_of _ hrev, hreq, ensure_of _ hne, ok_bind,
      pure_eq_ok, hopen]
  · simp only [change, requireRevision, ensure_of _ hrev, hreq, ensure_of _ hlen,
      ensure_of _ hnew, ok_bind, pure_eq_ok, hopen]

theorem clear_of {c : Change} (hkey : n.key ∉ r.keys) (h : ChangeSpec r n c)
    (htime : r.data.updated_at.instant ≤ c.applied_at.instant) :
    r.clear n = .ok (.change c) := by
  simp only [clear, replay_eq_none.mpr hkey, change_of_spec h, ensure_of _ htime, ok_bind,
    pure_eq_ok]

theorem build_eq_ok {c : Change} {result : CommandResult P} (h : r.build c = .ok result) :
    result.outcome.data = r.nextOutcome c ∧ ∃ record : Record P,
      record.data = ⟨c.key, c.fingerprint, result.outcome⟩ ∧
      result.request.data = r.nextRequest c record := by
  simp only [build, bind_eq_ok, Outcome.make_eq_ok, Record.make_eq_ok, make_eq_ok, pure_eq_ok,
    Except.ok.injEq] at h
  obtain ⟨outcome, ho, record, hrecord, request, hrequest, rfl⟩ := h
  exact ⟨ho, record, hrecord, hrequest⟩

theorem buildFirst_eq_ok {a : CreateArguments} {result : CommandResult P}
    (h : buildFirst P a n = .ok result) :
    result.outcome.data = firstOutcome a n ∧ ∃ record : Record P,
      record.data = ⟨n.key, n.fingerprint, result.outcome⟩ ∧
      result.request.data = firstRequest a n record := by
  simp only [buildFirst, bind_eq_ok, Outcome.make_eq_ok, Record.make_eq_ok, make_eq_ok,
    pure_eq_ok, Except.ok.injEq] at h
  obtain ⟨outcome, ho, record, hrecord, request, hrequest, rfl⟩ := h
  exact ⟨ho, record, hrecord, hrequest⟩

end ServiceRequest

namespace Command

theorem apply_some (c : Command) (r : ServiceRequest P) :
    c.apply P (some r) = (do r.settle (← r.clear (← c.normalize P))) := by
  cases c with
  | create request_id services start stop e =>
    simp only [apply, normalize, ServiceRequest.create, bind_assoc]
  | cancel e => rfl
  | reschedule start stop e =>
    simp only [apply, normalize, ServiceRequest.reschedule, bind_assoc]
  | addService service e =>
    simp only [apply, normalize, ServiceRequest.addService, bind_assoc]

theorem apply_none {c : Command} {result : CommandResult P} (h : c.apply P none = .ok result) :
    ∃ a n, c.normalize P = .ok n ∧ n.arguments = .create a ∧ n.revision = 0 ∧
      ServiceRequest.buildFirst P a n = .ok result := by
  cases c with
  | create request_id services start stop e =>
    simp only [apply, ServiceRequest.create, bind_eq_ok, ensure_eq_ok, exists_unit] at h
    obtain ⟨a, ha, n, hn, hrev, hbuild⟩ := h
    exact ⟨a, n, by simp only [normalize, bind_of_ok _ ha, hn], normalizeEnvelope_arguments hn,
      hrev, hbuild⟩
  | _ => cases h

theorem apply_none_of {c : Command} {n : Normalized} {a : CreateArguments}
    {result : CommandResult P} (hn : c.normalize P = .ok n) (ha : n.arguments = .create a)
    (hrev : n.revision = 0) (hbuild : ServiceRequest.buildFirst P a n = .ok result) :
    c.apply P none = .ok result := by
  cases c with
  | create request_id services start stop e =>
    simp only [normalize, bind_eq_ok] at hn
    obtain ⟨a', ha', hn⟩ := hn
    have := normalizeEnvelope_arguments hn
    rw [ha] at this
    cases this
    rw [apply, ServiceRequest.create, bind_of_ok _ ha', bind_of_ok _ hn]
    exact (bind_of_ok (a := ()) _ (ensure_of _ hrev)).trans hbuild
  | cancel e => rw [normalizeEnvelope_arguments hn] at ha; cases ha
  | reschedule start stop e =>
    simp only [normalize, bind_eq_ok] at hn
    obtain ⟨_, -, hn⟩ := hn
    rw [normalizeEnvelope_arguments hn] at ha
    cases ha
  | addService service e =>
    simp only [normalize, bind_eq_ok] at hn
    obtain ⟨_, -, hn⟩ := hn
    rw [normalizeEnvelope_arguments hn] at ha
    cases ha

/-- **What a command does to a request.** It replays a record, and the request
stays; or its key is new, the change is legal at the current revision, and the
request grows by one record. -/
theorem apply_some_cases {c : Command} {r : ServiceRequest P} {result : CommandResult P}
    (h : c.apply P (some r) = .ok result) : ∃ n, c.normalize P = .ok n ∧
      ((∃ record ∈ r.data.idempotency_records, record.data.idempotency_key = n.key ∧
        record.data.command_fingerprint = n.fingerprint ∧ result = ⟨r, record.data.outcome⟩) ∨
      (n.key ∉ r.keys ∧ ∃ change, r.ChangeSpec n change ∧
        r.data.updated_at.instant ≤ change.applied_at.instant ∧
        r.build change = .ok result)) := by
  rw [apply_some] at h
  simp only [bind_eq_ok] at h
  obtain ⟨n, hn, cl, hcl, hset⟩ := h
  refine ⟨n, hn, ?_⟩
  rcases ServiceRequest.clear_cases hcl with
    ⟨record, hmem, hkey, hfp, rfl⟩ | ⟨hkey, change, hchange, htime, rfl⟩
  · cases hset
    exact .inl ⟨record, hmem, hkey, hfp, rfl⟩
  · exact .inr ⟨hkey, change, ServiceRequest.change_spec hchange, htime, hset⟩

/-- A command that is not a replay, against its result: it was at the current
revision under a new key, and added one record. -/
structure Applied (s : Option (ServiceRequest P)) (n : Normalized) (result : CommandResult P) :
    Prop where
  key : n.key ∉ keysOf s
  revision : n.revision = revisionOf s
  records : ∃ record : Record P, record.data = ⟨n.key, n.fingerprint, result.outcome⟩ ∧
    result.request.data.idempotency_records = recordsOf s ++ [record]
  request_id : result.outcome.data.request_id = result.request.data.request_id
  same_request : ∀ r, s = some r → result.request.data.request_id = r.data.request_id
  operation : result.outcome.data.operation = n.arguments.operation
  create_iff : n.arguments.operation = .CREATE ↔ s = none
  outcome_revision : result.outcome.data.revision = n.revision + 1
  request_revision : result.request.data.revision = n.revision + 1
  services : result.outcome.data.services = result.request.data.services
  scheduled_start : result.outcome.data.scheduled_start = result.request.data.scheduled_start
  scheduled_end : result.outcome.data.scheduled_end = result.request.data.scheduled_end

/-- **What a command does.** It replays a record, and the request stays, or it
is applied. -/
theorem apply_cases {c : Command} {s : Option (ServiceRequest P)} {result : CommandResult P}
    (h : c.apply P s = .ok result) : ∃ n, c.normalize P = .ok n ∧
      ((∃ r, s = some r ∧ ∃ record ∈ r.data.idempotency_records,
        record.data.idempotency_key = n.key ∧ record.data.command_fingerprint = n.fingerprint ∧
        result = ⟨r, record.data.outcome⟩) ∨ Applied s n result) := by
  cases s with
  | none =>
    obtain ⟨a, n, hn, ha, hrev, hbuild⟩ := apply_none h
    obtain ⟨hout, record, hrecord, hrequest⟩ := ServiceRequest.buildFirst_eq_ok hbuild
    refine ⟨n, hn, .inr ?_⟩
    constructor
    case key => exact List.not_mem_nil
    case revision => exact hrev
    case records => exact ⟨record, hrecord, by rw [hrequest]; rfl⟩
    case same_request => intro r hr; cases hr
    case create_iff => simp [ha, Arguments.operation]
    case operation => rw [hout, ha]; rfl
    all_goals
      simp only [hout, hrequest, hrev, ServiceRequest.firstOutcome, ServiceRequest.firstRequest,
        zero_add]
  | some r =>
    obtain ⟨n, hn, ⟨record, hmem, hkey, hfp, hres⟩ | ⟨hkey, change, hspec, -, hbuild⟩⟩ :=
      apply_some_cases h
    · exact ⟨n, hn, .inl ⟨r, rfl, record, hmem, hkey, hfp, hres⟩⟩
    · obtain ⟨hout, record, hrecord, hrequest⟩ := ServiceRequest.build_eq_ok hbuild
      refine ⟨n, hn, .inr ?_⟩
      constructor
      case key => exact hkey
      case revision => exact hspec.revision
      case records =>
        exact ⟨record, by rw [hrecord, hspec.key, hspec.fingerprint], by rw [hrequest]; rfl⟩
      case same_request => intro r' hr; cases hr; rw [hrequest]; rfl
      case create_iff =>
        rcases hspec.effect with ⟨ha, -⟩ | ⟨ha, -⟩ | ⟨service, ha, -⟩ <;>
          simp [ha, Arguments.operation]
      case operation => rw [hout]; exact hspec.operation
      all_goals
        simp only [hout, hrequest, hspec.revision, ServiceRequest.nextOutcome,
          ServiceRequest.nextRequest]

theorem normalize_fingerprint {c : Command} {n : Normalized} (h : c.normalize P = .ok n) :
    ∃ payload, n.arguments.payload = .ok payload ∧
      hashText P (commandText n.arguments.operation n.revision payload) = .ok n.fingerprint := by
  have key : ∀ {arguments e}, normalizeEnvelope P arguments e = .ok n →
      ∃ payload, n.arguments.payload = .ok payload ∧
        hashText P (commandText n.arguments.operation n.revision payload) = .ok n.fingerprint := by
    intro arguments e h
    simp only [normalizeEnvelope, bind_eq_ok, pure_eq_ok, Except.ok.injEq] at h
    obtain ⟨_, -, _, -, _, -, payload, hp, _, hfp, rfl⟩ := h
    exact ⟨payload, hp, hfp⟩
  cases c with
  | cancel e => exact key h
  | _ =>
    simp only [normalize, bind_eq_ok] at h
    obtain ⟨_, -, h⟩ := h
    exact key h

end Command

end Specs

end HeyKevin.L2
