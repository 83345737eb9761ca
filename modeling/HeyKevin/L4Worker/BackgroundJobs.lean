import HeyKevin.Core.Machine
import HeyKevin.L1Encoding.Value
import Mathlib.Logic.Function.Basic
/-!
# The background job ledger and the worker cutover

`app/db/background_jobs.py`. Nine loops run either inside the API (embedded)
or in an external worker. `BackgroundJobStore` admits one run of a job at a
time through a ledger row per job; `BackgroundWorkerCutoverStore` hands the
loops over through one control record. Every operation is one serializable
transaction, so a run of `step` over any list of calls is an interleaving of
API, worker and operator. A clock reading is whatever the trusted clock
returned; a reading that is not a finite number raises before any write.

Ledger rows are stored dictionaries, well-formed or not. The continuation of
a row is validated as the source does, the size of its JSON text included.
`L4Worker.Cutover` and `L4Worker.Admission` prove what runs do.

Line numbers are those of app/db/background_jobs.py.
-/
namespace HeyKevin.L4.BackgroundJobs

open HeyKevin.Core L1 L1.Text

/-- The keys of `JOB_INTERVALS`. -/
inductive Job
  | orphan_calls
  | call_retention
  | lapsed_trials
  | expired_contractors
  | data_purge
  | post_calls
  | estimates
  | service_requests
  | jobber_disconnect
deriving DecidableEq, Repr

/-- mirrors 15-25 (`JOB_INTERVALS`, in order) -/
def JOB_INTERVALS : List (Job × ℤ) :=
  [(.orphan_calls, 300), (.call_retention, 21600), (.lapsed_trials, 21600),
    (.expired_contractors, 21600), (.data_purge, 21600), (.post_calls, 60), (.estimates, 60),
    (.service_requests, 60), (.jobber_disconnect, 60)]

def Job.interval : Job → ℤ
  | .orphan_calls => 300
  | .call_retention | .lapsed_trials | .expired_contractors | .data_purge => 21600
  | .post_calls | .estimates | .service_requests | .jobber_disconnect => 60

def jobs : List Job := JOB_INTERVALS.map Prod.fst

theorem mem_jobs (job : Job) : job ∈ jobs := by cases job <;> decide

theorem Job.interval_pos (job : Job) : 0 < job.interval := by cases job <;> decide

def CUTOVER_PROTOCOL_VERSION : ℤ := 1
def MAX_CONTINUATION_BYTES : ℕ := 4096
def CUTOVER_MIN_LEASE_SECONDS : ℤ := 60
def CUTOVER_MAX_LEASE_SECONDS : ℤ := 24 * 60 * 60

/-! ## Validation -/

/-- `none` is `ValueError("Missing trusted admission time")`.
mirrors 76-80 -/
def serverNow (clock : Value) : Option Number := clock.finite?

def isAsciiAlnum (c : CodePoint) : Bool :=
  (48 ≤ c.val && c.val < 58) || (65 ≤ c.val && c.val < 91) || (97 ≤ c.val && c.val < 123)

/-- mirrors 33, 83-87 (`validate_cutover_generation`) -/
def validGeneration (s : Str) : Bool :=
  match s with
  | [] => false
  | c :: cs => isAsciiAlnum c && 15 ≤ cs.length && cs.length ≤ 127 &&
      cs.all fun c => isAsciiAlnum c || c.val == 46 || c.val == 95 || c.val == 45

/-- A generation a `BackgroundJobStore` can be constructed with. -/
structure Generation where
  text : Str
  valid : validGeneration text = true

/-- mirrors 90-97 -/
def validTimestamp (v : Value) (now : Number) : Bool :=
  match v.finite? with
  | some n => 0 ≤ n.val && n.val ≤ now.val
  | none => false

/-- Bytes of one character in `json.dumps` with `ensure_ascii`. -/
def jsonCharSize (c : CodePoint) : ℕ :=
  if c.val = 0x22 ∨ c.val = 0x5c then 2
  else if c.val = 8 ∨ c.val = 9 ∨ c.val = 10 ∨ c.val = 12 ∨ c.val = 13 then 2
  else if 0x20 ≤ c.val ∧ c.val < 0x7f then 1
  else if c.val < 0x10000 then 6
  else 12

def jsonStringSize (s : Str) : ℕ := 2 + (s.map jsonCharSize).sum

/-- Bytes of `json.dumps` of a null or a string. -/
def jsonSize : Value → ℕ
  | .str s => jsonStringSize s
  | _ => 4

/-- `len(json.dumps(continuation).encode())`: braces, `", "` between entries
and `": "` inside them. -/
def jsonDictSize (d : Dict) : ℕ :=
  2 + (d.map fun kv => jsonStringSize (py kv.1) + 2 + jsonSize kv.2).sum + 2 * (d.length - 1)

def allowedCursors : Job → List String
  | .orphan_calls | .lapsed_trials | .expired_contractors => ["cursor"]
  | .post_calls => ["pending", "in_progress"]
  | .estimates => ["processing"]
  | _ => []

/-- A null, or a string of 1 to 512 characters without `/` or control characters. -/
def validCursor : Value → Bool
  | .none => true
  | .str s => 1 ≤ s.length && s.length ≤ 512 && s.all fun c => c.val != 0x2f && 32 ≤ c.val
  | _ => false

/-- The error is the text of the `ValueError`.
mirrors 100-119 -/
def validateContinuation (job : Job) (continuation : Value) : Except String Dict :=
  match continuation with
  | .dict d =>
    if !((Dict.keys d).all fun k => (allowedCursors job).contains k) then .error "Unexpected continuation"
    else if !(d.all fun kv => validCursor kv.2) then .error "Invalid continuation cursor"
    else if jsonDictSize d > MAX_CONTINUATION_BYTES then .error "Oversized continuation"
    else .ok d
  | _ => .error "Invalid continuation"

/-- `data["continuation"] if "continuation" in data else {}` -/
def continuationOf (data : Dict) : Value :=
  if data.has "continuation" then data.get "continuation" else .dict []

/-- The `next_due_at` of a completed row: a finite number, not negative. -/
def dueOf (data : Dict) : Option Number :=
  match (data.get "next_due_at").finite? with
  | some due => if due.val < 0 then none else some due
  | none => none

/-- mirrors 122-144 -/
def settledJobSnapshot (job : Job) (snapshot : Option Dict) : Bool :=
  match snapshot with
  | none => true
  | some data =>
    if !(data.get "status").isStr (py "completed") then false
    else
      match dueOf data with
      | none => false
      | some _ =>
        match validateContinuation job (continuationOf data) with
        | .ok _ => true
        | .error _ => false

/-- mirrors 147-158 -/
def jobHoldReason (job : Job) (snapshot : Option Dict) : Option String :=
  if settledJobSnapshot job snapshot then none
  else
    let status := (snapshot.map fun data => data.get "status").getD .none
    some ((["running", "needs_attention"].find? fun label => status.isStr (py label)).getD
      "malformed")

/-! ## The ledger -/

structure Ledger where
  control : Option Dict
  row : Job → Option Dict

def emptyLedger : Ledger := ⟨none, fun _ => none⟩

namespace Ledger

/-- `snapshot.to_dict() or {}` of the control record. -/
def controlData (s : Ledger) : Dict := s.control.getD []

def setControl (s : Ledger) (d : Dict) : Ledger := { s with control := some d }

def setRow (s : Ledger) (job : Job) (d : Dict) : Ledger :=
  { s with row := Function.update s.row job (some d) }

@[simp] theorem setControl_row (s : Ledger) (d : Dict) : (s.setControl d).row = s.row := rfl
@[simp] theorem setControl_control (s : Ledger) (d : Dict) :
    (s.setControl d).control = some d := rfl
@[simp] theorem setControl_controlData (s : Ledger) (d : Dict) :
    (s.setControl d).controlData = d := rfl
@[simp] theorem setRow_control (s : Ledger) (job : Job) (d : Dict) :
    (s.setRow job d).control = s.control := rfl
@[simp] theorem setRow_controlData (s : Ledger) (job : Job) (d : Dict) :
    (s.setRow job d).controlData = s.controlData := rfl
@[simp] theorem setRow_row_self (s : Ledger) (job : Job) (d : Dict) :
    (s.setRow job d).row job = some d := by simp [setRow]
theorem setRow_row_ne (s : Ledger) {job j : Job} (d : Dict) (h : j ≠ job) :
    (s.setRow job d).row j = s.row j := by simp [setRow, h]

end Ledger

inductive Admission
  | admitted (nonce : Str) (continuation : Dict)
  | inProgress
  | needsAttention
  | notDue
  | cutoverPending
  | cutoverBlocked

inductive Resp
  | admission (a : Admission)
  | bool (b : Bool)
  | done
  | raised (message : String)

/-! ## `BackgroundWorkerCutoverStore` -/

/-- mirrors 199-210 -/
def active (data : Dict) (generation : Str) (now : Number) : Bool :=
  (data.get "state").isStr (py "external_active") &&
  (data.get "protocol_version").isInt CUTOVER_PROTOCOL_VERSION &&
  (data.get "generation").isStr generation &&
  validTimestamp (data.get "api_acknowledged_at") now &&
  match (data.get "lease_expires_at").finite? with
  | some expires => now.val < expires.val
  | none => false

/-- mirrors 212-257 -/
def prepareExternal (generation : Str) (leaseSeconds : ℤ)
    (embeddedInstancesDrained schedulerDeliveryVerified : Bool) (clock : Value) (s : Ledger) :
    Ledger × Resp :=
  if !validGeneration generation then
    (s, .raised "Invalid background-worker cutover generation")
  else if leaseSeconds < CUTOVER_MIN_LEASE_SECONDS ∨ CUTOVER_MAX_LEASE_SECONDS < leaseSeconds then
    (s, .raised "Invalid background-worker cutover lease")
  else if !embeddedInstancesDrained || !schedulerDeliveryVerified then
    (s, .raised "External cutover requires explicit drain and Scheduler confirmations")
  else
    match serverNow clock with
    | none => (s, .raised "Missing trusted admission time")
    | some now =>
      let data := s.controlData
      if s.control.isNone || !(data.get "state").isStr (py "embedded") ||
          !(data.get "protocol_version").isInt CUTOVER_PROTOCOL_VERSION then
        (s, .raised "Background-worker cutover has no verified embedded baseline")
      else
        (s.setControl
          [("state", .text "external_requested"),
            ("protocol_version", .int CUTOVER_PROTOCOL_VERSION),
            ("generation", .str generation),
            ("lease_expires_at", .number (now.add (.int leaseSeconds))),
            ("embedded_drained_at", .number now), ("scheduler_verified_at", .number now)], .done)

/-- mirrors 268-279 -/
def prepared (data : Dict) (generation : Str) (now : Number) : Bool :=
  (data.get "state").isStr (py "external_requested") &&
  (data.get "protocol_version").isInt CUTOVER_PROTOCOL_VERSION &&
  (data.get "generation").isStr generation &&
  validTimestamp (data.get "embedded_drained_at") now &&
  validTimestamp (data.get "scheduler_verified_at") now &&
  match (data.get "lease_expires_at").finite? with
  | some expires => now.val < expires.val
  | none => false

/-- mirrors 259-290 -/
def activateExternal (generation : Str) (clock : Value) (s : Ledger) : Ledger × Resp :=
  if !validGeneration generation then
    (s, .raised "Invalid background-worker cutover generation")
  else
    match serverNow clock with
    | none => (s, .raised "Missing trusted admission time")
    | some now =>
      let data := s.controlData
      if active data generation now then (s, .bool true)
      else if !prepared data generation now then (s, .bool false)
      else
        (s.setControl ((data.set "state" (.text "external_active")).set "api_acknowledged_at"
          (.number now)), .bool true)

/-- The list a call of `begin_embedded` leaves in `held_jobs`. -/
def held (s : Ledger) : List (Job × String) :=
  jobs.filterMap fun job => (jobHoldReason job (s.row job)).map fun reason => (job, reason)

/-- mirrors 292-338 -/
def beginEmbedded (s : Ledger) : Ledger × Resp :=
  let data := s.controlData
  let drained := s.setControl (data.set "state" (.text "external_draining"))
  if !(held s).isEmpty then
    if s.control.isNone || !(data.get "state").isStr (py "external_draining") then
      (drained, .bool false)
    else (s, .bool false)
  else if (data.get "state").isStr (py "external_requested") ||
      (data.get "state").isStr (py "external_active") then
    (drained, .bool false)
  else if s.control.isSome && (data.get "state").isStr (py "embedded") &&
      (data.get "protocol_version").isInt CUTOVER_PROTOCOL_VERSION then
    (s, .bool true)
  else
    (s.setControl [("state", .text "embedded"),
      ("protocol_version", .int CUTOVER_PROTOCOL_VERSION)], .bool true)

/-! ## `BackgroundJobStore` -/

/-- `0 <= now - started < 300` for a finite number that is not a boolean. -/
def startedRecently (data : Dict) (now : Number) : Bool :=
  match (data.get "started_at").finite? with
  | some started => 0 ≤ (now.sub started).val && (now.sub started).val < 300
  | none => false

/-- `(math.floor(now / interval) + 1) * interval`, with the division rounded. -/
def nextDueAt (job : Job) (now : Number) : ℤ :=
  (Number.floor (now.divInt job.interval) + 1) * job.interval

def runningRow (job : Job) (now : Number) (nonce : Str) (continuation : Dict) : Dict :=
  [("status", .text "running"), ("nonce", .str nonce), ("started_at", .number now),
    ("next_due_at", .int (nextDueAt job now)), ("continuation", .dict continuation)]

/-- mirrors 393-424 -/
def admitFromSnapshot (job : Job) (now : Number) (nonce : Str) (s : Ledger) : Ledger × Resp :=
  let data := (s.row job).getD []
  match validateContinuation job (continuationOf data) with
  | .error _ => (s, .admission .needsAttention)
  | .ok continuation =>
    let admitted := (s.setRow job (runningRow job now nonce continuation),
      Resp.admission (.admitted nonce continuation))
    if (s.row job).isSome then
      if (data.get "status").isStr (py "running") then
        if startedRecently data now then (s, .admission .inProgress)
        else (s, .admission .needsAttention)
      else if !(data.get "status").isStr (py "completed") then (s, .admission .needsAttention)
      else
        match dueOf data with
        | none => (s, .admission .needsAttention)
        | some due => if now.val < due.val then (s, .admission .notDue) else admitted
    else admitted

/-- mirrors 426-457 (`admit`) -/
def admitJob (externalGeneration : Option Generation) (job : Job) (nonce : Str) (clock : Value)
    (s : Ledger) : Ledger × Resp :=
  match serverNow clock with
  | none => (s, .raised "Missing trusted admission time")
  | some now =>
    match externalGeneration with
    | some generation =>
      let data := s.controlData
      if !active data generation.text now then
        if (data.get "state").isStr (py "external_requested") &&
            (data.get "generation").isStr generation.text then
          (s, .admission .cutoverPending)
        else (s, .admission .cutoverBlocked)
      else admitFromSnapshot job now nonce s
    | none => admitFromSnapshot job now nonce s

/-- `continuation or {}` -/
def continuationOrEmpty (v : Value) : Value := if v.truthy then v else .dict []

def finishUpdates (completed : Bool) (continuation : Value) : Dict :=
  if completed then
    [("status", .text "completed"), ("continuation", continuationOrEmpty continuation)]
  else [("status", .text "needs_attention")]

/-- mirrors 459-475 -/
def finish (job : Job) (nonce : Str) (completed : Bool) (continuation clock : Value) (s : Ledger) :
    Ledger × Resp :=
  match s.row job with
  | none => (s, .bool false)
  | some data =>
    if !(data.get "status").isStr (py "running") || !(data.get "nonce").isStr nonce then
      (s, .bool false)
    else
      match serverNow clock with
      | none => (s, .raised "Missing trusted admission time")
      | some _ => (s.setRow job (data.update (finishUpdates completed continuation)), .bool true)

inductive Call
  | prepareExternal (generation : Str) (leaseSeconds : ℤ)
      (embeddedInstancesDrained schedulerDeliveryVerified : Bool) (clock : Value)
  | activateExternal (generation : Str) (clock : Value)
  | beginEmbedded
  | admitJob (externalGeneration : Option Generation) (job : Job) (nonce : Str) (clock : Value)
  | finish (job : Job) (nonce : Str) (completed : Bool) (continuation clock : Value)

def step : Machine Ledger Call Resp := fun s c =>
  match c with
  | .prepareExternal g lease drained verified clock =>
    prepareExternal g lease drained verified clock s
  | .activateExternal g clock => activateExternal g clock s
  | .beginEmbedded => beginEmbedded s
  | .admitJob g job nonce clock => admitJob g job nonce clock s
  | .finish job nonce completed continuation clock =>
    finish job nonce completed continuation clock s

/-! ## What each operation can do -/

/-- `data.get(key) == name` on a stored dictionary that may be absent. -/
def fieldIs (d : Option Dict) (key name : String) : Bool := ((d.getD []).get key).isStr (py name)

@[simp] theorem fieldIs_none (key name : String) : fieldIs none key name = false := rfl
@[simp] theorem fieldIs_some (d : Dict) (key name : String) :
    fieldIs (some d) key name = (d.get key).isStr (py name) := rfl

abbrev Ledger.stateIs (s : Ledger) (name : String) : Bool := fieldIs s.control "state" name

abbrev Ledger.statusIs (s : Ledger) (job : Job) (name : String) : Bool :=
  fieldIs (s.row job) "status" name

theorem fieldIs_unique {d : Option Dict} {key a b : String} (h : fieldIs d key a = true)
    (hne : a ≠ b) : fieldIs d key b = false := by
  have ha := (Value.isStr_iff _ _).mp h
  rw [fieldIs, ha]
  simpa using hne

def Resp.isAdmitted : Resp → Bool
  | .admission (.admitted ..) => true
  | _ => false

theorem prepareExternal_cases (generation : Str) (leaseSeconds : ℤ) (drained verified : Bool)
    (clock : Value) (s : Ledger) :
    (∃ message, prepareExternal generation leaseSeconds drained verified clock s =
      (s, .raised message)) ∨
    (s.stateIs "embedded" = true ∧ ∃ d : Dict, d.get "state" = .text "external_requested" ∧
      prepareExternal generation leaseSeconds drained verified clock s =
        (s.setControl d, .done)) := by
  unfold prepareExternal
  split
  · exact .inl ⟨_, rfl⟩
  split
  · exact .inl ⟨_, rfl⟩
  split
  · exact .inl ⟨_, rfl⟩
  split
  · exact .inl ⟨_, rfl⟩
  simp only
  split
  · exact .inl ⟨_, rfl⟩
  · rename_i h
    right
    simp only [Bool.or_eq_true, Bool.not_eq_true', not_or, Bool.not_eq_false] at h
    exact ⟨h.1.2, _, by simp, rfl⟩

/-- An activation leaves the ledger alone, with `True` only if the handoff is
active already, or acknowledges a requested handoff. -/
theorem activateExternal_cases (generation : Str) (clock : Value) (s : Ledger) :
    (∃ r, activateExternal generation clock s = (s, r) ∧
      (r = .bool true → s.stateIs "external_active" = true)) ∨
    (s.stateIs "external_requested" = true ∧ ∃ d : Dict, d.get "state" = .text "external_active" ∧
      activateExternal generation clock s = (s.setControl d, .bool true)) := by
  unfold activateExternal
  split
  · exact .inl ⟨_, rfl, by simp⟩
  split
  · exact .inl ⟨_, rfl, by simp⟩
  simp only
  split
  · rename_i h
    simp only [active, Bool.and_eq_true] at h
    exact .inl ⟨_, rfl, fun _ => h.1.1.1.1⟩
  split
  · exact .inl ⟨_, rfl, by simp⟩
  · rename_i h
    simp only [prepared, Bool.not_eq_true', Bool.not_eq_false, Bool.and_eq_true] at h
    exact .inr ⟨h.1.1.1.1.1, _, by simp, rfl⟩

/-- A fallback turn starts or keeps draining with `False`, or finds no held row
and leaves the control record embedded with `True`. -/
theorem beginEmbedded_cases (s : Ledger) :
    (∃ d : Dict, d.get "state" = .text "external_draining" ∧
      beginEmbedded s = (s.setControl d, .bool false)) ∨
    (beginEmbedded s = (s, .bool false)) ∨
    ((∀ job, settledJobSnapshot job (s.row job) = true) ∧ ∃ s' : Ledger, s'.row = s.row ∧
      s'.stateIs "embedded" = true ∧ beginEmbedded s = (s', .bool true)) := by
  have hsettled : (held s).isEmpty = true →
      ∀ job, settledJobSnapshot job (s.row job) = true := by
    intro h job
    rw [List.isEmpty_iff, held, List.filterMap_eq_nil_iff] at h
    by_contra hn
    have := h job (mem_jobs job)
    simp [jobHoldReason, hn] at this
  unfold beginEmbedded
  simp only
  split
  · split
    · exact .inl ⟨_, by simp, rfl⟩
    · exact .inr (.inl rfl)
  rename_i hheld
  replace hheld := hsettled (by simpa using hheld)
  split
  · exact .inl ⟨_, by simp, rfl⟩
  split
  · rename_i h
    simp only [Bool.and_eq_true] at h
    exact .inr (.inr ⟨hheld, s, rfl, h.1.2, rfl⟩)
  · refine .inr (.inr ⟨hheld, s.setControl [("state", .text "embedded"),
      ("protocol_version", .int CUTOVER_PROTOCOL_VERSION)], rfl, ?_, rfl⟩)
    simp [Ledger.stateIs]

def Admissible (row : Option Dict) (now : Number) : Prop :=
  row = none ∨ fieldIs row "status" "completed" = true ∧
    ∃ due, dueOf (row.getD []) = some due ∧ due.val ≤ now.val

theorem admitFromSnapshot_cases (job : Job) (now : Number) (nonce : Str) (s : Ledger) :
    (∃ r, admitFromSnapshot job now nonce s = (s, r) ∧ r.isAdmitted = false) ∨
    (Admissible (s.row job) now ∧ ∃ continuation, admitFromSnapshot job now nonce s =
      (s.setRow job (runningRow job now nonce continuation),
        .admission (.admitted nonce continuation))) := by
  unfold admitFromSnapshot
  simp only
  split
  · exact .inl ⟨_, rfl, rfl⟩
  split
  · split
    · split
      · exact .inl ⟨_, rfl, rfl⟩
      · exact .inl ⟨_, rfl, rfl⟩
    split
    · exact .inl ⟨_, rfl, rfl⟩
    rename_i hc
    split
    · exact .inl ⟨_, rfl, rfl⟩
    rename_i due hdue
    split
    · exact .inl ⟨_, rfl, rfl⟩
    · rename_i hnow
      exact .inr ⟨.inr ⟨by simpa [fieldIs] using hc, due, hdue, not_lt.mp hnow⟩, _, rfl⟩
  · rename_i hrow
    exact .inr ⟨.inl (by simpa using hrow), _, rfl⟩

/-- What `admit` can do; with an external generation it admits only while the
control record is active. -/
theorem admit_cases (externalGeneration : Option Generation) (job : Job) (nonce : Str)
    (clock : Value) (s : Ledger) :
    (∃ r, admitJob externalGeneration job nonce clock s = (s, r) ∧ r.isAdmitted = false) ∨
    (∃ now continuation, clock.finite? = some now ∧ Admissible (s.row job) now ∧
      (externalGeneration.isSome → s.stateIs "external_active" = true) ∧
      admitJob externalGeneration job nonce clock s =
        (s.setRow job (runningRow job now nonce continuation),
          .admission (.admitted nonce continuation))) := by
  unfold admitJob
  split
  · exact .inl ⟨_, rfl, rfl⟩
  rename_i now hnow
  split
  · rename_i generation
    simp only
    split
    · split
      · exact .inl ⟨_, rfl, rfl⟩
      · exact .inl ⟨_, rfl, rfl⟩
    rename_i hactive
    simp only [Bool.not_eq_true, Bool.not_eq_false', active, Bool.and_eq_true] at hactive
    rcases admitFromSnapshot_cases job now nonce s with h | ⟨hadm, continuation, h⟩
    · exact .inl h
    · exact .inr ⟨now, continuation, hnow, hadm, fun _ => hactive.1.1.1.1, h⟩
  · rcases admitFromSnapshot_cases job now nonce s with h | ⟨hadm, continuation, h⟩
    · exact .inl h
    · exact .inr ⟨now, continuation, hnow, hadm, by simp, h⟩

/-- A finish writes nothing and is not accepted, or settles the running row
that carries its nonce. -/
theorem finish_cases (job : Job) (nonce : Str) (completed : Bool) (continuation clock : Value)
    (s : Ledger) :
    (∃ r, finish job nonce completed continuation clock s = (s, r) ∧ r ≠ .bool true) ∨
    (∃ data, s.row job = some data ∧ data.get "status" = .text "running" ∧
      data.get "nonce" = .str nonce ∧
      finish job nonce completed continuation clock s =
        (s.setRow job (data.update (finishUpdates completed continuation)), .bool true)) := by
  unfold finish
  split
  · exact .inl ⟨_, rfl, by simp⟩
  rename_i data hdata
  split
  · exact .inl ⟨_, rfl, by simp⟩
  rename_i h
  simp only [Bool.or_eq_true, Bool.not_eq_true', not_or, Bool.not_eq_false, Value.isStr_iff] at h
  split
  · exact .inl ⟨_, rfl, by simp⟩
  · exact .inr ⟨data, hdata, h.1, h.2, rfl⟩

theorem finishUpdates_status (data : Dict) (completed : Bool) (continuation : Value) :
    (data.update (finishUpdates completed continuation)).get "status" =
      .text (if completed then "completed" else "needs_attention") := by
  unfold finishUpdates
  cases completed <;> simp

theorem finishUpdates_get (key : String) (data : Dict) (completed : Bool) (continuation : Value)
    (hs : key ≠ "status") (hc : key ≠ "continuation") :
    (data.update (finishUpdates completed continuation)).get key = data.get key := by
  unfold finishUpdates
  cases completed <;> simp [hs.symm, hc.symm]

end HeyKevin.L4.BackgroundJobs
