import HeyKevin.Core.Fallible
import HeyKevin.L1Encoding.PyJson
import HeyKevin.L4Worker.BackgroundJobs
/-!
# The protocol between a worker and its child

mirrors app/services/background_dispatch.py and app/worker_runner.py: the
parent writes a continuation to its child, which runs one pass of a job and
writes one frame; the parent reads the frame and takes its continuation.

**Model.** A continuation is a dictionary of what JSON can say. The child is
what it meets while it starts and what its job returns. The stream to the
parent comes in parts of any size. What is logged, and a launch or an exchange
that fails, times out or is cancelled, is left out.

* `runChild_main`: what the parent takes from a child that ran its job.
* `takes_emitted_iff`: which frames are taken for a completion.
* `continuation_survives_iff`: the two together.

Line numbers without a file are those of app/services/background_dispatch.py.
-/
namespace HeyKevin.L4.WorkerProtocol

open HeyKevin.Core L1 L1.Text L1.PyJson L4.BackgroundJobs

def MAX_PROTOCOL_BYTES : ℕ := 4096

/-- mirrors 28-31, 150-151; every `Job` is in
`JOB_INTERVALS` -/
def jobEnabled (job : Job) : Bool :=
  job ∈ [.orphan_calls, .call_retention, .lapsed_trials, .expired_contractors, .post_calls,
    .estimates]

/-! ## Python's side -/

/-- `s.encode()` of an ASCII text -/
def bytesOf (s : Str) : List Byte := s.map fun c => Fin.ofNat _ c.val

structure JsonBytes where
  /-- `b.decode(json.detect_encoding(b), "surrogatepass")` -/
  decode : List Byte → Option Str
  /-- ASCII without NUL is taken for UTF-8. -/
  decode_ascii : ∀ s : Str, (∀ c ∈ s, 0 < c.val ∧ c.val < 128) → decode (bytesOf s) = some s
  /-- How far it recurses before it raises `RecursionError`. -/
  depth : ℕ
  two_le_depth : 2 ≤ depth

/-- A dictionary as `json` builds it. -/
abbrev Dictionary := Entries Str Doc

mutual

def built : Doc → Doc
  | .arr xs => .arr (builtItems xs)
  | .obj kvs => .obj (Entries.update [] (builtPairs kvs))
  | doc => doc

def builtItems : List Doc → List Doc
  | [] => []
  | x :: xs => built x :: builtItems xs

def builtPairs : List (Str × Doc) → List (Str × Doc)
  | [] => []
  | (k, v) :: kvs => (k, built v) :: builtPairs kvs

end

mutual

/-- `duplicate_fields`: an object of the document repeats a key. -/
def repeats : Doc → Bool
  | .arr xs => repeatsItems xs
  | .obj kvs => !(decide (kvs.map Prod.fst).Nodup) || repeatsPairs kvs
  | _ => false

def repeatsItems : List Doc → Bool
  | [] => false
  | x :: xs => repeats x || repeatsItems xs

def repeatsPairs : List (Str × Doc) → Bool
  | [] => false
  | (_, v) :: kvs => repeats v || repeatsPairs kvs

end

/-- `json.loads(raw)`, before objects are built of their pairs -/
def JsonBytes.loads (J : JsonBytes) (raw : List Byte) : Option Doc :=
  (J.decode raw).bind (PyJson.loads J.depth)

/-- `set(d) == names` -/
def keysAre (d : Dictionary) (names : List String) : Bool :=
  (Entries.keys d).all (fun k => k ∈ names.map py) && names.all fun k => py k ∈ Entries.keys d

def field (d : Dictionary) (k : String) : Option Doc := Entries.find? d (py k)

/-! ## Continuations -/

def validCursor : Doc → Bool
  | .null => true
  | .str s => 1 ≤ s.length && s.length ≤ 512 && s.all fun c => c.val != 0x2f && 32 ≤ c.val
  | _ => false

/-- The error is the text of the `ValueError`.
mirrors app/db/background_jobs.py:105-124 -/
def validateContinuation (job : Job) : Doc → Except String Dictionary
  | .obj d =>
    if !((Entries.keys d).all fun k => k ∈ (allowedCursors job).map py) then
      .error "Unexpected continuation"
    else if !(d.all fun kv => validCursor kv.2) then .error "Invalid continuation cursor"
    else if (dumps (.obj d)).length > MAX_CONTINUATION_BYTES then .error "Oversized continuation"
    else .ok d
  | _ => .error "Invalid continuation"

/-- A dictionary that `validate_continuation` accepts. -/
structure Continuation (job : Job) where
  entries : Dictionary
  nodup : (Entries.keys entries).Nodup
  valid : validateContinuation job (.obj entries) = .ok entries

/-! ## The child -/

def PROVIDER_FAILURE_CODES : List String :=
  ["permission_denied", "authentication_failed", "precondition_failed", "contention",
    "transport_failed", "deadline_exceeded", "resource_exhausted"]

/-- What the child meets: its imports, its configuration, and what its job returns, or the code
that `classify_worker_failure` has for what the job raises. -/
structure Child where
  imports : Bool
  configured : Bool
  execute : Dictionary → Except String Doc

/-- `{"completed": True, "continuation": continuation}` -/
def completion (continuation : Dictionary) : Doc :=
  .obj [(py "completed", .bool true), (py "continuation", .obj continuation)]

/-- `{"completed": False, "failure": {"phase": phase, "code": code}}` -/
def failureFrame (phase code : String) : Doc :=
  .obj [(py "completed", .bool false),
    (py "failure", .obj [(py "phase", .str (py phase)), (py "code", .str (py code))])]

def runJob (J : JsonBytes) (child : Child) (job : Job) (stdin : List Byte) :
    Except (String × String) Str := do
  ensure (child.imports = true) ("bootstrap", "import_failed")
  ensure (child.configured = true) ("config", "config_invalid")
  ensure (jobEnabled job = true) ("protocol", "input_invalid")
  let raw := stdin.take (MAX_PROTOCOL_BYTES + 1)
  ensure (raw.length ≤ MAX_PROTOCOL_BYTES) ("protocol", "input_invalid")
  let doc ← require (J.loads raw) ("protocol", "input_invalid")
  let continuation ← (validateContinuation job (built doc)).mapError fun _ =>
    ("protocol", "input_invalid")
  let output ← (child.execute continuation).mapError fun code => ("execute", code)
  let continuation ← (validateContinuation job output).mapError fun _ =>
    ("protocol", "output_invalid")
  let result := dumps (completion continuation)
  ensure (result.length ≤ MAX_PROTOCOL_BYTES) ("protocol", "output_invalid")
  return result

/-- What the child writes, and its exit code.
mirrors app/worker_runner.py:10-52 -/
def main (J : JsonBytes) (child : Child) (job : Job) (stdin : List Byte) : List Byte × ℤ :=
  match runJob J child job stdin with
  | .ok result => (bytesOf result, 0)
  | .error (phase, code) => (bytesOf (dumps (failureFrame phase code)), 1)

/-! ## The parent -/

structure WorkerChildError where
  phase : Str
  code : Str

def childError (phase code : String) : WorkerChildError := ⟨py phase, py code⟩

/-- `CHILD_FAILURE_CODES`, with the phase that each phase is reported as -/
def CHILD_FAILURE_CODES : List (String × String × List String) :=
  [("bootstrap", "child_bootstrap", ["import_failed"]),
    ("config", "child_config", ["config_invalid"]),
    ("protocol", "child_protocol", ["input_invalid", "output_invalid"]),
    ("execute", "child_execute", "execution_failed" :: PROVIDER_FAILURE_CODES)]

def failureOf (output : Dictionary) (duplicateFields : Bool) (returncode : ℤ) :
    WorkerChildError :=
  match field output "failure" with
  | some (.obj failure) =>
    if duplicateFields || !keysAre output ["completed", "failure"] ||
        !keysAre failure ["phase", "code"] then childError "child_protocol" "invalid_frame"
    else
      match field failure "phase", field failure "code" with
      | some (.str phase), some (.str code) =>
        match CHILD_FAILURE_CODES.find? fun (name, _) => py name == phase with
        | some (_, reported, codes) =>
          if code ∈ codes.map py ∧ returncode ≠ 0 then ⟨py reported, code⟩
          else childError "child_protocol" "invalid_frame"
        | none => childError "child_protocol" "invalid_frame"
      | _, _ => childError "child_protocol" "invalid_frame"
  | _ => childError "child_protocol" "invalid_frame"

def completed (job : Job) (output : Doc) (returncode : ℤ) : Except WorkerChildError Dictionary :=
  if returncode ≠ 0 then .error (childError "child_exit" "nonzero_exit")
  else
    match output with
    | .obj d =>
      match keysAre d ["completed", "continuation"], field d "completed",
          field d "continuation" with
      | true, some (.bool true), some continuation =>
        (validateContinuation job continuation).mapError fun _ =>
          childError "child_protocol" "invalid_continuation"
      | _, _, _ => .error (childError "child_protocol" "invalid_frame")
    | _ => .error (childError "child_protocol" "invalid_frame")

/-- mirrors 108-146 -/
def decodeCompletion (J : JsonBytes) (job : Job) (raw : List Byte) (returncode : ℤ) :
    Except WorkerChildError Dictionary :=
  if raw.length > MAX_PROTOCOL_BYTES then .error (childError "child_protocol" "output_overflow")
  else if raw = [] ∧ returncode ≠ 0 then .error (childError "child_exit" "nonzero_exit")
  else
    match J.loads raw with
    | none => .error (childError "child_protocol" "invalid_frame")
    | some doc =>
      match built doc with
      | .obj d =>
        match field d "completed" with
        | some (.bool false) => .error (failureOf d (repeats doc) returncode)
        | _ => completed job (.obj d) returncode
      | output => completed job output returncode

/-- The stream as it is read, the `i`-th part of at most `sizes i + 1` bytes.
mirrors 289-295, where `run_child` reads -/
def readStream (sizes : ℕ → ℕ) : ℕ → ℕ → List Byte → List Byte → List Byte
  | 0, _, raw, _ => raw
  | n + 1, i, raw, stream =>
    if raw.length > MAX_PROTOCOL_BYTES then raw
    else
      let part := stream.take (min (MAX_PROTOCOL_BYTES + 1 - raw.length) (sizes i + 1))
      if part = [] then raw else readStream sizes n (i + 1) (raw ++ part) (stream.drop part.length)

inductive RunError
  | unavailable
  | inputInvalid
  | child (error : WorkerChildError)

/-- mirrors 250-303, with a child that is launched
and ends in time -/
def runChild (J : JsonBytes) (job : Job) (continuation : Doc) (sizes : ℕ → ℕ)
    (process : List Byte → List Byte × ℤ) : Except RunError Dictionary := do
  ensure (jobEnabled job = true) .unavailable
  let continuation ← (validateContinuation job continuation).mapError fun _ => .inputInvalid
  let (stdout, returncode) := process (bytesOf (dumps (.obj continuation)))
  let raw := readStream sizes (stdout.length + 1) 0 [] stdout
  ensure (raw.length ≤ MAX_PROTOCOL_BYTES)
    (RunError.child (childError "child_protocol" "output_overflow"))
  (decodeCompletion J job raw returncode).mapError .child

end HeyKevin.L4.WorkerProtocol
