import HeyKevin.Core.Entries
import HeyKevin.Core.Fallible
import HeyKevin.Core.Machine
import HeyKevin.L1Encoding.Text
import Mathlib.Data.Finset.Sort
import Mathlib.Data.List.Lex
/-!
# The approval ledger

`FileBackedNonceLedger` (app/services/voice_bakeoff_nonce_ledger.py) lets an
approval through once. Its state is a text file; every run of the program is a
process of its own, so `admit` reads and replaces the file under an exclusive
lock on a second file, which is never replaced.

A call of `admit` goes through the phases of `Phase`, one `Action` at a time,
interleaved with those of any other calls; `stop` is a kill, or an exception
that leaves the function, at any point. Both give the lock back: a closed file
description holds none.

The JSON text is the interpreter's (`Json`): what a result needs of it is
`RoundTrips`, that `json.loads` reads back what `json.dump` wrote, dictionaries
in some order.

Line numbers are those of app/services/voice_bakeoff_nonce_ledger.py.
-/
namespace HeyKevin.L10.Ledger

open HeyKevin.Core L1.Text

/-! ## The codec -/

/-- What `json.loads` returns. -/
inductive Payload
  | str (s : Str)
  | list (xs : List Payload)
  | object (kvs : List (Str × Payload))
  /-- `null`, a truth value or a number -/
  | scalar

structure Json where
  /-- `json.loads(s)`; `none` is a `JSONDecodeError` or a `RecursionError`. -/
  loads : Str → Option Payload
  /-- `json.dump(v, handle, indent=2, sort_keys=True)` -/
  dump : Payload → Str

namespace Payload

def isStr : Payload → Bool
  | str _ => true
  | _ => false

def text : Payload → Str
  | str s => s
  | _ => []

end Payload

/-- mirrors 21-33 -/
def requireStringList (value : Payload) (fieldName : String) : Except String (List Str) :=
  match value with
  | .list xs =>
    if xs.all Payload.isStr then .ok (xs.map Payload.text)
    else .error (fieldName ++ " must be a list of strings")
  | _ => .error (fieldName ++ " must be a list of strings")

/-- mirrors 36-42 -/
def requireStringMapping (value : Payload) (fieldName : String) :
    Except String (Entries Str Str) :=
  match value with
  | .object kvs =>
    if kvs.all fun e => e.2.isStr then .ok (kvs.map fun e => (e.1, e.2.text))
    else .error (fieldName ++ " must be a mapping of strings to strings")
  | _ => .error (fieldName ++ " must be a mapping of strings to strings")

/-- mirrors 45-49 -/
structure LedgerState where
  consumedNonces : Finset Str
  consumedApprovalIds : Finset Str
  /-- `f"\x7bbinding_digest\x7d:\x7bepoch\x7d"` to `approval_id_digest` -/
  bindingEpochs : Entries Str Str

namespace LedgerState

def empty : LedgerState := ⟨∅, ∅, []⟩

/-- mirrors 55-80 -/
def fromJson : Payload → Except String LedgerState
  | .object payload => do
    let field (name : String) (default : Payload) : Payload :=
      (Entries.find? payload (py name)).getD default
    let consumedNonces ←
      requireStringList (field "consumed_nonces" (.list [])) "consumed_nonces"
    let consumedApprovalIds ←
      requireStringList (field "consumed_approval_ids" (.list [])) "consumed_approval_ids"
    let bindingEpochs ← requireStringMapping (field "binding_epochs" (.object [])) "binding_epochs"
    return ⟨consumedNonces.toFinset, consumedApprovalIds.toFinset, bindingEpochs⟩
  | _ => .error "ledger payload must be a JSON object"

/-- mirrors 82-87 -/
def toJson (st : LedgerState) : Payload :=
  .object
    [(py "consumed_nonces", .list (st.consumedNonces.sort.map .str)),
     (py "consumed_approval_ids", .list (st.consumedApprovalIds.sort.map .str)),
     (py "binding_epochs", .object (st.bindingEpochs.map fun e => (e.1, .str e.2)))]

end LedgerState

inductive Reordered : Payload → Payload → Prop
  | refl (v : Payload) : Reordered v v
  | object {d e : List (Str × Payload)} (hnodup : (Entries.keys e).Nodup)
      (hkeys : ∀ k, (Entries.find? d k).isSome = (Entries.find? e k).isSome)
      (hvalues : ∀ k v w, Entries.find? d k = some v → Entries.find? e k = some w →
        Reordered v w) :
      Reordered (.object d) (.object e)

/-- `json.loads` reads back what `json.dump` wrote of this state; the text is not blank. -/
def RoundTrips (J : Json) (st : LedgerState) : Prop :=
  strip (J.dump st.toJson) ≠ [] ∧
    ∃ payload, J.loads (strip (J.dump st.toJson)) = some payload ∧ Reordered st.toJson payload

/-! ## One admission -/

/-- The arguments of `admit`. -/
structure Admission where
  nonceDigest : Str
  approvalIdDigest : Str
  bindingDigest : Str
  epoch : ℤ

def Admission.bindingKey (a : Admission) : Str := a.bindingDigest ++ py ":" ++ decimal a.epoch

/-- What stands in the text, if it is a ledger.
mirrors 131-149 -/
def load (J : Json) (text : Str) : Option LedgerState :=
  let raw := strip text
  if raw.isEmpty then some .empty
  else (J.loads raw).bind fun payload => (LedgerState.fromJson payload).toOption

/-- The state to write, or `none` where `admit` answers `False`.
mirrors 151-164 -/
def judge (a : Admission) (st : LedgerState) : Option LedgerState :=
  if a.nonceDigest ∈ st.consumedNonces then none
  else if a.approvalIdDigest ∈ st.consumedApprovalIds then none
  else if (Entries.find? st.bindingEpochs a.bindingKey).any (· ≠ a.approvalIdDigest) then none
  else some
    ⟨insert a.nonceDigest st.consumedNonces, insert a.approvalIdDigest st.consumedApprovalIds,
      Entries.set st.bindingEpochs a.bindingKey a.approvalIdDigest⟩

/-! ## Processes -/

inductive Contents
  | absent
  /-- Bytes that are not UTF-8: `read_text` raises. -/
  | undecodable
  | text (s : Str)

/-- Where a call of `admit` stands. -/
inductive Phase
  | idle
  | started (a : Admission)
  /-- Both files are touched, the lock file is open. -/
  | waiting (a : Admission)
  | locked (a : Admission)
  /-- The state to write is decided. -/
  | deciding (a : Admission) (st : LedgerState)
  /-- It stands in a temporary file. -/
  | written (a : Admission) (st : LedgerState)
  | unlocking (a : Admission) (result : Bool)
  | returning (a : Admission) (result : Bool)
  | ended

structure World where
  data : Contents
  /-- Whose open file description holds the lock. -/
  holder : Option ℕ
  phase : ℕ → Phase

def World.start (data : Contents) : World := ⟨data, none, fun _ => .idle⟩

/-- A step of call `p`. -/
inductive Action
  | admitCall (p : ℕ) (a : Admission)
  | touch (p : ℕ)
  | lock (p : ℕ)
  | read (p : ℕ)
  | writeTemp (p : ℕ)
  | replace (p : ℕ)
  | unlock (p : ℕ)
  | answer (p : ℕ)
  | stop (p : ℕ)

structure Returned where
  p : ℕ
  a : Admission
  result : Bool

def World.move (w : World) (p : ℕ) (next : Phase) : World :=
  { w with phase := fun q => if q = p then next else w.phase q }

def World.release (w : World) (p : ℕ) : World :=
  if w.holder = some p then { w with holder := none } else w

/-- mirrors 112-198 (`admit`, `_write_atomic`) -/
def step (J : Json) : Machine World Action (Option Returned) := fun w action =>
  match action with
  | .admitCall p a =>
    match w.phase p with
    | .idle => (w.move p (.started a), none)
    | _ => (w, none)
  | .touch p =>
    match w.phase p with
    | .started a =>
      let w := match w.data with
        | .absent => { w with data := .text [] }
        | _ => w
      (w.move p (.waiting a), none)
    | _ => (w, none)
  | .lock p =>
    match w.phase p, w.holder with
    | .waiting a, none => ({ w with holder := some p }.move p (.locked a), none)
    | _, _ => (w, none)
  | .read p =>
    match w.phase p, w.data with
    | .locked a, .text raw =>
      match (load J raw).bind (judge a) with
      | some st => (w.move p (.deciding a st), none)
      | none => (w.move p (.unlocking a false), none)
    -- `read_text` raises, and the lock goes with the `finally`
    | .locked _, _ => ((w.release p).move p .ended, none)
    | _, _ => (w, none)
  | .writeTemp p =>
    match w.phase p with
    | .deciding a st => (w.move p (.written a st), none)
    | _ => (w, none)
  | .replace p =>
    match w.phase p with
    | .written a st =>
      ({ w with data := .text (J.dump st.toJson) }.move p (.unlocking a true), none)
    | _ => (w, none)
  | .unlock p =>
    match w.phase p with
    | .unlocking a result => ((w.release p).move p (.returning a result), none)
    | _ => (w, none)
  | .answer p =>
    match w.phase p with
    | .returning a result => (w.move p .ended, some ⟨p, a, result⟩)
    | _ => (w, none)
  | .stop p => ((w.release p).move p .ended, none)

end HeyKevin.L10.Ledger
