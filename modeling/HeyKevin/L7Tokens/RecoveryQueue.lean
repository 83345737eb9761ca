import HeyKevin.Core.Fallible
import HeyKevin.Core.Machine
import HeyKevin.Core.RotatingScan
import HeyKevin.L7Tokens.RecoveryRecords
import Mathlib.Data.List.Lex
import Mathlib.Order.Fin.Basic
/-!
# The disconnect recovery queue

mirrors `acquire_work_lease_atomic` of
app/services/jobber_disconnect_recovery.py:94-186. A call reads the durable
cursor, takes a page of at most ten work documents after it (or the first ones
where none is left) and runs one transaction for each until one of them
leases its document. Every transaction that gets as far as the document moves
the cursor to it.

**Left out.** The deadline, retries of a transaction, and a server clock that
is not one: each ends a call with an exception of its own.

Line numbers are those of app/services/jobber_disconnect_recovery.py.
-/
namespace HeyKevin.L7.Recovery

open HeyKevin.Core L1 L1.Text

def candidateScanLimit : ℕ := 10

/-! ## The store -/

/-- A collection in the order of `__name__`. -/
structure Collection where
  docs : Entries Str Dict
  sorted : docs.keys.Pairwise (· < ·)

namespace Collection

def ids (c : Collection) : List Str := c.docs.keys

def get (c : Collection) (id : Str) : Option Dict := c.docs.find? id

def updateDocs (docs : Entries Str Dict) (id : Str) (updates : Dict) : Entries Str Dict :=
  docs.map fun e => (e.1, if e.1 = id then e.2.update updates else e.2)

theorem keys_updateDocs (docs : Entries Str Dict) (id : Str) (updates : Dict) :
    (updateDocs docs id updates).keys = docs.keys := by
  simp only [updateDocs, Entries.keys, List.map_map]
  rfl

/-- `txn.update(ref, updates)` -/
def update (c : Collection) (id : Str) (updates : Dict) : Collection :=
  ⟨updateDocs c.docs id updates, by rw [keys_updateDocs]; exact c.sorted⟩

@[simp] theorem ids_update (c : Collection) (id : Str) (updates : Dict) :
    (c.update id updates).ids = c.ids := keys_updateDocs ..

theorem get_update (c : Collection) (id j : Str) (updates : Dict) :
    (c.update id updates).get j =
      (c.get j).map fun d => if j = id then d.update updates else d := by
  obtain ⟨docs, _⟩ := c
  simp only [get, update]
  induction docs with
  | nil => rfl
  | cons e docs ih =>
    obtain ⟨k, d⟩ := e
    have ih := ih (List.pairwise_cons.mp ‹_›).2
    simp only [updateDocs, List.map_cons, Entries.find?_cons] at ih ⊢
    by_cases hk : k = j
    · simp [hk]
    · simp only [hk, if_false, ih]

theorem mem_ids {c : Collection} {id : Str} {d : Dict} (h : c.get id = some d) : id ∈ c.ids := by
  rw [ids, Entries.mem_keys]
  exact Option.isSome_iff_exists.mpr ⟨d, h⟩

end Collection

structure Store where
  control : Option Dict
  scan : Option Dict
  work : Collection
  barriers : Str → Option Dict
  reviews : Str → Option Dict

inductive Failure
  | context | leaseDuration | unsafeId | control | cursor | work
deriving DecidableEq

/-- The arguments of a call, the nonce it draws (32 hexadecimal digits) and the server clock of
its transactions. -/
structure AcquireCall where
  workerId : Str
  leaseDuration : Value
  nowTs : Option Binary64.Double
  hex : Str
  hexForm : hex.length = 32 ∧ hex.all Python.isLowerHex = true
  clock : ℕ → ServerTime

def AcquireCall.leaseNonce (c : AcquireCall) : Str := py "lease_" ++ c.hex

def leaseDuration? : Value → Option Number
  | .number n => if 1 ≤ n.val ∧ n.val ≤ 60 then some n else none
  | _ => none

inductive Outcome
  | cursorChanged
  | advanced
  | acquired (work : Dict)

/-! ## Reading and moving the cursor -/

/-- mirrors 62-63 (`_cursor`) -/
def cursorOf (scan : Option Dict) : Option Str :=
  match scan with
  | none => none
  | some d =>
    match d.get "cursor_work_id" with
    | .str s => some s
    | _ => none

/-- mirrors 50-59 (`_scan`) -/
def readScan (s : Store) : Except Failure (Dict × Option Dict) :=
  match s.control with
  | none => .error .control
  | some control =>
    if validControl control then
      match s.scan with
      | none => .ok (control, none)
      | some scan => if validScan scan then .ok (control, some scan) else .error .cursor
    else .error .control

/-- mirrors 62-65 -/
def scanPayload (cursor : Str) (now : ServerTime) : Dict :=
  [("schema_version", .int 1), ("cursor_work_id", .str cursor), ("updated_at", now.value)]

/-- `txn.set(scan_ref, _scan_payload(candidate_id, now))` -/
def advance (s : Store) (cursor : Str) (now : ServerTime) : Except Failure Store :=
  if validScan (scanPayload cursor now) then .ok { s with scan := some (scanPayload cursor now) }
  else .error .cursor

def putReview (P : Python) (s : Store) (id : Str) (now : ServerTime) : Store :=
  { s with reviews := Function.update s.reviews (reviewKey P id) (some (reviewPayload P id now)) }

/-! ## One candidate -/

def checkedWork (P : Python) (control : Dict) (barriers : Str → Option Dict) (id : Str)
    (data : Dict) : Option Dict :=
  if validWork P data && (data.get "work_id").isStr id then
    let appId := textOf (data.get "app_id")
    let accountId := textOf (data.get "account_id")
    if validAccount P control (barriers (computeAccountBarrierKey P appId accountId)) data
        appId accountId then some data
    else none
  else none

/-- `pending`, or `processing` under a lease that has run out -/
def eligible (work : Dict) (now : ServerTime) : Bool :=
  hasStatus work "pending" ||
    (hasStatus work "processing" && decide (secondsOf (work.get "lease_expires_at") ≤ now.seconds.val))

def attemptsOf (work : Dict) : ℤ :=
  intOf (work.get "attempt_count") + if hasStatus work "processing" then 1 else 0

def reviewUpdates (now : ServerTime) : Dict :=
  [("status", .text "needs_review"), ("lease_id", .none), ("lease_expires_at", .none),
    ("attempt_count", .int maxWorkAttempts), ("updated_at", now.value)]

def leaseUpdates (nonce : Str) (lease : Number) (now : ServerTime) (attempts : ℤ) : Dict :=
  [("status", .text "processing"), ("lease_id", .str nonce),
    ("lease_expires_at",
      .number (.float (.ofRat (now.seconds.val + lease.toFloat.val)))),
    ("updated_at", now.value), ("attempt_count", .int attempts)]

/-- The transaction over one candidate.
mirrors 118-178 -/
def acquire (P : Python) (nonce : Str) (lease : Number) (now : ServerTime)
    (expected : Option Str) (candidate : Str) (s : Store) : Except Failure (Store × Outcome) := do
  let (control, scan) ← readScan s
  if cursorOf scan ≠ expected then .ok (s, .cursorChanged)
  else
    match s.work.get candidate with
    | none =>
      let moved ← advance s candidate now
      .ok (moved, .advanced)
    | some data =>
      let review := s.reviews (reviewKey P candidate)
      let repaired := if review.any fun r => !validReview P candidate r then
        putReview P s candidate now else s
      match checkedWork P control s.barriers candidate data with
      | none =>
        let marked := if review.isNone then putReview P repaired candidate now else repaired
        let moved ← advance marked candidate now
        .ok (moved, .advanced)
      | some work =>
        if eligible work now = false ∨ now.seconds.val < secondsOf (work.get "next_attempt_at") then
          let moved ← advance repaired candidate now
          .ok (moved, .advanced)
        else if maxWorkAttempts ≤ attemptsOf work then
          ensure (validWork P (work.update (reviewUpdates now)) = true) Failure.work
          let moved ← advance
            { repaired with work := repaired.work.update candidate (reviewUpdates now) } candidate now
          .ok (moved, .advanced)
        else
          let updates := leaseUpdates nonce lease now (attemptsOf work)
          ensure (validWork P (work.update updates) = true) Failure.work
          let moved ← advance
            { repaired with work := repaired.work.update candidate updates } candidate now
          .ok (moved, .acquired (work.update updates))

/-! ## One call -/

def acquireFrom (P : Python) (c : AcquireCall) (lease : Number) :
    List Str → ℕ → Option Str → Store → Store × Except Failure (Option Dict)
  | [], _, _, s => (s, .ok none)
  | candidate :: rest, k, expected, s =>
    if isFirestoreDocumentId candidate = false then (s, .error .unsafeId)
    else
      match acquire P c.leaseNonce lease (c.clock k) expected candidate s with
      | .error e => (s, .error e)
      | .ok (s', .cursorChanged) => (s', .ok none)
      | .ok (s', .acquired work) => (s', .ok (some work))
      | .ok (s', .advanced) => acquireFrom P c lease rest (k + 1) (some candidate) s'

/-- mirrors 94-186 -/
def acquireWorkLeaseAtomic (P : Python) :
    Machine Store AcquireCall (Except Failure (Option Dict)) := fun s c =>
  if isSafeDocumentId (.str c.workerId) = false ∨ c.nowTs ≠ none then (s, .error .context)
  else
    match leaseDuration? c.leaseDuration, readScan s with
    | none, _ => (s, .error .leaseDuration)
    | some _, .error e => (s, .error e)
    | some lease, .ok (_, scan) =>
      acquireFrom P c lease (RotatingScan.page candidateScanLimit s.work.ids (cursorOf scan)) 0
        (cursorOf scan) s

end HeyKevin.L7.Recovery
