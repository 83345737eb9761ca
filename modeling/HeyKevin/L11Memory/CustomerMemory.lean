import HeyKevin.Core.Fallible
import HeyKevin.L1Encoding.Python
/-!
# What is remembered of a returning caller

`remember_customer` (app/services/customer_memory.py) is the one rule by which
both repositories turn an observation into the next memory. A `CustomerMemory`
carries the check of its constructor.

Times are readings of the UTC clock, what `_utc` makes of any aware time in
range, and a confidence is a Python float.

Line numbers are those of app/services/customer_memory.py.
-/
namespace HeyKevin.L11.Memory

open HeyKevin.Core Binary64 L1 L1.Text L1.Datetime

abbrev Time := { t : DateTime // t.IsUtc }

def Time.instant (t : Time) : ℤ := t.val.instant

/-- `t + timedelta(days=n)`; `none` is its `OverflowError`. -/
def Time.plusDays (t : Time) (n : ℕ) : Option Time :=
  (t.val.add (n * 86400000000)).pmap (fun u h => ⟨u, h⟩) fun _ h =>
    (DateTime.add_eq_some h).1.trans t.property

inductive Confidence
  | finite (d : Double)
  | nonFinite (f : NonFinite)
deriving DecidableEq

namespace Confidence

/-- `a < b` -/
def lt : Confidence → Confidence → Bool
  | .finite x, .finite y => decide (x.val < y.val)
  | .finite _, .nonFinite .inf => true
  | .nonFinite .negInf, .finite _ => true
  | .nonFinite .negInf, .nonFinite .inf => true
  | _, _ => false

/-- `min(a, b)`, which keeps `a` unless `b` is smaller. -/
def min (a b : Confidence) : Confidence := if b.lt a then b else a

/-- `0 <= c <= 1` -/
def inUnit : Confidence → Bool
  | .finite d => decide (0 ≤ d.val) && decide (d.val ≤ 1)
  | .nonFinite _ => false

/-- `a == b` -/
def eq : Confidence → Confidence → Bool
  | .nonFinite .nan, _ => false
  | a, b => decide (a = b)

end Confidence

inductive IdentityState
  | candidate
  | confirmed
  | conflicted
deriving DecidableEq

inductive IdentitySource
  | callerConfirmed
  | ownerContact
  | providerExactMatch
  | transcriptExtracted
deriving DecidableEq

inductive Failure
  /-- `CustomerMemoryError(text)` -/
  | error (text : String)
  /-- `CustomerMemoryConflict(text)` -/
  | conflict (text : String)
  /-- `CustomerMemoryConflict(f"expected revision \x7bexpected\x7d, actual \x7bactual\x7d")` -/
  | staleRevision (expected actual : ℤ)
  | overflow
  | unicode

/-- The attributes of a `CustomerMemory`. -/
structure Fields where
  contractorId : Str
  customerKey : Str
  displayName : Str
  identityState : IdentityState
  identitySource : IdentitySource
  confidence : Confidence
  language : Str
  revision : ℤ
  createdAt : Time
  updatedAt : Time
  lastSeenAt : Time
  expiresAt : Time
  lastCommandId : Str
  schemaVersion : ℤ
deriving DecidableEq

def schemaVersion : ℤ := 1

def memoryRetentionDays : ℕ := 90

/-- mirrors 56-85 (`__post_init__`) -/
def Fields.check (m : Fields) : Except Failure Unit := do
  ensure (m.schemaVersion = Memory.schemaVersion) (.error "unsupported customer-memory schema")
  ensure (m.contractorId ≠ [] ∧ m.customerKey ≠ [])
    (.error "tenant and customer keys are required")
  ensure (1 ≤ m.revision ∧ m.confidence.inUnit = true) (.error "invalid revision or confidence")
  ensure (m.displayName.length ≤ 80 ∧ m.language.length ≤ 16)
    (.error "memory field exceeds its bound")
  ensure (m.lastCommandId ≠ []) (.error "last_command_id is required")
  ensure (m.createdAt.instant ≤ m.updatedAt.instant ∧ m.updatedAt.instant ≤ m.lastSeenAt.instant ∧
    m.lastSeenAt.instant < m.expiresAt.instant) (.error "memory timestamps are inconsistent")

abbrev CustomerMemory := { m : Fields // m.check = .ok () }

/-- `CustomerMemory(...)` -/
def CustomerMemory.make (m : Fields) : Except Failure CustomerMemory :=
  match h : m.check with
  | .ok () => .ok ⟨m, h⟩
  | .error e => .error e

def minGreetingConfidence : Double := .ofRat (85 / 100)

/-- mirrors 87-94 -/
def CustomerMemory.isGreetingEligible (m : CustomerMemory) (now : Time) : Bool :=
  !m.val.displayName.isEmpty && decide (m.val.identityState = .confirmed) &&
    !m.val.confidence.lt (.finite minGreetingConfidence) &&
    decide (now.instant < m.val.expiresAt.instant)

/-- Whose memory it is: a contractor and the digest of a caller's number, as
`customer_key_for_phone` gives it. -/
structure Customer where
  contractorId : Str
  customerKey : Str
  contractor_ne : contractorId ≠ []
  key_ne : customerKey ≠ []

/-- An observation: the arguments of `remember`. -/
structure Remember where
  displayName : Str
  identityState : IdentityState
  identitySource : IdentitySource
  confidence : Confidence
  language : Str
  expectedRevision : ℤ
  commandId : Str
  occurredAt : Time

/-- `" ".join(value.split())` -/
def collapsed (value : Str) : Str := joinSpace (split value)

/-- mirrors 174-180 -/
def cleanName (value : Str) : Except Failure Str := do
  ensure (collapsed value ≠ [] ∧ (collapsed value).length ≤ 80 ∧
    (collapsed value).any (fun c => c.val < 32) = false) (.error "display_name is invalid")
  return collapsed value

variable (P : Python) (C : Customer)

def Bound (m : CustomerMemory) : Prop :=
  m.val.contractorId = C.contractorId ∧ m.val.customerKey = C.customerKey

instance (m : CustomerMemory) : Decidable (Bound C m) := inferInstanceAs (Decidable (_ ∧ _))

/-- An observation over a memory that has not expired.
mirrors 217-257 -/
def nextMemory (m : CustomerMemory) (c : Remember) (name : Str) : Except Failure CustomerMemory :=
  if m.val.lastCommandId = c.commandId then
    if m.val.displayName = name ∧ m.val.identityState = c.identityState ∧
        m.val.identitySource = c.identitySource ∧ m.val.confidence.eq c.confidence = true ∧
        m.val.language = c.language then .ok m
    else .error (.conflict "command id was reused with different data")
  else do
    ensure (c.expectedRevision = m.val.revision) (.staleRevision c.expectedRevision m.val.revision)
    ensure (¬ c.occurredAt.instant < m.val.updatedAt.instant)
      (.conflict "observation cannot precede the current memory revision")
    let renamed := m.val.identityState = .confirmed ∧ c.identityState = .confirmed ∧
      P.casefold m.val.displayName ≠ P.casefold name
    let expiresAt ← require (c.occurredAt.plusDays memoryRetentionDays) .overflow
    CustomerMemory.make
      { m.val with
        displayName := name
        identityState := if renamed then .conflicted else c.identityState
        identitySource := c.identitySource
        confidence := if renamed then c.confidence.min m.val.confidence else c.confidence
        language := c.language
        revision := m.val.revision + 1
        updatedAt := c.occurredAt
        lastSeenAt := c.occurredAt
        expiresAt := expiresAt
        lastCommandId := c.commandId }

/-- An observation of a customer who is not remembered.
mirrors 227-231,258-270 -/
def firstMemory (c : Remember) (name : Str) : Except Failure CustomerMemory := do
  ensure (c.expectedRevision = 0) (.staleRevision c.expectedRevision 0)
  let expiresAt ← require (c.occurredAt.plusDays memoryRetentionDays) .overflow
  CustomerMemory.make
    { contractorId := C.contractorId
      customerKey := C.customerKey
      displayName := name
      identityState := c.identityState
      identitySource := c.identitySource
      confidence := c.confidence
      language := c.language
      revision := 1
      createdAt := c.occurredAt
      updatedAt := c.occurredAt
      lastSeenAt := c.occurredAt
      expiresAt := expiresAt
      lastCommandId := c.commandId
      schemaVersion := Memory.schemaVersion }

/-- An expired record counts as absent.
mirrors 189-270 -/
def rememberCustomer (existing : Option CustomerMemory) (c : Remember) :
    Except Failure CustomerMemory := do
  ensure (c.commandId ≠ []) (.error "contractor_id, customer_key, and command_id are required")
  let name ← cleanName c.displayName
  ensure (∀ m ∈ existing, Bound C m)
    (.conflict "memory binding does not match the requested customer")
  match existing.filter fun m => c.occurredAt.instant < m.val.expiresAt.instant with
  | some m => nextMemory P m c name
  | none => firstMemory C c name

end HeyKevin.L11.Memory
