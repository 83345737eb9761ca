import HeyKevin.Core.Machine
import HeyKevin.L11Memory.CustomerMemory
import HeyKevin.L1Encoding.Json
/-!
# Two repositories of customer memory

The adapter that tests and local composition use, and the one on Firestore,
for one customer. Both keep a receipt for every command id: the first with the
fingerprint itself and its result, which a forget erases, the second with the
digest of the fingerprint and no result, so a retry is answered with the
current document.

Documents hold what `to_dict` writes, and `from_dict` reads that back; here
they are the memory itself. `World` runs the two side by side.

Line numbers without a file are those of app/db/customer_memory.py.
-/
namespace HeyKevin.L11.Memory

open HeyKevin.Core Binary64 L1 L1.Text

variable (P : Python) (C : Customer)

inductive Print
  | remember (expectedRevision : ℤ) (name : Str) (state : IdentityState) (source : IdentitySource)
      (confidence : Confidence) (language : Str)
  | forget (expectedRevision : ℤ)
deriving DecidableEq

/-- The arguments of `forget`, and the reading of the clock in the Firestore adapter with the
time 90 days after it. -/
structure Forget where
  expectedRevision : ℤ
  commandId : Str
  createdAt : Time
  expiresAt : Time
  retention : createdAt.plusDays 90 = some expiresAt

def Remember.print (c : Remember) : Print :=
  .remember c.expectedRevision (collapsed c.displayName) c.identityState c.identitySource
    c.confidence c.language

def Forget.print (c : Forget) : Print := .forget c.expectedRevision

def alive (now : Time) (m : CustomerMemory) : Bool := now.instant < m.val.expiresAt.instant

/-! ## In memory -/

inductive Result
  | memory (m : CustomerMemory)
  | forgotten (b : Bool)
  /-- The result of a `remember` after a forget. -/
  | erased
deriving DecidableEq

def Result.erase : Result → Result
  | .memory _ => .erased
  | r => r

structure InMemory where
  record : Option CustomerMemory
  receipts : Entries Str (Print × Result)

namespace InMemory

/-- mirrors app/services/customer_memory.py:283-288 -/
def lookup (r : InMemory) (now : Time) : Option CustomerMemory := r.record.filter (alive now)

/-- mirrors app/services/customer_memory.py:290-358 -/
def remember (r : InMemory) (c : Remember) : InMemory × Except Failure CustomerMemory :=
  if c.commandId = [] then (r, .error (.error "contractor_id and command_id are required"))
  else if c.expectedRevision < 0 then
    (r, .error (.error "expected_revision must be a non-negative integer"))
  else
    match cleanName c.displayName with
    | .error e => (r, .error e)
    | .ok name =>
      let fingerprint : Print :=
        .remember c.expectedRevision name c.identityState c.identitySource c.confidence c.language
      match Entries.find? r.receipts c.commandId with
      | some (saved, result) =>
        if saved ≠ fingerprint then
          (r, .error (.conflict "command id was reused with different data"))
        else
          match result with
          | .memory m => (r, .ok m)
          | _ => (r, .error (.conflict "command was superseded by forget"))
      | none =>
        match rememberCustomer P C r.record { c with displayName := name } with
        | .error e => (r, .error e)
        | .ok record =>
          ({ record := some record
             receipts := Entries.set r.receipts c.commandId (fingerprint, .memory record) },
            .ok record)

/-- mirrors app/services/customer_memory.py:360-402 -/
def forget (r : InMemory) (c : Forget) : InMemory × Except Failure Bool :=
  if c.commandId = [] then (r, .error (.error "contractor_id and command_id are required"))
  else if c.expectedRevision < 0 then
    (r, .error (.error "expected_revision must be a non-negative integer"))
  else
    match Entries.find? r.receipts c.commandId with
    | some (saved, result) =>
      if saved ≠ c.print then (r, .error (.conflict "command id was reused with different data"))
      else
        match result with
        | .forgotten b => (r, .ok b)
        | _ => (r, .error (.conflict "command id was reused for a different operation"))
    | none =>
      let actualRevision := r.record.elim 0 fun m => m.val.revision
      if c.expectedRevision ≠ actualRevision then
        (r, .error (.staleRevision c.expectedRevision actualRevision))
      else
        let forgotten := r.record.isSome
        let erased : Entries Str (Print × Result) :=
          r.receipts.map fun e => (e.1, (e.2.1, e.2.2.erase))
        ({ record := none
           receipts := Entries.set erased c.commandId (c.print, .forgotten forgotten) },
          .ok forgotten)

end InMemory

/-! ## On Firestore -/

def IdentityState.value : IdentityState → String
  | .candidate => "candidate"
  | .confirmed => "confirmed"
  | .conflicted => "conflicted"

def IdentitySource.value : IdentitySource → String
  | .callerConfirmed => "caller_confirmed"
  | .ownerContact => "owner_contact"
  | .providerExactMatch => "provider_exact_match"
  | .transcriptExtracted => "transcript_extracted"

/-- How `json.dumps` writes a float. -/
def Confidence.text : Confidence → Str
  | .finite d => P.strOf (.number (.float d))
  | .nonFinite .nan => py "NaN"
  | .nonFinite .inf => py "Infinity"
  | .nonFinite .negInf => py "-Infinity"

/-- The members of a JSON object in the order of `sort_keys`, each with its text. -/
def objectText (members : List (String × Str)) : Str :=
  py "\x7b" ++
    List.intercalate (py ",") (members.map fun e => Json.quoted (py e.1) ++ py ":" ++ e.2) ++
    py "\x7d"

/-- mirrors 51-58,80-94 -/
def Print.text : Print → Str
  | .remember expectedRevision name state source confidence language =>
    objectText
      [("confidence", confidence.text P), ("display_name", Json.quoted name),
       ("expected_revision", decimal expectedRevision),
       ("identity_source", Json.quoted (py source.value)),
       ("identity_state", Json.quoted (py state.value)), ("language", Json.quoted language),
       ("operation", Json.quoted (py "remember"))]
  | .forget expectedRevision =>
    objectText
      [("expected_revision", decimal expectedRevision), ("operation", Json.quoted (py "forget"))]

/-- `none` is the `UnicodeEncodeError` of a lone surrogate.
mirrors 51-58 (`_fingerprint`) -/
def Print.digest (p : Print) : Option Str := (encodeUtf8 (p.text P)).map P.sha256

/-- mirrors 44-48 (`_receipt_document`) -/
def receiptKey (commandId : Str) : Except Failure Str :=
  if commandId = [] then .error (.error "command_id is required")
  else
    match encodeUtf8 commandId with
    | some bs => .ok (P.sha256 bs)
    | none => .error .unicode

def receiptSchemaVersion : ℤ := 1

inductive Operation
  | remember
  | forget
deriving DecidableEq

/-- A document of `command_receipts`. -/
structure Receipt where
  schemaVersion : ℤ
  operation : Operation
  fingerprint : Str
  resultRevision : Option ℤ
  forgotten : Option Bool
  createdAt : Time
  expiresAt : Time

structure Firestore where
  document : Option CustomerMemory
  receipts : Entries Str Receipt

namespace Firestore

/-- mirrors 97-107 -/
def validateReceipt (snapshot : Option Receipt) (operation : Operation) (fingerprint : Str) :
    Except Failure (Option Receipt) :=
  match snapshot with
  | none => .ok none
  | some data =>
    if data.schemaVersion ≠ receiptSchemaVersion ∨ data.operation ≠ operation ∨
        data.fingerprint ≠ fingerprint then
      .error (.conflict "command id was reused with different data")
    else .ok (some data)

/-- mirrors 110-121 -/
def decodeMemory (snapshot : Option CustomerMemory) : Except Failure (Option CustomerMemory) :=
  if ∀ m ∈ snapshot, Bound C m then .ok snapshot
  else .error (.conflict "stored memory binding does not match its tenant path")

/-- A failure of a lookup is logged and reads as nothing.
mirrors 133-162 -/
def lookup (r : Firestore) (now : Time) : Option CustomerMemory :=
  match decodeMemory C r.document with
  | .ok memory => memory.filter fun m => m.isGreetingEligible now || alive now m
  | .error _ => none

/-- mirrors 195-239 (`_transaction`) -/
def rememberTransaction (r : Firestore) (c : Remember) (key fingerprint : Str) :
    Firestore × Except Failure CustomerMemory :=
  match decodeMemory C r.document with
  | .error e => (r, .error e)
  | .ok existing =>
    match validateReceipt (Entries.find? r.receipts key) .remember fingerprint with
    | .error e => (r, .error e)
    | .ok (some _) =>
      match existing with
      | none => (r, .error (.conflict "remember command was superseded by forget"))
      | some m => (r, .ok m)
    | .ok none =>
      match rememberCustomer P C existing c with
      | .error e => (r, .error e)
      | .ok updated =>
        ({ document := some updated
           receipts := Entries.set r.receipts key
            ⟨receiptSchemaVersion, .remember, fingerprint, some updated.val.revision, none,
              updated.val.updatedAt, updated.val.expiresAt⟩ },
          .ok updated)

/-- mirrors 164-248 -/
def remember (r : Firestore) (c : Remember) : Firestore × Except Failure CustomerMemory :=
  match receiptKey P c.commandId with
  | .error e => (r, .error e)
  | .ok key =>
    match c.print.digest P with
    | none => (r, .error .unicode)
    | some fingerprint => rememberTransaction P C r c key fingerprint

/-- mirrors 270-321 (`_transaction`) -/
def forgetTransaction (r : Firestore) (c : Forget) (key fingerprint : Str) :
    Firestore × Except Failure Bool :=
  match validateReceipt (Entries.find? r.receipts key) .forget fingerprint with
  | .error e => (r, .error e)
  | .ok (some receipt) =>
    match receipt.forgotten with
    | some b => (r, .ok b)
    | none => (r, .error (.conflict "forget receipt has an invalid outcome"))
  | .ok none =>
    match decodeMemory C r.document with
    | .error e => (r, .error e)
    | .ok memory =>
      let actualRevision := memory.elim 0 fun m => m.val.revision
      if c.expectedRevision ≠ actualRevision then
        (r, .error (.staleRevision c.expectedRevision actualRevision))
      else
        ({ document := none
           receipts := Entries.set r.receipts key
            ⟨receiptSchemaVersion, .forget, fingerprint, none, some memory.isSome, c.createdAt,
              c.expiresAt⟩ },
          .ok memory.isSome)

/-- mirrors 250-329 -/
def forget (r : Firestore) (c : Forget) : Firestore × Except Failure Bool :=
  match receiptKey P c.commandId with
  | .error e => (r, .error e)
  | .ok key =>
    match c.print.digest P with
    | none => (r, .error .unicode)
    | some fingerprint => forgetTransaction C r c key fingerprint

end Firestore

/-! ## Side by side -/

structure World where
  inMemory : InMemory
  firestore : Firestore

def World.empty : World := ⟨⟨none, []⟩, ⟨none, []⟩⟩

inductive Command
  | lookup (now : Time)
  | remember (c : Remember)
  | forget (c : Forget)

inductive Reply
  | found (m : Option CustomerMemory)
  | remembered (r : Except Failure CustomerMemory)
  | forgot (r : Except Failure Bool)

def Reply.accepted : Reply → Bool
  | .found _ => true
  | .remembered r => r.toBool
  | .forgot r => r.toBool

def step : Machine World Command (Reply × Reply) := fun w command =>
  match command with
  | .lookup now => (w, .found (w.inMemory.lookup now), .found (w.firestore.lookup C now))
  | .remember c =>
    let (r, answer) := w.inMemory.remember P C c
    let (r', answer') := w.firestore.remember P C c
    (⟨r, r'⟩, .remembered answer, .remembered answer')
  | .forget c =>
    let (r, answer) := w.inMemory.forget c
    let (r', answer') := w.firestore.forget P C c
    (⟨r, r'⟩, .forgot answer, .forgot answer')

end HeyKevin.L11.Memory
