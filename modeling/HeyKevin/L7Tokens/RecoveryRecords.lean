import HeyKevin.L1Encoding.Json
import HeyKevin.L1Encoding.Python
/-!
# Records of the disconnect recovery

mirrors app/db/jobber_disconnect_receipts.py: the strict validators of the
control record, an account barrier, a work record and the scan cursor
(225-505), the rule that ties three of them to one account (680-698), and the
poison marker of app/services/jobber_disconnect_recovery.py:67-91.

A validator raises a `JobberDisconnectError` or returns a copy of the record;
it is a test here. A key that must not be stored is not an expected one either.

**Left out.** The texts of the errors.

Line numbers without a file are those of app/db/jobber_disconnect_receipts.py.
-/
namespace HeyKevin.L7.Recovery

open HeyKevin.Core L1 L1.Text

def maxReceiptCounter : ℤ := 2147483647

def maxWorkAttempts : ℤ := 5

/-! ## Fields -/

/-- `type(v) in (int, float) and math.isfinite(v) and v > 0.0` -/
def isPositive (v : Value) : Bool := v.finite?.any fun n => 0 < n.val

/-- `type(v) is int and low <= v <= high` -/
def isBounded (low high : ℤ) : Value → Bool
  | .number (.int n) => decide (low ≤ n ∧ n ≤ high)
  | _ => false

def isSchemaVersion : Value → Bool := isBounded 1 1

/-- mirrors 109-122 -/
def isValidOpaqueId : Value → Bool
  | .str s => decide (1 ≤ s.length ∧ s.length ≤ 1024) && s.all fun c => !isSpace c && !isCc c
  | _ => false

def isAdmissionChar (c : CodePoint) : Bool :=
  (48 ≤ c.val && c.val < 58) || (97 ≤ c.val && c.val < 123) || (65 ≤ c.val && c.val < 91) ||
    c.val == 0x5f || c.val == 0x2d

/-- `_ADMISSION_ID_REGEX.fullmatch(v)` of a string -/
def isAdmissionId : Value → Bool
  | .str s => decide (1 ≤ s.length ∧ s.length ≤ 128) && s.all isAdmissionChar
  | _ => false

/-- `_HEX_64_REGEX.fullmatch(v)` of a string -/
def isHex64 : Value → Bool
  | .str s => Python.isDigest s
  | _ => false

/-- `s not in (".", "..") and "/" not in s and not (s.startswith("__") and s.endswith("__"))` -/
def isPathSegment (s : Str) : Bool :=
  !decide (s = py ".") && !decide (s = py "..") && !s.contains 0x2f &&
    !((py "__").isPrefixOf s && (py "__").isSuffixOf s)

/-- mirrors 156-165 -/
def isFirestoreDocumentId (s : Str) : Bool :=
  match encodeUtf8 s with
  | some bytes => decide (1 ≤ bytes.length ∧ bytes.length ≤ 1500) && isPathSegment s
  | none => false

/-- `len(s.encode("utf-8", errors="replace"))` -/
def replacedLength (s : Str) : ℕ :=
  (s.map fun c => ((encodeCodePoint c).map List.length).getD 1).sum

/-- mirrors 168-172 -/
def isSafeDocumentId : Value → Bool
  | .str s => decide (1 ≤ replacedLength s ∧ replacedLength s ≤ 1500) && isPathSegment s &&
      s.all fun c => !isSpace c && !isCc c
  | _ => false

def isNone : Value → Bool
  | .none => true
  | _ => false

def isOptional (check : Value → Bool) (v : Value) : Bool := isNone v || check v

/-- `v in VALID_WORK_STATUSES` for a string -/
def isWorkStatus (v : Value) : Bool :=
  ["pending", "processing", "completed", "needs_review"].any fun s => v.isStr (py s)

def textOf : Value → Str
  | .str s => s
  | _ => []

def intOf : Value → ℤ
  | .number (.int n) => n
  | _ => 0

def secondsOf (v : Value) : ℚ := (v.finite?.map Number.val).getD 0

abbrev Schema := List (String × (Value → Bool))

def Schema.holds (schema : Schema) (d : Dict) : Bool :=
  d.keysAre (schema.map Prod.fst) && schema.all fun f => f.2 (d.get f.1)

/-! ## Records -/

def controlSchema : Schema :=
  [("schema_version", isSchemaVersion), ("expected_app_id", isValidOpaqueId),
    ("receipt_counter", isBounded 0 maxReceiptCounter),
    ("enforcement_active", fun v => match v with | .bool b => b | _ => false),
    ("updated_at", isPositive)]

/-- mirrors 225-261 (`validate_control_record`) -/
def validControl (d : Dict) : Bool := controlSchema.holds d

def barrierSchema : Schema :=
  [("schema_version", isSchemaVersion), ("app_id", isValidOpaqueId),
    ("account_id", isValidOpaqueId), ("barrier", isBounded 0 maxReceiptCounter),
    ("last_receipt_id", isAdmissionId), ("updated_at", isPositive)]

/-- mirrors 264-312 (`validate_barrier_record`) -/
def validBarrier (appId accountId : Str) (d : Dict) : Bool :=
  barrierSchema.holds d && (d.get "app_id").isStr appId && (d.get "account_id").isStr accountId

/-- `[tag, "v1", app_id, account_id]` as compact JSON, hashed -/
def accountKey (P : Python) (tag : String) (appId accountId : Str) : Str :=
  P.sha256 ((encodeUtf8 (py "[" ++ Json.quotedAscii (py tag) ++ py ",\"v1\"," ++
    Json.quotedAscii appId ++ py "," ++ Json.quotedAscii accountId ++ py "]")).getD [])

/-- mirrors 175-182 -/
def computeAccountBarrierKey (P : Python) : Str → Str → Str := accountKey P "jobber_account_barrier"

/-- mirrors 185-192 -/
def computeWorkDocId (P : Python) : Str → Str → Str := accountKey P "jobber_disconnect_work"

def workSchema : Schema :=
  [("schema_version", isSchemaVersion), ("work_id", isHex64), ("app_id", isValidOpaqueId),
    ("account_id", isValidOpaqueId), ("barrier", isBounded 1 maxReceiptCounter),
    ("last_receipt_id", isAdmissionId), ("status", isWorkStatus),
    ("cursor", isOptional isSafeDocumentId), ("lease_id", isOptional isAdmissionId),
    ("lease_expires_at", isOptional isPositive), ("attempt_count", isBounded 0 maxWorkAttempts),
    ("next_attempt_at", isPositive), ("created_at", isPositive), ("updated_at", isPositive)]

def hasStatus (d : Dict) (status : String) : Bool := (d.get "status").isStr (py status)

/-- A lease that is complete under `processing`, and absent else. -/
def leaseMatches (d : Dict) : Bool :=
  if hasStatus d "processing" then !isNone (d.get "lease_id") && !isNone (d.get "lease_expires_at")
  else isNone (d.get "lease_id") && isNone (d.get "lease_expires_at")

/-- mirrors 380-479 (`validate_work_record`) -/
def validWork (P : Python) (d : Dict) : Bool :=
  workSchema.holds d &&
    (d.get "work_id").isStr (computeWorkDocId P (textOf (d.get "app_id"))
      (textOf (d.get "account_id"))) &&
    leaseMatches d && (!hasStatus d "completed" || isNone (d.get "cursor")) &&
    (!(hasStatus d "pending" || hasStatus d "processing") ||
      decide (intOf (d.get "attempt_count") < maxWorkAttempts))

def scanSchema : Schema :=
  [("schema_version", isSchemaVersion),
    ("cursor_work_id", fun v => match v with
      | .str s => isFirestoreDocumentId s
      | v => isNone v),
    ("updated_at", isPositive)]

/-- mirrors 482-504 (`validate_scan_cursor_record`) -/
def validScan (d : Dict) : Bool := scanSchema.holds d

/-- mirrors 680-698 (`validate_account_records`), where
nothing may be missing -/
def validAccount (P : Python) (control : Dict) (barrier : Option Dict) (work : Dict)
    (appId accountId : Str) : Bool :=
  validControl control && (control.get "expected_app_id").isStr appId &&
    match barrier with
    | none => false
    | some b =>
      validBarrier appId accountId b && validWork P work &&
        (work.get "work_id").isStr (computeWorkDocId P appId accountId) &&
        (work.get "app_id").isStr appId && (work.get "account_id").isStr accountId &&
        (work.get "barrier").eq (b.get "barrier") &&
        (work.get "last_receipt_id").eq (b.get "last_receipt_id") &&
        decide (1 ≤ intOf (b.get "barrier") ∧
          intOf (b.get "barrier") ≤ intOf (control.get "receipt_counter"))

/-! ## Poison markers -/

/-- mirrors app/services/jobber_disconnect_recovery.py:78-79 -/
def reviewDigest (P : Python) (workId : Str) : Str := P.sha256 ((encodeUtf8 workId).getD [])

/-- The key of `_review_ref`.
mirrors app/services/jobber_disconnect_recovery.py:67-70 -/
def reviewKey (P : Python) (workId : Str) : Str :=
  P.sha256 ((encodeUtf8 (py "[\"jobber_work_review\",1," ++ Json.quotedAscii workId ++
    py "]")).getD [])

structure ServerTime where
  seconds : Binary64.Double
  pos : 0 < seconds.val

def ServerTime.value (t : ServerTime) : Value := .number (.float t.seconds)

/-- mirrors app/services/jobber_disconnect_recovery.py:73-75 -/
def reviewPayload (P : Python) (workId : Str) (now : ServerTime) : Dict :=
  [("schema_version", .int 1), ("work_document_digest", .str (reviewDigest P workId)),
    ("reason", .text "invalid_work_record"), ("status", .text "needs_review"),
    ("created_at", now.value)]

def reviewSchema (P : Python) (workId : Str) : Schema :=
  [("schema_version", isSchemaVersion), ("work_document_digest", (·.isStr (reviewDigest P workId))),
    ("reason", (·.isStr (py "invalid_work_record"))), ("status", (·.isStr (py "needs_review"))),
    ("created_at", fun v => match v with | .number (.float d) => 0 < d.val | _ => false)]

/-- mirrors app/services/jobber_disconnect_recovery.py:82-88 (`_validate_review`) -/
def validReview (P : Python) (workId : Str) (d : Dict) : Bool := (reviewSchema P workId).holds d

end HeyKevin.L7.Recovery
