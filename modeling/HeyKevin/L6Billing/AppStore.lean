import HeyKevin.Core.Machine
import HeyKevin.Core.Fallible
import HeyKevin.L1Encoding.Python
/-!
# App Store notifications and the entitlement of one account

mirrors `handle_appstore_notification` (app/services/subscription.py:1187-1622)
for the notifications that carry a transaction: the decoded payload is checked,
its `appAccountToken` finds the account, the original transaction is bound to
it, and the entitlement fields of its document are updated, unless a number
release in progress holds the update (app/db/contractors.py:737-798).

**Model.** One account: its document, and the registry of Apple transactions.
A delivery is a payload with the clock reading of its handling, so a history of
deliveries and redeliveries in any order is a run of `step`.

**Left out.** `DID_CHANGE_RENEWAL_STATUS`, and tokens of no active account:
both leave this function earlier and update nothing of the entitlement. Pushes,
payment measurement and logs. The text of the conflict that a held update is
recorded as.

Line numbers without a file are those of app/services/subscription.py.
-/
namespace HeyKevin.L6.AppStore

open HeyKevin.Core Binary64 L1 L1.Text

/-- What `float(v)` returns. -/
inductive PyFloat
  | finite (d : Double)
  | nonFinite (f : NonFinite)
deriving DecidableEq

structure Env where
  python : Python
  /-- `float(s)` of a string; `none` where it raises -/
  floatOf : Str → Option PyFloat
  /-- `_decode_jws_payload`: base64 and JSON -/
  decodeJws : Str → Value
  /-- `_release_conflict_payload(state, updates, prior)` -/
  conflictPayload : Value → Dict → Value → Value

/-- The document of a contractor, and `apple_transactions`. -/
structure Account where
  contractorId : Str
  doc : Dict
  transactions : Entries Str Dict

/-- A payload and `time.time()` when it is handled. -/
structure Delivery where
  now : Double
  payload : Dict

inductive Outcome
  | returned (ok : Bool)
  /-- The account was not found, or the notification is about renewal status. -/
  | elsewhere
  | raised
deriving DecidableEq

/-! ## Reading a transaction -/

/-- mirrors 352-356 (`PRODUCT_TO_TIER.get(product_id, "")`). -/
def productToTier (v : Value) : Str :=
  if v.isStr (py "com.kevin.callscreen.personal.monthly") then py "personal"
  else if v.isStr (py "com.kevin.callscreen.business.monthly") then py "business"
  else if v.isStr (py "com.kevin.callscreen.businesspro.monthly") then py "businessPro"
  else []

def dateAt (info : Dict) (key : String) : Except String (Option Number) :=
  if info.has key then
    match (info.get key).finite? with
    | some n => if 0 < n.val then .ok (some n) else .error "malformed_revocation_date"
    | none => .error "malformed_revocation_date"
  else .ok none

/-- mirrors 359-406,
without the date itself. -/
def parseRevocationDate (info : Dict) : Except String Bool := do
  let canonical ← dateAt info "revocationDate"
  let other ← dateAt info "revokedDate"
  match canonical, other with
  | some a, some b => if a.val = b.val then .ok true else .error "conflicting_revocation_date"
  | none, none => .ok false
  | _, _ => .ok true

/-- `float(v or 0)`; 0 where it raises. -/
def floatOrZero (E : Env) (v : Value) : PyFloat :=
  let zero := PyFloat.finite (.ofRat 0)
  if v.truthy then
    match v with
    | .number n => .finite n.toFloat
    | .bool _ => .finite (.ofRat 1)
    | .nonFinite f => .nonFinite f
    | .str s => (E.floatOf s).getD zero
    | _ => zero
  else zero

/-- mirrors 498-529. -/
def activeSubscriptionExpiresTs (E : Env) (now : Double) (info : Dict) : Option Value :=
  match parseRevocationDate info with
  | .error _ | .ok true => none
  | .ok false =>
    match floatOrZero E (info.get "expiresDate") with
    | .finite ms =>
      let ts := Number.divInt (.float ms) 1000
      if ms.val ≤ 0 then none else if ts.val ≤ now.val then none else some (.number (.float ts))
    | .nonFinite .negInf => none
    | .nonFinite f => some (.nonFinite f)

/-- mirrors 742-751. -/
def resolveOriginalTransactionId (E : Env) (info : Dict) : Str :=
  let either (a b : String) := if (info.get a).truthy then info.get a else info.get b
  let original := either "originalTransactionId" "original_transaction_id"
  if original.truthy then E.python.strOrEmpty original
  else E.python.strOrEmpty (either "transactionId" "transaction_id")

/-! ## Updating the account -/

inductive ReleaseAwareMutationResult
  | applied
  | cancelled
  | held
deriving DecidableEq

def claimField : String := "number_release_claim"
def conflictField : String := "number_release_conflict"

/-- `raw_claim.get("state", "reserved")` -/
def claimState (claim : Dict) : Value :=
  if claim.has "state" then claim.get "state" else .text "reserved"

/-- mirrors app/db/contractors.py:737-798 (`apply_release_aware_contractor_update`),
for updates that leave the claim alone. -/
def applyReleaseAware (E : Env) (now : Double) (doc updates : Dict) :
    Dict × ReleaseAwareMutationResult :=
  match doc.get claimField with
  | .none => (doc.update updates, .applied)
  | .dict claim =>
    let state := claimState claim
    if state.isStr (py "reserved") then
      let cancelled := (Dict.set claim "state" (.text "cancelled")).set "cancelled_at"
        (.int (Number.floor now))
      ((doc.update updates).set claimField (.dict cancelled), .cancelled)
    else if state.isStr (py "cancelled") then (doc.update updates, .applied)
    else
      let held :=
        if state.isStr (py "deleting") then
          (Dict.set claim "state" (.text "needs_attention")).set "held_at" (.int (Number.floor now))
        else claim
      ((doc.set claimField (.dict held)).set conflictField
        (E.conflictPayload state updates (doc.get conflictField)), .held)
  | _ => (doc.set conflictField (E.conflictPayload (.text "malformed") updates .none), .held)

/-- mirrors app/db/apple_transactions.py:72-137. -/
def claimTransaction (now : Double) (a : Account) (original : Str)
    (transactionId productId environment : Str) : Account × Bool :=
  let named (k : String) (v : Str) : Dict := if v.isEmpty then [] else [(k, .str v)]
  let filled : Dict := named "last_transaction_id" transactionId ++ named "product_id" productId ++
    named "environment" environment
  let seen : Value := .number (.float now)
  let write (entry : Dict) : Account × Bool :=
    ({ a with transactions := a.transactions.set original entry }, true)
  if original.isEmpty || a.contractorId.isEmpty then (a, false)
  else
    match a.transactions.find? original with
    | some data =>
      let existing := Dict.get data "contractor_id"
      if existing.truthy && !existing.isStr a.contractorId then (a, false)
      else write (Dict.update data (("last_seen_at", seen) :: filled))
    | none => write (("contractor_id", .str a.contractorId) :: ("first_seen_at", seen) ::
        ("last_seen_at", seen) :: filled)

/-! ## The handler -/

structure Notification where
  notificationType : Value
  subtype : Value
  info : Dict
  token : Str

/-- The checks before the account is looked up
(app/services/subscription.py:1204-1207, 1419-1437). -/
def parse (E : Env) (payload : Dict) : Except Outcome Notification :=
  let str (d : Dict) (k : String) := if d.has k then d.get k else .str []
  let notificationType := str payload "notificationType"
  if notificationType.isStr (py "DID_CHANGE_RENEWAL_STATUS") then .error .elsewhere
  else
    match (if payload.has "data" then payload.get "data" else .dict []) with
    | .dict data =>
      let decoded : Except Outcome Value :=
        match str data "signedTransactionInfo" with
        | .str [] => .ok (.dict [])
        | .str signed => .ok (E.decodeJws signed)
        | v => if v.truthy then .error .raised else .ok (.dict [])
      match decoded with
      | .error o => .error o
      | .ok (.dict info) =>
        match parseRevocationDate info, str info "appAccountToken" with
        | .error _, _ => .error (.returned false)
        | .ok _, .str [] => .error (.returned false)
        | .ok _, .str token => .ok ⟨notificationType, str payload "subtype", info, token⟩
        | .ok _, _ => .error (.returned false)
      | .ok _ => .error (.returned false)
    | _ => .error .raised

/-- mirrors 1184 (`TERMINAL_NOTIFICATION_TYPES`). -/
def Notification.isTerminal (n : Notification) : Bool :=
  n.notificationType.isStr (py "EXPIRED") || n.notificationType.isStr (py "REFUND") ||
    n.notificationType.isStr (py "REVOKE")

/-- A new or renewed subscription, or an upgrade
(app/services/subscription.py:1571-1572). -/
def Notification.isCharge (n : Notification) : Bool :=
  n.notificationType.isStr (py "DID_RENEW") || n.notificationType.isStr (py "SUBSCRIBED") ||
    (n.notificationType.isStr (py "DID_CHANGE_RENEWAL_PREF") && n.subtype.isStr (py "UPGRADE"))

/-- The fields a notification sets; `none` where it is refused. -/
def entitlement (E : Env) (now : Double) (n : Notification) : Option Dict :=
  if n.isCharge then
    let tier := productToTier (n.info.get "productId")
    match activeSubscriptionExpiresTs E now n.info with
    | some expires =>
      if tier.isEmpty then none
      else some [("subscription_tier", .str tier), ("subscription_status", .text "active"),
        ("subscription_expires", expires)]
    | none => none
  else if n.isTerminal then some [("subscription_status", .text "expired")]
  else some []

def Account.owns (a : Account) (token : Str) : Bool :=
  (a.doc.get "subscription_uuid").isStr token &&
    match a.doc.get "active" with
    | .bool b => b
    | _ => false

/-- `str(d.get(k, ""))` -/
def strAt (E : Env) (d : Dict) (k : String) : Str :=
  match (if d.has k then d.get k else .str []) with
  | .str s => s
  | v => E.python.strOf v

/-- The registry accepts the transaction, or there is none to bind
(app/services/subscription.py:1555-1569). -/
def bindTransaction (E : Env) (now : Double) (a : Account) (info : Dict) : Account × Bool :=
  let original := resolveOriginalTransactionId E info
  if original.isEmpty then (a, true)
  else claimTransaction now a original (strAt E info "transactionId") (strAt E info "productId")
    (strAt E info "environment")

def handle (E : Env) : Machine Account Delivery Outcome := fun a d =>
  match parse E d.payload with
  | .error o => (a, o)
  | .ok n =>
    if a.owns n.token = false then (a, .elsewhere)
    else
      let (a, bound) := bindTransaction E d.now a n.info
      if bound = false then (a, .returned false)
      else
        match entitlement E d.now n with
        | none => (a, .returned false)
        | some [] => (a, .returned true)
        | some updates =>
          ({ a with doc := (applyReleaseAware E d.now a.doc updates).1 }, .returned true)

end HeyKevin.L6.AppStore
