import HeyKevin.Core.Session
import HeyKevin.L1Encoding.IsoFormat
import HeyKevin.L7Tokens.Credentials
import HeyKevin.L14Calendar.ServiceMetadata
/-!
# Moving an appointment

mirrors `reschedule_appointment` of app/services/calendar.py for a managed
operation: the event is read, and where it stands at the base schedule it is
written under the etag that was read, behind a claim of the intent store. A
write that is answered 401 is tried once more under a second claim.

**Model.** Every `await` is a question to an environment that answers as it
likes: with a value, with an exception, or with the cancellation of the task
that awaits. A shielded task that was cancelled is awaited once more, which is
a question of its own. The contractor, the provider, the bound operation and
the event are the same in every question of a call and are not repeated in it.

* `validateNonRecurringTimedEvent`: what an answer has to show.
* `settlePatch`: what becomes of the claim once its write is answered.
* `rescheduleAppointment`: the whole function.

Line numbers are those of app/services/calendar.py.
-/
namespace HeyKevin.L14.Reschedule

open HeyKevin.Core L1 L1.Text L1.Datetime

/-! ## Schedules -/

variable (P : Python)

/-- mirrors 1250-1263 -/
def parseAwareDatetime (value : Value) : Option DateTime :=
  match value with
  | .time t => if t.offset.isSome then some t else none
  | .str s =>
    if 0 < (strip s).length ∧ (strip s).length ≤ 80 then
      match fromisoformatText P (strip s) with
      | some t => if t.offset.isSome then some t else none
      | none => none
    else none
  | _ => none

/-- mirrors 1266-1268; `none` is the
`OverflowError` of `astimezone` -/
def normalizeUtcWholeSecond (t : DateTime) : Option DateTime :=
  t.astimezoneUtc.map fun u =>
    { u with micros := u.micros - u.micros % 1000000,
             inRange := (Nat.sub_le _ _).trans_lt u.inRange }

structure Interval where
  start : DateTime
  stop : DateTime
deriving DecidableEq

/-- What leaves a block: a `return`, or an exception. -/
inductive Exit
  | returned (result : Bool)
  | leaseError
  | exception
  | cancelledError

def Interval.inOrder (i : Interval) : Bool := decide (i.start.instant < i.stop.instant)

def parseInterval (start stop : Value) : Option Interval :=
  match parseAwareDatetime P start, parseAwareDatetime P stop with
  | some start, some stop => if (Interval.mk start stop).inOrder then some ⟨start, stop⟩ else none
  | _, _ => none

def Interval.normalize (i : Interval) : Except Exit Interval :=
  match normalizeUtcWholeSecond i.start, normalizeUtcWholeSecond i.stop with
  | some start, some stop => .ok ⟨start, stop⟩
  | _, _ => .error .exception

/-- mirrors 1271-1316: the interval
and the etag of the event -/
def validateNonRecurringTimedEvent (expectedEventId : Str) (event : Value) :
    Except Exit (Option (Interval × Str)) :=
  match event with
  | .dict d =>
    if !(Dict.get d "id").isStr expectedEventId then .ok none
    else if (Dict.get d "status").isStr (py "cancelled") then .ok none
    else if Dict.has d "recurrence" || Dict.has d "recurringEventId" ||
        Dict.has d "originalStartTime" then .ok none
    else
      match eventEtag event, Dict.get d "start", Dict.get d "end" with
      | some etag, .dict start, .dict stop =>
        if Dict.has start "date" || Dict.has stop "date" then .ok none
        else
          match Dict.get start "dateTime", Dict.get stop "dateTime" with
          | .str startRaw, .str endRaw =>
            match parseInterval P (.str startRaw) (.str endRaw) with
            | some parsed => parsed.normalize.map fun utc =>
              if utc.inOrder then some (utc, etag) else none
            | none => .ok none
          | _, _ => .ok none
      | _, _, _ => .ok none
  | _ => .ok none

/-! ## Questions to the environment -/

abbrev Claim := Str

structure Response where
  statusCode : ℤ
  /-- `resp.json()`; `none` where it raises -/
  json : Option Value

/-- What `load_durable_provider_snapshot` gives. -/
structure Snapshot where
  generation : ℤ
  lifecycleEpoch : ℤ
  accessTokenRaw : Value
  refreshTokenRaw : Value
  accessToken : Str

/-- How an `await` ends. -/
inductive Awaited (α : Type)
  | returned (a : α)
  /-- `IntegrationTokenLeaseError` -/
  | leaseError
  | exception
  | cancelled

structure PatchRequest where
  token : Str
  ifMatch : Str
  body : Value

inductive Ask
  /-- the GET through `_with_token_refresh`, with its authorization context -/
  | getEvent
  | acquire (snapshot : Snapshot)
  | acquireTask (snapshot : Snapshot)
  | start (claim : Claim) (snapshot : Snapshot)
  | startTask (claim : Claim) (snapshot : Snapshot)
  | terminalize (claim : Claim)
  | terminalizeTask (claim : Claim)
  | markUncertain (claim : Claim) (snapshot : Snapshot)
  /-- the PATCH, under the claim that was started for it -/
  | patch (claim : Claim) (request : PatchRequest)
  | sleep
  | loadSnapshot
  /-- `refresh_access_token(contractor, force=True)`, whether it gives a token -/
  | refresh

def Ask.Answer : Ask → Type
  | .getEvent => Awaited (Option (Response × Snapshot))
  | .acquire _ => Awaited Claim
  | .acquireTask _ => Awaited Claim
  | .start _ _ => Awaited Unit
  | .startTask _ _ => Awaited Unit
  | .terminalize _ => Awaited Bool
  | .terminalizeTask _ => Awaited Bool
  | .markUncertain _ _ => Awaited Unit
  | .patch _ _ => Awaited Response
  | .sleep => Awaited Unit
  | .loadSnapshot => Awaited (Option Snapshot)
  | .refresh => Awaited Bool

abbrev Call := Prog Ask.Answer Unit Exit

def settle {α : Type} : Awaited α → Call α
  | .returned a => pure a
  | .leaseError => .raise .leaseError
  | .exception => .raise .exception
  | .cancelled => .raise .cancelledError

def ask (q : Ask) : Call q.Answer := Prog.ask q

/-- `with suppress(Exception): p` -/
def suppressException {α : Type} (p : Call α) : Call Unit :=
  .handle (p >>= fun _ => pure ()) fun
    | .leaseError => pure ()
    | .exception => pure ()
    | e => .raise e

/-- `with suppress(BaseException): p` -/
def suppressBaseException {α : Type} (p : Call α) : Call Unit :=
  .handle (p >>= fun _ => pure ()) fun
    | .returned result => .raise (.returned result)
    | _ => pure ()

/-- `except asyncio.CancelledError: raise` and `except Exception: return False` -/
def orFalse {α : Type} (p : Call α) : Call α :=
  .handle p fun
    | .leaseError => .raise (.returned false)
    | .exception => .raise (.returned false)
    | e => .raise e

def terminalize (claim : Claim) : Call Bool := do
  let answer : Awaited Bool ← ask (.terminalize claim)
  settle answer

/-- mirrors 1763-1778 -/
def terminalizePreHttpClaim (claim : Claim) : Call Unit :=
  .handle (terminalize claim >>= fun _ => pure ()) fun
    | .cancelledError => do
      suppressBaseException do
        let answer : Awaited Bool ← ask (.terminalizeTask claim)
        settle answer
      .raise .cancelledError
    | e => .raise e

/-- `await acquire_task` -/
def awaitAcquireTask (snapshot : Snapshot) : Call Claim := do
  let answer : Awaited Claim ← ask (.acquireTask snapshot)
  settle answer

def acquiredClaim (snapshot : Snapshot) : Call (Option Claim) :=
  .handle (awaitAcquireTask snapshot >>= fun claim => pure (some claim)) fun _ => pure none

def handBack : Option Claim → Call Unit
  | some claim => suppressBaseException (terminalizePreHttpClaim claim)
  | none => pure ()

/-- mirrors 1780-1805 -/
def acquireBoundClaim (snapshot : Snapshot) : Call Claim :=
  .handle
    (do
      let answer : Awaited Claim ← ask (.acquire snapshot)
      settle answer)
    fun
    | .cancelledError => do
      let acquired ← acquiredClaim snapshot
      handBack acquired
      .raise .cancelledError
    | e => .raise e

/-- mirrors 1807-1831 -/
def transitionBoundClaimToStarted (claim : Claim) (snapshot : Snapshot) : Call Unit :=
  .handle
    (do
      let answer : Awaited Unit ← ask (.start claim snapshot)
      settle answer)
    fun
    | .cancelledError => do
      suppressBaseException do
        let answer : Awaited Unit ← ask (.startTask claim snapshot)
        settle answer
      suppressBaseException (terminalizePreHttpClaim claim)
      .raise .cancelledError
    | e => .raise e

def sleep : Call Unit := do
  let answer : Awaited Unit ← ask .sleep
  settle answer

def acquireWithRetries (snapshot : Snapshot) : ℕ → Call Claim
  | 0 => acquireBoundClaim snapshot
  | n + 1 =>
    .handle (acquireBoundClaim snapshot) fun
      | .leaseError => do
        sleep
        acquireWithRetries snapshot n
      | e => .raise e

/-! ## The function -/

structure Input where
  contractor : Dict
  eventId : Str
  baseStart : Value
  baseEnd : Value
  desiredStart : Value
  desiredEnd : Value
  logicalOperationId : Str

/-- mirrors 1179-1184 -/
def validManagedOperationId (s : Str) : Bool := Python.isDigest s

def validCid (contractor : Dict) : Option Str :=
  let rawCid := if (Dict.get contractor "contractor_id").truthy
    then Dict.get contractor "contractor_id" else Dict.get contractor "id"
  match rawCid with
  | .str s => (L7.Tokens.validateTokenString "contractor_id" (.str (strip s))).toOption
  | _ => none

def patchBody (desired : Interval) : Value :=
  .dict [("start", .dict [("dateTime", .str (isoformat desired.start))]),
    ("end", .dict [("dateTime", .str (isoformat desired.stop))])]

def sameType : Value → Value → Bool
  | .none, .none => true
  | .bool _, .bool _ => true
  | .number (.int _), .number (.int _) => true
  | .number (.float _), .number (.float _) => true
  | .number (.float _), .nonFinite _ => true
  | .nonFinite _, .number (.float _) => true
  | .nonFinite _, .nonFinite _ => true
  | .str _, .str _ => true
  | .time _, .time _ => true
  | .list _, .list _ => true
  | .dict _, .dict _ => true
  | _, _ => false

/-- mirrors 87-101 -/
def sameProviderAuthorizationSnapshot (left : Option Snapshot) (right : Snapshot) : Bool :=
  match left with
  | some left =>
    decide (left.generation = right.generation) &&
    decide (left.lifecycleEpoch = right.lifecycleEpoch) &&
    sameType left.accessTokenRaw right.accessTokenRaw &&
    left.accessTokenRaw.eq right.accessTokenRaw &&
    sameType left.refreshTokenRaw right.refreshTokenRaw &&
    left.refreshTokenRaw.eq right.refreshTokenRaw
  | none => false

def getEvent : Call (Option (Response × Snapshot)) := do
  let answer : Awaited (Option (Response × Snapshot)) ← ask .getEvent
  settle answer

def loadDurableProviderSnapshot : Call (Option Snapshot) := do
  let answer : Awaited (Option Snapshot) ← ask .loadSnapshot
  settle answer

def refreshAccessToken : Call Bool := do
  let answer : Awaited Bool ← ask .refresh
  settle answer

/-- A transition to `outcome_uncertain`, whose failure is ignored. -/
def markUncertain (claim : Claim) (snapshot : Snapshot) : Call Unit :=
  suppressException do
    let answer : Awaited Unit ← ask (.markUncertain claim snapshot)
    settle answer

def sendPatch (claim : Claim) (snapshot : Snapshot) (etag : Str) (desired : Interval) :
    Call Response := do
  let answer : Awaited Response ← ask (.patch claim ⟨snapshot.accessToken, etag, patchBody desired⟩)
  match answer with
  | .returned response => pure response
  | .cancelled => do
    markUncertain claim snapshot
    .raise .cancelledError
  | _ => do
    markUncertain claim snapshot
    .raise (.returned false)

def showsInterval (eventId : Str) (response : Response) (interval : Interval) :
    Except Exit Bool :=
  match response.json with
  | some event => (validateNonRecurringTimedEvent P eventId event).map fun validated =>
    match validated with
    | some (shown, _) => decide (shown = interval)
    | none => false
  | none => .ok false

/-- What becomes of a claim once its write is answered.
mirrors 1955-2035 and its copy 2037-2120 -/
def settlePatch (eventId : Str) (desired : Interval) (claim : Claim) (snapshot : Snapshot)
    (response : Response) : Call Bool := do
  if 400 ≤ response.statusCode ∧ response.statusCode < 500 then
    suppressException (terminalize claim)
    pure false
  else if ¬ (200 ≤ response.statusCode ∧ response.statusCode < 300) then
    markUncertain claim snapshot
    pure false
  else
    match showsInterval P eventId response desired with
    | .error e => .raise e
    | .ok false => do
      markUncertain claim snapshot
      pure false
    | .ok true => terminalize claim

def acquireAndStart (snapshot : Snapshot) : Call Claim := do
  let claim ← acquireBoundClaim snapshot
  transitionBoundClaimToStarted claim snapshot
  pure claim

/-- The second attempt, after a write that was answered 401.
mirrors 1898-2035 -/
def retryPatch (eventId etag : Str) (desired : Interval) (claim : Claim) (snapshot : Snapshot) :
    Call Bool := do
  let confirmed ← terminalize claim
  .check confirmed (.returned false)
  let preRefresh ← loadDurableProviderSnapshot
  .check (sameProviderAuthorizationSnapshot preRefresh snapshot) (.returned false)
  let refreshed ← refreshAccessToken
  .check refreshed (.returned false)
  let loaded ← loadDurableProviderSnapshot
  let retrySnapshot ← .need loaded (.returned false)
  .check (decide (retrySnapshot.lifecycleEpoch = snapshot.lifecycleEpoch)) (.returned false)
  let retryClaim ← orFalse (acquireAndStart retrySnapshot)
  let response ← sendPatch retryClaim retrySnapshot etag desired
  settlePatch P eventId desired retryClaim retrySnapshot response

/-- The write of an event that stands at the base schedule.
mirrors 1833-2120 -/
def patchManaged (eventId etag : Str) (desired : Interval) (snapshot : Snapshot) : Call Bool := do
  let claim ← orFalse (acquireWithRetries snapshot 5)
  .handle (transitionBoundClaimToStarted claim snapshot) fun
    | .leaseError => do
      suppressException (terminalizePreHttpClaim claim)
      .raise (.returned false)
    | .exception => do
      suppressException (terminalizePreHttpClaim claim)
      .raise (.returned false)
    | e => .raise e
  let response ← sendPatch claim snapshot etag desired
  if response.statusCode = 401 then retryPatch P eventId etag desired claim snapshot
  else settlePatch P eventId desired claim snapshot response

def readSchedule (input : Input) : Except Exit (Interval × Interval) :=
  match parseInterval P input.baseStart input.baseEnd,
    parseInterval P input.desiredStart input.desiredEnd with
  | some base, some desired => do
    let base ← base.normalize
    let desired ← desired.normalize
    if base.inOrder && desired.inOrder then .ok (base, desired) else .error (.returned false)
  | _, _ => .error (.returned false)

def lift {α : Type} : Except Exit α → Call α
  | .ok a => pure a
  | .error e => .raise e

def moveEvent (input : Input) (base desired : Interval) : Call Bool := do
  let authorized ← orFalse getEvent
  let (response, snapshot) ← .need authorized (.returned false)
  .check (decide (200 ≤ response.statusCode ∧ response.statusCode < 300)) (.returned false)
  let event ← .need response.json (.returned false)
  let validated ← lift (validateNonRecurringTimedEvent P input.eventId event)
  let (current, etag) ← .need validated (.returned false)
  .check (decide (current ≠ desired)) (.returned true)
  .check (decide (current = base)) (.returned false)
  .check (validCid input.contractor).isSome (.returned false)
  patchManaged P input.eventId etag desired snapshot

def rescheduleBody (input : Input) : Call Bool := do
  .check (validManagedOperationId input.logicalOperationId) (.returned false)
  .check (!input.eventId.isEmpty) (.returned false)
  let schedule ← lift (readSchedule P input)
  moveEvent P input schedule.1 schedule.2

/-- mirrors 1493-2120 with a logical operation
id -/
def rescheduleAppointment (input : Input) : Call Bool :=
  .handle (rescheduleBody P input) fun
    | .returned result => pure result
    | e => .raise e

end HeyKevin.L14.Reschedule
