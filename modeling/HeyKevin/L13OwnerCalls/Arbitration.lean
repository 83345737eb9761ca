import HeyKevin.Core.Machine
import HeyKevin.L13OwnerCalls.Record
/-!
# Requests on a live call

Owners answer a waiting call from any of their devices, and a timer answers
for them. An accept is a saga over the record: claim, register the conference,
mark the redirect as started, redirect, finish; with a release that takes the
claim back while nothing was started. A status request may finish for it.

`step` runs any number of requests on one call. Each access to the record is a
step of its own, with its own clock readings; a transaction may fail, or
commit and lose its answer (`Answer`); a request that is never stepped again
has crashed. Twilio, the registry of conferences and the publication to old
consumers, which writes one field of the record, are moves of the environment.

Line numbers are those of app/services/owner_call_actions.py.
-/
namespace HeyKevin.L13

open HeyKevin.Core Binary64 L1 L1.Text

/-! ## Responses -/

structure Request where
  contractorId : Str
  operationId : Str

structure Response where
  request : Request
  action : Value
  actionStatus : Value
  status : String
  active : Bool
  urgent : Bool
  callerName : Value
  callerPhone : Value
  transcript : Value
  screeningReason : Str
  retryable : Bool
  /-- `conference_name` and `access_token` -/
  credentials : Option (Value × Str)

/-- mirrors 37-44 -/
def normalizeScreeningReason : Value → Str
  | .str s =>
    if strip s = [] ∨ strip s = py "Speaking with Kevin" then [] else (strip s).take 160
  | _ => []

/-- `record.get('owner_action_status') or STATUS_READY` -/
def statusOf (record : Record) : Value :=
  if (record.get "owner_action_status").truthy then record.get "owner_action_status"
  else .text "ready"

/-- `none` where it raises: the access token cannot be made, or there is no conference name.
mirrors 231-244 -/
def response (record : Record) (q : Request) (credentials : Bool) (token : Option Str) :
    Option Response :=
  let status := statusOf record
  let plain : Response :=
    { request := q
      action := getOrEmpty record "owner_action"
      actionStatus := status
      status :=
        if isOneOf status ["accepting", "uncertain", "message_requested"] then "pending" else "ok"
      active := true
      urgent := isBool (record.get "urgent") true
      callerName := getOrEmpty record "caller_name"
      callerPhone := getOrEmpty record "caller_phone"
      transcript := getOrEmpty record "transcript_buffer"
      screeningReason := normalizeScreeningReason (getOrEmpty record "screening_reason")
      retryable := false
      credentials := none }
  if credentials && status.isStr (py "accepted") then
    if record.has "conference_name" then
      token.map fun jwt => { plain with credentials := some (record.get "conference_name", jwt) }
    else none
  else some plain

/-- mirrors 333-336 -/
def endedResponse (q : Request) : Response where
  request := q
  action := .text ""
  actionStatus := .text "ended"
  status := "ok"
  active := false
  urgent := false
  callerName := .text ""
  callerPhone := .text ""
  transcript := .text ""
  screeningReason := []
  retryable := false
  credentials := none

inductive Reply
  | answered (r : Response) (code : ℕ)
  /-- An `HTTPException`; 500 is any other exception. -/
  | raised (code : ℕ)
  /-- What `arbitrate_owner_timeout` returns. -/
  | won (b : Bool)
  /-- What `ensure_owner_deadline` returns. -/
  | deadline (v : Value)

/-- A response, or the error that `_response` raised. -/
def reply (code : Response → ℕ) : Option Response → Reply
  | some r => .answered r (code r)
  | none => .raised 500

/-! ## The system -/

inductive Phase
  | idle
  | claimed (q : Request) (committed : Record)
  /-- The conference is registered and bound to the call. -/
  | bound (q : Request) (committed : Record)
  /-- The record was read again and still shows the claim. -/
  | verified (q : Request) (committed : Record)
  /-- An error before the redirect: the claim is to be released. -/
  | failing (q : Request) (committed : Record)
  | started (q : Request) (committed : Record)
  | redirected (q : Request) (committed : Record) (sent : Bool)
  /-- A status request that found the caller in the conference of this record. -/
  | observed (q : Request) (record : Record)
  | rereading (q : Request)
  | ended

structure World where
  record : Option Record
  phase : ℕ → Phase

def World.start (record : Option Record) : World := ⟨record, fun _ => .idle⟩

def World.move (w : World) (r : ℕ) (next : Phase) : World :=
  { w with phase := fun q => if q = r then next else w.phase q }

def World.transact (w : World) (answer : Answer) (written : Option Record) : World :=
  match answer, written with
  | .failed, _ => w
  | _, some d => { w with record := some d }
  | _, none => w

inductive Action
  /-- `handle_owner_call_action` up to its first transaction. -/
  | claim (r : ℕ) (action : OwnerAction) (contractorId : Str) (operationId : Option Str)
      (now later : Double) (answer : Answer) (token : Option Str)
  /-- The registration, the binding and the test token; `false` is an exception. -/
  | prepare (r : ℕ) (ok : Bool)
  /-- `false` is an exception. -/
  | readBack (r : ℕ) (later : Double) (ok : Bool)
  | mark (r : ℕ) (now later : Double) (answer : Answer)
  | release (r : ℕ) (now later : Double) (answer : Answer) (token : Option Str)
  /-- The provider is called; `false` is an exception. -/
  | redirect (r : ℕ) (ok : Bool)
  | finish (r : ℕ) (now later : Double) (answer : Answer) (token : Option Str)
  | timeout (r : ℕ) (contractorId : Str) (now later : Double) (answer : Answer)
  /-- `get_owner_call_action_status` up to its first read, and whether the conference contains
  the call; `false` is also the exception of that lookup. -/
  | status (r : ℕ) (contractorId operationId : Str) (now : Double) (contains : Bool)
      (token : Option Str)
  | statusFinish (r : ℕ) (now later : Double) (answer : Answer)
  | statusReread (r : ℕ) (now : Double) (token : Option Str)
  | ensureDeadline (contractorId : Str) (urgent : Bool) (deadline : Option Double)
      (now later : Double) (answer : Answer)
  /-- `publish_message_intent` writes its projection. -/
  | project (projection : Value)

structure Outcome where
  reply : Option Reply
  wrote : Bool

/-- mirrors 127-131 -/
def requireLive (record : Option Record) (contractorId : Str) (now : Double) : Option ℕ :=
  match record with
  | none => some 404
  | some d =>
    if (d.get "contractor_id").truthy && !(d.get "contractor_id").isStr contractorId then some 403
    else if liveRecord (some d) contractorId now then none
    else if d.isEmpty then some 404 else some 409

/-- `(operation_id or f'legacy_\x7baction\x7d').strip()` -/
def requestOperation (action : OwnerAction) (operationId : Option Str) : Str :=
  strip ((operationId.filter fun s => !s.isEmpty).getD (py "legacy_" ++ py action.value))

variable (callSid : Str) (nonce conference : ℕ → Str)

/-- The end of `get_owner_call_action_status` on a record; `none` is a 403.
mirrors 329-336,347-358 -/
def statusReply (record : Option Record) (q : Request) (now : Double) (token : Option Str) :
    Reply :=
  match record with
  | none => .answered (endedResponse q) 200
  | some d =>
    if (d.get "contractor_id").truthy && !(d.get "contractor_id").isStr q.contractorId then
      .raised 403
    else if liveRecord (some d) q.contractorId now = false then .answered (endedResponse q) 200
    else if !q.operationId.isEmpty && !(d.get "owner_operation_id").isStr q.operationId then
      reply (fun _ => 200) ((response d q false token).map fun r =>
        { r with status := "error", actionStatus := .text "action_conflict" })
    else
      let credentials :=
        !q.operationId.isEmpty && (d.get "owner_action_status").isStr (py "accepted")
      reply (fun _ => 200) (response d q credentials token)

/-- `202 if result['status'] == 'pending' else 200` -/
def pendingCode (r : Response) : ℕ := if r.status = "pending" then 202 else 200

def uncertainReply (committed : Record) (q : Request) (token : Option Str) : Reply :=
  reply (fun _ => 202)
    (response (committed.set "owner_action_status" (.text "uncertain")) q false token)

/-- One access to the record, or one move of the environment.
mirrors 247-378,671-686 -/
def step : Machine World Action Outcome := fun w action =>
  match action with
  | .claim r action contractorId operationId now later answer token =>
    match w.phase r with
    | .idle =>
      let q : Request := ⟨contractorId, requestOperation action operationId⟩
      if (strip contractorId).isEmpty then (w.move r .ended, ⟨some (.raised 403), false⟩)
      else if q.operationId.isEmpty ∨ 80 < q.operationId.length ∨ action = .timeout then
        (w.move r .ended, ⟨some (.raised 400), false⟩)
      else
        let name := if action = .accept then conference r else []
        let written := reduceActiveCallAction w.record action contractorId q.operationId (nonce r)
          name now
        let w' := w.transact answer written
        if answer ≠ .answered then (w'.move r .ended, ⟨some (.raised 500), wrote answer written⟩)
        else
          match requireLive w'.record contractorId later, w'.record with
          | none, some committed =>
            if (committed.get "owner_operation_id").isStr q.operationId = false ∨
                (committed.get "owner_action").isStr (py action.value) = false then
              (w'.move r .ended, ⟨some (.raised 409), wrote answer written⟩)
            else if action = .accept ∧ (committed.get "claim_nonce").isStr (nonce r) = true then
              (w'.move r (.claimed q committed), ⟨none, wrote answer written⟩)
            else
              (w'.move r .ended,
                ⟨some (reply pendingCode (response committed q true token)),
                  wrote answer written⟩)
          | code, _ => (w'.move r .ended, ⟨some (.raised (code.getD 404)), wrote answer written⟩)
    | _ => (w, ⟨none, false⟩)
  | .prepare r ok =>
    match w.phase r with
    | .claimed q committed =>
      (w.move r (if ok then .bound q committed else .failing q committed), ⟨none, false⟩)
    | _ => (w, ⟨none, false⟩)
  | .readBack r later ok =>
    match w.phase r with
    | .bound q committed =>
      if ok = false then (w.move r (.failing q committed), ⟨none, false⟩)
      else
        match w.record with
        | some d =>
          if sameClaim (some d) committed later &&
              (d.get "owner_action_status").isStr (py "accepting") then
            (w.move r (.verified q committed), ⟨none, false⟩)
          else (w.move r .ended, ⟨some (.raised 409), false⟩)
        | none => (w.move r .ended, ⟨some (.raised 409), false⟩)
    | _ => (w, ⟨none, false⟩)
  | .mark r now later answer =>
    match w.phase r with
    | .verified q committed =>
      let written := markRedirectStarted committed now w.record
      let w' := w.transact answer written
      if answer ≠ .answered then (w'.move r (.failing q committed), ⟨none, wrote answer written⟩)
      else if redirectStarted committed now later w'.record then
        (w'.move r (.started q committed), ⟨none, wrote answer written⟩)
      else (w'.move r .ended, ⟨some (.raised 409), wrote answer written⟩)
    | _ => (w, ⟨none, false⟩)
  | .release r now later answer token =>
    match w.phase r with
    | .failing q committed =>
      let written := releasePreparation committed now w.record
      let w' := w.transact answer written
      let result :=
        if answer = .answered ∧ preparationReleased committed later w'.record = true then
          reply (fun _ => 503) ((response committed q false token).map fun r =>
            { r with
              status := "error", actionStatus := .text "preparation_failed", retryable := true })
        else reply (fun _ => 202) (response committed q false token)
      (w'.move r .ended, ⟨some result, wrote answer written⟩)
    | _ => (w, ⟨none, false⟩)
  | .redirect r ok =>
    match w.phase r with
    | .started q committed => (w.move r (.redirected q committed ok), ⟨none, false⟩)
    | _ => (w, ⟨none, false⟩)
  | .finish r now later answer token =>
    match w.phase r with
    | .redirected q committed sent =>
      let target := if sent then "accepted" else "uncertain"
      let written := finish committed target now w.record
      let w' := w.transact answer written
      let result :=
        match sent && decide (answer = .answered), finished committed target later w'.record with
        | true, some final => reply pendingCode (response final q true token)
        | _, _ => uncertainReply committed q token
      (w'.move r .ended, ⟨some result, wrote answer written⟩)
    | _ => (w, ⟨none, false⟩)
  | .timeout r contractorId now later answer =>
    match w.phase r with
    | .idle =>
      let operationId := (py "timeout_" ++ callSid).take 80
      let written := reduceActiveCallAction w.record .timeout contractorId operationId (nonce r)
        [] now
      let w' := w.transact answer written
      let result : Reply :=
        if answer ≠ .answered then .raised 500
        else
          .won (liveRecord w'.record contractorId later && w'.record.any fun d =>
            (d.get "owner_action").isStr (py "timeout") &&
              isOneOf (d.get "owner_action_status") ["message_requested", "taking_message"])
      (w'.move r .ended, ⟨some result, wrote answer written⟩)
    | _ => (w, ⟨none, false⟩)
  | .status r contractorId operationId now contains token =>
    match w.phase r with
    | .idle =>
      let q : Request := ⟨contractorId, operationId⟩
      if (strip contractorId).isEmpty then (w.move r .ended, ⟨some (.raised 403), false⟩)
      else if 80 < operationId.length then (w.move r .ended, ⟨some (.raised 400), false⟩)
      else
        match w.record.filter fun d =>
          liveRecord (some d) contractorId now && !operationId.isEmpty &&
            (d.get "owner_operation_id").isStr operationId &&
            (d.get "owner_action").isStr (py "accept") &&
            isOneOf (d.get "owner_action_status") ["accepting", "uncertain"] &&
            (d.get "conference_name").truthy with
        | some d =>
          (w.move r (if contains then .observed q d else .rereading q), ⟨none, false⟩)
        | none => (w.move r .ended, ⟨some (statusReply w.record q now token), false⟩)
    | _ => (w, ⟨none, false⟩)
  | .statusFinish r now _ answer =>
    match w.phase r with
    | .observed q d =>
      let written := finish d "accepted" now w.record
      ((w.transact answer written).move r (.rereading q), ⟨none, wrote answer written⟩)
    | _ => (w, ⟨none, false⟩)
  | .statusReread r now token =>
    match w.phase r with
    | .rereading q => (w.move r .ended, ⟨some (statusReply w.record q now token), false⟩)
    | _ => (w, ⟨none, false⟩)
  | .ensureDeadline contractorId urgent deadline now later answer =>
    let written := ensureOwnerDeadline contractorId urgent deadline now w.record
    let w' := w.transact answer written
    let result : Reply :=
      if answer ≠ .answered then .raised 500
      else
        match w'.record.filter fun d =>
          liveRecord (some d) contractorId later && !(d.get "owner_action").truthy &&
            !(d.get "accepted").truthy && isOneOf (d.get "state") decisionStates with
        | some d => .deadline (d.get "owner_wait_deadline")
        | none => .deadline .none
    (w', ⟨some result, wrote answer written⟩)
  | .project projection =>
    let written := w.record.map fun d => d.set "legacy_command_projection" projection
    (w.transact .answered written, ⟨none, written.isSome⟩)

end HeyKevin.L13
