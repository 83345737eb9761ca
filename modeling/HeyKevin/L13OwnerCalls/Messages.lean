import HeyKevin.Core.Machine
import HeyKevin.L13OwnerCalls.Record
/-!
# The instruction to take a message

A decline or a timeout leaves a message claim on the record of the call. Two
ways lead from it to a pipeline: pipelines poll the record, and for consumers
that know only `/call_commands` the claim is published there once
(app/services/legacy_call_commands.py). A pipeline adopts a command it finds,
reads the claim, prepares, delivers, and acknowledges on the record
(`consume_message_intent`), and each await is a point where everything else
may move.

`step` runs any number of claims, publishers and pipelines on one call, with
old consumers that delete or replace the command at any time.

Line numbers without a file are those of app/services/legacy_call_commands.py.
-/
namespace HeyKevin.L13.Messages

open HeyKevin.Core Binary64 L1 L1.Text

/-! ## Intents -/

@[ext]
structure Claim where
  operationId : Str
  action : Str
  claimNonce : Str
deriving DecidableEq

/-- What `message_intent_from_record` returns, and the claim it has checked. -/
structure Intent where
  fields : Dict
  claim : Claim

/-- `wanted is None or v == wanted` -/
def allows (wanted v : Value) : Bool := isNone wanted || v.eq wanted

/-- mirrors app/services/owner_call_actions.py:381-405 -/
def messageIntentFromRecord (record : Option Record) (contractorId : Value)
    (statuses : List String) (operationId action claimNonce : Value) (wsToken : Str)
    (conferenceName : Value) (now : Double) : Option Intent :=
  match record, contractorId with
  | some d, .str contractor =>
    if liveRecord (some d) contractor now = false ∨ (d.get "accepted").truthy = true ∨
        isOneOf (d.get "state") decisionStates = false ∨
        isOneOf (d.get "kevin_redirect_status") ["pending", "uncertain"] = true ∨
        isOneOf (d.get "owner_action_status") statuses = false then none
    else
      match d.get "message_intent" with
      | .dict intent =>
        match Dict.get intent "action", Dict.get intent "operation_id", d.get "claim_nonce" with
        | .str a, .str o, .str n =>
          if (Dict.get intent "type").isStr (py "take_message") = false ∨
              (Dict.get intent "contractor_id").isStr contractor = false ∨
              (a ≠ py "decline" ∧ a ≠ py "timeout") ∨ (d.get "owner_action").isStr a = false ∨
              o = [] ∨ (d.get "owner_operation_id").isStr o = false ∨ n = [] then none
          else if allows operationId (.str o) && allows action (.str a) &&
              allows claimNonce (.str n) &&
              (wsToken.isEmpty || (d.get "ws_token").isStr wsToken) &&
              allows conferenceName (getOrEmpty d "conference_name") then
            some ⟨Dict.set intent "claim_nonce" (.str n), ⟨o, a, n⟩⟩
          else none
        | _, _, _ => none
      | _ => none
  | _, _ => none

def requested : List String := ["message_requested"]

def requestedOrTaking : List String := ["message_requested", "taking_message"]

/-- mirrors app/services/owner_call_actions.py:413-426 (`acknowledge_owner_action`, `matches`) -/
def acknowledgeable (current : Option Record) (contractorId : Str) (c : Claim) (wsToken : Str)
    (now : Double) : Bool :=
  (messageIntentFromRecord current (.str contractorId) requestedOrTaking (.str c.operationId)
    (.str c.action) (.str c.claimNonce) wsToken .none now).isSome

/-- mirrors app/services/owner_call_actions.py:423-426 (`acknowledge_owner_action`, its callback) -/
def acknowledgeOwnerAction (contractorId : Str) (c : Claim) (wsToken : Str) (now : Double)
    (current : Option Record) : Option Record :=
  if acknowledgeable current contractorId c wsToken now then
    current.map fun d => d.update
      [("owner_action_status", .text "taking_message"),
        ("action_acknowledged_at", .number (.float now))]
  else none

/-! ## Publication -/

/-- mirrors 67-80 -/
def expectedMessage (record : Option Record) (expected : Record) (acknowledged : Bool)
    (now : Double) : Option Intent :=
  (messageIntentFromRecord record (expected.get "contractor_id")
    (if acknowledged then requestedOrTaking else requested) (expected.get "owner_operation_id")
    (expected.get "owner_action") (expected.get "claim_nonce") []
    (getOrEmpty expected "conference_name") now).filter fun _ =>
      record.any fun d => (getOrEmpty d "ws_token").eq (getOrEmpty expected "ws_token")

/-- mirrors 62-64 -/
def projectionMatches (record : Option Record) (nonce : Str) : Bool :=
  record.any fun d =>
    match d.get "legacy_command_projection" with
    | .dict projection => (Dict.get projection "nonce").isStr nonce
    | _ => false

def projection (nonce : Str) (status : String) (now : Double) : Value :=
  .dict [("nonce", .str nonce), ("status", .text status), ("updated_at", .number (.float now))]

/-- mirrors 111-115 -/
def reserve (expected : Record) (nonce : Str) (now : Double) (current : Option Record) :
    Option Record :=
  match current, expectedMessage current expected false now with
  | some d, some _ =>
    if d.has "legacy_command_projection" then none
    else some (d.set "legacy_command_projection" (projection nonce "attempting" now))
  | _, _ => none

/-- mirrors 83-91 (`_finish_projection`, its callback) -/
def finishProjection (expected : Record) (nonce : Str) (status : String) (now : Double)
    (current : Option Record) : Option Record :=
  match current, expectedMessage current expected true now with
  | some d, some _ =>
    if projectionMatches current nonce then
      some (d.set "legacy_command_projection" (projection nonce status now))
    else none
  | _, _ => none

/-- mirrors 122-124 -/
def payload (callSid : Str) (expected : Record) : Dict :=
  [("type", .text "take_message"), ("call_sid", .str callSid),
    ("contractor_id", expected.get "contractor_id"),
    ("operation_id", expected.get "owner_operation_id"), ("action", expected.get "owner_action"),
    ("claim_nonce", expected.get "claim_nonce")]

/-! ## Adoption -/

/-- `AdoptedLegacyCommand` -/
structure Adopted where
  command : Dict
  intent : Intent

/-- mirrors 10 -/
def enrichedKeys : List String :=
  ["call_sid", "contractor_id", "operation_id", "action", "claim_nonce"]

def isEnriched (command : Dict) : Bool := command.keysAre (enrichedKeys ++ ["type"])

/-- mirrors 164-173 -/
def adoptable (callSid contractorId : Str) : Option Value → Option Dict
  | some (.dict command) =>
    let wellFormed :=
      (Dict.get command "call_sid").isStr callSid && (Dict.get command "contractor_id").isStr contractorId &&
        isOneOf (Dict.get command "action") ["decline", "timeout"] &&
        match Dict.get command "operation_id", Dict.get command "claim_nonce" with
        | .str o, .str n => decide (0 < o.length ∧ o.length ≤ 80) && !n.isEmpty
        | _, _ => false
    if (Dict.get command "type").isStr (py "take_message") = false then none
    else if isEnriched command then if wellFormed then some command else none
    else if Dict.keysAre command ["type"] then some command
    else none
  | _ => none

/-- mirrors 135-142 (`_live_binding`, without a conference) -/
def liveBinding (record : Option Record) (contractorId wsToken : Str) (now : Double) : Bool :=
  liveRecord record contractorId now && record.any fun d =>
    isOneOf (d.get "state") decisionStates && !(d.get "accepted").truthy &&
      !(d.get "owner_action").isStr (py "accept") &&
      !isOneOf (d.get "kevin_redirect_status") ["pending", "uncertain"] &&
      (wsToken.isEmpty || (d.get "ws_token").isStr wsToken)

/-- mirrors 175-183 -/
def observedIntent (record : Option Record) (command : Dict) (contractorId wsToken : Str)
    (now : Double) : Option Intent :=
  let wanted (key : String) : Value := if isEnriched command then command.get key else .none
  if liveBinding record contractorId wsToken now then
    messageIntentFromRecord record (.str contractorId) requestedOrTaking (wanted "operation_id")
      (wanted "action") (wanted "claim_nonce") wsToken .none now
  else none

/-- mirrors 191-195 -/
def adopt (contractorId wsToken nonce : Str) (now : Double) (current : Option Record) :
    Option Record :=
  if liveBinding current contractorId wsToken now then
    reduceActiveCallAction current .decline contractorId (py "legacy_decline") nonce [] now
  else none

/-! ## The system -/

structure Identity where
  contractorId : Str
  callSid : Str
  wsToken : Str
deriving DecidableEq

structure Key where
  who : Identity
  claim : Claim
deriving DecidableEq

/-- Where `consume_message_intent` stands, before its next await. -/
inductive Stage
  | idle
  | readingCommand (who : Identity)
  | readingRecord (who : Identity) (command : Dict)
  | adopting (who : Identity) (command : Dict)
  | pending (who : Identity) (snapshot : Option Adopted)
  | clearing (who : Identity) (snapshot : Adopted)
  | checking (who : Identity) (snapshot : Option Adopted) (intent : Intent)
  | preparing (who : Identity) (snapshot : Option Adopted) (intent : Intent)
  | guarding (who : Identity) (snapshot : Option Adopted) (intent : Intent)
  | delivering (who : Identity) (snapshot : Option Adopted) (intent : Intent)
  | confirming (who : Identity) (snapshot : Option Adopted) (intent : Intent)
  | acknowledging (who : Identity) (snapshot : Option Adopted) (intent : Intent)
  | cleaning (command : Dict)

structure Pipeline where
  identity : Identity
  alive : Bool
  /-- `_message_delivery_key` -/
  deliveryKey : Option Key
  stage : Stage

/-- Where `publish_message_intent` stands. -/
inductive Publication
  | idle
  | reserving (expected : Record)
  | reserved (expected : Record)
  | writing (expected : Record)
  | finishing (expected : Record) (status : String)
  | done

structure World where
  record : Option Record
  command : Option Value
  publication : ℕ → Publication
  pipeline : ℕ → Pipeline
  /-- Where a consumption was cancelled; a transaction it had begun may still commit. -/
  stray : List (ℕ × Stage)

def World.start (record : Option Record) (command : Option Value) (identity : ℕ → Identity) :
    World :=
  ⟨record, command, fun _ => .idle, fun i => ⟨identity i, true, none, .idle⟩, []⟩

def World.publisher (w : World) (p : ℕ) (next : Publication) : World :=
  { w with publication := fun q => if q = p then next else w.publication q }

def World.setPipeline (w : World) (i : ℕ) (next : Pipeline) : World :=
  { w with pipeline := fun j => if j = i then next else w.pipeline j }

def World.goto (w : World) (i : ℕ) (next : Stage) : World :=
  w.setPipeline i { w.pipeline i with stage := next }

def World.transact (w : World) (answer : Answer) (written : Option Record) : World :=
  match answer, written with
  | .failed, _ => w
  | _, some d => { w with record := some d }
  | _, none => w

def World.same (w : World) (i : ℕ) (who : Identity) : Bool :=
  (w.pipeline i).alive && decide ((w.pipeline i).identity = who)

inductive Action
  /-- The first transaction of an accept, a decline or a timeout. -/
  | claim (action : OwnerAction) (contractorId operationId nonce name : Str) (now : Double)
      (answer : Answer)
  /-- The rest of an accept, and the status requests. -/
  | mark (expected : Record) (now : Double) (answer : Answer)
  | release (expected : Record) (now : Double) (answer : Answer)
  | finish (expected : Record) (sent : Bool) (now : Double) (answer : Answer)
  | ensureDeadline (contractorId : Str) (urgent : Bool) (deadline : Option Double) (now : Double)
      (answer : Answer)
  /-- An old producer or consumer writes or deletes the command. -/
  | setCommand (command : Option Value)
  | publish (p : ℕ) (expected : Record) (now : Double)
  | reserve (p : ℕ) (now later : Double) (answer : Answer)
  | check (p : ℕ) (now : Double) (ok : Bool)
  | write (p : ℕ) (answer : Answer)
  | finishProjection (p : ℕ) (now : Double) (answer : Answer)
  | consume (i : ℕ)
  | readCommand (i : ℕ) (ok : Bool)
  | readRecord (i : ℕ) (now : Double) (ok : Bool)
  | adopt (i : ℕ) (nonce : Str) (now later : Double) (answer : Answer)
  | readPending (i : ℕ) (now : Double) (ok : Bool)
  | readCompleted (i : ℕ) (now : Double) (ok : Bool)
  | readCurrent (i : ℕ) (now : Double) (ok : Bool)
  /-- `false` where it returned `False` or raised. -/
  | prepare (i : ℕ) (ok : Bool)
  | guard (i : ℕ) (now : Double) (ok : Bool)
  /-- `false` where it returned `False` or raised. -/
  | deliver (i : ℕ) (ok : Bool)
  | confirm (i : ℕ) (now : Double) (ok : Bool)
  | acknowledge (i : ℕ) (now : Double) (answer : Answer)
  | clean (i : ℕ) (ok : Bool)
  | cancel (i : ℕ)
  /-- A transaction of a cancelled consumption commits. -/
  | commitStray (k : ℕ) (nonce : Str) (now : Double)
  /-- The pipeline connects, disconnects or changes its stream. -/
  | rebind (i : ℕ) (identity : Identity) (alive : Bool)

inductive Effect
  | nothing
  | reserved (p : ℕ)
  | wrote (p : ℕ) (command : Dict)
  | adopted (i : ℕ)
  | delivered (i : ℕ) (key : Key)
  | acknowledged (i : ℕ) (key : Key)

/-- `_guard`, on the record as it is read now.
mirrors app/services/owner_call_actions.py:533-546 -/
def World.guarded (w : World) (i : ℕ) (who : Identity) (intent : Intent) (now : Double) : Bool :=
  w.same i who &&
    (messageIntentFromRecord w.record (.str who.contractorId) requested (.str intent.claim.operationId)
      (.str intent.claim.action) (.str intent.claim.claimNonce) who.wsToken .none now).isSome

def World.adopted (w : World) (i : ℕ) (who : Identity) (snapshot : Option Adopted) : World :=
  w.goto i (if w.same i who then .pending who snapshot else .idle)

/-- The command is deleted while it is the one adopted.
mirrors 37-54 (`delete_legacy_command_conditional`) -/
def World.deleteCommand (w : World) (expected : Dict) : World :=
  match w.command with
  | some (.dict current) =>
    if (Value.dict current).eq (.dict expected) then { w with command := none } else w
  | _ => w

variable (callSid : Str) (nonce : ℕ → Str)

/-- One access to a store, or one move of the environment. Where a read is not `ok` it raised, or
the pipeline has moved on meanwhile.
mirrors 94-198, app/services/owner_call_actions.py:456-604 -/
def step : Machine World Action Effect := fun w action =>
  match action with
  | .claim action contractorId operationId claimNonce name now answer =>
    (w.transact answer (reduceActiveCallAction w.record action contractorId operationId claimNonce
      name now), .nothing)
  | .mark expected now answer =>
    (w.transact answer (markRedirectStarted expected now w.record), .nothing)
  | .release expected now answer =>
    (w.transact answer (releasePreparation expected now w.record), .nothing)
  | .finish expected sent now answer =>
    (w.transact answer (L13.finish expected (if sent then "accepted" else "uncertain") now
      w.record), .nothing)
  | .ensureDeadline contractorId urgent deadline now answer =>
    (w.transact answer (L13.ensureOwnerDeadline contractorId urgent deadline now w.record),
      .nothing)
  | .setCommand command => ({ w with command := command }, .nothing)
  | .publish p expected now =>
    match w.publication p with
    | .idle =>
      if (expectedMessage (some expected) expected false now).isSome then
        (w.publisher p (.reserving expected), .nothing)
      else (w.publisher p .done, .nothing)
    | _ => (w, .nothing)
  | .reserve p now later answer =>
    match w.publication p with
    | .reserving expected =>
      let written := Messages.reserve expected (nonce p) now w.record
      let w' := w.transact answer written
      let effect := if wrote answer written then .reserved p else .nothing
      if answer = .answered ∧ projectionMatches w'.record (nonce p) = true ∧
          (expectedMessage w'.record expected false later).isSome = true then
        (w'.publisher p (.reserved expected), effect)
      else (w'.publisher p .done, effect)
    | _ => (w, .nothing)
  | .check p now ok =>
    match w.publication p with
    | .reserved expected =>
      if ok = true ∧ projectionMatches w.record (nonce p) = true ∧
          (expectedMessage w.record expected false now).isSome = true then
        (w.publisher p (.writing expected), .nothing)
      else (w.publisher p .done, .nothing)
    | _ => (w, .nothing)
  | .write p answer =>
    match w.publication p with
    | .writing expected =>
      match answer, w.command with
      | .failed, _ => (w.publisher p (.finishing expected "uncertain"), .nothing)
      | answer, none =>
        let w' : World := { w with command := some (.dict (payload callSid expected)) }
        (w'.publisher p (.finishing expected
            (if answer = .answered then "published" else "uncertain")),
          .wrote p (payload callSid expected))
      | answer, some command =>
        let status :=
          if answer ≠ .answered then "uncertain"
          else if command.eq (.dict (payload callSid expected)) then "published" else "blocked"
        (w.publisher p (.finishing expected status), .nothing)
    | _ => (w, .nothing)
  | .finishProjection p now answer =>
    match w.publication p with
    | .finishing expected status =>
      let written := Messages.finishProjection expected (nonce p) status now w.record
      ((w.transact answer written).publisher p .done, .nothing)
    | _ => (w, .nothing)
  | .consume i =>
    match (w.pipeline i).stage with
    | .idle =>
      let who := (w.pipeline i).identity
      if who.contractorId = [] ∨ who.callSid ≠ callSid ∨ who.wsToken = [] ∨
          (w.pipeline i).alive = false then (w, .nothing)
      else if strip who.contractorId = [] then (w.goto i (.pending who none), .nothing)
      else (w.goto i (.readingCommand who), .nothing)
    | _ => (w, .nothing)
  | .readCommand i ok =>
    match (w.pipeline i).stage with
    | .readingCommand who =>
      match if ok then adoptable callSid who.contractorId w.command else none with
      | some command => (w.goto i (.readingRecord who command), .nothing)
      | none => (w.adopted i who none, .nothing)
    | _ => (w, .nothing)
  | .readRecord i now ok =>
    match (w.pipeline i).stage with
    | .readingRecord who command =>
      if ok = false ∨ liveBinding w.record who.contractorId who.wsToken now = false then
        (w.adopted i who none, .nothing)
      else if isEnriched command = true ∨
          (w.record.any fun d => (d.get "owner_action").truthy) = true then
        (w.adopted i who
          ((observedIntent w.record command who.contractorId who.wsToken now).map (⟨command, ·⟩)),
          .nothing)
      else (w.goto i (.adopting who command), .nothing)
    | _ => (w, .nothing)
  | .adopt i claimNonce now later answer =>
    match (w.pipeline i).stage with
    | .adopting who command =>
      let written := Messages.adopt who.contractorId who.wsToken claimNonce now w.record
      let w' := w.transact answer written
      let effect := if wrote answer written then .adopted i else .nothing
      let intent :=
        if answer = .answered then
          (observedIntent w'.record command who.contractorId who.wsToken later).filter fun i =>
            i.claim.action = py "decline" ∧ i.claim.operationId = py "legacy_decline"
        else none
      (w'.adopted i who (intent.map (⟨command, ·⟩)), effect)
    | _ => (w, .nothing)
  | .readPending i now ok =>
    match (w.pipeline i).stage with
    | .pending who snapshot =>
      if ok = false ∨ w.same i who = false then (w.goto i .idle, .nothing)
      else
        match messageIntentFromRecord w.record (.str who.contractorId) requested .none .none .none
          [] .none now, snapshot with
        | some intent, snapshot => (w.goto i (.checking who snapshot intent), .nothing)
        | none, some adopted => (w.goto i (.clearing who adopted), .nothing)
        | none, none => (w.goto i .idle, .nothing)
    | _ => (w, .nothing)
  | .readCompleted i now ok =>
    match (w.pipeline i).stage with
    | .clearing who snapshot =>
      if ok = true ∧ w.same i who = true ∧
          (messageIntentFromRecord w.record (.str who.contractorId) ["taking_message"]
            (.str snapshot.intent.claim.operationId) (.str snapshot.intent.claim.action)
            (.str snapshot.intent.claim.claimNonce) who.wsToken .none now).isSome = true then
        (w.goto i (.cleaning snapshot.command), .nothing)
      else (w.goto i .idle, .nothing)
    | _ => (w, .nothing)
  | .readCurrent i now ok =>
    match (w.pipeline i).stage with
    | .checking who snapshot intent =>
      let replaced := snapshot.any fun a => !(Value.dict a.intent.fields).eq (.dict intent.fields)
      if ok = true ∧ w.guarded i who intent now = true ∧ replaced = false then
        if (w.pipeline i).deliveryKey = some ⟨who, intent.claim⟩ then
          (w.goto i (.confirming who snapshot intent), .nothing)
        else (w.goto i (.preparing who snapshot intent), .nothing)
      else (w.goto i .idle, .nothing)
    | _ => (w, .nothing)
  | .prepare i ok =>
    match (w.pipeline i).stage with
    | .preparing who snapshot intent =>
      (w.goto i (if ok then .guarding who snapshot intent else .idle), .nothing)
    | _ => (w, .nothing)
  | .guard i now ok =>
    match (w.pipeline i).stage with
    | .guarding who snapshot intent =>
      if ok && w.guarded i who intent now then
        (w.goto i (.delivering who snapshot intent), .nothing)
      else (w.goto i .idle, .nothing)
    | _ => (w, .nothing)
  | .deliver i ok =>
    match (w.pipeline i).stage with
    | .delivering who snapshot intent =>
      if ok then
        (w.setPipeline i
          { w.pipeline i with
            deliveryKey := some ⟨who, intent.claim⟩
            stage := .confirming who snapshot intent },
          .delivered i ⟨who, intent.claim⟩)
      else (w.goto i .idle, .nothing)
    | _ => (w, .nothing)
  | .confirm i now ok =>
    match (w.pipeline i).stage with
    | .confirming who snapshot intent =>
      if ok && w.guarded i who intent now then
        (w.goto i (.acknowledging who snapshot intent), .nothing)
      else (w.goto i .idle, .nothing)
    | _ => (w, .nothing)
  | .acknowledge i now answer =>
    match (w.pipeline i).stage with
    | .acknowledging who snapshot intent =>
      let written := acknowledgeOwnerAction who.contractorId intent.claim who.wsToken now w.record
      let w' := w.transact answer written
      let effect :=
        if wrote answer written then .acknowledged i ⟨who, intent.claim⟩ else .nothing
      let acked := decide (answer = .answered) &&
        acknowledgeable w'.record who.contractorId intent.claim who.wsToken now &&
        w'.record.any fun d => (d.get "owner_action_status").isStr (py "taking_message")
      match acked, snapshot with
      | true, some adopted => (w'.goto i (.cleaning adopted.command), effect)
      | _, _ => (w'.goto i .idle, effect)
    | _ => (w, .nothing)
  | .clean i ok =>
    match (w.pipeline i).stage with
    | .cleaning command =>
      ((if ok then w.deleteCommand command else w).goto i .idle, .nothing)
    | _ => (w, .nothing)
  | .cancel i => ({ w.goto i .idle with stray := (i, (w.pipeline i).stage) :: w.stray }, .nothing)
  | .commitStray k claimNonce now =>
    match w.stray[k]? with
    | some (i, .adopting who _) =>
      let written := Messages.adopt who.contractorId who.wsToken claimNonce now w.record
      (w.transact .lost written, if wrote .lost written then .adopted i else .nothing)
    | some (i, .acknowledging who _ intent) =>
      let written := acknowledgeOwnerAction who.contractorId intent.claim who.wsToken now w.record
      (w.transact .lost written,
        if wrote .lost written then .acknowledged i ⟨who, intent.claim⟩ else .nothing)
    | some (_, .cleaning command) => (w.deleteCommand command, .nothing)
    | _ => (w, .nothing)
  | .rebind i identity alive =>
    (w.setPipeline i { w.pipeline i with identity := identity, alive := alive }, .nothing)

end HeyKevin.L13.Messages
