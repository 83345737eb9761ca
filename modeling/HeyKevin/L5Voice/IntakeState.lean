import HeyKevin.Core.Machine
import HeyKevin.L1Encoding.Python
import HeyKevin.L5Voice.SafeText
import Mathlib.Data.Finset.Sort
import Mathlib.Data.List.Lex
import Mathlib.Order.Fin.Basic
/-!
# Intake state

mirrors app/services/receptionist_state.py: the enumerations, the caller's
identity, one observation of a caller turn, the state of a call with its flat
list of known facts, and the dictionary it is stored as.

Assigning a field goes through its normalizer, also in the constructor.
Nothing of a constructor or an observation is kept where a normalizer raises.

**Left out.** Values of the wrong type where a constructor is called, which the
types exclude; the askable slots and the redacted log.

Line numbers are those of app/services/receptionist_state.py.
-/
namespace HeyKevin.L5.Intake

open HeyKevin.Core Binary64 L1 L1.Text

/-! ## Enumerations -/

inductive IntakePhase
  | greeting | understandRequest | answerQuestion | clarifyScope | collectIntake | offerFollowup
  | scheduleOrCallback | handoff | wrapUp
deriving DecidableEq

inductive BusinessScope
  | inScope | outOfScope | unclear
deriving DecidableEq

inductive Intent
  | unknown | pricingQuestion | serviceRequest | emergency | personalCall | salesCall | message
  | scheduling | callback
deriving DecidableEq

inductive ServiceAction
  | unknown | repair | replace | install | inspect | quote | maintain
deriving DecidableEq

inductive Urgency
  | unknown | routine | urgent | emergency
deriving DecidableEq

inductive CallbackIntent
  | none | offered | accepted | requested | declined
deriving DecidableEq

inductive CallbackConfirmation
  | unknown | confirmed | rejected
deriving DecidableEq

inductive AddressNeed
  | none | maybeLater | requiredNow | alreadyKnown | confirmed
deriving DecidableEq

abbrev Members (α : Type) := List (α × String)

def IntakePhase.members : Members IntakePhase :=
  [(.greeting, "greeting"), (.understandRequest, "understand_request"),
    (.answerQuestion, "answer_question"), (.clarifyScope, "clarify_scope"),
    (.collectIntake, "collect_intake"), (.offerFollowup, "offer_followup"),
    (.scheduleOrCallback, "schedule_or_callback"), (.handoff, "handoff"), (.wrapUp, "wrap_up")]

def BusinessScope.members : Members BusinessScope :=
  [(.inScope, "in_scope"), (.outOfScope, "out_of_scope"), (.unclear, "unclear")]

def Intent.members : Members Intent :=
  [(.unknown, "unknown"), (.pricingQuestion, "pricing_question"),
    (.serviceRequest, "service_request"), (.emergency, "emergency"),
    (.personalCall, "personal_call"), (.salesCall, "sales_call"), (.message, "message"),
    (.scheduling, "scheduling"), (.callback, "callback")]

def ServiceAction.members : Members ServiceAction :=
  [(.unknown, "unknown"), (.repair, "repair"), (.replace, "replace"), (.install, "install"),
    (.inspect, "inspect"), (.quote, "quote"), (.maintain, "maintain")]

def Urgency.members : Members Urgency :=
  [(.unknown, "unknown"), (.routine, "routine"), (.urgent, "urgent"), (.emergency, "emergency")]

def CallbackIntent.members : Members CallbackIntent :=
  [(.none, "none"), (.offered, "offered"), (.accepted, "accepted"), (.requested, "requested"),
    (.declined, "declined")]

def CallbackConfirmation.members : Members CallbackConfirmation :=
  [(.unknown, "unknown"), (.confirmed, "confirmed"), (.rejected, "rejected")]

def AddressNeed.members : Members AddressNeed :=
  [(.none, "none"), (.maybeLater, "maybe_later"), (.requiredNow, "required_now"),
    (.alreadyKnown, "already_known"), (.confirmed, "confirmed")]

/-- `member.value` -/
def valueIn {α : Type} [DecidableEq α] (members : Members α) (a : α) : String :=
  ((members.find? fun m => m.1 = a).map Prod.snd).getD ""

/-- `Enum(v)` of a value -/
def parseIn {α : Type} (members : Members α) (v : Value) : Except String α :=
  match members.find? fun m => v.isStr (py m.2) with
  | some m => .ok m.1
  | none => .error "is not a valid member"

/-- `Enum(data.get(key) or default.value)` -/
def readEnum {α : Type} (members : Members α) (fallback : α) (v : Value) : Except String α :=
  if v.truthy then parseIn members v else .ok fallback

/-! ## The caller -/

structure CallerIdentity where
  name : Str
  confidence : Double
  source : Str
  confirmed : Bool
deriving DecidableEq

/-- mirrors 310-320 -/
def normalizeConfidence : Value → Except String Double
  | .number n =>
    if n.val < 0 ∨ 1 < n.val then .error "confidence must be between zero and one"
    else .ok n.toFloat
  | .nonFinite .nan => .error "confidence must be a finite number"
  | .nonFinite _ => .error "confidence must be between zero and one"
  | _ => .error "confidence must be numeric"

/-- mirrors 122-146 (`CallerIdentity`, its constructor) -/
def CallerIdentity.construct (T : Tables) (name : Str) (confidence : Value) (source : Str)
    (confirmed : Bool) : Except String CallerIdentity := do
  let name ← normalizeSafeText T "caller_identity.name" 160 name
  let confidence ← normalizeConfidence confidence
  let source ← normalizeSafeText T "caller_identity.source" 160 source
  .ok ⟨name, confidence, source, confirmed⟩

/-- mirrors 148-154 -/
def CallerIdentity.toDict (i : CallerIdentity) : Dict :=
  [("name", .str i.name), ("confidence", .number (.float i.confidence)), ("source", .str i.source),
    ("confirmed", .bool i.confirmed)]

/-- `data.get(key, False)`, which has to be a boolean -/
def readFlag (data : Dict) (key : String) : Except String Bool :=
  if data.has key then
    match data.get key with
    | .bool b => .ok b
    | _ => .error (key ++ " must be a boolean")
  else .ok false

/-- mirrors 156-169 -/
def CallerIdentity.fromDict (P : Python) (T : Tables) (v : Value) :
    Except String CallerIdentity := do
  let data : Dict ← if v.truthy then
      match v with
      | .dict data => Except.ok data
      | _ => .error "has no attribute 'get'"
    else .ok []
  let confirmed ← readFlag data "confirmed"
  let confidence := match data.get "confidence" with
    | Value.none => Value.number (.float (.ofRat 0))
    | v => v
  CallerIdentity.construct T (P.strOrEmpty (data.get "name")) confidence
    (P.strOrEmpty (data.get "source")) confirmed

/-! ## Observations -/

structure CallerObservation where
  language : Option Str
  identityConfirmed : Option Bool
  businessScope : Option BusinessScope
  businessScopeReason : Option Str
  intent : Option Intent
  serviceObject : Option Str
  serviceAction : Option ServiceAction
  urgency : Option Urgency
  callbackIntent : Option CallbackIntent
  callbackConfirmation : Option CallbackConfirmation
  callbackPhoneLastFour : Option Str
  addressNeed : Option AddressNeed
deriving DecidableEq

def ifGiven (normalize : Str → Except String Str) : Option Str → Except String (Option Str)
  | none => .ok none
  | some s => do
    let s ← normalize s
    .ok (some s)

/-- mirrors 190-238 (`CallerObservation.__post_init__`) -/
def CallerObservation.construct (T : Tables) (o : CallerObservation) :
    Except String CallerObservation := do
  let language ← ifGiven (normalizeLanguageCode T) o.language
  let serviceObject ← ifGiven (normalizeSafeText T "service_object" 80) o.serviceObject
  let reason ← ifGiven (normalizeSafeText T "business_scope_reason" 160) o.businessScopeReason
  let lastFour ← ifGiven (normalizePhoneLastFour T "callback_phone_last_four")
    o.callbackPhoneLastFour
  .ok { o with
    language := language, serviceObject := serviceObject, businessScopeReason := reason,
    callbackPhoneLastFour := lastFour }

/-! ## The state of a call -/

structure IntakeState where
  callSid : Str
  phase : IntakePhase
  callerIdentity : CallerIdentity
  callerPhoneLastFour : Str
  callbackPhoneLastFour : Str
  businessScope : BusinessScope
  businessScopeReason : Str
  intent : Intent
  serviceObject : Str
  serviceAction : ServiceAction
  urgency : Urgency
  knownFacts : List Str
  askedSlots : Finset Str
  callbackIntent : CallbackIntent
  callbackConfirmation : CallbackConfirmation
  addressNeed : AddressNeed
  memoryRefsUsed : Finset Str
  sideEffectsAllowed : Bool
  language : Str
deriving DecidableEq

theorem texts_trans : IsTrans Str (· ≤ ·) := inferInstance
theorem texts_antisymm : Std.Antisymm (α := Str) (· ≤ ·) := inferInstance
theorem texts_total : Std.Total (α := Str) (· ≤ ·) := inferInstance

/-- `sorted(values)` -/
def sorted (values : Finset Str) : List Str :=
  @Finset.sort Str values (· ≤ ·) _ texts_trans texts_antisymm texts_total

def normalizeSet (T : Tables) (fieldName : String) (maxLength : ℕ) (values : List Str) :
    Except String (Finset Str) := do
  let normalized ← normalizeSafeTextCollection T fieldName maxLength values
  .ok normalized.toFinset

/-- The constructor: every field through its normalizer.
mirrors 516-542 (`IntakeState.__setattr__`) -/
def IntakeState.construct (T : Tables) (s : IntakeState) : Except String IntakeState := do
  let callSid ← normalizeSafeText T "call_sid" 128 s.callSid
  let callerPhone ← normalizePhoneLastFourOrEmpty T "caller_phone_last_four" s.callerPhoneLastFour
  let callbackPhone ← normalizePhoneLastFourOrEmpty T "callback_phone_last_four"
    s.callbackPhoneLastFour
  let reason ← normalizeSafeText T "business_scope_reason" 160 s.businessScopeReason
  let serviceObject ← normalizeSafeText T "service_object" 80 s.serviceObject
  let knownFacts ← normalizeSafeTextCollection T "known_facts" 160 s.knownFacts
  let askedSlots ← normalizeSet T "asked_slots" 80 (sorted s.askedSlots)
  let memoryRefs ← normalizeSet T "memory_refs_used" 160 (sorted s.memoryRefsUsed)
  let language ← normalizeLanguageCode T s.language
  .ok { s with
    callSid := callSid, callerPhoneLastFour := callerPhone, callbackPhoneLastFour := callbackPhone,
    businessScopeReason := reason, serviceObject := serviceObject, knownFacts := knownFacts,
    askedSlots := askedSlots, memoryRefsUsed := memoryRefs, language := language }

/-- mirrors 489-491 -/
def phoneLastFour (T : Tables) (phone : Str) : Str :=
  let digits := phone.filter T.isDigit
  if 4 ≤ digits.length then digits.drop (digits.length - 4) else []

def IntakeState.blank (callSid : Str) (identity : CallerIdentity) : IntakeState where
  callSid := callSid
  phase := .greeting
  callerIdentity := identity
  callerPhoneLastFour := []
  callbackPhoneLastFour := []
  businessScope := .unclear
  businessScopeReason := []
  intent := .unknown
  serviceObject := []
  serviceAction := .unknown
  urgency := .unknown
  knownFacts := []
  askedSlots := ∅
  callbackIntent := .none
  callbackConfirmation := .unknown
  addressNeed := .none
  memoryRefsUsed := ∅
  sideEffectsAllowed := false
  language := py "unknown"

/-- mirrors 544-573 -/
def IntakeState.new (T : Tables) (callSid callerPhone callerName callerSource : Str)
    (callerConfidence : Double) (memoryRefs : List Str) : Except String IntakeState := do
  let identity ← CallerIdentity.construct T callerName (.number (.float callerConfidence))
    callerSource (!callerName.isEmpty && decide (rnd (8 / 10) ≤ callerConfidence.val))
  let refs ← normalizeSet T "memory_refs_used" 160 memoryRefs
  IntakeState.construct T { IntakeState.blank callSid identity with
    callerPhoneLastFour := phoneLastFour T callerPhone, memoryRefsUsed := refs }

/-! ## Known facts -/

/-- `f"\x7bslot\x7d:"` -/
def label (slot : String) : Str := py slot ++ py ":"

/-- mirrors 646-650 -/
def replaceKnownSlot (T : Tables) (slot : String) (value : Str) (s : IntakeState) :
    Except String IntakeState := do
  let kept ← normalizeSafeTextCollection T "known_facts" 160
    (s.knownFacts.filter fun fact => !(label slot).isPrefixOf fact)
  if value = [] then .ok { s with knownFacts := kept }
  else
    let fact ← normalizeSafeText T "known_facts" 160 (label slot ++ value)
    .ok { s with knownFacts := kept ++ [fact] }

/-- `"" if member == empty else member.value` -/
def factValue {α : Type} [DecidableEq α] (members : Members α) (empty a : α) : Str :=
  if a = empty then [] else py (valueIn members a)

def ServiceAction.fact (a : ServiceAction) : Str := factValue ServiceAction.members .unknown a

def Urgency.fact (u : Urgency) : Str := factValue Urgency.members .unknown u

def CallbackIntent.fact (i : CallbackIntent) : Str := factValue CallbackIntent.members .none i

def CallbackConfirmation.fact (c : CallbackConfirmation) : Str :=
  factValue CallbackConfirmation.members .unknown c

def assign {α : Type} (value : Option α) (set : α → IntakeState → Except String IntakeState)
    (s : IntakeState) : Except String IntakeState :=
  match value with
  | none => .ok s
  | some a => set a s

/-- What has no known fact. mirrors 576-589 -/
def applyDetails (T : Tables) (o : CallerObservation) (s : IntakeState) :
    Except String IntakeState := do
  let s := { s with phase := .understandRequest }
  let s ← assign o.identityConfirmed (fun b s =>
    .ok { s with callerIdentity := { s.callerIdentity with confirmed := b } }) s
  let s ← assign o.language (fun language s => do
    let code ← normalizeLanguageCode T
      (if strip language = [] then py "unknown" else strip language)
    .ok { s with language := code }) s
  let s ← assign o.businessScope (fun scope s => .ok { s with businessScope := scope }) s
  let s ← assign o.businessScopeReason (fun reason s => do
    let reason ← normalizeSafeText T "business_scope_reason" 160 (strip reason)
    .ok { s with businessScopeReason := reason }) s
  let s ← assign o.intent (fun intent s => .ok { s with intent := intent }) s
  assign o.addressNeed (fun need s => .ok { s with addressNeed := need }) s

/-- The wanted service. mirrors 591-606 -/
def applyService (T : Tables) (o : CallerObservation) (s : IntakeState) :
    Except String IntakeState := do
  let s ← assign o.serviceObject (fun object s => do
    let object ← normalizeSafeText T "service_object" 80 (strip object)
    replaceKnownSlot T "service_object" object { s with serviceObject := object }) s
  let s ← assign o.serviceAction (fun action s =>
    replaceKnownSlot T "service_action" action.fact { s with serviceAction := action }) s
  assign o.urgency (fun urgency s =>
    replaceKnownSlot T "urgency" urgency.fact { s with urgency := urgency }) s

/-- The callback. A new number has to be confirmed again.
mirrors 607-630 -/
def applyCallback (T : Tables) (o : CallerObservation) (s : IntakeState) :
    Except String IntakeState := do
  let s ← assign o.callbackIntent (fun intent s =>
    replaceKnownSlot T "callback_intent" intent.fact { s with callbackIntent := intent }) s
  let s ← assign o.callbackPhoneLastFour (fun lastFour s => do
    let lastFour ← normalizePhoneLastFourOrEmpty T "callback_phone_last_four" lastFour
    replaceKnownSlot T "callback_confirmation" []
      { s with
        callbackPhoneLastFour := lastFour, callbackConfirmation := .unknown,
        askedSlots := s.askedSlots.erase (py "callback_confirmation") }) s
  assign o.callbackConfirmation (fun confirmation s =>
    replaceKnownSlot T "callback_confirmation" confirmation.fact
      { s with callbackConfirmation := confirmation }) s

/-- mirrors 575-630 -/
def applyCallerObservation (T : Tables) (o : CallerObservation) (s : IntakeState) :
    Except String IntakeState := do
  let s ← applyDetails T o s
  let s ← applyService T o s
  applyCallback T o s

/-- mirrors 632-641 -/
def markSlotAsked (T : Tables) (slot : Str) (s : IntakeState) : Except String IntakeState :=
  if slot = [] then .ok s
  else do
    let slot ← normalizeSafeText T "asked_slots" 80 slot
    .ok { s with askedSlots := insert slot s.askedSlots }

/-! ## Storage -/

/-- mirrors 653-674 -/
def IntakeState.toDict (s : IntakeState) : Dict :=
  [("call_sid", .str s.callSid), ("phase", .text (valueIn IntakePhase.members s.phase)),
    ("caller_identity", .dict s.callerIdentity.toDict),
    ("caller_phone_last_four", .str s.callerPhoneLastFour),
    ("callback_phone_last_four", .str s.callbackPhoneLastFour),
    ("business_scope", .text (valueIn BusinessScope.members s.businessScope)),
    ("business_scope_reason", .str s.businessScopeReason),
    ("intent", .text (valueIn Intent.members s.intent)), ("service_object", .str s.serviceObject),
    ("service_action", .text (valueIn ServiceAction.members s.serviceAction)),
    ("urgency", .text (valueIn Urgency.members s.urgency)),
    ("known_facts", .list (s.knownFacts.map .str)),
    ("asked_slots", .list ((sorted s.askedSlots).map .str)),
    ("callback_intent", .text (valueIn CallbackIntent.members s.callbackIntent)),
    ("callback_confirmation", .text (valueIn CallbackConfirmation.members s.callbackConfirmation)),
    ("address_need", .text (valueIn AddressNeed.members s.addressNeed)),
    ("memory_refs_used", .list ((sorted s.memoryRefsUsed).map .str)),
    ("side_effects_allowed", .bool s.sideEffectsAllowed), ("language", .str s.language)]

/-- mirrors 365-369 -/
def restorePhoneLastFour (T : Tables) (data : Dict) (fieldName : String) : Except String Str :=
  match data.get fieldName with
  | .none | .str [] => .ok []
  | .str s => normalizePhoneLastFour T fieldName s
  | _ => .error (fieldName ++ " must be a string")

def restoreStrings (fieldName : String) : Value → Except String (List Str)
  | .none => .ok []
  | .list values => values.mapM fun v =>
      match v with
      | .str s => .ok s
      | _ => .error (fieldName ++ " must be a string")
  | .dict data => .ok (data.map fun e => py e.1)
  | .str _ => .error (fieldName ++ " must be a non-string collection")
  | _ => .error "is not iterable"

/-- mirrors 372-387 (`_restore_safe_text_collection`) -/
def restoreCollection (T : Tables) (data : Dict) (fieldName : String) (maxLength : ℕ) :
    Except String (List Str) := do
  let values ← restoreStrings fieldName (data.get fieldName)
  normalizeSafeTextCollection T fieldName maxLength values

/-- mirrors 676-728 -/
def IntakeState.fromDict (P : Python) (T : Tables) (data : Dict) : Except String IntakeState := do
  let sideEffects ← readFlag data "side_effects_allowed"
  let phase ← readEnum IntakePhase.members .greeting (data.get "phase")
  let identity ← CallerIdentity.fromDict P T (data.get "caller_identity")
  let callerPhone ← restorePhoneLastFour T data "caller_phone_last_four"
  let callbackPhone ← restorePhoneLastFour T data "callback_phone_last_four"
  let scope ← readEnum BusinessScope.members .unclear (data.get "business_scope")
  let intent ← readEnum Intent.members .unknown (data.get "intent")
  let action ← readEnum ServiceAction.members .unknown (data.get "service_action")
  let urgency ← readEnum Urgency.members .unknown (data.get "urgency")
  let facts ← restoreCollection T data "known_facts" 160
  let asked ← restoreCollection T data "asked_slots" 80
  let callback ← readEnum CallbackIntent.members .none (data.get "callback_intent")
  let confirmation ← readEnum CallbackConfirmation.members .unknown
    (data.get "callback_confirmation")
  let need ← readEnum AddressNeed.members .none (data.get "address_need")
  let refs ← restoreCollection T data "memory_refs_used" 160
  IntakeState.construct T
    { callSid := P.strOrEmpty (data.get "call_sid"), phase := phase, callerIdentity := identity,
      callerPhoneLastFour := callerPhone, callbackPhoneLastFour := callbackPhone,
      businessScope := scope,
      businessScopeReason := P.strOrEmpty (data.get "business_scope_reason"), intent := intent,
      serviceObject := P.strOrEmpty (data.get "service_object"), serviceAction := action,
      urgency := urgency, knownFacts := facts, askedSlots := asked.toFinset,
      callbackIntent := callback, callbackConfirmation := confirmation, addressNeed := need,
      memoryRefsUsed := refs.toFinset, sideEffectsAllowed := sideEffects,
      language := if (data.get "language").truthy then P.strOrEmpty (data.get "language")
        else py "unknown" }

end HeyKevin.L5.Intake
