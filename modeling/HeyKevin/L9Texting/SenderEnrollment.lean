import HeyKevin.Core.Session
import HeyKevin.L1Encoding.Json
import HeyKevin.L1Encoding.Python
/-!
# Enrolling the sender of a contractor

mirrors app/services/sms_sender_enrollment.py: `ensure_sms_sender_membership`
confirms that a number is a member of the messaging service, or makes it one.

**Model.** Every read of the clock and of the cancellation event, and every
request, is a question to an environment that answers as it likes: with an
answer, with an exception, or with the cancellation of the task, whose request
may still be sent by its thread. A request that is sent has passed the guard of
its thread. What is logged is left out.

* `validateIncomingResource`, `FrozenRoutingSnapshot.matches`: the routing of a
  number is checked and frozen, and compared with what was frozen.
* `runInExecutor`: one request, and how it leaves the function that awaits it.
* `ensureSmsSenderMembership`: the whole function, with its handlers.

Line numbers are those of app/services/sms_sender_enrollment.py.
-/
namespace HeyKevin.L9.Enrollment

open HeyKevin.Core Binary64 L1 L1.Text

def MAX_BUDGET_SECONDS : ℚ := 15

def PRODUCTION_GCP_PROJECT_ID : Str := py "kevin-491315"

inductive EnrollmentStatus
  | disabled
  | alreadyMember
  | enrolled
  | skipped
  | rejected
  | uncertain

inductive EnrollmentReason
  | featureDisabled
  | invalidConfiguration
  | nonProductionEnvironment
  | clientIdentityMismatch
  | invalidInput
  | nonUsPhoneRegion
  | assignmentNotFound
  | assignmentAmbiguous
  | contractorIdMismatch
  | assignmentInactive
  | countryNotUs
  | providerNotTwilio
  | numberTypeNotLocal
  | capabilitiesInsufficient
  | ownerSmsNotEnabled
  | ownerSmsOptedOut
  | lifecycleHoldActive
  | serviceVerificationFailed
  | campaignVerificationFailed
  | campaignDigestMismatch
  | incomingNumberNotFound
  | incomingNumberAmbiguous
  | incomingNumberAccountMismatch
  | incomingNumberRoutingMismatch
  | membershipPresentValid
  | membershipMalformed
  | otherServiceConflict
  | prewriteDriftDetected
  | postwriteDriftDetected
  | budgetExceeded
  | operationCancelled
  | createFailedUncertain
  | readbackFailedAbsent
  | readbackFailedUncertain
  | readbackVerified
  | unexpectedError

structure SmsSenderEnrollmentResult where
  status : EnrollmentStatus
  reason : EnrollmentReason
  enrolled : Bool
  /-- `None` where it is not known -/
  mutated : Option Bool

/-! ## What is read -/

abbrev Resource := Dict

/-- `getattr(resource, name, default)` -/
def getattr (resource : Resource) (name : String) (default : Value) : Value :=
  (Entries.find? resource name).getD default

structure Doc where
  id : Value
  data : Value

structure Capabilities where
  voice : Option Bool
  sms : Option Bool
  mms : Option Bool
deriving DecidableEq

def bool? : Value → Option Bool
  | .bool b => some b
  | _ => none

/-- mirrors 257-270; an object reads
as the dictionary of its attributes -/
def extractCapabilities (rawCaps : Value) : Capabilities :=
  match rawCaps with
  | .dict d => ⟨bool? (Dict.get d "voice"), bool? (Dict.get d "sms"), bool? (Dict.get d "mms")⟩
  | _ => ⟨none, none, none⟩

structure FrozenRoutingSnapshot where
  sid : Str
  phoneNumber : Value
  accountSid : Value
  origin : Value
  numberType : Value
  voiceUrl : Value
  voiceMethod : Value
  voiceFallbackUrl : Value
  voiceFallbackMethod : Value
  statusCallback : Value
  statusCallbackMethod : Value
  smsUrl : Value
  smsMethod : Value
  smsFallbackUrl : Value
  smsFallbackMethod : Value
  voiceApplicationSid : Value
  smsApplicationSid : Value
  trunkSid : Value
  capabilities : Capabilities

/-- `getattr(incoming, "type", None) or getattr(incoming, "phone_number_type", None)` -/
def numberTypeOf (incoming : Resource) : Value :=
  if (getattr incoming "type" .none).truthy then getattr incoming "type" .none
  else getattr incoming "phone_number_type" .none

/-- mirrors 203-254 -/
def FrozenRoutingSnapshot.matches (frozen : FrozenRoutingSnapshot) (other : Resource) : Bool :=
  (getattr other "sid" .none).isStr frozen.sid &&
  (getattr other "phone_number" .none).eq frozen.phoneNumber &&
  (getattr other "account_sid" .none).eq frozen.accountSid &&
  (getattr other "origin" .none).eq frozen.origin &&
  (numberTypeOf other).eq frozen.numberType &&
  (getattr other "voice_url" (.str [])).eq frozen.voiceUrl &&
  (getattr other "voice_method" (.str [])).eq frozen.voiceMethod &&
  (getattr other "voice_fallback_url" .none).eq frozen.voiceFallbackUrl &&
  (getattr other "voice_fallback_method" .none).eq frozen.voiceFallbackMethod &&
  (getattr other "status_callback" (.str [])).eq frozen.statusCallback &&
  (getattr other "status_callback_method" (.str [])).eq frozen.statusCallbackMethod &&
  (getattr other "sms_url" (.str [])).eq frozen.smsUrl &&
  (getattr other "sms_method" (.str [])).eq frozen.smsMethod &&
  (getattr other "sms_fallback_url" .none).eq frozen.smsFallbackUrl &&
  (getattr other "sms_fallback_method" .none).eq frozen.smsFallbackMethod &&
  (getattr other "voice_application_sid" .none).eq frozen.voiceApplicationSid &&
  (getattr other "sms_application_sid" .none).eq frozen.smsApplicationSid &&
  (getattr other "trunk_sid" .none).eq frozen.trunkSid &&
  decide (extractCapabilities (getattr other "capabilities" .none) = frozen.capabilities)

/-! ## Settings -/

structure Settings where
  smsSenderEnrollmentEnabled : Bool
  environment : Str
  firestoreProjectId : Str
  twilioAccountSid : Str
  productionTwilioAccountSid : Str
  twilioMessagingServiceSid : Str
  smsSenderEnrollmentCampaignSid : Str
  smsSenderEnrollmentCampaignSha256 : Str
  cloudRunUrl : Str

/-- What `phonenumbers` and `re` know of digits and of numbers. -/
structure Numbers where
  isDecimal : CodePoint → Bool
  /-- `parse` accepts the number, which is valid and of the region `US`. -/
  isUsNumber : Str → Bool

structure Context where
  accountSid : Str
  serviceSid : Str
  campaignSid : Str
  expectedSha256 : Str
  contractorId : Str
  canonicalNumber : Str
  baseUrl : Str

def isHex (c : CodePoint) : Bool :=
  (48 ≤ c.val && c.val < 58) || (65 ≤ c.val && c.val < 71) || (97 ≤ c.val && c.val < 103)

def isSid (letters : String) (s : Str) : Bool :=
  s.length == 34 && decide (s.take 2 = py letters) && (s.drop 2).all isHex

/-- `^\+[1-9]\d{7,14}\Z` -/
def isE164 (N : Numbers) : Str → Bool
  | plus :: first :: digits =>
    plus.val == 0x2b && 49 ≤ first.val && first.val < 58 && 7 ≤ digits.length &&
      digits.length ≤ 14 && digits.all N.isDecimal
  | _ => false

/-- `url.rstrip("/")` -/
def rstripSlash (url : Str) : Str := url.rdropWhile fun c => c.val == 0x2f

/-! ## The checks of what is read -/

variable (P : Python)

/-- mirrors 273-289 -/
def validateMembershipCapabilities (rawCaps : Value) : Bool :=
  match rawCaps with
  | .list items =>
    !items.isEmpty &&
    (items.all fun item =>
      match item with
      | .str s => !(strip s).isEmpty
      | _ => false) &&
    (items.any fun item =>
      match item with
      | .str s => decide (P.lower (strip s) = py "voice")
      | _ => false) &&
    items.any fun item =>
      match item with
      | .str s => decide (P.lower (strip s) = py "sms")
      | _ => false
  | _ => false

/-- mirrors 292-313; the
use case is a text when it is called -/
def computeCampaignScopeDigest (description messageFlow : Value) (usecase : Str) : Option Str :=
  match description, messageFlow with
  | .str description, .str messageFlow =>
    if strip description = [] ∨ strip messageFlow = [] then none
    else
      (encodeUtf8 (py "\x7b\"description\":" ++ Json.quotedAscii description ++
        py ",\"message_flow\":" ++ Json.quotedAscii messageFlow ++
        py ",\"us_app_to_person_usecase\":" ++ Json.quotedAscii usecase ++ py "\x7d")).map
        fun bytes => P.lower (P.sha256 bytes)
  | _, _ => none

def LIFECYCLE_HOLDS : List String :=
  ["deletion_requested_at", "deactivated_at", "deleted_app_detected_at", "number_released_at"]

def isNone : Value → Bool
  | .none => true
  | _ => false

def isBool (v : Value) (b : Bool) : Bool :=
  match v with
  | .bool c => b == c
  | _ => false

/-- mirrors 316-363 -/
def validateAssignmentRecord (c : Context) (doc : Doc) : Except EnrollmentReason Unit :=
  if !doc.id.isStr c.contractorId then .error .contractorIdMismatch
  else
    match doc.data with
    | .dict data =>
      if !(Dict.get data "twilio_number").isStr c.canonicalNumber then .error .assignmentNotFound
      else if !isBool (Dict.get data "active") true then .error .assignmentInactive
      else if !(Dict.get data "country_code").isStr (py "US") ||
          !(Dict.get data "provisioned_country_code").isStr (py "US") then .error .countryNotUs
      else if !(Dict.get data "number_provider").isStr (py "twilio") then .error .providerNotTwilio
      else if !(Dict.get data "number_type").isStr (py "local") then .error .numberTypeNotLocal
      else if (extractCapabilities (Dict.get data "number_capabilities")).voice ≠ some true ∨
          (extractCapabilities (Dict.get data "number_capabilities")).sms ≠ some true then
        .error .capabilitiesInsufficient
      else if !isBool (Dict.get data "owner_sms_enabled") true then .error .ownerSmsNotEnabled
      else if !isBool (Dict.get data "owner_sms_opted_out") false then .error .ownerSmsOptedOut
      else if LIFECYCLE_HOLDS.any fun hold => !isNone (Dict.get data hold) then
        .error .lifecycleHoldActive
      else .ok ()
    | _ => .error .assignmentNotFound

/-- mirrors 366-453 -/
def validateIncomingResource (c : Context) (incoming : Resource) :
    Except EnrollmentReason FrozenRoutingSnapshot :=
  if !(getattr incoming "phone_number" .none).isStr c.canonicalNumber then
    .error .incomingNumberNotFound
  else if !(getattr incoming "account_sid" .none).isStr c.accountSid then
    .error .incomingNumberAccountMismatch
  else
    match getattr incoming "sid" (.str []) with
    | .str pnSid =>
      if !isSid "PN" pnSid then .error .incomingNumberRoutingMismatch
      else if !(getattr incoming "origin" .none).isStr (py "twilio") then
        .error .incomingNumberRoutingMismatch
      else if !(numberTypeOf incoming).isStr (py "local") then .error .numberTypeNotLocal
      else if (extractCapabilities (getattr incoming "capabilities" .none)).voice ≠ some true ∨
          (extractCapabilities (getattr incoming "capabilities" .none)).sms ≠ some true then
        .error .capabilitiesInsufficient
      else if
          !(getattr incoming "voice_url" (.str [])).isStr
            (c.baseUrl ++ py "/webhooks/twilio/incoming") ||
          !(getattr incoming "voice_method" (.str [])).isStr (py "POST") ||
          !(getattr incoming "status_callback" (.str [])).isStr
            (c.baseUrl ++ py "/webhooks/twilio/status") ||
          !(getattr incoming "status_callback_method" (.str [])).isStr (py "POST") ||
          !(getattr incoming "sms_url" (.str [])).isStr
            (c.baseUrl ++ py "/webhooks/twilio/mms-incoming") ||
          !(getattr incoming "sms_method" (.str [])).isStr (py "POST") then
        .error .incomingNumberRoutingMismatch
      else if (getattr incoming "voice_application_sid" .none).truthy ||
          (getattr incoming "sms_application_sid" .none).truthy ||
          (getattr incoming "trunk_sid" .none).truthy then
        .error .incomingNumberRoutingMismatch
      else if (getattr incoming "voice_fallback_url" .none).truthy ||
          (getattr incoming "sms_fallback_url" .none).truthy then
        .error .incomingNumberRoutingMismatch
      else
        .ok { sid := pnSid, phoneNumber := .str c.canonicalNumber, accountSid := .str c.accountSid,
              origin := getattr incoming "origin" .none, numberType := numberTypeOf incoming,
              voiceUrl := getattr incoming "voice_url" (.str []),
              voiceMethod := getattr incoming "voice_method" (.str []),
              voiceFallbackUrl := getattr incoming "voice_fallback_url" .none,
              voiceFallbackMethod := getattr incoming "voice_fallback_method" .none,
              statusCallback := getattr incoming "status_callback" (.str []),
              statusCallbackMethod := getattr incoming "status_callback_method" (.str []),
              smsUrl := getattr incoming "sms_url" (.str []),
              smsMethod := getattr incoming "sms_method" (.str []),
              smsFallbackUrl := getattr incoming "sms_fallback_url" .none,
              smsFallbackMethod := getattr incoming "sms_fallback_method" .none,
              voiceApplicationSid := getattr incoming "voice_application_sid" .none,
              smsApplicationSid := getattr incoming "sms_application_sid" .none,
              trunkSid := getattr incoming "trunk_sid" .none,
              capabilities := extractCapabilities (getattr incoming "capabilities" .none) }
    | _ => .error .incomingNumberRoutingMismatch

/-- mirrors 456-483 -/
def validateMembershipResource (c : Context) (pnSid : Str) (membership : Resource) : Bool :=
  (getattr membership "sid" .none).isStr pnSid &&
  (getattr membership "account_sid" .none).isStr c.accountSid &&
  (getattr membership "service_sid" .none).isStr c.serviceSid &&
  (getattr membership "phone_number" .none).isStr c.canonicalNumber &&
  (getattr membership "country_code" .none).isStr (py "US") &&
  validateMembershipCapabilities P (getattr membership "capabilities" .none)

def serviceVerified (c : Context) (service : Resource) : Bool :=
  (getattr service "sid" .none).isStr c.serviceSid &&
  (getattr service "account_sid" .none).isStr c.accountSid &&
  isBool (getattr service "us_app_to_person_registered" .none) true &&
  isBool (getattr service "use_inbound_webhook_on_number" .none) true

def campaignVerified (c : Context) (campaign : Resource) : Bool :=
  (getattr campaign "sid" .none).isStr c.campaignSid &&
  (getattr campaign "account_sid" .none).isStr c.accountSid &&
  (getattr campaign "messaging_service_sid" .none).isStr c.serviceSid &&
  (getattr campaign "campaign_status" .none).isStr (py "VERIFIED") &&
  (getattr campaign "us_app_to_person_usecase" .none).isStr (py "LOW_VOLUME")

def digestVerified (c : Context) (campaign : Resource) : Bool :=
  match computeCampaignScopeDigest P (getattr campaign "description" .none)
    (getattr campaign "message_flow" .none) (py "LOW_VOLUME") with
  | some digest => !digest.isEmpty && decide (digest = c.expectedSha256)
  | none => false

/-! ## Questions to the environment -/

structure Reading where
  cancelled : Bool
  elapsed : Double

inductive Exchange (α : Type)
  | answered (a : α)
  | twilioRestException (status : ℤ) (code : Option ℤ)
  | raised

/-- How a job of the executor goes: the task that awaits it is cancelled, its thread sending the
request or not, or its guard is read and then the request sent. -/
inductive Job (α : Type)
  | cancelled (sent : Bool)
  | ran (guard : Reading) (exchange : Exchange α)

structure ClientIdentity where
  username : Value
  accountSid : Value

inductive Request
  | fetchService (serviceSid : Str)
  | fetchCampaign (serviceSid campaignSid : Str)
  | queryAssignment (number : Str)
  | queryIncoming (number : Str)
  | fetchMembership (serviceSid pnSid : Str)
  | createMembership (serviceSid pnSid : Str)

def Request.Result : Request → Type
  | .fetchService _ => Resource
  | .fetchCampaign _ _ => Resource
  | .queryAssignment _ => List Doc
  | .queryIncoming _ => List Resource
  | .fetchMembership _ _ => Resource
  | .createMembership _ _ => Unit

inductive Ask
  | clock
  | twilioClient
  | firestoreClient
  | send (request : Request)

def Ask.Answer : Ask → Type
  | .clock => Reading
  | .twilioClient => Option ClientIdentity
  | .firestoreClient => Option Value
  | .send request => Job request.Result

structure Locals where
  createAttempted : Bool
  createSucceededCleanly : Bool
  mutatedState : Option Bool

/-- What leaves a block: a `return`, or an exception. -/
inductive Exit
  | returned (result : SmsSenderEnrollmentResult)
  | budgetExceeded
  | operationCancelled
  /-- `asyncio.CancelledError` -/
  | taskCancelled
  | twilioRestException (status : ℤ) (code : Option ℤ)
  | exception

abbrev Enroll := Prog Ask.Answer Locals Exit

def ask (q : Ask) : Enroll q.Answer := Prog.ask q

def checkSyncGuard (reading : Reading) : Option Exit :=
  if reading.cancelled then some .operationCancelled
  else if MAX_BUDGET_SECONDS < reading.elapsed.val then some .budgetExceeded
  else none

/-- `await loop.run_in_executor(None, job)` -/
def runInExecutor {α : Type} : Job α → Enroll α
  | .cancelled _ => .raise .taskCancelled
  | .ran guard exchange =>
    match checkSyncGuard guard with
    | some exit => .raise exit
    | none =>
      match exchange with
      | .answered a => pure a
      | .twilioRestException status code => .raise (.twilioRestException status code)
      | .raised => .raise .exception

def refused (status : EnrollmentStatus) (reason : EnrollmentReason)
    (mutated : Option Bool := some false) : Exit :=
  .returned ⟨status, reason, false, mutated⟩

/-- `_check_async_guard`, and the return of what it gives -/
def checkAsyncGuard (mutated : Option Bool) : Enroll Unit := do
  let reading : Reading ← ask .clock
  .check (!reading.cancelled) (refused .rejected .operationCancelled mutated)
  .check (decide (reading.elapsed.val ≤ MAX_BUDGET_SECONDS))
    (refused .uncertain .budgetExceeded mutated)

variable (c : Context)

def send (request : Request) : Enroll request.Result := do
  let job : Job request.Result ← ask (.send request)
  runInExecutor job

def fetchService : Enroll Resource := send (.fetchService c.serviceSid)

def fetchCampaign : Enroll Resource := send (.fetchCampaign c.serviceSid c.campaignSid)

def queryAssignment : Enroll (List Doc) := send (.queryAssignment c.canonicalNumber)

def queryIncoming : Enroll (List Resource) := send (.queryIncoming c.canonicalNumber)

def fetchMembership (pnSid : Str) : Enroll Resource := send (.fetchMembership c.serviceSid pnSid)

def createMembership (pnSid : Str) : Enroll Unit := send (.createMembership c.serviceSid pnSid)

/-! ## The function -/

def textOf : Value → Str
  | .str s => s
  | _ => []

def contextOf (settings : Settings) (contractorId number : Value) : Context :=
  { accountSid := strip settings.twilioAccountSid,
    serviceSid := strip settings.twilioMessagingServiceSid,
    campaignSid := strip settings.smsSenderEnrollmentCampaignSid,
    expectedSha256 := strip settings.smsSenderEnrollmentCampaignSha256,
    contractorId := textOf contractorId,
    canonicalNumber := strip (textOf number),
    baseUrl := rstripSlash settings.cloudRunUrl }

def isText : Value → Bool
  | .str _ => true
  | _ => false

def gates (N : Numbers) (settings : Settings) (contractorId number : Value) : Enroll Unit := do
  .check settings.smsSenderEnrollmentEnabled (refused .disabled .featureDisabled)
  .check (decide (P.lower (strip settings.environment) = py "production"))
    (refused .rejected .nonProductionEnvironment)
  .check (decide (settings.firestoreProjectId = PRODUCTION_GCP_PROJECT_ID))
    (refused .rejected .invalidConfiguration)
  .check (decide (c.accountSid = strip settings.productionTwilioAccountSid) &&
    isSid "AC" c.accountSid) (refused .rejected .invalidConfiguration)
  .check (isSid "MG" c.serviceSid) (refused .rejected .invalidConfiguration)
  .check (isSid "QE" c.campaignSid) (refused .rejected .invalidConfiguration)
  .check (Python.isDigest c.expectedSha256) (refused .rejected .invalidConfiguration)
  .check (isText contractorId && !(strip c.contractorId).isEmpty) (refused .skipped .invalidInput)
  .check (isText number && isE164 N c.canonicalNumber) (refused .skipped .invalidInput)
  .check (N.isUsNumber c.canonicalNumber) (refused .skipped .nonUsPhoneRegion)

def bindClients : Enroll Unit := do
  let client : Option ClientIdentity ← ask .twilioClient
  match client with
  | none => .raise (refused .rejected .invalidConfiguration)
  | some client =>
    .check ((if client.username.truthy then client.username else client.accountSid).isStr
      c.accountSid) (refused .rejected .clientIdentityMismatch)
    let project : Option Value ← ask .firestoreClient
    match project with
    | none => .raise (refused .rejected .invalidConfiguration)
    | some project =>
      .check (project.isStr PRODUCTION_GCP_PROJECT_ID)
        (refused .rejected .clientIdentityMismatch)

def verifyService : Enroll Unit := do
  checkAsyncGuard (some false)
  let service ← fetchService c
  checkAsyncGuard (some false)
  let campaign ← fetchCampaign c
  .check (serviceVerified c service) (refused .rejected .serviceVerificationFailed)
  .check (campaignVerified c campaign) (refused .rejected .campaignVerificationFailed)
  .check (digestVerified P c campaign) (refused .rejected .campaignDigestMismatch)

def verifyAssignment : Enroll Unit := do
  checkAsyncGuard (some false)
  match ← queryAssignment c with
  | [] => .raise (refused .skipped .assignmentNotFound)
  | [doc] =>
    match validateAssignmentRecord c doc with
    | .ok () => return ()
    | .error reason => .raise (refused .skipped reason)
  | _ => .raise (refused .skipped .assignmentAmbiguous)

def freezeRouting : Enroll FrozenRoutingSnapshot := do
  checkAsyncGuard (some false)
  match ← queryIncoming c with
  | [] => .raise (refused .skipped .incomingNumberNotFound)
  | [incoming] =>
    match validateIncomingResource c incoming with
    | .ok frozen => return frozen
    | .error reason => .raise (refused .skipped reason)
  | _ => .raise (refused .skipped .incomingNumberAmbiguous)

def requireAbsent (pnSid : Str) : Enroll Unit := do
  checkAsyncGuard (some false)
  let membership ← Prog.handle (do return some (← fetchMembership c pnSid)) fun exit =>
    match exit with
    | .twilioRestException status code =>
      if status = 404 ∧ code = some 20404 then return none
      else .raise (refused .uncertain .createFailedUncertain)
    | .exception => .raise (refused .uncertain .createFailedUncertain)
    | exit => .raise exit
  match membership with
  | none => return ()
  | some membership =>
    .check (!validateMembershipResource P c pnSid membership)
      (.returned ⟨.alreadyMember, .membershipPresentValid, true, some false⟩)
    .raise (refused .rejected .membershipMalformed)

def only? {α : Type} : List α → Option α
  | [a] => some a
  | _ => none

def recheck (frozen : FrozenRoutingSnapshot) : Enroll Unit := do
  checkAsyncGuard (some false)
  let doc ← .need (only? (← queryAssignment c)) (refused .rejected .prewriteDriftDetected)
  .check (validateAssignmentRecord c doc).toBool (refused .rejected .prewriteDriftDetected)
  let incoming ← .need (only? (← queryIncoming c)) (refused .rejected .prewriteDriftDetected)
  .check (frozen.matches incoming) (refused .rejected .prewriteDriftDetected)
  let service ← fetchService c
  let campaign ← fetchCampaign c
  .check (serviceVerified c service && campaignVerified c campaign)
    (refused .rejected .prewriteDriftDetected)
  .check (digestVerified P c campaign) (refused .rejected .prewriteDriftDetected)

def create (pnSid : Str) : Enroll Unit := do
  checkAsyncGuard (some false)
  Prog.assign fun locals => { locals with createAttempted := true, createSucceededCleanly := false }
  Prog.handle
    (do
      createMembership c pnSid
      Prog.assign fun locals =>
        { locals with createSucceededCleanly := true, mutatedState := some true })
    fun exit =>
      match exit with
      | .twilioRestException _ code => do
        if code = some 21712 then
          Prog.assign fun locals => { locals with mutatedState := some false }
          .raise (refused .rejected .otherServiceConflict)
        else Prog.assign fun locals => { locals with mutatedState := none }
      | .exception => Prog.assign fun locals => { locals with mutatedState := none }
      | exit => .raise exit

/-- `readback_res` and `readback_is_404` -/
structure Readback where
  resource : Option Resource
  is404 : Bool

def readBack (frozen : FrozenRoutingSnapshot) : Enroll SmsSenderEnrollmentResult := do
  let mutatedState ← Prog.look Locals.mutatedState
  checkAsyncGuard mutatedState
  let readback ← Prog.handle (do return ⟨some (← fetchMembership c frozen.sid), false⟩) fun exit =>
    match exit with
    | .twilioRestException status code =>
      return Readback.mk none (decide (status = 404 ∧ code = some 20404))
    | .exception => return Readback.mk none false
    | exit => .raise exit
  let membership ← .need readback.resource (refused .uncertain
    (if readback.is404 then .readbackFailedAbsent else .readbackFailedUncertain) mutatedState)
  .check (validateMembershipResource P c frozen.sid membership)
    (refused .uncertain .membershipMalformed mutatedState)
  let doc ← .need (only? (← queryAssignment c))
    (refused .uncertain .postwriteDriftDetected mutatedState)
  .check (validateAssignmentRecord c doc).toBool
    (refused .uncertain .postwriteDriftDetected mutatedState)
  let incoming ← .need (only? (← queryIncoming c))
    (refused .uncertain .postwriteDriftDetected mutatedState)
  .check (frozen.matches incoming) (refused .uncertain .postwriteDriftDetected mutatedState)
  let createSucceededCleanly ← Prog.look Locals.createSucceededCleanly
  .raise (.returned ⟨.enrolled, .readbackVerified, true,
    if createSucceededCleanly then some true else none⟩)

def enroll : Enroll SmsSenderEnrollmentResult := do
  verifyService P c
  verifyAssignment c
  let frozen ← freezeRouting c
  requireAbsent P c frozen.sid
  recheck P c frozen
  create c frozen.sid
  readBack P c frozen

def report (exit : Exit) : Enroll SmsSenderEnrollmentResult := do
  let locals ← Prog.look id
  let mutated := if locals.createAttempted then locals.mutatedState else some false
  match exit with
  | .returned result => .raise (.returned result)
  | .budgetExceeded => .raise (refused .uncertain .budgetExceeded mutated)
  | .operationCancelled => .raise (refused .rejected .operationCancelled mutated)
  | .taskCancelled => .raise .taskCancelled
  | _ => .raise (refused .uncertain .unexpectedError mutated)

/-- mirrors 502-1221 -/
def ensureSmsSenderMembership (N : Numbers) (settings : Settings) (contractorId number : Value) :
    Enroll SmsSenderEnrollmentResult :=
  let c := contextOf settings contractorId number
  Prog.handle
    (do
      gates P c N settings contractorId number
      checkAsyncGuard (some false)
      bindClients c
      Prog.handle (enroll P c) report)
    fun exit =>
      match exit with
      | .returned result => return result
      | exit => .raise exit

end HeyKevin.L9.Enrollment
