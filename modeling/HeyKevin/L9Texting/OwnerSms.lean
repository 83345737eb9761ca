import HeyKevin.Core.Fallible
import HeyKevin.Core.Machine
import HeyKevin.L1Encoding.Value
/-!
# An owner's consent to be texted

Two documents hold it (app/db/owner_sms.py): the contractor profile, with the
opt-out flag, its revision and, for a Canadian assignment, the express consent;
and one marker for each event that was taken in, under the digest of the
event's dedupe key. Four writers change them, each in a transaction: STOP,
START and provider reports (`applyOwnerSmsConsentTransition`), the collection
of express consent (`collectCanadaOwnerSmsConsent`), its promotion once the
provider has the sender (`verifyCanadaOwnerSmsDelivery`), and whoever else
edits the profile, without touching identities, country or consent. A message
on its way out reads the revision (`sendOwnerSms`).

Firestore runs a transaction body again when it conflicts; only the run that
commits counts, and its clock readings are the ones in the call.

Line numbers without a file are those of app/db/owner_sms.py.
-/
namespace HeyKevin.L9.Texting

open HeyKevin.Core Binary64 L1 L1.Text L1.Datetime

/-- The libraries underneath: `phonenumbers`, with `ν` its parsed numbers, and
what the interpreter carries. -/
structure Libraries (ν : Type) where
  /-- `s.upper()` -/
  upper : Str → Str
  /-- A decimal digit outside ASCII; `int(s, 16)` reads those too. -/
  isDecimal : CodePoint → Bool
  /-- `hashlib.sha256(bs).hexdigest()` -/
  sha256 : List Byte → Str
  /-- `phonenumbers.parse(s, region)`; `none` is its `NumberParseException`. -/
  parse : Str → Option Str → Option ν
  isValidNumber : ν → Bool
  /-- `phonenumbers.format_number(n, PhoneNumberFormat.E164)` -/
  e164 : ν → Str
  regionCodeForNumber : ν → Option Str

variable {ν : Type} (L : Libraries ν)

/-! ## Dedupe keys -/

def isHex (c : CodePoint) : Bool :=
  (48 ≤ c.val && c.val < 58) || (65 ≤ c.val && c.val < 71) || (97 ≤ c.val && c.val < 103)

/-- `re.match("^(SM|MM)[0-9a-fA-F]{32}$", s)`; the `$` also matches before a final newline.
mirrors 18 (`_MESSAGESID_PATTERN`) -/
def isMessageSid (s : Str) : Bool :=
  let t := if s.getLast? = some 10 then s.dropLast else s
  (t.take 2 == py "SM" || t.take 2 == py "MM") && t.length == 34 && (t.drop 2).all isHex

/-- `s.replace(sub, "")`, past the first `skip` characters of `s`. -/
def removeFrom (sub : Str) : ℕ → Str → Str
  | _, [] => []
  | skip + 1, _ :: s => removeFrom sub skip s
  | 0, c :: s =>
    if sub.isPrefixOf (c :: s) then removeFrom sub (sub.length - 1) s
    else c :: removeFrom sub 0 s

def isDigitRun (isDigit : CodePoint → Bool) : Str → Bool
  | [] => false
  | [c] => isDigit c
  | c :: 95 :: s => isDigit c && isDigitRun isDigit s
  | c :: s => isDigit c && isDigitRun isDigit s

/-- What `int(s, 16)` reads: white space around, a sign, a `0x`. -/
def isHexInt (s : Str) : Bool :=
  let t := strip s
  let t := if t.head? = some 43 || t.head? = some 45 then t.drop 1 else t
  let t :=
    if t.take 2 == py "0x" || t.take 2 == py "0X" then
      if (t.drop 2).head? = some 95 then t.drop 3 else t.drop 2
    else t
  isDigitRun (fun c => isHex c || L.isDecimal c) t

/-- `uuid.UUID(s)` does not raise. The 32 characters that are left have no minus sign, so
what they read as is in the range of a UUID.
mirrors 21-26 -/
def isValidUuid (s : Str) : Bool :=
  let hex := removeFrom (py "uuid:") 0 (removeFrom (py "urn:") 0 s)
  let hex := (hex.dropWhile (· ∈ py "\x7b\x7d")).rdropWhile (· ∈ py "\x7b\x7d")
  let hex := hex.filter (· ≠ 45)
  hex.length == 32 && isHexInt L hex

/-- A key in one of the forms that are let in. No decimal digit is a surrogate, so these encode.
mirrors 29-58 -/
def validateAndHashDedupeKey (dedupeKey : Str) : Option Str :=
  let key := strip dedupeKey
  let valid :=
    if (py "inbound:").isPrefixOf key then isMessageSid (key.drop 8)
    else if (py "delivery:").isPrefixOf key then isMessageSid (key.drop 9)
    else if (py "sync:").isPrefixOf key then isValidUuid L (key.drop 5)
    else isValidUuid L key
  if valid then (encodeUtf8 key).map L.sha256 else none

/-! ## The profile -/

/-- `v is True` -/
def isTrue : Value → Bool
  | .bool b => b
  | _ => false

/-- `v is None` -/
def isNone : Value → Bool
  | .none => true
  | _ => false

/-- mirrors 61-68 -/
def resolveOwnerSmsEnabled (data : Dict) : Bool :=
  if data.has "owner_sms_enabled" then isTrue (data.get "owner_sms_enabled") else true

/-- mirrors 71-78 -/
def resolveOwnerSmsOptedOut (data : Dict) : Bool :=
  if data.has "owner_sms_opted_out" then
    match data.get "owner_sms_opted_out" with
    | .bool b => b
    | _ => true
  else false

/-- `isinstance(v, int) and not isinstance(v, bool) and v >= 0` -/
def revision? : Value → Option ℤ
  | .number (.int n) => if 0 ≤ n then some n else none
  | _ => none

/-- mirrors 81-86 -/
def resolveOwnerSmsOptOutRevision (data : Dict) : ℤ :=
  (revision? (data.get "owner_sms_opt_out_revision")).getD 0

/-- mirrors app/utils/phone.py:15-23 -/
def normalizePhone (number defaultRegion : Str) : Option Str :=
  match L.parse number (some defaultRegion) with
  | some parsed => if L.isValidNumber parsed then some (L.e164 parsed) else none
  | none => none

/-- `isinstance(v, str) and v.strip()` -/
def stripped? : Value → Option Str
  | .str s => if (strip s).isEmpty then none else some (strip s)
  | _ => none

/-- mirrors 89-125 -/
def resolveContractorOwnerSmsIdentities (data : Dict) : Option Str × Option Str :=
  let twilio := (stripped? (data.get "twilio_number")).bind (normalizePhone L · (py "US"))
  if data.has "owner_phone_e164" then
    match (stripped? (data.get "owner_phone_e164")).bind (normalizePhone L · (py "US")) with
    | some owner => (some owner, twilio)
    | none => (none, none)
  else
    let country :=
      match data.get "country_code" with
      | .str c => if c.isEmpty then py "US" else L.upper (strip c)
      | _ => py "US"
    ((stripped? (data.get "owner_phone")).bind (normalizePhone L · country), twilio)

/-! ## Express consent -/

structure Verification where
  accountSid : Str
  messagingServiceSid : Str
  verifiedAt : DateTime
deriving DecidableEq

/-- `owner_sms_consent` of the profile, as `collect_canada_owner_sms_consent` builds it. -/
structure Consent where
  contractorId : Str
  disclosureVersion : Str
  ownerPhoneE164 : Str
  twilioNumber : Str
  source : Str
  collectedAt : DateTime
  optOutRevision : ℤ
  deliveryState : Str
  verification : Option Verification
deriving DecidableEq

def disclosure : Str := py "ca-owner-sms-v1"

def lifecycleHolds : List String :=
  ["deletion_requested_at", "deactivated_at", "deleted_app_detected_at", "number_released_at"]

/-- mirrors app/services/canada_sms_consent.py:18-29 -/
def isCanadianPhone (value : Option Str) : Bool :=
  match value with
  | some v =>
    (py "+").isPrefixOf v &&
      match L.parse v none with
      | some parsed =>
        L.isValidNumber parsed && L.regionCodeForNumber parsed == some (py "CA") &&
          L.e164 parsed == v
      | none => false
  | none => false

/-- mirrors app/services/canada_sms_consent.py:32-46 -/
def canadianAssignmentValid (data : Dict) (requireEnabled : Bool) : Bool :=
  let (owner, sender) := resolveContractorOwnerSmsIdentities L data
  let cap (k : String) : Bool :=
    match data.get "number_capabilities" with
    | .dict caps => isTrue (Dict.get caps k)
    | _ => false
  (data.get "country_code").isStr (py "CA") &&
    (data.get "provisioned_country_code").isStr (py "CA") &&
    isTrue (data.get "active") && (data.get "number_provider").isStr (py "twilio") &&
    (data.get "number_type").isStr (py "local") && cap "voice" && cap "sms" &&
    isCanadianPhone L owner && isCanadianPhone L sender &&
    (!requireEnabled || isTrue (data.get "owner_sms_enabled")) &&
    (match data.get "owner_sms_opted_out" with
      | .bool b => !b
      | _ => false) &&
    (revision? (data.get "owner_sms_opt_out_revision")).isSome &&
    lifecycleHolds.all fun key => isNone (data.get key)

/-- 1970-01-01T00:00:00Z, in microseconds of a `DateTime`. -/
def epoch : ℤ := 62135596800000000

/-- mirrors app/services/canada_sms_consent.py:49-70 -/
def validCanadaConsent (contractorId : Str) (data : Dict) (now : DateTime) (consent : Consent) :
    Bool :=
  let (owner, sender) := resolveContractorOwnerSmsIdentities L data
  (data.get "country_code").isStr (py "CA") &&
    (data.get "provisioned_country_code").isStr (py "CA") &&
    isCanadianPhone L owner && isCanadianPhone L sender &&
    !contractorId.isEmpty && consent.contractorId == contractorId &&
    some consent.ownerPhoneE164 == owner && some consent.twilioNumber == sender &&
    consent.disclosureVersion == disclosure && consent.source == py "ios_settings" &&
    revision? (data.get "owner_sms_opt_out_revision") == some consent.optOutRevision &&
    consent.collectedAt.offset == some 0 &&
    decide (epoch < consent.collectedAt.instant) &&
    decide (consent.collectedAt.instant ≤ now.instant)

structure Settings where
  canadaSmsEnabled : Bool
  environment : Str
  firestoreProjectId : Str
  cloudRunUrl : Str
  twilioAccountSid : Str
  productionTwilioAccountSid : Str
  canadaMessagingServiceSid : Str
  twilioMessagingServiceSid : Str

def productionGcpProjectId : Str := py "kevin-491315"

def productionCloudRunUrl : Str := py "https://kevin-api-752910912062.us-central1.run.app"

/-- `re.fullmatch(letters + "[0-9a-fA-F]{32}", s)` for two letters. -/
def isSid (letters s : Str) : Bool :=
  s.take 2 == letters && s.length == 34 && (s.drop 2).all isHex

/-- mirrors app/services/canada_sms_consent.py:73-82 -/
def canadaConfigurationValid (S : Settings) : Bool :=
  S.canadaSmsEnabled && S.environment == py "production" &&
    S.firestoreProjectId == productionGcpProjectId &&
    S.cloudRunUrl.rdropWhile (· = 47) == productionCloudRunUrl &&
    isSid (py "AC") S.twilioAccountSid && S.twilioAccountSid == S.productionTwilioAccountSid &&
    isSid (py "MG") S.canadaMessagingServiceSid &&
    S.canadaMessagingServiceSid != S.twilioMessagingServiceSid

/-- mirrors app/services/canada_sms_consent.py:85-100 -/
def validCanadaDeliveryBinding (contractorId : Str) (data : Dict) (consent : Option Consent)
    (now : DateTime) (accountSid messagingServiceSid : Str) (configurationEnabled : Bool) : Bool :=
  match consent with
  | some consent =>
    configurationEnabled && validCanadaConsent L contractorId data now consent &&
      consent.deliveryState == py "verified" &&
      match consent.verification with
      | some v =>
        v.accountSid == accountSid && v.messagingServiceSid == messagingServiceSid &&
          v.verifiedAt.offset == some 0 &&
          decide (consent.collectedAt.instant ≤ v.verifiedAt.instant) &&
          decide (v.verifiedAt.instant ≤ now.instant)
      | none => false
  | none => false

/-- mirrors app/services/canada_sms_consent.py:103-108 -/
def canadaDeliveryReady (S : Settings) (now : DateTime) (contractorId : Str) (data : Dict)
    (consent : Option Consent) : Bool :=
  validCanadaDeliveryBinding L contractorId data consent now S.twilioAccountSid
    S.canadaMessagingServiceSid (canadaConfigurationValid S)

/-! ## Documents -/

inductive Transition
  | superseded
  | optOut
  | optIn

/-- A document of `owner_sms_events`. -/
structure Marker where
  eventId : Str
  transition : Transition
  source : Str
  revisionApplied : ℤ
  createdAt : Double

/-- A contractor document, its `owner_sms_consent` apart from the other fields, and the
documents of its `owner_sms_events`. -/
structure Contractor where
  profile : Dict
  consent : Option Consent
  events : Entries Str Marker

abbrev Store := Entries Str Contractor

def reserved : List String :=
  ["owner_phone_e164", "owner_phone", "twilio_number", "country_code",
    "provisioned_country_code", "owner_sms_opted_out", "owner_sms_opt_out_revision"]

/-! ## Calls -/

/-- The arguments of `apply_owner_sms_consent_transition` and its clock. -/
structure ConsentTransition where
  contractorId : Str
  optOut : Bool
  source : Str
  dedupeKey : Str
  expectedOwnerPhone : Str
  expectedTwilioNumber : Str
  expectedRevision : Option ℤ
  now : Double

/-- The arguments of `collect_canada_owner_sms_consent`, and its two clock readings: in
the check of a stored consent and in a new one. -/
structure Collect where
  contractorId : Str
  disclosureVersion : Str
  ownerPhoneE164 : Str
  twilioNumber : Str
  expectedRevision : ℤ
  checkedAt : DateTime
  collectedAt : DateTime

/-- The arguments of `verify_canada_owner_sms_delivery`, the settings and the project it
runs under, and its clock readings. -/
structure Verify where
  contractorId : Str
  acceptedConsent : Consent
  accountSid : Str
  messagingServiceSid : Str
  settings : Settings
  project : Str
  checkedAt : DateTime
  verifiedAt : DateTime

structure Edit where
  contractorId : Str
  fields : Dict
  spares : ∀ k ∈ fields.keys, k ∉ reserved

structure Send where
  contractorId : Str
  settings : Settings
  now : DateTime

inductive Call
  | transition (t : ConsentTransition)
  | collect (c : Collect)
  | verify (v : Verify)
  | edit (e : Edit)
  | send (m : Send)

inductive Outcome
  | deduplicated
  | superseded
  | applied
deriving DecidableEq

inductive Answer
  /-- `(False, \x7b"error": e\x7d)` -/
  | error (e : String)
  | transition (outcome : Outcome) (currentOptedOut : Bool) (revision : ℤ)
  | accepted (consent : Consent)
  | verified
  | edited
  /-- The provider is asked, and a report of this message will name this revision. -/
  | sending (revision : ℤ)
  | suppressed

/-! ## Transactions -/

/-- What a transition writes, over a contractor whose identities match.
mirrors 183-236 (`_apply`) -/
def applyEvent (t : ConsentTransition) (eventId : Str) (doc : Contractor) : Contractor × Answer :=
  let currentOptedOut := resolveOwnerSmsOptedOut doc.profile
  let currentRev := resolveOwnerSmsOptOutRevision doc.profile
  let marked (transition : Transition) (revision : ℤ) : Entries Str Marker :=
    Entries.set doc.events eventId ⟨eventId, transition, t.source, revision, t.now⟩
  if (Entries.find? doc.events eventId).isSome then
    (doc, .transition .deduplicated currentOptedOut currentRev)
  else if t.expectedRevision.any (currentRev ≠ ·) then
    ({ doc with events := marked .superseded currentRev },
      .transition .superseded currentOptedOut currentRev)
  else
    let newRev := currentRev + 1
    ({ doc with
        profile := doc.profile.update
          [("owner_sms_opted_out", .bool t.optOut),
           ("owner_sms_opt_out_revision", .int newRev),
           ("owner_sms_opt_out_source", .str t.source),
           ("owner_sms_opt_out_updated_at", .number (.float t.now))]
        events := marked (if t.optOut then .optOut else .optIn) newRev },
      .transition .applied t.optOut newRev)

/-- mirrors 128-240 -/
def applyOwnerSmsConsentTransition (s : Store) (t : ConsentTransition) : Store × Answer :=
  let cleanCid := strip t.contractorId
  if cleanCid.isEmpty then (s, .error "invalid_contractor_id") else
  match validateAndHashDedupeKey L t.dedupeKey with
  | none => (s, .error "invalid_dedupe_key")
  | some eventId =>
    match normalizePhone L (strip t.expectedOwnerPhone) (py "US"),
      normalizePhone L (strip t.expectedTwilioNumber) (py "US") with
    | some expectedOwner, some expectedTwilio =>
      match Entries.find? s cleanCid with
      | none => (s, .error "contractor_not_found")
      | some doc =>
        match resolveContractorOwnerSmsIdentities L doc.profile with
        | (some owner, some twilio) =>
          if owner ≠ expectedOwner ∨ twilio ≠ expectedTwilio then (s, .error "identity_mismatch")
          else
            let (doc, answer) := applyEvent t eventId doc
            (Entries.set s cleanCid doc, answer)
        | _ => (s, .error "stored_identities_invalid")
    | _, _ => (s, .error "invalid_expected_identities")

/-- `where("twilio_number", "==", sender).limit(2)` finds this contractor and no other. -/
def assignedOnlyTo (s : Store) (sender contractorId : Str) : Prop :=
  (s.filter fun e => (e.2.profile.get "twilio_number").isStr sender).map Prod.fst = [contractorId]

instance (s : Store) (sender contractorId : Str) :
    Decidable (assignedOnlyTo s sender contractorId) :=
  inferInstanceAs (Decidable (_ = _))

/-- The consent that a collection writes: a retry keeps the facts of a valid one.
mirrors 268-294 (`apply`) -/
def acceptedConsent (s : Store) (c : Collect) (doc : Contractor) : Except String Consent := do
  let (owner, sender) := resolveContractorOwnerSmsIdentities L doc.profile
  ensure (some c.ownerPhoneE164 = owner ∧ some c.twilioNumber = sender ∧
    (doc.profile.get "owner_sms_opt_out_revision").isInt c.expectedRevision = true)
    "stale_consent_snapshot"
  ensure (canadianAssignmentValid L doc.profile false = true) "consent_not_eligible"
  ensure (assignedOnlyTo s c.twilioNumber c.contractorId) "assignment_ambiguous"
  let consent :=
    match doc.consent.filter (validCanadaConsent L c.contractorId doc.profile c.checkedAt) with
    | some consent => consent
    | none =>
      ⟨c.contractorId, disclosure, c.ownerPhoneE164, c.twilioNumber, py "ios_settings",
        c.collectedAt, c.expectedRevision, [], none⟩
  return { consent with deliveryState := py "pending" }

/-- mirrors 243-298 -/
def collectCanadaOwnerSmsConsent (s : Store) (c : Collect) : Store × Answer :=
  if (strip c.contractorId).isEmpty ∨ c.disclosureVersion ≠ disclosure ∨ c.expectedRevision < 0 then
    (s, .error "invalid_consent_request")
  else
    match Entries.find? s c.contractorId with
    | none => (s, .error "contractor_not_found")
    | some doc =>
      match acceptedConsent L s c doc with
      | .error e => (s, .error e)
      | .ok consent =>
        (Entries.set s c.contractorId
          { doc with
            profile := doc.profile.set "owner_sms_enabled" (.bool true)
            consent := some consent },
          .accepted consent)

/-- The consent that a promotion writes.
mirrors 335-352 (`apply`) -/
def promotedConsent (s : Store) (v : Verify) (doc : Contractor) : Except String Consent := do
  ensure (doc.consent = some v.acceptedConsent ∧
      v.acceptedConsent.deliveryState = py "pending" ∧
      canadianAssignmentValid L doc.profile true = true ∧
      validCanadaConsent L v.contractorId doc.profile v.checkedAt v.acceptedConsent = true)
    "consent_state_changed"
  ensure (assignedOnlyTo s v.acceptedConsent.twilioNumber v.contractorId) "assignment_ambiguous"
  return { v.acceptedConsent with
    deliveryState := py "verified"
    verification := some ⟨v.accountSid, v.messagingServiceSid, v.verifiedAt⟩ }

/-- mirrors 301-356 -/
def verifyCanadaOwnerSmsDelivery (s : Store) (v : Verify) : Store × Answer :=
  if canadaConfigurationValid v.settings ∧ v.settings.twilioAccountSid = v.accountSid ∧
      v.settings.canadaMessagingServiceSid = v.messagingServiceSid ∧
      v.project = productionGcpProjectId then
    match Entries.find? s v.contractorId with
    | none => (s, .error "consent_state_changed")
    | some doc =>
      match promotedConsent L s v doc with
      | .error e => (s, .error e)
      | .ok consent =>
        (Entries.set s v.contractorId { doc with consent := some consent }, .verified)
  else (s, .error "consent_delivery_unavailable")

/-- The revision that a message takes from its last read. For a Canadian assignment that read
follows the enrollment check, whose other conditions only hold more messages back.
mirrors app/services/owner_sms.py:26-126 -/
def sendOwnerSms (s : Store) (m : Send) : Answer :=
  let cleanCid := strip m.contractorId
  if cleanCid.isEmpty then .error "missing contractor_id" else
  match Entries.find? s cleanCid with
  | none => .error "contractor not found"
  | some doc =>
    match resolveContractorOwnerSmsIdentities L doc.profile with
    | (some owner, some twilio) =>
      if !resolveOwnerSmsEnabled doc.profile || resolveOwnerSmsOptedOut doc.profile then .suppressed
      else
        let isCanada := (doc.profile.get "country_code").isStr (py "CA") ||
          (doc.profile.get "provisioned_country_code").isStr (py "CA") ||
          isCanadianPhone L (some owner) || isCanadianPhone L (some twilio)
        let ready := canadianAssignmentValid L doc.profile true &&
          canadaDeliveryReady L m.settings m.now cleanCid doc.profile doc.consent
        if isCanada && !ready then .suppressed
        else .sending (resolveOwnerSmsOptOutRevision doc.profile)
    | _ => .error "invalid or unresolvable phone numbers"

def step : Machine Store Call Answer := fun s call =>
  match call with
  | .transition t => applyOwnerSmsConsentTransition L s t
  | .collect c => collectCanadaOwnerSmsConsent L s c
  | .verify v => verifyCanadaOwnerSmsDelivery L s v
  | .edit e =>
    match Entries.find? s e.contractorId with
    | none => (s, .error "not found")
    | some doc =>
      (Entries.set s e.contractorId { doc with profile := doc.profile.update e.fields }, .edited)
  | .send m => (s, sendOwnerSms L s m)

end HeyKevin.L9.Texting
