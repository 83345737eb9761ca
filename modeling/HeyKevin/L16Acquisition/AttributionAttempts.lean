import HeyKevin.Core.Binary64Order
import HeyKevin.Core.Machine
import HeyKevin.L1Encoding.Value
/-!
# Attempts to attribute a sign-up

mirrors app/services/acquisition.py: the `acquisition_measurement` map of an
account, the validator that every transaction on it asks first, and the
transactions: a lease for one attempt, its result or its failure, and what was
observed for the first time.

**Model.** A transaction is one step; the clock reading of its server is taken
before it and may be any. How a payment is classified is left to the caller.

* `validateMap_eq_some`: what an accepted map is made of.
* `step_cases`: what a request can do; `Writes.accepted`: what it leaves accepted.
* `attribution_bounded_iff`: **at most three leases**, no two at once, terminal
  statuses that stay, and every field written once; the map stays accepted
  exactly where no first lease is granted before the account was created.

Line numbers are those of app/services/acquisition.py.
-/
namespace HeyKevin.L16

open HeyKevin.Core Binary64 L1 L1.Text

def MAX_ATTEMPTS : ℤ := 3
def MIN_SPACING_SECONDS : ℚ := 5
def LEASE_LIFETIME_SECONDS : ℚ := 15
def MIN_TIMESTAMP_S : ℚ := 978307200
def MAX_TIMESTAMP_S : ℚ := 4102444800

def VALID_SIGNUP_COUNTRIES : List String := ["US", "CA", "BR", "GB", "DE", "FR", "IT", "ES", "PT"]
def VALID_PAYMENT_TIERS : List String := ["personal", "business", "businessPro"]

/-! ## The validator -/

/-- `type(v) is int` -/
def int? : Value → Option ℤ
  | .number (.int z) => some z
  | _ => none

def isNone : Value → Bool
  | .none => true
  | _ => false

/-- A finite number, no truth value, between 2001 and 2100. -/
def timestamp? (v : Value) : Option Number :=
  v.finite?.filter fun n => decide (MIN_TIMESTAMP_S ≤ n.val ∧ n.val ≤ MAX_TIMESTAMP_S)

/-- The time of the sign-up, from a map of the right version. -/
def createdAt? (acq : Dict) : Option Double := do
  let schemaVersion ← int? (acq.get "schema_version")
  let createdAt ← timestamp? (acq.get "created_at")
  let cohort ← timestamp? (acq.get "cohort")
  if schemaVersion = 1 ∧ |rnd (cohort.toFloat.val - createdAt.toFloat.val)| ≤ rnd (1 / 1000) then
    some createdAt.toFloat
  else none

def attempts? (acq : Dict) : Option ℤ :=
  if acq.has "attempts" then
    (int? (acq.get "attempts")).filter fun attempts =>
      decide (0 ≤ attempts ∧ attempts ≤ MAX_ATTEMPTS)
  else none

/-- A finite number, no truth value, from the sign-up on. -/
def observation? (created : Double) (v : Value) : Option Double :=
  (v.finite?.map Number.toFloat).filter fun t =>
    decide (created.val ≤ t.val ∧ t.val ≤ MAX_TIMESTAMP_S)

def lastAttemptAt? (attempts : ℤ) (created : Double) (lastAttempt : Value) :
    Option (Option Double) :=
  if isNone lastAttempt then if attempts = 0 then some none else none
  else (observation? created lastAttempt).map some

structure Lease where
  attempt : ℤ
  expiresAt : Double

def lease? (attempts : ℤ) (lastAttempt : Option Double) (leaseAttempt leaseExpires : Value) :
    Option (Option Lease) :=
  if isNone leaseAttempt != isNone leaseExpires then none
  else if isNone leaseAttempt then some none
  else do
    let attempt ← int? leaseAttempt
    let expires ← leaseExpires.finite?
    let last ← lastAttempt
    if 1 ≤ attempt ∧ attempt ≤ MAX_ATTEMPTS ∧ attempt = attempts ∧
        last.val ≤ expires.toFloat.val ∧ expires.toFloat.val ≤ rnd (last.val + 15) then
      some (some ⟨attempt, expires.toFloat⟩)
    else none

def conversationOk (created : Double) (observedAt : Value) : Bool :=
  isNone observedAt || (observation? created observedAt).isSome

def countryOk (country : Value) : Bool :=
  isNone country || VALID_SIGNUP_COUNTRIES.any fun c => country.isStr (py c)

/-- What the validator returns of an accepted map. -/
structure Measurement where
  attempts : ℤ
  lastAttempt : Option Double
  lease : Option Lease
  created : Double

def validateMap (acq : Dict) : Option Measurement := do
  let created ← createdAt? acq
  let attempts ← attempts? acq
  let lastAttempt ← lastAttemptAt? attempts created (acq.get "last_attempt_at")
  let lease ← lease? attempts lastAttempt (acq.get "lease_attempt") (acq.get "lease_expires_at")
  if conversationOk created (acq.get "first_screening_conversation_observed_at") &&
      countryOk (acq.get "account_country_at_signup") then
    some ⟨attempts, lastAttempt, lease, created⟩
  else none

/-- mirrors 65-172 -/
def validateAcquisitionMeasurementMap (acq : Value) : Option Measurement :=
  match acq with
  | .dict acq => validateMap acq
  | _ => none

/-! ## Transactions -/

/-- The document of a contractor, of the fields that are read here. -/
structure Account where
  active : Value
  acquisition : Value

inductive Answer
  | status (status : String)
  | retryable (retryAfterSeconds : ℤ)
  | leased (leaseAttempt : ℤ)
  | nothing

/-- The fields of the map that a transaction updates, and what it returns. -/
structure Result where
  updates : List (String × Value)
  answer : Answer

def transact (enabled : Bool) (disabled ineligible : Answer) (body : Dict → Measurement → Result)
    (account : Option Account) : Option Account × Result :=
  if !enabled then (account, ⟨[], disabled⟩)
  else
    match account with
    | none => (none, ⟨[], ineligible⟩)
    | some a =>
      match a.active, a.acquisition, validateAcquisitionMeasurementMap a.acquisition with
      | .bool true, .dict acq, some m =>
        let r := body acq m
        (some { a with acquisition := .dict (Entries.update acq r.updates) }, r)
      | _, _, _ => (some a, ⟨[], ineligible⟩)

/-- `status in statuses`, and which it is -/
def oneOf (status : Value) (statuses : List String) : Option String :=
  statuses.find? fun s => status.isStr (py s)

def float (d : Double) : Value := .number (.float d)

/-- mirrors 221-293 -/
def leaseAttributionAttempt (now : Double) (acq : Dict) (m : Measurement) : Result :=
  let currentStatus := acq.get "attribution_status"
  if currentStatus.isStr (py "recorded") then ⟨[], .status "already_recorded"⟩
  else
    match oneOf currentStatus ["unattributed", "exhausted", "ineligible", "disabled"] with
    | some status => ⟨[], .status status⟩
    | none =>
      match m.lease.filter fun lease => decide (now.val < lease.expiresAt.val) with
      | some lease =>
        ⟨[], .retryable (max 5 (min 15 ⌈rnd (lease.expiresAt.val - now.val)⌉))⟩
      | none =>
        if m.lastAttempt.any fun last =>
            decide (rnd (now.val - last.val) < MIN_SPACING_SECONDS) then
          ⟨[], .retryable 5⟩
        else if MAX_ATTEMPTS ≤ m.attempts then
          ⟨[("attribution_status", .text "exhausted"), ("lease_attempt", .none),
            ("lease_expires_at", .none)], .status "exhausted"⟩
        else
          ⟨[("attempts", .int (m.attempts + 1)), ("last_attempt_at", float now),
            ("lease_attempt", .int (m.attempts + 1)),
            ("lease_expires_at", float (.ofRat (now.val + LEASE_LIFETIME_SECONDS)))],
            .leased (m.attempts + 1)⟩

/-- What `parse_apple_ads_response` makes of an answer. -/
inductive Parsed
  | unattributed
  | attributed (orgId campaignId adGroupId : ℤ) (keywordId : Option ℤ)
      (conversionType claimType : Option Str)

/-- The statuses on which the result of an attempt is not recorded. -/
def closedStatuses : List String :=
  ["recorded", "unattributed", "exhausted", "ineligible", "disabled"]

/-- `"retryable" if attempts < MAX_ATTEMPTS else "exhausted"` -/
def notHolder (m : Measurement) : Result :=
  ⟨[], .status (if m.attempts < MAX_ATTEMPTS then "retryable" else "exhausted")⟩

/-- mirrors 296-371 -/
def recordTerminalAttribution (now : Double) (parsed : Parsed) (captured : ℤ) (acq : Dict)
    (m : Measurement) : Result :=
  match oneOf (acq.get "attribution_status") closedStatuses with
  | some status => ⟨[], .status status⟩
  | none =>
    if m.lease.map Lease.attempt ≠ some captured then notHolder m
    else
      match parsed with
      | .attributed orgId campaignId adGroupId keywordId conversionType claimType =>
        ⟨[("attribution_status", .text "recorded"), ("attribution", .bool true),
          ("source", .text "apple_ads"), ("attribution_recorded_at", float now),
          ("org_id", .int orgId), ("campaign_id", .int campaignId),
          ("ad_group_id", .int adGroupId), ("lease_attempt", .none),
          ("lease_expires_at", .none)] ++
          (keywordId.map fun k => ("keyword_id", .int k)).toList ++
          (conversionType.map fun c => ("conversion_type", .str c)).toList ++
          (claimType.map fun c => ("claim_type", .str c)).toList, .status "recorded"⟩
      | .unattributed =>
        ⟨[("attribution_status", .text "unattributed"), ("attribution", .bool false),
          ("source", .text "unattributed"), ("attribution_recorded_at", float now),
          ("lease_attempt", .none), ("lease_expires_at", .none)], .status "unattributed"⟩

/-- mirrors 374-427 -/
def finalizeFailedAttempt (captured : ℤ) (acq : Dict) (m : Measurement) : Result :=
  match oneOf (acq.get "attribution_status") closedStatuses with
  | some status => ⟨[], .status status⟩
  | none =>
    if m.lease.map Lease.attempt ≠ some captured then notHolder m
    else if MAX_ATTEMPTS ≤ m.attempts then
      ⟨[("attribution_status", .text "exhausted"), ("lease_attempt", .none),
        ("lease_expires_at", .none)], .status "exhausted"⟩
    else ⟨[("lease_attempt", .none), ("lease_expires_at", .none)], .status "retryable"⟩

/-- A field that is written if it is not there and the time is not before the sign-up. -/
def recordCallMeasurement (field : String) (seenAt : Double) (acq : Dict) (m : Measurement) :
    Result :=
  if !isNone (acq.get field) then ⟨[], .nothing⟩
  else if seenAt.val < m.created.val then ⟨[], .nothing⟩
  else ⟨[(field, float seenAt)], .nothing⟩

/-- mirrors 588-632 -/
def recordInboundCallMeasurement : Double → Dict → Measurement → Result :=
  recordCallMeasurement "first_inbound_observed_at"

/-- mirrors 635-679 -/
def recordForwardedCallMeasurement : Double → Dict → Measurement → Result :=
  recordCallMeasurement "first_forwarded_observed_at"

/-- What `classify_apple_transaction_payment` returns. -/
structure PaymentClass where
  isPositivePricePurchase : Bool
  purchaseSignedAt : Value
  paidTier : Value
  isStorekitTrial : Bool
  trialSignedAt : Value

/-- mirrors 820-876 -/
def recordPaymentMeasurement (now : Double) (tier : String) (payment : PaymentClass) (acq : Dict)
    (m : Measurement) : Result :=
  if now.val < m.created.val then ⟨[], .nothing⟩
  else
    let entitlement :=
      if isNone (acq.get "first_verified_entitlement_observed_at") then
        [("first_verified_entitlement_observed_at", float now),
          ("first_verified_entitlement_tier", .text tier)]
      else []
    let purchase :=
      if payment.isPositivePricePurchase &&
          isNone (acq.get "first_positive_price_purchase_observed_at") then
        [("first_positive_price_purchase_observed_at", float now),
          ("first_positive_price_purchase_signed_at", payment.purchaseSignedAt),
          ("first_positive_price_purchase_tier", payment.paidTier)]
      else []
    let trial :=
      if payment.isStorekitTrial && isNone (acq.get "first_storekit_trial_observed_at") then
        [("first_storekit_trial_observed_at", float now),
          ("first_storekit_trial_signed_at", payment.trialSignedAt)]
      else []
    ⟨entitlement ++ purchase ++ trial, .nothing⟩

/-- mirrors 1049-1118, in
the transaction -/
def recordScreeningConversationMeasurement (callStart observedAt currentNow : Double) (acq : Dict)
    (m : Measurement) : Result :=
  if !isNone (acq.get "first_screening_conversation_observed_at") then ⟨[], .nothing⟩
  else if callStart.val < m.created.val then ⟨[], .nothing⟩
  else if observedAt.val < m.created.val then ⟨[], .nothing⟩
  else if currentNow.val < observedAt.val then ⟨[], .nothing⟩
  else ⟨[("first_screening_conversation_observed_at", float observedAt)], .nothing⟩

/-! ## Requests -/

/-- A reading of a clock between 2001 and 2100. -/
structure Clock where
  time : Double
  lower : MIN_TIMESTAMP_S ≤ time.val
  upper : time.val ≤ MAX_TIMESTAMP_S

inductive Op
  | lease (now : Clock)
  | recordTerminal (now : Clock) (parsed : Parsed) (captured : ℤ)
  | finalizeFailed (captured : ℤ)
  | inbound (seenAt : Value)
  | forwarded (seenAt : Value)
  | payment (now : Clock) (tier : String) (payment : PaymentClass)
  | screening (callStart observedAt : Value) (now currentNow : Clock)

/-- A request to one server, and whether measurement is enabled there. -/
structure Request where
  op : Op
  enabled : Bool

abbrev State := Option Account

def refuse (account : State) : State × Result := (account, ⟨[], .nothing⟩)

/-- One request, with the checks before its transaction. -/
def step : Machine State Request Result := fun account request =>
  match request.op with
  | .lease now => transact request.enabled (.status "disabled") (.status "ineligible")
      (leaseAttributionAttempt now.time) account
  | .recordTerminal now parsed captured =>
    transact request.enabled (.status "disabled") (.status "ineligible")
      (recordTerminalAttribution now.time parsed captured) account
  | .finalizeFailed captured => transact request.enabled (.status "disabled") (.status "ineligible")
      (finalizeFailedAttempt captured) account
  | .inbound seenAt =>
    match timestamp? seenAt with
    | some seenAt => transact request.enabled .nothing .nothing
        (recordInboundCallMeasurement seenAt.toFloat) account
    | none => refuse account
  | .forwarded seenAt =>
    match timestamp? seenAt with
    | some seenAt => transact request.enabled .nothing .nothing
        (recordForwardedCallMeasurement seenAt.toFloat) account
    | none => refuse account
  | .payment now tier payment =>
    if tier ∈ VALID_PAYMENT_TIERS then
      transact request.enabled .nothing .nothing
        (recordPaymentMeasurement now.time tier payment) account
    else refuse account
  | .screening callStart observedAt now currentNow =>
    match timestamp? callStart, timestamp? observedAt with
    | some callStart, some observedAt =>
      if now.time.val < observedAt.toFloat.val then refuse account
      else if observedAt.toFloat.val < callStart.toFloat.val then refuse account
      else transact request.enabled .nothing .nothing
        (recordScreeningConversationMeasurement callStart.toFloat observedAt.toFloat
          currentNow.time) account
    | _, _ => refuse account

/-! ## What the validator accepts -/

section

variable {acq : Dict} {m : Measurement} {u : List (String × Value)}

theorem validateMap_eq_some : validateMap acq = some m ↔
    createdAt? acq = some m.created ∧ attempts? acq = some m.attempts ∧
      lastAttemptAt? m.attempts m.created (acq.get "last_attempt_at") = some m.lastAttempt ∧
      lease? m.attempts m.lastAttempt (acq.get "lease_attempt") (acq.get "lease_expires_at") =
        some m.lease ∧
      conversationOk m.created (acq.get "first_screening_conversation_observed_at") = true ∧
      countryOk (acq.get "account_country_at_signup") = true := by
  unfold validateMap
  simp only [Option.bind_eq_bind, Option.bind_eq_some_iff]
  constructor
  · rintro ⟨created, hcreated, attempts, hattempts, last, hlast, lease, hlease, h⟩
    split at h
    · rename_i hok
      cases h
      rw [Bool.and_eq_true] at hok
      exact ⟨hcreated, hattempts, hlast, hlease, hok⟩
    · cases h
  · rintro ⟨hcreated, hattempts, hlast, hlease, hok⟩
    refine ⟨_, hcreated, _, hattempts, _, hlast, _, hlease, ?_⟩
    rw [if_pos (by rw [Bool.and_eq_true]; exact hok)]

theorem toFloat_float (d : Double) : (Number.float d).toFloat = d := by
  obtain ⟨q, hq⟩ := d
  simp only [Number.toFloat, Number.val, Double.ofRat, hq]

/-- What is known of an accepted map. -/
structure Sound (m : Measurement) : Prop where
  attempts : 0 ≤ m.attempts ∧ m.attempts ≤ MAX_ATTEMPTS
  tried : m.lastAttempt = none → m.attempts = 0
  last : ∀ last ∈ m.lastAttempt, m.created.val ≤ last.val
  lease : ∀ lease ∈ m.lease, ∃ last ∈ m.lastAttempt, lease.attempt = m.attempts ∧
    last.val ≤ lease.expiresAt.val
  created : m.created.val ≤ MAX_TIMESTAMP_S

theorem observation?_eq_some {created t : Double} {v : Value}
    (h : observation? created v = some t) : created.val ≤ t.val ∧ t.val ≤ MAX_TIMESTAMP_S := by
  rw [observation?, Option.filter_eq_some_iff] at h
  exact of_decide_eq_true h.2

theorem observation?_float {created t : Double} :
    observation? created (float t) = some t ↔ created.val ≤ t.val ∧ t.val ≤ MAX_TIMESTAMP_S := by
  simp only [observation?, float, Value.finite?_number, Option.map_some, toFloat_float,
    Option.filter_some, decide_eq_true_eq]
  constructor
  · intro h
    split at h
    · assumption
    · cases h
  · intro h
    rw [if_pos h]

theorem toFloat_le_max {n : Number} (h : n.val ≤ MAX_TIMESTAMP_S) :
    n.toFloat.val ≤ MAX_TIMESTAMP_S := by
  have hmax : rnd MAX_TIMESTAMP_S = MAX_TIMESTAMP_S := rnd_natCast (n := 4102444800) (by norm_num)
  have hmono := rnd_mono h
  rwa [hmax] at hmono

theorem sound_of_validateMap (h : validateMap acq = some m) : Sound m := by
  obtain ⟨hcreated, hattempts, hlast, hlease, -⟩ := validateMap_eq_some.mp h
  refine ⟨?_, ?_, ?_, ?_, ?_⟩
  · unfold attempts? at hattempts
    split at hattempts
    · rw [Option.filter_eq_some_iff] at hattempts
      exact of_decide_eq_true hattempts.2
    · cases hattempts
  · intro hnone
    rw [hnone] at hlast
    unfold lastAttemptAt? at hlast
    split at hlast
    · split at hlast
      · assumption
      · cases hlast
    · obtain ⟨last, -, heq⟩ := Option.map_eq_some_iff.mp hlast
      cases heq
  · intro last hin
    rw [Option.mem_def] at hin
    rw [hin] at hlast
    unfold lastAttemptAt? at hlast
    split at hlast
    · split at hlast
      · cases hlast
      · cases hlast
    · obtain ⟨t, ht, heq⟩ := Option.map_eq_some_iff.mp hlast
      cases heq
      exact (observation?_eq_some ht).1
  · intro lease hin
    rw [Option.mem_def] at hin
    rw [hin] at hlease
    unfold lease? at hlease
    split at hlease
    · cases hlease
    · split at hlease
      · cases hlease
      · simp only [Option.bind_eq_bind, Option.bind_eq_some_iff] at hlease
        obtain ⟨attempt, -, expires, -, last, hl, hlease⟩ := hlease
        split at hlease
        · rename_i hcond
          cases hlease
          exact ⟨last, hl, hcond.2.2.1, hcond.2.2.2.1⟩
        · cases hlease
  · unfold createdAt? at hcreated
    simp only [Option.bind_eq_bind, Option.bind_eq_some_iff] at hcreated
    obtain ⟨version, -, createdAt, hstamp, cohort, -, hcreated⟩ := hcreated
    split at hcreated
    · have hcreatedAt : createdAt.toFloat = m.created := Option.some.inj hcreated
      rw [timestamp?, Option.filter_eq_some_iff] at hstamp
      rw [← hcreatedAt]
      exact toFloat_le_max (of_decide_eq_true hstamp.2).2
    · cases hcreated

end

/-! ## What a transaction writes -/

/-- A field that is written with its first observation, and the field that says whether it was. -/
def firstObservations : List (String × String) :=
  [("first_inbound_observed_at", "first_inbound_observed_at"),
    ("first_forwarded_observed_at", "first_forwarded_observed_at"),
    ("first_verified_entitlement_observed_at", "first_verified_entitlement_observed_at"),
    ("first_verified_entitlement_tier", "first_verified_entitlement_observed_at"),
    ("first_positive_price_purchase_observed_at", "first_positive_price_purchase_observed_at"),
    ("first_positive_price_purchase_signed_at", "first_positive_price_purchase_observed_at"),
    ("first_positive_price_purchase_tier", "first_positive_price_purchase_observed_at"),
    ("first_storekit_trial_observed_at", "first_storekit_trial_observed_at"),
    ("first_storekit_trial_signed_at", "first_storekit_trial_observed_at"),
    ("first_screening_conversation_observed_at", "first_screening_conversation_observed_at")]

/-- The status of the map does not end the attempts. -/
def IsOpen (acq : Dict) : Prop := oneOf (acq.get "attribution_status") closedStatuses = none

structure Free (m : Measurement) (now : Double) : Prop where
  lease : ∀ lease ∈ m.lease, lease.expiresAt.val ≤ now.val
  spacing : ∀ last ∈ m.lastAttempt, MIN_SPACING_SECONDS ≤ rnd (now.val - last.val)

def Holder (m : Measurement) (captured : ℤ) : Prop := m.lease.map Lease.attempt = some captured

structure Observes (acq : Dict) (u : List (String × Value)) : Prop where
  keys : ∀ k ∈ Entries.keys u, ∃ guard, (k, guard) ∈ firstObservations
  guards : ∀ k ∈ Entries.keys u, ∀ guard, (k, guard) ∈ firstObservations →
    isNone (acq.get guard) = true ∧ isNone (Dict.get (Entries.update acq u) guard) = false

def exhaustedUpdates : List (String × Value) :=
  [("attribution_status", .text "exhausted"), ("lease_attempt", .none), ("lease_expires_at", .none)]

def grantedUpdates (m : Measurement) (now : Double) : List (String × Value) :=
  [("attempts", .int (m.attempts + 1)), ("last_attempt_at", float now),
    ("lease_attempt", .int (m.attempts + 1)),
    ("lease_expires_at", float (.ofRat (now.val + LEASE_LIFETIME_SECONDS)))]

/-- **What a transaction can write** to an accepted map. -/
inductive Writes (acq : Dict) (m : Measurement) : Op → List (String × Value) → Answer → Prop
  | granted (now : Clock) (hopen : IsOpen acq) (hfree : Free m now.time)
      (hbudget : m.attempts < MAX_ATTEMPTS) :
      Writes acq m (.lease now) (grantedUpdates m now.time) (.leased (m.attempts + 1))
  | exhausted (now : Clock) (hopen : IsOpen acq) (hfree : Free m now.time)
      (hbudget : MAX_ATTEMPTS ≤ m.attempts) :
      Writes acq m (.lease now) exhaustedUpdates (.status "exhausted")
  | recorded (now : Clock) (parsed : Parsed) (captured : ℤ) (hopen : IsOpen acq)
      (hholder : Holder m captured) (status : String) (u extra : List (String × Value))
      (hstatus : status ∈ ["recorded", "unattributed"])
      (hkeys : ∀ k ∈ Entries.keys (u ++ extra), k ∈ ["attribution", "source",
        "attribution_recorded_at", "org_id", "campaign_id", "ad_group_id", "keyword_id",
        "conversion_type", "claim_type"]) :
      Writes acq m (.recordTerminal now parsed captured)
        (("attribution_status", .text status) :: u ++
          [("lease_attempt", .none), ("lease_expires_at", .none)] ++ extra) (.status status)
  | released (captured : ℤ) (hopen : IsOpen acq) (hholder : Holder m captured)
      (hbudget : m.attempts < MAX_ATTEMPTS) :
      Writes acq m (.finalizeFailed captured) [("lease_attempt", .none),
        ("lease_expires_at", .none)] (.status "retryable")
  | spent (captured : ℤ) (hopen : IsOpen acq) (hholder : Holder m captured)
      (hbudget : MAX_ATTEMPTS ≤ m.attempts) :
      Writes acq m (.finalizeFailed captured) exhaustedUpdates (.status "exhausted")
  | observed (op : Op) (u : List (String × Value)) (hobserves : Observes acq u)
      (hkeys : "first_screening_conversation_observed_at" ∉ Entries.keys u)
      (hop : (∃ seenAt, op = .inbound seenAt) ∨ (∃ seenAt, op = .forwarded seenAt) ∨
        ∃ now tier payment, op = .payment now tier payment) :
      Writes acq m op u .nothing
  | conversed (callStart observedAt : Value) (now currentNow : Clock) (t : Double)
      (ht : m.created.val ≤ t.val ∧ t.val ≤ MAX_TIMESTAMP_S)
      (hobserves : Observes acq [("first_screening_conversation_observed_at", float t)]) :
      Writes acq m (.screening callStart observedAt now currentNow)
        [("first_screening_conversation_observed_at", float t)] .nothing

def Idle (r : Result) : Prop := r.updates = [] ∧ ∀ k, r.answer ≠ .leased k

theorem idle_status (status : String) : Idle ⟨[], .status status⟩ := ⟨rfl, fun _ h => by cases h⟩

theorem idle_nothing : Idle ⟨[], .nothing⟩ := ⟨rfl, fun _ h => by cases h⟩

section

variable {acq : Dict} {m : Measurement}

theorem oneOf_cons (status : Value) (s : String) (statuses : List String) :
    oneOf status (s :: statuses) =
      if status.isStr (py s) then some s else oneOf status statuses := by
  unfold oneOf
  rw [List.find?_cons]
  split
  · rename_i h
    rw [if_pos h]
  · rename_i h
    rw [if_neg (by rw [h]; exact Bool.false_ne_true)]

theorem leaseAttributionAttempt_cases (now : Clock) (acq : Dict) (m : Measurement) :
    Idle (leaseAttributionAttempt now.time acq m) ∨
      Writes acq m (.lease now) (leaseAttributionAttempt now.time acq m).updates
        (leaseAttributionAttempt now.time acq m).answer := by
  unfold leaseAttributionAttempt
  simp only
  split
  · exact .inl (idle_status _)
  · rename_i hrecorded
    split
    · exact .inl (idle_status _)
    · rename_i hclosed
      have hopen : IsOpen acq := by
        rw [IsOpen, closedStatuses, oneOf_cons, if_neg hrecorded]
        exact hclosed
      split
      · exact .inl ⟨rfl, fun _ h => by cases h⟩
      · rename_i hlease
        split
        · exact .inl ⟨rfl, fun _ h => by cases h⟩
        · rename_i hlast
          have hfree : Free m now.time := by
            refine ⟨fun lease hin => ?_, fun last hin => ?_⟩
            · rw [Option.mem_def] at hin
              rw [hin, Option.filter_some] at hlease
              split at hlease
              · cases hlease
              · rename_i hnot
                exact not_lt.mp fun hlt => hnot (decide_eq_true hlt)
            · rw [Option.mem_def] at hin
              rw [hin, Option.any_some] at hlast
              exact not_lt.mp fun hlt => hlast (decide_eq_true hlt)
          split
          · rename_i hbudget
            exact .inr (.exhausted now hopen hfree hbudget)
          · rename_i hbudget
            exact .inr (.granted now hopen hfree (not_le.mp hbudget))

theorem recordTerminalAttribution_cases (now : Clock) (parsed : Parsed) (captured : ℤ) (acq : Dict)
    (m : Measurement) : Idle (recordTerminalAttribution now.time parsed captured acq m) ∨
      Writes acq m (.recordTerminal now parsed captured)
        (recordTerminalAttribution now.time parsed captured acq m).updates
        (recordTerminalAttribution now.time parsed captured acq m).answer := by
  unfold recordTerminalAttribution
  split
  · exact .inl (idle_status _)
  · rename_i hopen
    split
    · exact .inl ⟨rfl, fun _ h => by cases h⟩
    · rename_i hholder
      rw [not_not] at hholder
      cases parsed with
      | unattributed =>
        refine .inr (.recorded now _ captured hopen hholder "unattributed"
          [("attribution", .bool false), ("source", .text "unattributed"),
            ("attribution_recorded_at", float now.time)] [] (by decide) ?_)
        simp [Entries.keys]
      | attributed orgId campaignId adGroupId keywordId conversionType claimType =>
        have hwrites := Writes.recorded (m := m) now
          (.attributed orgId campaignId adGroupId keywordId conversionType claimType) captured
          hopen hholder "recorded" [("attribution", .bool true), ("source", .text "apple_ads"),
            ("attribution_recorded_at", float now.time), ("org_id", .int orgId),
            ("campaign_id", .int campaignId), ("ad_group_id", .int adGroupId)]
          ((keywordId.map fun k => ("keyword_id", .int k)).toList ++
            (conversionType.map fun c => ("conversion_type", .str c)).toList ++
            (claimType.map fun c => ("claim_type", .str c)).toList) (by decide) (by
              cases keywordId <;> cases conversionType <;> cases claimType <;> simp [Entries.keys])
        refine .inr ?_
        simpa only [List.cons_append, List.nil_append, List.append_assoc] using hwrites

theorem finalizeFailedAttempt_cases (captured : ℤ) (acq : Dict) (m : Measurement) :
    Idle (finalizeFailedAttempt captured acq m) ∨
      Writes acq m (.finalizeFailed captured) (finalizeFailedAttempt captured acq m).updates
        (finalizeFailedAttempt captured acq m).answer := by
  unfold finalizeFailedAttempt
  split
  · exact .inl (idle_status _)
  · rename_i hopen
    split
    · exact .inl ⟨rfl, fun _ h => by cases h⟩
    · rename_i hholder
      rw [not_not] at hholder
      split
      · rename_i hbudget
        exact .inr (.spent captured hopen hholder hbudget)
      · rename_i hbudget
        exact .inr (.released captured hopen hholder (not_le.mp hbudget))

theorem find?_update_of_mem {d e u : Entries String Value} {k : String} (h : k ∈ Entries.keys u) :
    Entries.find? (Entries.update d u) k = Entries.find? (Entries.update e u) k := by
  induction u generalizing d e with
  | nil => cases h
  | cons entry u ih =>
    obtain ⟨a, v⟩ := entry
    rw [Entries.update_cons, Entries.update_cons]
    by_cases hk : k ∈ Entries.keys u
    · exact ih hk
    · rw [Entries.find?_update_of_not_mem _ _ hk, Entries.find?_update_of_not_mem _ _ hk,
        Entries.find?_set, Entries.find?_set]
      rcases List.mem_cons.mp h with rfl | h
      · rw [if_pos rfl, if_pos rfl]
      · exact absurd h hk

theorem observes_nil (acq : Dict) : Observes acq [] :=
  ⟨List.forall_mem_nil _, List.forall_mem_nil _⟩

theorem observes_block {guard : String} {t : Double} {others : List (String × Value)}
    (hfields : ∀ k ∈ guard :: Entries.keys others, ∀ g, (k, g) ∈ firstObservations ↔ g = guard)
    (hdistinct : guard ∉ Entries.keys others) (hnone : isNone (acq.get guard) = true) :
    Observes acq ((guard, float t) :: others) := by
  refine ⟨fun k hk => ⟨guard, (hfields k hk guard).mpr rfl⟩, fun k hk g hg => ?_⟩
  obtain rfl := (hfields k hk g).mp hg
  refine ⟨hnone, ?_⟩
  rw [Entries.update_cons, Dict.get, Entries.find?_update_of_not_mem _ _ hdistinct,
    Entries.find?_set, if_pos rfl]
  rfl

theorem Observes.append {u v : List (String × Value)} (hu : Observes acq u) (hv : Observes acq v)
    (hdisjoint : ∀ k ∈ Entries.keys u, ∀ g, (k, g) ∈ firstObservations → g ∉ Entries.keys v) :
    Observes acq (u ++ v) := by
  have hkeys : Entries.keys (u ++ v) = Entries.keys u ++ Entries.keys v := List.map_append
  have hupdate : Entries.update acq (u ++ v) = Entries.update (Entries.update acq u) v :=
    List.foldl_append
  refine ⟨fun k hk => ?_, fun k hk g hg => ?_⟩
  · rw [hkeys] at hk
    rcases List.mem_append.mp hk with hk | hk
    · exact hu.keys k hk
    · exact hv.keys k hk
  · rw [hkeys] at hk
    rw [hupdate]
    rcases List.mem_append.mp hk with hk | hk
    · obtain ⟨hnone, hthere⟩ := hu.guards k hk g hg
      refine ⟨hnone, ?_⟩
      rw [Dict.get, Entries.find?_update_of_not_mem _ _ (hdisjoint k hk g hg)]
      exact hthere
    · obtain ⟨hnone, hthere⟩ := hv.guards k hk g hg
      refine ⟨hnone, ?_⟩
      have hin : g ∈ Entries.keys v := by
        by_contra hnot
        rw [Dict.get, Entries.find?_update_of_not_mem _ _ hnot] at hthere
        rw [Dict.get] at hnone
        rw [hnone] at hthere
        cases hthere
      rw [Dict.get, find?_update_of_mem (e := acq) hin]
      exact hthere

theorem recordCallMeasurement_cases (field : String) {op : Op} (seenAt : Double) (acq : Dict)
    (m : Measurement) (hfield : ∀ g, (field, g) ∈ firstObservations ↔ g = field)
    (hconversation : field ≠ "first_screening_conversation_observed_at")
    (hop : (∃ seenAt, op = .inbound seenAt) ∨ (∃ seenAt, op = .forwarded seenAt) ∨
      ∃ now tier payment, op = .payment now tier payment) :
    Idle (recordCallMeasurement field seenAt acq m) ∨
      Writes acq m op (recordCallMeasurement field seenAt acq m).updates
        (recordCallMeasurement field seenAt acq m).answer := by
  unfold recordCallMeasurement
  split
  · exact .inl idle_nothing
  · rename_i hmissing
    rw [Bool.not_eq_true', Bool.not_eq_false] at hmissing
    split
    · exact .inl idle_nothing
    · refine .inr (.observed op _ (observes_block (fun k hk => ?_) (List.not_mem_nil) hmissing) ?_
        hop)
      · rw [Entries.keys, List.map_nil, List.mem_singleton] at hk
        rw [hk]
        exact hfield
      · rw [Entries.keys, List.map_singleton, List.mem_singleton]
        exact hconversation.symm

theorem recordPaymentMeasurement_cases (now : Clock) (tier : String) (payment : PaymentClass)
    (acq : Dict) (m : Measurement) :
    Idle (recordPaymentMeasurement now.time tier payment acq m) ∨
      Writes acq m (.payment now tier payment)
        (recordPaymentMeasurement now.time tier payment acq m).updates
        (recordPaymentMeasurement now.time tier payment acq m).answer := by
  unfold recordPaymentMeasurement
  split
  · exact .inl idle_nothing
  · refine .inr (.observed _ _ ((Observes.append ?_ ?_ ?_).append ?_ ?_) ?_
      (.inr (.inr ⟨now, tier, payment, rfl⟩)))
    · split
      · rename_i hmissing
        exact observes_block (by simp [Entries.keys, firstObservations])
          (by simp [Entries.keys]) hmissing
      · exact observes_nil acq
    · split
      · rename_i hmissing
        rw [Bool.and_eq_true] at hmissing
        exact observes_block (by simp [Entries.keys, firstObservations])
          (by simp [Entries.keys]) hmissing.2
      · exact observes_nil acq
    · split <;> split <;> simp [Entries.keys, firstObservations]
    · split
      · rename_i hmissing
        rw [Bool.and_eq_true] at hmissing
        exact observes_block (by simp [Entries.keys, firstObservations])
          (by simp [Entries.keys]) hmissing.2
      · exact observes_nil acq
    · split <;> split <;> split <;> simp [Entries.keys, firstObservations]
    · split <;> split <;> split <;> simp [Entries.keys]

theorem recordScreeningConversationMeasurement_cases (callStart observedAt : Value)
    (now currentNow : Clock) (start t : Double) (acq : Dict) (m : Measurement)
    (ht : t.val ≤ MAX_TIMESTAMP_S) :
    Idle (recordScreeningConversationMeasurement start t currentNow.time acq m) ∨
      Writes acq m (.screening callStart observedAt now currentNow)
        (recordScreeningConversationMeasurement start t currentNow.time acq m).updates
        (recordScreeningConversationMeasurement start t currentNow.time acq m).answer := by
  unfold recordScreeningConversationMeasurement
  split
  · exact .inl idle_nothing
  · rename_i hmissing
    rw [Bool.not_eq_true', Bool.not_eq_false] at hmissing
    split
    · exact .inl idle_nothing
    · split
      · exact .inl idle_nothing
      · rename_i hafter
        split
        · exact .inl idle_nothing
        · refine .inr (.conversed callStart observedAt now currentNow t ⟨not_lt.mp hafter, ht⟩
            (observes_block ?_ List.not_mem_nil hmissing))
          simp [Entries.keys, firstObservations]

structure Acts (account : State) (request : Request) (after : State × Result) (acq : Dict)
    (m : Measurement) : Prop where
  before : ∃ a, account = some a ∧ a.active = .bool true ∧ a.acquisition = .dict acq ∧
    after.1 = some { a with acquisition := .dict (Entries.update acq after.2.updates) }
  enabled : request.enabled = true
  accepted : validateMap acq = some m
  writes : Writes acq m request.op after.2.updates after.2.answer

theorem transact_cases (request : Request) {disabled ineligible : Answer}
    (body : Dict → Measurement → Result) (account : State)
    (hdisabled : ∀ k, disabled ≠ .leased k) (hineligible : ∀ k, ineligible ≠ .leased k)
    (hbody : ∀ acq m, Idle (body acq m) ∨
      Writes acq m request.op (body acq m).updates (body acq m).answer) :
    ((transact request.enabled disabled ineligible body account).1 = account ∧
      Idle (transact request.enabled disabled ineligible body account).2) ∨
    ∃ acq m, Acts account request (transact request.enabled disabled ineligible body account)
      acq m := by
  unfold transact
  cases henabled : request.enabled with
  | false => exact .inl ⟨rfl, rfl, hdisabled⟩
  | true =>
    simp only [Bool.not_true, Bool.false_eq_true, if_false]
    cases account with
    | none => exact .inl ⟨rfl, rfl, hineligible⟩
    | some a =>
      simp only
      split
      · rename_i acq m hactive hacq hm
        rw [hacq] at hm
        rcases hbody acq m with hidle | hwrites
        · refine .inl ⟨?_, hidle⟩
          rw [hidle.1, Entries.update_nil, ← hacq]
        · exact .inr ⟨acq, m, ⟨a, rfl, hactive, hacq, rfl⟩, henabled, hm, hwrites⟩
      · exact .inl ⟨rfl, rfl, hineligible⟩

/-- **One request** does nothing and grants nothing, or it writes as one of its transactions. -/
theorem step_cases (account : State) (request : Request) :
    ((step account request).1 = account ∧ Idle (step account request).2) ∨
      ∃ acq m, Acts account request (step account request) acq m := by
  obtain ⟨op, enabled⟩ := request
  cases op with
  | lease now =>
    exact transact_cases ⟨.lease now, enabled⟩ (leaseAttributionAttempt now.time) account
      (fun _ h => by cases h) (fun _ h => by cases h)
      fun acq m => leaseAttributionAttempt_cases now acq m
  | recordTerminal now parsed captured =>
    exact transact_cases ⟨.recordTerminal now parsed captured, enabled⟩
      (recordTerminalAttribution now.time parsed captured) account
      (fun _ h => by cases h) (fun _ h => by cases h)
      fun acq m => recordTerminalAttribution_cases now parsed captured acq m
  | finalizeFailed captured =>
    exact transact_cases ⟨.finalizeFailed captured, enabled⟩ (finalizeFailedAttempt captured)
      account (fun _ h => by cases h) (fun _ h => by cases h)
      fun acq m => finalizeFailedAttempt_cases captured acq m
  | inbound seenAt =>
    simp only [step]
    split
    · rename_i seen _
      exact transact_cases ⟨.inbound seenAt, enabled⟩
        (recordInboundCallMeasurement seen.toFloat) account
        (fun _ h => by cases h) (fun _ h => by cases h)
        fun acq m => recordCallMeasurement_cases "first_inbound_observed_at" seen.toFloat acq m
          (by simp [firstObservations]) (by decide) (.inl ⟨seenAt, rfl⟩)
    · exact .inl ⟨rfl, idle_nothing⟩
  | forwarded seenAt =>
    simp only [step]
    split
    · rename_i seen _
      exact transact_cases ⟨.forwarded seenAt, enabled⟩
        (recordForwardedCallMeasurement seen.toFloat) account
        (fun _ h => by cases h) (fun _ h => by cases h)
        fun acq m => recordCallMeasurement_cases "first_forwarded_observed_at" seen.toFloat acq m
          (by simp [firstObservations]) (by decide) (.inr (.inl ⟨seenAt, rfl⟩))
    · exact .inl ⟨rfl, idle_nothing⟩
  | payment now tier payment =>
    simp only [step]
    split
    · exact transact_cases ⟨.payment now tier payment, enabled⟩
        (recordPaymentMeasurement now.time tier payment) account
        (fun _ h => by cases h) (fun _ h => by cases h)
        fun acq m => recordPaymentMeasurement_cases now tier payment acq m
    · exact .inl ⟨rfl, idle_nothing⟩
  | screening callStart observedAt now currentNow =>
    simp only [step]
    split
    · rename_i start seen hstart hseen
      split
      · exact .inl ⟨rfl, idle_nothing⟩
      · split
        · exact .inl ⟨rfl, idle_nothing⟩
        · rw [timestamp?, Option.filter_eq_some_iff] at hseen
          exact transact_cases ⟨.screening callStart observedAt now currentNow, enabled⟩
            (recordScreeningConversationMeasurement start.toFloat seen.toFloat currentNow.time)
            account (fun _ h => by cases h) (fun _ h => by cases h)
            fun acq m => recordScreeningConversationMeasurement_cases callStart observedAt now
              currentNow _ _ acq m (toFloat_le_max (of_decide_eq_true hseen.2).2)
    · exact .inl ⟨rfl, idle_nothing⟩

/-! ## What stays accepted -/

/-- The fields that no transaction writes. -/
structure SameSignup (acq after : Dict) : Prop where
  version : Entries.find? after "schema_version" = Entries.find? acq "schema_version"
  created : Entries.find? after "created_at" = Entries.find? acq "created_at"
  cohort : Entries.find? after "cohort" = Entries.find? acq "cohort"
  country : Entries.find? after "account_country_at_signup" =
    Entries.find? acq "account_country_at_signup"

theorem sameSignup_update {u : List (String × Value)} (h : ∀ k ∈ ["schema_version", "created_at",
    "cohort", "account_country_at_signup"], k ∉ Entries.keys u) :
    SameSignup acq (Entries.update acq u) :=
  ⟨Entries.find?_update_of_not_mem _ _ (h _ (by simp)),
    Entries.find?_update_of_not_mem _ _ (h _ (by simp)),
    Entries.find?_update_of_not_mem _ _ (h _ (by simp)),
    Entries.find?_update_of_not_mem _ _ (h _ (by simp))⟩

theorem SameSignup.createdAt? {after : Dict} (h : SameSignup acq after) :
    createdAt? after = createdAt? acq := by
  simp only [L16.createdAt?, Dict.get, h.version, h.created, h.cohort]

theorem validateMap_after {after : Dict} (hm : validateMap acq = some m)
    (hsame : SameSignup acq after) {attempts : ℤ} {last : Option Double} {lease : Option Lease}
    (hattempts : attempts? after = some attempts)
    (hlast : lastAttemptAt? attempts m.created (after.get "last_attempt_at") = some last)
    (hlease : lease? attempts last (after.get "lease_attempt") (after.get "lease_expires_at") =
      some lease)
    (hconversation : conversationOk m.created
      (after.get "first_screening_conversation_observed_at") = true) :
    validateMap after = some ⟨attempts, last, lease, m.created⟩ := by
  obtain ⟨hcreated, -, -, -, -, hcountry⟩ := validateMap_eq_some.mp hm
  refine validateMap_eq_some.mpr ⟨hsame.createdAt?.trans hcreated, hattempts, hlast, hlease,
    hconversation, ?_⟩
  rw [Dict.get, hsame.country]
  exact hcountry

theorem validateMap_cleared {u : List (String × Value)} (hm : validateMap acq = some m)
    (hkeys : ∀ k ∈ ["schema_version", "created_at", "cohort", "account_country_at_signup",
      "attempts", "last_attempt_at", "first_screening_conversation_observed_at"],
      k ∉ Entries.keys u)
    (hattempt : Dict.get (Entries.update acq u) "lease_attempt" = .none)
    (hexpires : Dict.get (Entries.update acq u) "lease_expires_at" = .none) :
    validateMap (Entries.update acq u) = some { m with lease := none } := by
  obtain ⟨-, hattempts, hlast, -, hconversation, -⟩ := validateMap_eq_some.mp hm
  have hfind : ∀ k ∈ ["attempts", "last_attempt_at", "first_screening_conversation_observed_at"],
      Entries.find? (Entries.update acq u) k = Entries.find? acq k :=
    fun k hk => Entries.find?_update_of_not_mem _ _ (hkeys k (by
      simp only [List.mem_cons, List.not_mem_nil, or_false] at hk ⊢
      tauto))
  refine validateMap_after hm (sameSignup_update fun k hk => hkeys k ?_) ?_ ?_ ?_ ?_
  · simp only [List.mem_cons, List.not_mem_nil, or_false] at hk ⊢
    tauto
  · rw [attempts?, Dict.has, Dict.get, hfind "attempts" (by simp)]
    exact hattempts
  · rw [Dict.get, hfind "last_attempt_at" (by simp)]
    exact hlast
  · rw [hattempt, hexpires]
    rfl
  · rw [Dict.get, hfind "first_screening_conversation_observed_at" (by simp)]
    exact hconversation

theorem validateMap_observed {u : List (String × Value)} (hm : validateMap acq = some m)
    (hobserves : Observes acq u)
    (hconversation : conversationOk m.created
      (Dict.get (Entries.update acq u) "first_screening_conversation_observed_at") = true) :
    validateMap (Entries.update acq u) = some m := by
  obtain ⟨-, hattempts, hlast, hlease, -⟩ := validateMap_eq_some.mp hm
  have hkeys : ∀ k ∈ ["schema_version", "created_at", "cohort", "account_country_at_signup",
      "attempts", "last_attempt_at", "lease_attempt", "lease_expires_at"], k ∉ Entries.keys u := by
    intro k hk hin
    obtain ⟨guard, hguard⟩ := hobserves.keys k hin
    simp only [firstObservations, List.mem_cons, List.not_mem_nil, or_false, Prod.mk.injEq]
      at hk hguard
    rcases hk with rfl | rfl | rfl | rfl | rfl | rfl | rfl | rfl <;> simp at hguard
  have hfind : ∀ k ∈ ["attempts", "last_attempt_at", "lease_attempt", "lease_expires_at"],
      Entries.find? (Entries.update acq u) k = Entries.find? acq k :=
    fun k hk => Entries.find?_update_of_not_mem _ _ (hkeys k (by
      simp only [List.mem_cons, List.not_mem_nil, or_false] at hk ⊢
      tauto))
  refine validateMap_after hm (sameSignup_update fun k hk => hkeys k ?_) ?_ ?_ ?_ hconversation
  · simp only [List.mem_cons, List.not_mem_nil, or_false] at hk ⊢
    tauto
  · rw [attempts?, Dict.has, Dict.get, hfind "attempts" (by simp)]
    exact hattempts
  · rw [Dict.get, hfind "last_attempt_at" (by simp)]
    exact hlast
  · rw [Dict.get, Dict.get, hfind "lease_attempt" (by simp), hfind "lease_expires_at" (by simp)]
    exact hlease

theorem granted_reads (acq : Dict) (m : Measurement) (now : Double) :
    attempts? (Entries.update acq (grantedUpdates m now)) =
        (some (m.attempts + 1)).filter (fun a => decide (0 ≤ a ∧ a ≤ MAX_ATTEMPTS)) ∧
      Dict.get (Entries.update acq (grantedUpdates m now)) "last_attempt_at" = float now ∧
      Dict.get (Entries.update acq (grantedUpdates m now)) "lease_attempt" =
        .int (m.attempts + 1) ∧
      Dict.get (Entries.update acq (grantedUpdates m now)) "lease_expires_at" =
        float (.ofRat (now.val + LEASE_LIFETIME_SECONDS)) := by
  simp [grantedUpdates, Entries.update_cons, attempts?, Dict.get, Dict.has, Entries.find?_set, int?,
    Value.int]

theorem validateMap_granted (hm : validateMap acq = some m) (now : Clock)
    (hbudget : m.attempts < MAX_ATTEMPTS) (hnow : m.created.val ≤ now.time.val) :
    validateMap (Entries.update acq (grantedUpdates m now.time)) = some ⟨m.attempts + 1,
      some now.time, some ⟨m.attempts + 1, .ofRat (now.time.val + LEASE_LIFETIME_SECONDS)⟩,
      m.created⟩ := by
  obtain ⟨hattempts, hlast, hattempt, hexpires⟩ := granted_reads acq m now.time
  obtain ⟨-, -, -, -, hconversation, -⟩ := validateMap_eq_some.mp hm
  have hzero := (sound_of_validateMap hm).attempts.1
  refine validateMap_after hm (sameSignup_update ?_) ?_ ?_ ?_ ?_
  · simp [grantedUpdates, Entries.keys]
  · rw [hattempts, Option.filter_some, if_pos]
    rw [decide_eq_true_eq]
    omega
  · rw [hlast, lastAttemptAt?, if_neg (by exact Bool.false_ne_true),
      observation?_float.mpr ⟨hnow, now.upper⟩]
    rfl
  · rw [hattempt, hexpires, lease?]
    have hafter : now.time.val ≤ rnd (now.time.val + 15) :=
      Double.le_rnd_of_le (le_add_of_nonneg_right (by norm_num))
    rw [if_neg (by exact Bool.false_ne_true), if_neg (by exact Bool.false_ne_true)]
    simp only [int?, Value.int, float, Value.finite?_number, toFloat_float, Option.bind_eq_bind,
      Option.bind_some, Double.ofRat_val, LEASE_LIFETIME_SECONDS]
    rw [if_pos]
    exact ⟨by omega, by omega, trivial, hafter, le_refl _⟩
  · rw [Dict.get, Entries.find?_update_of_not_mem _ _ (by simp [grantedUpdates, Entries.keys])]
    exact hconversation

theorem validateMap_granted_before (hm : validateMap acq = some m) (now : Clock)
    (hnow : now.time.val < m.created.val) :
    validateMap (Entries.update acq (grantedUpdates m now.time)) = none := by
  obtain ⟨-, hlast, -⟩ := granted_reads acq m now.time
  obtain ⟨hcreated, -⟩ := validateMap_eq_some.mp hm
  have hsame : SameSignup acq (Entries.update acq (grantedUpdates m now.time)) :=
    sameSignup_update (by simp [grantedUpdates, Entries.keys])
  cases hafter : validateMap (Entries.update acq (grantedUpdates m now.time)) with
  | none => rfl
  | some m' =>
    obtain ⟨hcreated', -, hlast', -⟩ := validateMap_eq_some.mp hafter
    rw [hsame.createdAt?, hcreated] at hcreated'
    rw [hlast, ← Option.some.inj hcreated', lastAttemptAt?,
      if_neg (by exact Bool.false_ne_true)] at hlast'
    obtain ⟨t, ht, -⟩ := Option.map_eq_some_iff.mp hlast'
    have heq : t = now.time := by
      rw [observation?, Option.filter_eq_some_iff, float, Value.finite?_number, Option.map_some,
        toFloat_float] at ht
      exact (Option.some.inj ht.1).symm
    have hbound := (observation?_eq_some ht).1
    rw [heq] at hbound
    exact absurd hbound (not_le.mpr hnow)

/-! ## The status -/

def IsTerminal (status : Value) : Prop :=
  ∃ s ∈ ["recorded", "unattributed", "exhausted"], status = .text s

theorem IsOpen.not_terminal (h : IsOpen acq) : ¬ IsTerminal (acq.get "attribution_status") := by
  rintro ⟨s, hs, hstatus⟩
  rw [IsOpen, oneOf, hstatus] at h
  have hnone := List.find?_eq_none.mp h s (by
    simp only [closedStatuses, List.mem_cons, List.not_mem_nil, or_false] at hs ⊢
    tauto)
  exact hnone (by rw [Value.isStr_text]; exact decide_eq_true rfl)

theorem exhausted_not_isOpen : ¬ IsOpen (Entries.update acq exhaustedUpdates) := by
  intro hopen
  have hstatus : Dict.get (Entries.update acq exhaustedUpdates) "attribution_status" =
      .text "exhausted" := by
    simp [exhaustedUpdates]
  exact hopen.not_terminal ⟨_, by simp, hstatus⟩

theorem recorded_status {status : String} {u extra : List (String × Value)}
    (hkeys : ∀ k ∈ Entries.keys (u ++ extra), k ∈ ["attribution", "source",
      "attribution_recorded_at", "org_id", "campaign_id", "ad_group_id", "keyword_id",
      "conversion_type", "claim_type"]) :
    Dict.get (Entries.update acq (("attribution_status", .text status) :: u ++
      [("lease_attempt", .none), ("lease_expires_at", .none)] ++ extra)) "attribution_status" =
      .text status := by
  have hnot : "attribution_status" ∉ Entries.keys (u ++
      [("lease_attempt", Value.none), ("lease_expires_at", Value.none)] ++ extra) := by
    intro hin
    have hlist : "attribution_status" ∈ Entries.keys (u ++ extra) := by
      simp only [Entries.keys, List.map_append, List.map_cons, List.map_nil, List.mem_append,
        List.mem_cons, List.not_mem_nil, or_false] at hin ⊢
      simpa using hin
    simpa using hkeys _ hlist
  rw [List.cons_append, List.cons_append, Entries.update_cons, Dict.get,
    Entries.find?_update_of_not_mem _ _ hnot, Entries.find?_set, if_pos rfl, Option.getD_some]

/-! ## What a write makes of the attempts -/

/-- The first lease is asked for by a server whose clock is before the sign-up. -/
def Behind (acq : Dict) (m : Measurement) (op : Op) : Prop :=
  ∃ now, op = .lease now ∧ IsOpen acq ∧ m.lastAttempt = none ∧ now.time.val < m.created.val

/-- The lease is given up: the attempts are over, or its holder has failed. -/
def GivenUp (acq : Dict) (m : Measurement) (op : Op) (u : List (String × Value)) : Prop :=
  ¬ IsOpen (Entries.update acq u) ∨
    ∃ captured, op = .finalizeFailed captured ∧ Holder m captured ∧ u ≠ []

/-- What a lease that is granted, or any other write, makes of the attempts. -/
def Moves (acq : Dict) (m : Measurement) (op : Op) (u : List (String × Value)) (answer : Answer)
    (m' : Measurement) : Prop :=
  (∃ now, op = .lease now ∧ answer = .leased (m.attempts + 1) ∧ m.attempts < MAX_ATTEMPTS ∧
    Free m now.time ∧ m' = ⟨m.attempts + 1, some now.time, some ⟨m.attempts + 1,
      .ofRat (now.time.val + LEASE_LIFETIME_SECONDS)⟩, m.created⟩) ∨
  ((∀ k, answer ≠ .leased k) ∧
    (m' = m ∨ (m' = { m with lease := none } ∧ GivenUp acq m op u)))

theorem Free.created_le {now : Double} (hm : Sound m) (hfree : Free m now) {last : Double}
    (hlast : last ∈ m.lastAttempt) : last.val < now.val ∧ m.created.val ≤ now.val := by
  have hspacing := hfree.spacing last hlast
  have hpos : 0 < now.val - last.val := by
    by_contra hnot
    have hle := rnd_nonpos (not_lt.mp hnot)
    rw [MIN_SPACING_SECONDS] at hspacing
    linarith
  have hcreated := hm.last last hlast
  constructor <;> linarith

/-- **A write keeps the map accepted** unless it grants the first lease before the sign-up. -/
theorem Writes.accepted {op : Op} {u : List (String × Value)} {answer : Answer}
    (hm : validateMap acq = some m) (h : Writes acq m op u answer) (hbehind : ¬ Behind acq m op) :
    ∃ m', validateMap (Entries.update acq u) = some m' ∧ Moves acq m op u answer m' := by
  have hsound := sound_of_validateMap hm
  cases h with
  | granted now hopen hfree hbudget =>
    refine ⟨_, validateMap_granted hm now hbudget ?_,
      .inl ⟨now, rfl, rfl, hbudget, hfree, rfl⟩⟩
    cases hlast : m.lastAttempt with
    | none => exact not_lt.mp fun hlt => hbehind ⟨now, rfl, hopen, hlast, hlt⟩
    | some last => exact (hfree.created_le hsound hlast).2
  | exhausted now hopen hfree hbudget =>
    exact ⟨_, validateMap_cleared hm (by simp [exhaustedUpdates, Entries.keys])
      (by simp [exhaustedUpdates]) (by simp [exhaustedUpdates]),
      .inr ⟨fun _ h => (by cases h), .inr ⟨rfl, .inl exhausted_not_isOpen⟩⟩⟩
  | recorded now parsed captured hopen hholder status u extra hstatus hkeys =>
    have hin : ∀ k ∈ Entries.keys extra, k ∈ ["attribution", "source", "attribution_recorded_at",
        "org_id", "campaign_id", "ad_group_id", "keyword_id", "conversion_type", "claim_type"] :=
      fun k hk => hkeys k (by
        rw [Entries.keys, List.map_append]
        exact List.mem_append_right _ hk)
    have hcleared : ∀ k ∈ ["lease_attempt", "lease_expires_at"], Dict.get (Entries.update acq
        (("attribution_status", .text status) :: u ++
          [("lease_attempt", .none), ("lease_expires_at", .none)] ++ extra)) k = .none := by
      intro k hk
      have hnot : k ∉ Entries.keys extra := by
        intro hmem
        have hlist := hin k hmem
        simp only [List.mem_cons, List.not_mem_nil, or_false] at hk
        rcases hk with rfl | rfl <;> simp at hlist
      rw [Entries.update, List.foldl_append]
      change Dict.get (Entries.update (Entries.update acq _) extra) k = .none
      rw [Dict.get, Entries.find?_update_of_not_mem _ _ hnot, Entries.update, List.foldl_append]
      simp only [List.mem_cons, List.not_mem_nil, or_false] at hk
      rcases hk with rfl | rfl <;> simp [Entries.find?_set]
    refine ⟨_, validateMap_cleared hm (fun k hk hmem => ?_) (hcleared _ (by simp))
      (hcleared _ (by simp)), .inr ⟨fun _ h => (by cases h), .inr ⟨rfl, .inl fun hafter =>
        hafter.not_terminal ⟨status, ?_, recorded_status hkeys⟩⟩⟩⟩
    · have hlist : k = "attribution_status" ∨ k ∈ Entries.keys (u ++ extra) ∨
          k ∈ ["lease_attempt", "lease_expires_at"] := by
        simp only [Entries.keys, List.map_append, List.map_cons, List.map_nil, List.mem_append,
          List.mem_cons, List.not_mem_nil, or_false] at hmem ⊢
        tauto
      rcases hlist with rfl | hlist | hlist
      · simp at hk
      · have hfields := hkeys k hlist
        simp only [List.mem_cons, List.not_mem_nil, or_false] at hk
        rcases hk with rfl | rfl | rfl | rfl | rfl | rfl | rfl <;> simp at hfields
      · simp only [List.mem_cons, List.not_mem_nil, or_false] at hlist
        rcases hlist with rfl | rfl <;> simp at hk
    · simp only [List.mem_cons, List.not_mem_nil, or_false] at hstatus ⊢
      tauto
  | released captured hopen hholder hbudget =>
    exact ⟨_, validateMap_cleared hm (by simp [Entries.keys]) (by simp) (by simp),
      .inr ⟨fun _ h => (by cases h),
        .inr ⟨rfl, .inr ⟨captured, rfl, hholder, List.cons_ne_nil _ _⟩⟩⟩⟩
  | spent captured hopen hholder hbudget =>
    exact ⟨_, validateMap_cleared hm (by simp [exhaustedUpdates, Entries.keys])
      (by simp [exhaustedUpdates]) (by simp [exhaustedUpdates]),
      .inr ⟨fun _ h => (by cases h), .inr ⟨rfl, .inl exhausted_not_isOpen⟩⟩⟩
  | observed op u hobserves hkeys hop =>
    refine ⟨m, validateMap_observed hm hobserves ?_, .inr ⟨fun _ h => (by cases h), .inl rfl⟩⟩
    rw [Dict.get, Entries.find?_update_of_not_mem _ _ hkeys]
    exact (validateMap_eq_some.mp hm).2.2.2.2.1
  | conversed callStart observedAt now currentNow t ht hobserves =>
    refine ⟨m, validateMap_observed hm hobserves ?_, .inr ⟨fun _ h => (by cases h), .inl rfl⟩⟩
    rw [Entries.update_cons, Entries.update_nil, Dict.get, Entries.find?_set, if_pos rfl,
      Option.getD_some, conversationOk, observation?_float.mpr ht]
    rfl

theorem leaseAttributionAttempt_behind (hm : validateMap acq = some m) (now : Clock)
    (hopen : IsOpen acq) (hlast : m.lastAttempt = none) :
    leaseAttributionAttempt now.time acq m =
      ⟨grantedUpdates m now.time, .leased (m.attempts + 1)⟩ := by
  have hsound := sound_of_validateMap hm
  have hlease : m.lease = none := by
    cases hlease : m.lease with
    | none => rfl
    | some lease =>
      obtain ⟨last, hin, -⟩ := hsound.lease lease hlease
      rw [hlast] at hin
      cases hin
  have hzero := hsound.tried hlast
  rw [IsOpen, closedStatuses, oneOf_cons] at hopen
  unfold leaseAttributionAttempt
  simp only
  split at hopen
  · cases hopen
  · rename_i hrecorded
    rw [if_neg hrecorded, hopen]
    simp only
    rw [hlease, hlast, Option.filter_none]
    simp only
    rw [if_neg (by exact Bool.false_ne_true), if_neg (by rw [hzero]; decide)]
    rfl

/-- **A write leaves the status**, or it ends the attempts of a map that is open: by the holder of
the lease, or with the budget exhausted. -/
theorem Writes.status {op : Op} {u : List (String × Value)} {answer : Answer}
    (h : Writes acq m op u answer) :
    Dict.get (Entries.update acq u) "attribution_status" = acq.get "attribution_status" ∨
      (IsOpen acq ∧ ∃ status, Dict.get (Entries.update acq u) "attribution_status" = .text status ∧
        ((status ∈ ["recorded", "unattributed"] ∧ ∃ now parsed captured,
            op = .recordTerminal now parsed captured ∧ Holder m captured) ∨
          (status = "exhausted" ∧ MAX_ATTEMPTS ≤ m.attempts))) := by
  have hleaves : "attribution_status" ∉ Entries.keys u →
      Dict.get (Entries.update acq u) "attribution_status" = acq.get "attribution_status" := by
    intro hnot
    rw [Dict.get, Dict.get, Entries.find?_update_of_not_mem _ _ hnot]
  have hobserved : Observes acq u → "attribution_status" ∉ Entries.keys u := by
    intro hobserves hin
    obtain ⟨guard, hguard⟩ := hobserves.keys _ hin
    simp [firstObservations] at hguard
  have hexhausted : Dict.get (Entries.update acq exhaustedUpdates) "attribution_status" =
      .text "exhausted" := by
    simp [exhaustedUpdates]
  cases h with
  | granted now hopen hfree hbudget =>
    exact .inl (hleaves (by simp [grantedUpdates, Entries.keys]))
  | exhausted now hopen hfree hbudget =>
    exact .inr ⟨hopen, "exhausted", hexhausted, .inr ⟨rfl, hbudget⟩⟩
  | recorded now parsed captured hopen hholder status u extra hstatus hkeys =>
    exact .inr ⟨hopen, status, recorded_status hkeys,
      .inl ⟨hstatus, now, parsed, captured, rfl, hholder⟩⟩
  | released captured hopen hholder hbudget => exact .inl (hleaves (by simp [Entries.keys]))
  | spent captured hopen hholder hbudget =>
    exact .inr ⟨hopen, "exhausted", hexhausted, .inr ⟨rfl, hbudget⟩⟩
  | observed op u hobserves hkeys hop => exact .inl (hleaves (hobserved hobserves))
  | conversed callStart observedAt now currentNow t ht hobserves =>
    exact .inl (hleaves (hobserved hobserves))

/-- **A first observation is there for good**, and it is written where it was missing. -/
theorem Writes.guard {op : Op} {u : List (String × Value)} {answer : Answer}
    (h : Writes acq m op u answer) {field guard : String}
    (hfield : (field, guard) ∈ firstObservations) :
    (field ∈ Entries.keys u → isNone (acq.get guard) = true ∧
        isNone (Dict.get (Entries.update acq u) guard) = false) ∧
      (isNone (acq.get guard) = false →
        isNone (Dict.get (Entries.update acq u) guard) = false) := by
  have hself : (guard, guard) ∈ firstObservations := by
    simp only [firstObservations, List.mem_cons, List.not_mem_nil, or_false, Prod.mk.injEq]
      at hfield ⊢
    rcases hfield with ⟨rfl, rfl⟩ | ⟨rfl, rfl⟩ | ⟨rfl, rfl⟩ | ⟨rfl, rfl⟩ | ⟨rfl, rfl⟩ | ⟨rfl, rfl⟩ |
      ⟨rfl, rfl⟩ | ⟨rfl, rfl⟩ | ⟨rfl, rfl⟩ | ⟨rfl, rfl⟩ <;> simp
  have hof : Observes acq u → (field ∈ Entries.keys u → isNone (acq.get guard) = true ∧
      isNone (Dict.get (Entries.update acq u) guard) = false) ∧
      (isNone (acq.get guard) = false →
        isNone (Dict.get (Entries.update acq u) guard) = false) := by
    refine fun hobserves => ⟨fun hin => hobserves.guards field hin guard hfield, fun hthere => ?_⟩
    by_cases hin : guard ∈ Entries.keys u
    · exact (hobserves.guards guard hin guard hself).2
    · rw [Dict.get, Entries.find?_update_of_not_mem _ _ hin]
      exact hthere
  have hother : (∀ k ∈ Entries.keys u, ∀ g, (k, g) ∉ firstObservations) →
      (field ∈ Entries.keys u → isNone (acq.get guard) = true ∧
        isNone (Dict.get (Entries.update acq u) guard) = false) ∧
      (isNone (acq.get guard) = false →
        isNone (Dict.get (Entries.update acq u) guard) = false) := by
    refine fun hnone => ⟨fun hin => absurd hfield (hnone field hin guard), fun hthere => ?_⟩
    have hnot : guard ∉ Entries.keys u := fun hin => hnone guard hin guard hself
    rw [Dict.get, Entries.find?_update_of_not_mem _ _ hnot]
    exact hthere
  cases h with
  | granted now hopen hfree hbudget =>
    exact hother (by simp [grantedUpdates, Entries.keys, firstObservations])
  | exhausted now hopen hfree hbudget =>
    exact hother (by simp [exhaustedUpdates, Entries.keys, firstObservations])
  | recorded now parsed captured hopen hholder status u extra hstatus hkeys =>
    refine hother fun k hk g hg => ?_
    have hlist : k = "attribution_status" ∨ k ∈ Entries.keys (u ++ extra) ∨ k = "lease_attempt" ∨
        k = "lease_expires_at" := by
      simp only [Entries.keys, List.map_append, List.map_cons, List.map_nil, List.mem_append,
        List.mem_cons, List.not_mem_nil, or_false] at hk ⊢
      tauto
    rcases hlist with rfl | hlist | rfl | rfl
    · simp [firstObservations] at hg
    · have hfields := hkeys k hlist
      simp only [List.mem_cons, List.not_mem_nil, or_false] at hfields
      rcases hfields with rfl | rfl | rfl | rfl | rfl | rfl | rfl | rfl | rfl <;>
        simp [firstObservations] at hg
    · simp [firstObservations] at hg
    · simp [firstObservations] at hg
  | released captured hopen hholder hbudget =>
    exact hother (by simp [Entries.keys, firstObservations])
  | spent captured hopen hholder hbudget =>
    exact hother (by simp [exhaustedUpdates, Entries.keys, firstObservations])
  | observed op u hobserves hkeys hop => exact hof hobserves
  | conversed callStart observedAt now currentNow t ht hobserves => exact hof hobserves

/-! ## Leases -/

theorem Writes.leased {op : Op} {u : List (String × Value)} {k : ℤ}
    (h : Writes acq m op u (.leased k)) :
    ∃ now, op = .lease now ∧ u = grantedUpdates m now.time ∧ k = m.attempts + 1 ∧ IsOpen acq ∧
      Free m now.time ∧ m.attempts < MAX_ATTEMPTS := by
  cases h with
  | granted now hopen hfree hbudget => exact ⟨now, rfl, rfl, rfl, hopen, hfree, hbudget⟩

theorem Writes.moves {op : Op} {u : List (String × Value)} {answer : Answer} {m' : Measurement}
    (hm : validateMap acq = some m) (h : Writes acq m op u answer)
    (hm' : validateMap (Entries.update acq u) = some m') : Moves acq m op u answer m' := by
  by_cases hbehind : Behind acq m op
  · obtain ⟨now, rfl, -, hlast, hnow⟩ := hbehind
    cases h with
    | granted now hopen hfree hbudget =>
      rw [validateMap_granted_before hm now hnow] at hm'
      cases hm'
    | exhausted now hopen hfree hbudget =>
      rw [(sound_of_validateMap hm).tried hlast] at hbudget
      exact absurd hbudget (by decide)
    | observed op u hobserves hkeys hop =>
      rcases hop with ⟨seenAt, h⟩ | ⟨seenAt, h⟩ | ⟨now, tier, payment, h⟩ <;> cases h
  · obtain ⟨m₁, hm₁, hmoves⟩ := h.accepted hm hbehind
    rw [hm'] at hm₁
    rw [Option.some.inj hm₁]
    exact hmoves

theorem Writes.open_before {op : Op} {u : List (String × Value)} {answer : Answer}
    (h : Writes acq m op u answer) (hopen : IsOpen (Entries.update acq u)) : IsOpen acq := by
  rcases h.status with hsame | ⟨hbefore, -⟩
  · rw [IsOpen, hsame] at hopen
    exact hopen
  · exact hbefore

end

/-! ## Runs -/

def mapOf (account : State) : Option Dict :=
  account.bind fun a =>
    match a.acquisition with
    | .dict acq => some acq
    | _ => none

def acceptedOf (account : State) : Option Measurement := (mapOf account).bind validateMap

def statusOf (account : State) : Value :=
  ((mapOf account).map fun acq => acq.get "attribution_status").getD .none

/-- An account whose map is accepted. -/
abbrev Enrolled := { account : State // (acceptedOf account).isSome }

def isLeased : Answer → Bool
  | .leased _ => true
  | _ => false

/-- The holder of the lease `k` has failed, and gives it up. -/
def GivesUp (k : ℤ) (e : Event State Request Result) : Prop :=
  e.call.op = .finalizeFailed k ∧ e.resp.updates ≠ []

/-- The holder of the lease that is stored records the result, or the budget is spent. -/
def Ended (e : Event State Request Result) : Prop :=
  ∃ m, acceptedOf e.pre = some m ∧
    ((∃ now parsed captured, e.call.op = .recordTerminal now parsed captured ∧ Holder m captured ∧
        statusOf e.post ∈ [Value.text "recorded", .text "unattributed"]) ∨
      (statusOf e.post = .text "exhausted" ∧ MAX_ATTEMPTS ≤ m.attempts))

/-- The first lease on an active account is asked for by a server whose clock is before the
sign-up. -/
def BehindEvent (e : Event State Request Result) : Prop :=
  e.call.enabled = true ∧ ∃ a acq m, e.pre = some a ∧ a.active = .bool true ∧
    a.acquisition = .dict acq ∧ validateMap acq = some m ∧ Behind acq m e.call.op

/-- **Attempts are bounded and the map stays accepted.** -/
structure Bounded (log : List (Event State Request Result)) : Prop where
  leases : log.countP (fun e => isLeased e.resp.answer) ≤ 3
  exclusive : ∀ l₁ a l₂ b l₃, log = l₁ ++ a :: l₂ ++ b :: l₃ → ∀ nowA nowB k k',
    a.call.op = .lease nowA → a.resp.answer = .leased k → b.call.op = .lease nowB →
    b.resp.answer = .leased k' →
    (∃ e ∈ l₂, GivesUp k e) ∨
      (Double.ofRat (nowA.time.val + LEASE_LIFETIME_SECONDS)).val ≤ nowB.time.val
  terminal : ∀ e ∈ log, IsTerminal (statusOf e.pre) → statusOf e.post = statusOf e.pre
  recorded : ∀ e ∈ log, IsTerminal (statusOf e.post) → ¬ IsTerminal (statusOf e.pre) → Ended e
  once : ∀ field guard, (field, guard) ∈ firstObservations →
    log.countP (fun e => decide (field ∈ Entries.keys e.resp.updates)) ≤ 1
  accepted : ∀ e ∈ log, (acceptedOf e.post).isSome

section

variable {account : State} {request : Request} {acq : Dict} {m : Measurement}

theorem Acts.mapOf_eq (h : Acts account request (step account request) acq m) :
    mapOf account = some acq ∧ mapOf (step account request).1 =
      some (Entries.update acq (step account request).2.updates) := by
  obtain ⟨a, rfl, -, hacq, hafter⟩ := h.before
  rw [hafter]
  exact ⟨by rw [mapOf, Option.bind_some, hacq], rfl⟩

theorem Acts.statusOf_eq (h : Acts account request (step account request) acq m) :
    statusOf account = acq.get "attribution_status" ∧ statusOf (step account request).1 =
      Dict.get (Entries.update acq (step account request).2.updates) "attribution_status" := by
  obtain ⟨hbefore, hafter⟩ := h.mapOf_eq
  rw [statusOf, statusOf, hbefore, hafter]
  exact ⟨rfl, rfl⟩

theorem Acts.acceptedOf_eq (h : Acts account request (step account request) acq m) :
    acceptedOf account = some m ∧ acceptedOf (step account request).1 =
      validateMap (Entries.update acq (step account request).2.updates) := by
  obtain ⟨hbefore, hafter⟩ := h.mapOf_eq
  rw [acceptedOf, acceptedOf, hbefore, hafter]
  exact ⟨h.accepted, rfl⟩

theorem acts_of_leased {k : ℤ} (h : (step account request).2.answer = .leased k) :
    ∃ acq m now, Acts account request (step account request) acq m ∧ request.op = .lease now ∧
      (step account request).2.updates = grantedUpdates m now.time ∧ k = m.attempts + 1 ∧
      IsOpen acq ∧ Free m now.time ∧ m.attempts < MAX_ATTEMPTS := by
  rcases step_cases account request with ⟨-, hidle⟩ | ⟨acq, m, hacts⟩
  · exact absurd h (hidle.2 k)
  · have hwrites := hacts.writes
    rw [h] at hwrites
    obtain ⟨now, hop, hu, hk, hrest⟩ := hwrites.leased
    exact ⟨acq, m, now, hacts, hop, hu, hk, hrest⟩

/-! ### At most three leases -/

theorem isLeased_iff {answer : Answer} : isLeased answer = true ↔ ∃ k, answer = .leased k := by
  cases answer <;> simp [isLeased]

theorem countP_leased_le (account : State) (requests : List Request) :
    (step.log account requests).countP (fun e => isLeased e.resp.answer) ≤ 3 := by
  -- the leases so far are counted by the attempts of the map, as long as it is accepted
  refine (Machine.log_inv step (G := fun _ => True) (I := fun log account =>
    log.countP (fun e => isLeased e.resp.answer) ≤ 3 ∧ ∀ m, acceptedOf account = some m →
      (log.countP (fun e => isLeased e.resp.answer) : ℤ) ≤ m.attempts) ⟨Nat.zero_le _, ?_⟩ ?_
    requests fun _ _ => trivial).1
  · intro m hm
    rw [acceptedOf, Option.bind_eq_some_iff] at hm
    obtain ⟨acq, -, hm⟩ := hm
    exact (sound_of_validateMap hm).attempts.1
  · rintro log account request ⟨hle, hcount⟩ -
    rw [List.countP_append, List.countP_singleton, Machine.event_resp]
    by_cases hleased : isLeased (step account request).2.answer = true
    · obtain ⟨k, hanswer⟩ := isLeased_iff.mp hleased
      obtain ⟨acq, m, now, hacts, -, -, -, -, -, hbudget⟩ := acts_of_leased hanswer
      obtain ⟨hbefore, hafter⟩ := hacts.acceptedOf_eq
      have hattempts := hcount m hbefore
      rw [MAX_ATTEMPTS] at hbudget
      rw [if_pos hleased, hafter]
      refine ⟨by omega, fun m' hm' => ?_⟩
      rcases hacts.writes.moves hacts.accepted hm' with ⟨_, -, -, -, -, rfl⟩ | ⟨hnot, -⟩
      · rw [Nat.cast_add, Nat.cast_one]
        exact Int.add_le_add_right hattempts 1
      · exact absurd hanswer (hnot k)
    · rw [if_neg hleased, Nat.add_zero]
      refine ⟨hle, fun m' hm' => ?_⟩
      rcases step_cases account request with ⟨hsame, -⟩ | ⟨acq, m, hacts⟩
      · rw [hsame] at hm'
        exact hcount m' hm'
      · obtain ⟨hbefore, hafter⟩ := hacts.acceptedOf_eq
        rw [hafter] at hm'
        rcases hacts.writes.moves hacts.accepted hm' with
          ⟨_, -, hanswer, -⟩ | ⟨-, rfl | ⟨rfl, -⟩⟩
        · exact absurd (isLeased_iff.mpr ⟨_, hanswer⟩) hleased
        · exact hcount _ hbefore
        · exact hcount m hbefore

/-! ### No two at once -/

/-- As long as the map is accepted and open, the lease `k` is stored until a later attempt is. -/
def Running (k : ℤ) (expiresAt : Double) (account : State) : Prop :=
  ∀ acq m, mapOf account = some acq → validateMap acq = some m → IsOpen acq →
    m.lease = some ⟨k, expiresAt⟩ ∨ ∃ last ∈ m.lastAttempt, expiresAt.val ≤ last.val

theorem Running.expired {k : ℤ} {expiresAt now : Double} (h : Running k expiresAt account)
    (hmap : mapOf account = some acq) (hm : validateMap acq = some m) (hopen : IsOpen acq)
    (hfree : Free m now) : expiresAt.val ≤ now.val := by
  rcases h acq m hmap hm hopen with hlease | ⟨last, hin, hle⟩
  · exact hfree.lease _ hlease
  · exact hle.trans (hfree.created_le (sound_of_validateMap hm) hin).1.le

theorem Running.step {k : ℤ} {expiresAt : Double} (h : Running k expiresAt account)
    (hkept : ¬ GivesUp k (step.event account request)) :
    Running k expiresAt (step account request).1 := by
  rcases step_cases account request with ⟨hsame, -⟩ | ⟨acq, m, hacts⟩
  · rw [hsame]
    exact h
  · obtain ⟨hbefore, hafter⟩ := hacts.mapOf_eq
    intro acq' m' hmap hm' hopen'
    rw [hafter] at hmap
    obtain rfl := Option.some.inj hmap
    have hopen := hacts.writes.open_before hopen'
    rcases hacts.writes.moves hacts.accepted hm' with
      ⟨now, -, -, -, hfree, rfl⟩ | ⟨-, rfl | ⟨rfl, hgiven⟩⟩
    · exact .inr ⟨now.time, rfl, h.expired hbefore hacts.accepted hopen hfree⟩
    · exact h acq _ hbefore hacts.accepted hopen
    · rcases hgiven with hclosed | ⟨captured, hop, hholder, hwritten⟩
      · exact absurd hopen' hclosed
      · rcases h acq m hbefore hacts.accepted hopen with hlease | hlast
        · rw [Holder, hlease, Option.map_some, Option.some.injEq] at hholder
          exact absurd ⟨hop.trans (congrArg Op.finalizeFailed hholder.symm), hwritten⟩ hkept
        · exact .inr hlast

theorem leases_exclusive {account : State} {requests : List Request}
    {l₁ l₂ l₃ : List (Event State Request Result)} {a b : Event State Request Result}
    (hlog : step.log account requests = l₁ ++ a :: l₂ ++ b :: l₃) {nowA nowB : Clock} {k k' : ℤ}
    (ha : a.call.op = .lease nowA) (hk : a.resp.answer = .leased k)
    (hb : b.call.op = .lease nowB) (hk' : b.resp.answer = .leased k') :
    (∃ e ∈ l₂, GivesUp k e) ∨
      (Double.ofRat (nowA.time.val + LEASE_LIFETIME_SECONDS)).val ≤ nowB.time.val := by
  refine or_iff_not_imp_left.mpr fun hkept => ?_
  obtain ⟨haresp, hapost⟩ := step.eq_of_mem_log (e := a) (by rw [hlog]; simp)
  obtain ⟨hbresp, -⟩ := step.eq_of_mem_log (e := b) (by rw [hlog]; simp)
  rw [haresp] at hk
  rw [hbresp] at hk'
  have hrunning : Running k (.ofRat (nowA.time.val + LEASE_LIFETIME_SECONDS)) a.post := by
    obtain ⟨acq, m, now, hacts, hop, -, rfl, -, hfree, -⟩ := acts_of_leased hk
    rw [ha] at hop
    cases hop
    intro acq' m' hmap hm' hopen'
    rw [hapost, hacts.mapOf_eq.2] at hmap
    obtain rfl := Option.some.inj hmap
    rcases hacts.writes.moves hacts.accepted hm' with ⟨now, hop, -, -, -, rfl⟩ | ⟨hnot, -⟩
    · rw [ha] at hop
      cases hop
      exact .inl rfl
    · exact absurd hk (hnot _)
  have hpre := step.log_between (G := fun e => ¬ GivesUp k e) (fun s c h hg => Running.step h hg)
    hlog hrunning fun e he hgives => hkept ⟨e, he, hgives⟩
  obtain ⟨acq, m, now, hacts, hop, -, -, hopen, hfree, -⟩ := acts_of_leased hk'
  rw [hb] at hop
  cases hop
  exact hpre.expired hacts.mapOf_eq.1 hacts.accepted hopen hfree

/-! ### Terminal statuses -/

theorem terminal_kept (account : State) (request : Request)
    (h : IsTerminal (statusOf account)) :
    statusOf (step account request).1 = statusOf account := by
  rcases step_cases account request with ⟨hsame, -⟩ | ⟨acq, m, hacts⟩
  · rw [hsame]
  · obtain ⟨hbefore, hafter⟩ := hacts.statusOf_eq
    rw [hbefore] at h ⊢
    rw [hafter]
    rcases hacts.writes.status with hkept | ⟨hopen, -⟩
    · exact hkept
    · exact absurd h hopen.not_terminal

theorem terminal_ended (account : State) (request : Request)
    (hafter : IsTerminal (statusOf (step account request).1))
    (hbefore : ¬ IsTerminal (statusOf account)) : Ended (step.event account request) := by
  rcases step_cases account request with ⟨hsame, -⟩ | ⟨acq, m, hacts⟩
  · rw [hsame] at hafter
    exact absurd hafter hbefore
  · obtain ⟨hstatus, hstatus'⟩ := hacts.statusOf_eq
    rcases hacts.writes.status with hkept | ⟨-, status, hwritten, hcases⟩
    · rw [hstatus', hkept, ← hstatus] at hafter
      exact absurd hafter hbefore
    · refine ⟨m, hacts.acceptedOf_eq.1, ?_⟩
      rw [Machine.event_call, Machine.event_post, hstatus', hwritten]
      rcases hcases with ⟨hin, now, parsed, captured, hop, hholder⟩ | ⟨rfl, hbudget⟩
      · refine .inl ⟨now, parsed, captured, hop, hholder, ?_⟩
        simp only [List.mem_cons, List.not_mem_nil, or_false] at hin ⊢
        rcases hin with rfl | rfl
        · exact .inl rfl
        · exact .inr rfl
      · exact .inr ⟨rfl, hbudget⟩

/-! ### First observations -/

theorem countP_observed_le {field guard : String} (hfield : (field, guard) ∈ firstObservations)
    (account : State) (requests : List Request) :
    (step.log account requests).countP
      (fun e => decide (field ∈ Entries.keys e.resp.updates)) ≤ 1 := by
  refine step.countP_log_le_one
    (P := fun account => ∀ acq, mapOf account = some acq → isNone (acq.get guard) = true)
    (fun account request hwritten => ?_) (fun account request hthere => ?_) account requests
  · rw [decide_eq_true_eq, Machine.event_resp] at hwritten
    rcases step_cases account request with ⟨-, hidle⟩ | ⟨acq, m, hacts⟩
    · rw [hidle.1] at hwritten
      cases hwritten
    · obtain ⟨hbefore, hafter⟩ := hacts.mapOf_eq
      obtain ⟨hmissing, hthere⟩ := (hacts.writes.guard hfield).1 hwritten
      refine ⟨fun acq' hacq' => ?_, fun hnone => ?_⟩
      · rw [hbefore] at hacq'
        rw [← Option.some.inj hacq']
        exact hmissing
      · rw [hnone _ hafter] at hthere
        cases hthere
  · rcases step_cases account request with ⟨hsame, -⟩ | ⟨acq, m, hacts⟩
    · rw [hsame]
      exact hthere
    · obtain ⟨hbefore, hafter⟩ := hacts.mapOf_eq
      refine fun hnone => hthere fun acq' hacq' => ?_
      rw [hbefore] at hacq'
      obtain rfl := Option.some.inj hacq'
      by_contra hnot
      rw [Bool.not_eq_true] at hnot
      have hmissing := hnone _ hafter
      rw [(hacts.writes.guard hfield).2 hnot] at hmissing
      cases hmissing

/-! ### The map stays accepted -/

theorem accepted_iff (account : State) (request : Request) (h : (acceptedOf account).isSome) :
    (acceptedOf (step account request).1).isSome ↔ ¬ BehindEvent (step.event account request) := by
  constructor
  · rintro hafter ⟨henabled, a, acq, m, hpre, hactive, hacq, hm, now, hop, hopen, hlast, hnow⟩
    obtain ⟨op, enabled⟩ := request
    rw [Machine.event_pre] at hpre
    rw [Machine.event_call] at hop henabled
    simp only at hop henabled
    subst hpre hop henabled
    have hstep : (step (some a) ⟨.lease now, true⟩).1 =
        some { a with acquisition := .dict (Entries.update acq (grantedUpdates m now.time)) } := by
      simp only [step, transact, Bool.not_true, Bool.false_eq_true, if_false]
      simp only [hactive, hacq, validateAcquisitionMeasurementMap, hm,
        leaseAttributionAttempt_behind hm now hopen hlast]
    rw [hstep, acceptedOf, mapOf, Option.bind_some, Option.bind_some,
      validateMap_granted_before hm now hnow] at hafter
    cases hafter
  · intro hbehind
    rcases step_cases account request with ⟨hsame, -⟩ | ⟨acq, m, hacts⟩
    · rw [hsame]
      exact h
    · rw [hacts.acceptedOf_eq.2]
      obtain ⟨a, hpre, hactive, hacq, -⟩ := hacts.before
      obtain ⟨m', hm', -⟩ := hacts.writes.accepted hacts.accepted fun hin =>
        hbehind ⟨hacts.enabled, a, acq, m, hpre, hactive, hacq, hacts.accepted, hin⟩
      rw [hm']
      rfl

/-- **Whatever the servers do with an accepted map**, the attempts are bounded, a terminal status
stays and a field is written once; the map stays accepted exactly where no first lease on it is
asked for by a server whose clock is before the sign-up. -/
theorem attribution_bounded_iff (start : Enrolled) (requests : List Request) :
    Bounded (step.log start.val requests) ↔
      ∀ e ∈ step.log start.val requests, ¬ BehindEvent e := by
  have hiff := step.log_post_iff (G := fun e => ¬ BehindEvent e)
    (I := fun account => (acceptedOf account).isSome = true) start.property
    (fun account request h => accepted_iff account request h) requests
  constructor
  · exact fun h => hiff.mp h.accepted
  · intro h
    refine ⟨countP_leased_le _ _, ?_, ?_, ?_, fun field guard hfield =>
      countP_observed_le hfield _ _, hiff.mpr h⟩
    · exact fun l₁ a l₂ b l₃ hlog nowA nowB k k' ha hk hb hk' =>
        leases_exclusive hlog ha hk hb hk'
    · intro e he hterminal
      rw [(step.eq_of_mem_log he).2]
      exact terminal_kept _ _ hterminal
    · intro e he hafter hbefore
      obtain ⟨cs₁, request, cs₂, -, rfl⟩ := step.mem_log he
      exact terminal_ended _ _ hafter hbefore

end

def signupMap (createdAt : Clock) : Dict :=
  [("schema_version", .int 1), ("cohort", float createdAt.time),
    ("created_at", float createdAt.time), ("attempts", .int 0)]

theorem timestamp?_float (t : Clock) : timestamp? (float t.time) = some (.float t.time) := by
  rw [timestamp?, float, Value.finite?_number, Option.filter_some, if_pos]
  rw [decide_eq_true_eq]
  exact ⟨t.lower, t.upper⟩

theorem validateMap_signupMap (createdAt : Clock) :
    validateMap (signupMap createdAt) = some ⟨0, none, none, createdAt.time⟩ := by
  refine validateMap_eq_some.mpr ⟨?_, ?_, ?_, ?_, ?_, ?_⟩
  · have hversion : int? (Dict.get (signupMap createdAt) "schema_version") = some 1 := rfl
    have hcreated : Dict.get (signupMap createdAt) "created_at" = float createdAt.time := rfl
    have hcohort : Dict.get (signupMap createdAt) "cohort" = float createdAt.time := rfl
    rw [createdAt?, hversion, hcreated, hcohort, timestamp?_float]
    simp only [Option.bind_eq_bind, Option.bind_some, sub_self, rnd_zero, abs_zero, toFloat_float]
    rw [if_pos ⟨trivial, rnd_nonneg (by norm_num)⟩]
  · rfl
  · rfl
  · rfl
  · rfl
  · rfl

def createdAt : Clock :=
  ⟨.ofRat (1700000000 : ℕ), by rw [Double.ofRat_val, rnd_natCast] <;> norm_num [MIN_TIMESTAMP_S],
    by rw [Double.ofRat_val, rnd_natCast] <;> norm_num [MAX_TIMESTAMP_S]⟩

def behindClock : Clock :=
  ⟨.ofRat (1699999999 : ℕ), by rw [Double.ofRat_val, rnd_natCast] <;> norm_num [MIN_TIMESTAMP_S],
    by rw [Double.ofRat_val, rnd_natCast] <;> norm_num [MAX_TIMESTAMP_S]⟩

def signup : State := some ⟨.bool true, .dict (signupMap createdAt)⟩

/-- A lease by a server whose clock says 1699999999.0. -/
theorem lease_before_signup :
    (acceptedOf signup).isSome ∧ ¬ Bounded (step.log signup [⟨.lease behindClock, true⟩]) := by
  have haccepted : acceptedOf signup = some ⟨0, none, none, createdAt.time⟩ :=
    validateMap_signupMap createdAt
  refine ⟨by rw [haccepted]; rfl, fun h => ?_⟩
  have hkept := h.accepted (step.event signup ⟨.lease behindClock, true⟩) (by simp)
  refine (accepted_iff _ _ (by rw [haccepted]; rfl)).mp hkept ⟨rfl, _, _, _, rfl, rfl, rfl,
    validateMap_signupMap createdAt, behindClock, rfl, ?_, rfl, ?_⟩
  · rfl
  · change rnd _ < rnd _
    rw [rnd_natCast, rnd_natCast] <;> norm_num

end HeyKevin.L16
