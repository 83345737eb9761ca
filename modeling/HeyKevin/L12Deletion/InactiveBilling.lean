import HeyKevin.L1Encoding.Python
/-!
# Billing evidence on a deactivated account

`record_inactive_notification` (app/db/contractors.py) is the transaction by
which an App Store notification leaves its trace on a profile that is no longer
active: one field, `post_deletion_billing`, with the counts, the last
notification and the renewal state of its receipt chain.

* `recordInactive_profile`: no other field of the profile changes.

Line numbers are those of app/db/contractors.py.
-/
namespace HeyKevin.L12

open HeyKevin.Core L1 L1.Text

/-- The arguments of `record_inactive_notification`, past the contractor. -/
structure Notification where
  expectedSubscriptionUuid : Str
  notificationType : Str
  subtype : Option Str
  transactionId : Str
  purchaseDateMs : Value
  reboundContractorId : Option Str
  renewalObservation : Option Dict

inductive Outcome
  | invalidInput
  | notFound
  | notInactive
  | uuidMismatch
  | renewalUpdate (billing : Dict) (count charges : Value)
  | duplicate (billing : Dict) (count charges : Value)
  | recorded (billing : Dict) (count charges : ℤ) (chargedAfterDeletion : Bool)

/-- `v is False` -/
def isFalse : Value → Bool
  | .bool b => !b
  | _ => false

/-- `str(v).strip() if isinstance(v, str) and v.strip() else ""` -/
def stripped : Value → Str
  | .str s => strip s
  | _ => []

/-- `type(v) is int and v > 0` -/
def positiveInt? : Value → Option ℤ
  | .number (.int n) => if 0 < n then some n else none
  | _ => none

/-- `isinstance(v, (int, float)) and not isinstance(v, bool) and math.isfinite(v) and v > 0`,
as a float. -/
def positiveFloat? (v : Value) : Option Binary64.Double :=
  (v.finite?.filter fun n => 0 < n.val).map Number.toFloat

/-- `int(v or 0)`, and 0 where that raises; `intOf` is `int(s)` of a string.
mirrors 2380-2386 -/
def safeInt (intOf : Str → Option ℤ) : Value → ℤ
  | .bool b => if b then 1 else 0
  | .number (.int n) => n
  | .number (.float d) => if 0 ≤ d.val then ⌊d.val⌋ else ⌈d.val⌉
  | .str s => if s.isEmpty then 0 else (intOf s).getD 0
  | _ => 0

/-- `data.get("post_deletion_billing") or \x7b\x7d`, if that is a dictionary. -/
def priorBilling (data : Dict) : Dict :=
  match data.get "post_deletion_billing" with
  | .dict kvs => kvs
  | _ => []

/-- The fields of a renewal observation that is let in: of the receipt chain observed last and
later than it, or the first of the current receipt.
mirrors 2305-2358 -/
def renewalToApply (data prior : Dict) (observation : Option Dict) : Option Dict :=
  match observation with
  | none => none
  | some event =>
    match event.get "auto_renews", positiveInt? (event.get "signed_at_ms") with
    | .bool autoRenews, some signed =>
      let original := stripped (event.get "original_transaction_id")
      let top := stripped (data.get "subscription_original_transaction_id")
      let nested := stripped (prior.get "renewal_original_transaction_id")
      let fields : Dict :=
        [("renewal_original_transaction_id", .str original),
         ("renewal_auto_renews", .bool autoRenews),
         ("renewal_status_signed_at_ms", .int signed)]
      if original.isEmpty then none
      else if original = nested then
        match prior.get "renewal_status_signed_at_ms" with
        | .none => some fields
        | v =>
          match positiveInt? v with
          | some before => if before < signed then some fields else none
          | none => none
      else if original = top then some fields
      else none
    | _, _ => none

variable (P : Python) (intOf : Str → Option ℤ)

/-- The same delivery as the one recorded last.
mirrors 2290-2303 -/
def isDuplicate (prior : Dict) (n : Notification) : Bool :=
  !n.transactionId.isEmpty &&
    P.strOrEmpty (prior.get "last_transaction_id") == n.transactionId &&
    P.strOrEmpty (prior.get "last_type") == n.notificationType &&
    P.strOrEmpty (prior.get "last_subtype") == n.subtype.getD []

/-- mirrors 2388-2403 -/
def chargedAfterDeletion (data : Dict) (n : Notification) : Bool :=
  let isCharge := n.notificationType == py "DID_RENEW" || n.notificationType == py "SUBSCRIBED"
  match isCharge, positiveFloat? (data.get "deactivated_at"), positiveFloat? n.purchaseDateMs with
  | true, some deactivated, some purchase =>
    decide (deactivated.val < (Number.divInt (.float purchase) 1000).val)
  | isCharge, _, _ => isCharge

/-- `prior.get(field, 0)` -/
def getOrZero (prior : Dict) (field : String) : Value :=
  if prior.has field then prior.get field else .int 0

/-- mirrors 2405-2419 -/
def recordedBilling (data : Dict) (n : Notification) (now : ℤ) : Dict :=
  let prior := priorBilling data
  let charge : ℤ := if chargedAfterDeletion data n then 1 else 0
  let merged := prior.set "count" (.int (safeInt intOf (prior.get "count") + 1))
  let merged := merged.set "charges" (.int (safeInt intOf (prior.get "charges") + charge))
  let merged := merged.set "last_type" (.str n.notificationType)
  let merged := merged.set "last_subtype" (.str (n.subtype.getD []))
  let merged := merged.set "last_at" (.int now)
  let merged := merged.set "last_transaction_id" (.str n.transactionId)
  let merged :=
    match n.reboundContractorId.filter fun s => !s.isEmpty with
    | some s => merged.set "rebound_contractor_id" (.str s)
    | none => merged
  merged.update ((renewalToApply data prior n.renewalObservation).getD [])

/-- The transaction, over the profile as it is stored; `now` is its `int(time.time())`.
mirrors 2240-2428 (`record_inactive_notification`) -/
def recordInactive (profile : Option Dict) (n : Notification) (now : ℤ) : Option Dict × Outcome :=
  if n.expectedSubscriptionUuid = [] ∨ n.notificationType = [] then (profile, .invalidInput)
  else
    match profile with
    | none => (none, .notFound)
    | some data =>
      if isFalse (data.get "active") = false then (some data, .notInactive)
      else if (data.get "subscription_uuid").isStr n.expectedSubscriptionUuid = false then
        (some data, .uuidMismatch)
      else
        let prior := priorBilling data
        if isDuplicate P prior n then
          match renewalToApply data prior n.renewalObservation with
          | some fields =>
            let merged := prior.update fields
            (some (data.set "post_deletion_billing" (.dict merged)),
              .renewalUpdate merged (getOrZero prior "count") (getOrZero prior "charges"))
          | none =>
            (some data,
              .duplicate prior (getOrZero prior "count") (getOrZero prior "charges"))
        else
          let merged := recordedBilling intOf data n now
          (some (data.set "post_deletion_billing" (.dict merged)),
            .recorded merged (safeInt intOf (prior.get "count") + 1)
              (safeInt intOf (prior.get "charges") +
                if chargedAfterDeletion data n then 1 else 0)
              (chargedAfterDeletion data n))

theorem recordInactive_profile (data : Dict) (n : Notification) (now : ℤ) :
    ∃ data', (recordInactive P intOf (some data) n now).1 = some data' ∧
      ∀ f, f ≠ "post_deletion_billing" → data'.get f = data.get f := by
  unfold recordInactive
  split
  · exact ⟨data, rfl, fun _ _ => rfl⟩
  · dsimp only
    split
    · exact ⟨data, rfl, fun _ _ => rfl⟩
    · split
      · exact ⟨data, rfl, fun _ _ => rfl⟩
      · split
        · split
          · exact ⟨_, rfl, fun f hf => by rw [Dict.get_set, if_neg hf.symm]⟩
          · exact ⟨data, rfl, fun _ _ => rfl⟩
        · exact ⟨_, rfl, fun f hf => by rw [Dict.get_set, if_neg hf.symm]⟩

end HeyKevin.L12
