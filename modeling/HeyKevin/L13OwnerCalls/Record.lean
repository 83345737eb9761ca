import HeyKevin.L1Encoding.Python
/-!
# The record of a live call

One JSON object in the realtime database holds who claimed the decision on a
waiting call (app/services/owner_call_actions.py). Every change is the pure
callback of a transaction; here a callback is a function that gives the record
it writes, and `none` where it returns the current value unchanged.

Each callback has one lemma: what its guard found, and which fields it leaves
alone.

Line numbers without a file are those of app/services/owner_call_actions.py.
-/
namespace HeyKevin.L13

open HeyKevin.Core Binary64 L1 L1.Text

abbrev Record := Dict

inductive OwnerAction
  | accept
  | decline
  | timeout
deriving DecidableEq

def OwnerAction.value : OwnerAction → String
  | .accept => "accept"
  | .decline => "decline"
  | .timeout => "timeout"

/-- mirrors 28 -/
def liveStates : List String :=
  ["pending", "scoring", "screening", "pickup_ringing", "connected", "text_replied",
    "voicemail_recording"]

/-- mirrors 29 -/
def decisionStates : List String := ["screening", "pickup_ringing"]

/-- mirrors app/db/cache.py:21 -/
def staleThreshold : ℚ := 600

/-- `v in {...}` for a set of strings. -/
def isOneOf (v : Value) (texts : List String) : Bool := texts.any fun t => v.isStr (py t)

theorem isOneOf_iff {v : Value} {texts : List String} :
    isOneOf v texts = true ↔ ∃ t ∈ texts, v = .text t := by
  simp only [isOneOf, List.any_eq_true, Value.isStr_iff, Value.text]

@[simp] theorem text_inj (s t : String) : Value.text s = .text t ↔ s = t := by
  simp [Value.text]

/-- `v is b` for a truth value `b`. -/
def isBool : Value → Bool → Bool
  | .bool a, b => a == b
  | _, _ => false

/-- `v is None` -/
def isNone : Value → Bool
  | .none => true
  | _ => false

/-- `record.get(key, '')` -/
def getOrEmpty (record : Record) (key : String) : Value :=
  if record.has key then record.get key else .text ""

/-- mirrors 76-84 -/
def liveRecord (record : Option Record) (contractorId : Str) (now : Double) : Bool :=
  match record with
  | none => false
  | some d =>
    !(strip contractorId).isEmpty && (d.get "contractor_id").isStr contractorId &&
      isOneOf (d.get "state") liveStates &&
      match d.get "state_updated_at" with
      | .number stamp =>
        decide (0 < stamp.val) && decide (stamp.val ≤ now.val) &&
          decide (((Number.float now).sub stamp).val ≤ staleThreshold)
      | _ => false

/-! ## Claims -/

/-- A claim wins where nobody has one and the call still waits for a decision.
mirrors 87-110 -/
def reduceActiveCallAction (current : Option Record) (action : OwnerAction)
    (contractorId operationId claimNonce conferenceName : Str) (now : Double) : Option Record :=
  match current with
  | none => none
  | some d =>
    if liveRecord (some d) contractorId now = false then none
    else if (d.get "owner_action").truthy then none
    else if isOneOf (d.get "state") decisionStates = false ∨ (d.get "accepted").truthy = true ∨
        isOneOf (d.get "kevin_redirect_status") ["pending", "uncertain"] = true then none
    else
      let updated := d.update
        [("owner_action", .text action.value), ("owner_operation_id", .str operationId),
          ("claim_nonce", .str claimNonce), ("action_updated_at", .number (.float now)),
          ("owner_action_status",
            .text (if action = .accept then "accepting" else "message_requested"))]
      if action = .accept then
        some (updated.update
          [("conference_name", .str conferenceName), ("accepted", .bool false),
            ("previous_conference_name",
              if d.has "conference_name" then d.get "conference_name" else .text "")])
      else
        some (updated.set "message_intent" (.dict
          [("type", .text "take_message"), ("contractor_id", .str contractorId),
            ("operation_id", .str operationId), ("action", .text action.value)]))

/-- The same claim, by its action, operation, nonce and conference.
mirrors 134-137 -/
def sameClaim (record : Option Record) (expected : Record) (now : Double) : Bool :=
  match expected.get "contractor_id", record with
  | .str contractorId, some d =>
    liveRecord (some d) contractorId now &&
      ["owner_action", "owner_operation_id", "claim_nonce", "conference_name"].all fun k =>
        (d.get k).eq (expected.get k)
  | _, _ => false

/-- mirrors 140-147 (`_finish`, its callback) -/
def finish (expected : Record) (targetStatus : String) (now : Double) (current : Option Record) :
    Option Record :=
  match current with
  | none => none
  | some d =>
    if sameClaim (some d) expected now = false ∨
        isOneOf (expected.get "owner_action_status") ["accepting", "uncertain"] = false ∨
        (d.get "owner_action_status").eq (expected.get "owner_action_status") = false then none
    else
      some (d.update
        [("owner_action_status", .text targetStatus), ("action_updated_at", .number (.float now))])

/-- mirrors 148-149 (`_finish`, its result) -/
def finished (expected : Record) (targetStatus : String) (later : Double)
    (result : Option Record) : Option Record :=
  result.filter fun d =>
    sameClaim (some d) expected later && (d.get "owner_action_status").isStr (py targetStatus)

/-- mirrors 153-159 (`_mark_redirect_started`, its callback) -/
def markRedirectStarted (expected : Record) (now : Double) (current : Option Record) :
    Option Record :=
  match current with
  | none => none
  | some d =>
    if sameClaim (some d) expected now = false ∨
        (d.get "owner_action_status").isStr (py "accepting") = false then none
    else
      some (d.update [("accepted", .bool true), ("redirect_started_at", .number (.float now))])

/-- mirrors 160-163 (`_mark_redirect_started`, its result) -/
def redirectStarted (expected : Record) (now later : Double) (result : Option Record) : Bool :=
  match result with
  | none => false
  | some d =>
    sameClaim (some d) expected later && (d.get "owner_action_status").isStr (py "accepting") &&
      isBool (d.get "accepted") true && (d.get "redirect_started_at").eq (.number (.float now))

/-- mirrors 166-181 (`_release_preparation`, its callback) -/
def releasePreparation (expected : Record) (now : Double) (current : Option Record) :
    Option Record :=
  match current with
  | none => none
  | some d =>
    if sameClaim (some d) expected now = false ∨
        (d.get "owner_action_status").isStr (py "accepting") = false ∨
        isBool (d.get "accepted") true = true ∨ isNone (d.get "redirect_started_at") = false then none
    else
      let previous :=
        if d.has "previous_conference_name" then d.get "previous_conference_name" else .text ""
      let updated := (d.pop "previous_conference_name").update
        [("conference_name", previous), ("accepted", .bool false),
          ("preparation_release_nonce", expected.get "claim_nonce")]
      some
        (["owner_action", "owner_action_status", "owner_operation_id", "claim_nonce",
          "action_updated_at", "redirect_started_at"].foldl (fun r k => Dict.pop r k) updated)

/-- mirrors 182-187 (`_release_preparation`, its result) -/
def preparationReleased (expected : Record) (later : Double) (result : Option Record) : Bool :=
  match expected.get "contractor_id", result with
  | .str contractorId, some d =>
    liveRecord (some d) contractorId later && !(d.get "owner_action").truthy &&
      isBool (d.get "accepted") false && isNone (d.get "redirect_started_at") &&
      (d.get "preparation_release_nonce").eq (expected.get "claim_nonce")
  | _, _ => false

/-- `min(a, b)` -/
def minNumber (a b : Number) : Number := if b.val < a.val then b else a

/-- The deadline that stays: a positive finite one (`True` is an `int`), if it is not later.
mirrors 680-682 -/
def retainedDeadline (old : Value) (requested : Number) : Value :=
  match old with
  | .number n => .number (if 0 < n.val then minNumber n requested else requested)
  | .bool true => if requested.val < 1 then .number requested else .bool true
  | _ => .number requested

/-- The first wait wins.
mirrors 671-682 (`ensure_owner_deadline`, its callback) -/
def ensureOwnerDeadline (contractorId : Str) (urgent : Bool) (deadline : Option Double)
    (now : Double) (current : Option Record) : Option Record :=
  let limit := (Number.float now).add (.int 30)
  let requested := deadline.elim limit fun t => minNumber (.float t) limit
  match current with
  | none => none
  | some d =>
    if liveRecord (some d) contractorId now = false ∨ (d.get "owner_action").truthy = true ∨
        (d.get "accepted").truthy = true ∨ isOneOf (d.get "state") decisionStates = false then none
    else
      some (d.update
        [("owner_wait_deadline", retainedDeadline (d.get "owner_wait_deadline") requested),
          ("urgent", .bool (urgent || isBool (d.get "urgent") true))])

/-! ## Transactions -/

inductive Answer
  | answered
  /-- It committed, and the caller sees an error. -/
  | lost
  /-- It did not commit, and the caller sees an error. -/
  | failed
deriving DecidableEq

def wrote (answer : Answer) (written : Option Record) : Bool :=
  decide (answer ≠ .failed) && written.isSome

/-! ## What a written record shows -/

variable {d d' expected : Record} {current : Option Record} {contractorId operationId claimNonce
  conferenceName : Str} {action : OwnerAction} {now : Double} {targetStatus : String}

theorem reduceActiveCallAction_eq_some
    (h : reduceActiveCallAction current action contractorId operationId claimNonce conferenceName
      now = some d') :
    (∃ d, current = some d ∧ (d.get "owner_action").truthy = false) ∧
      d'.get "owner_action" = .text action.value ∧
      d'.get "owner_operation_id" = .str operationId ∧ d'.get "claim_nonce" = .str claimNonce ∧
      d'.get "owner_action_status" =
        .text (if action = .accept then "accepting" else "message_requested") := by
  unfold reduceActiveCallAction at h
  split at h
  · cases h
  · rename_i d
    split at h
    · cases h
    · split at h
      · cases h
      · rename_i hfree
        refine ⟨⟨d, rfl, by simpa using hfree⟩, ?_⟩
        split at h
        · cases h
        · split at h
          · rename_i haccept
            cases h
            simp [haccept]
          · rename_i haccept
            cases h
            simp [haccept]

theorem sameClaim_str {k : String}
    (hk : k ∈ ["owner_action", "owner_operation_id", "claim_nonce", "conference_name"])
    (h : sameClaim current expected now = true) {v : Str} (hv : expected.get k = .str v) :
    ∃ d, current = some d ∧ d.get k = .str v := by
  unfold sameClaim at h
  split at h
  · rename_i contractorId d hcontractor
    refine ⟨d, rfl, Value.eq_str ?_⟩
    have hall := (Bool.and_eq_true_iff.mp h).2
    rw [← hv]
    exact List.all_eq_true.mp hall k hk
  · cases h

theorem finish_eq_some (h : finish expected targetStatus now current = some d') :
    sameClaim current expected now = true ∧ ∃ d, current = some d ∧
      ∀ k, k ≠ "owner_action_status" → k ≠ "action_updated_at" → d'.get k = d.get k := by
  unfold finish at h
  split at h
  · cases h
  · rename_i d
    split at h
    · cases h
    · rename_i hguard
      cases h
      simp only [not_or, Bool.not_eq_false] at hguard
      refine ⟨hguard.1, d, rfl, fun k hstatus hat => ?_⟩
      simp [Ne.symm hstatus, Ne.symm hat]

theorem markRedirectStarted_eq_some (h : markRedirectStarted expected now current = some d') :
    sameClaim current expected now = true ∧ d'.get "accepted" = .bool true ∧
      ∃ d, current = some d ∧
        ∀ k, k ≠ "accepted" → k ≠ "redirect_started_at" → d'.get k = d.get k := by
  unfold markRedirectStarted at h
  split at h
  · cases h
  · rename_i d
    split at h
    · cases h
    · rename_i hguard
      cases h
      simp only [not_or, Bool.not_eq_false] at hguard
      refine ⟨hguard.1, by simp, d, rfl, fun k haccepted hstarted => ?_⟩
      simp [Ne.symm haccepted, Ne.symm hstarted]

theorem releasePreparation_eq_some (h : releasePreparation expected now current = some d') :
    sameClaim current expected now = true ∧
      ∃ d, current = some d ∧ isBool (d.get "accepted") true = false := by
  unfold releasePreparation at h
  split at h
  · cases h
  · rename_i d
    split at h
    · cases h
    · rename_i hguard
      simp only [not_or, Bool.not_eq_false, Bool.not_eq_true] at hguard
      exact ⟨hguard.1, d, rfl, hguard.2.2.1⟩

theorem ensureOwnerDeadline_eq_some {urgent : Bool} {deadline : Option Double}
    (h : ensureOwnerDeadline contractorId urgent deadline now current = some d') :
    ∃ d, current = some d ∧ (d.get "owner_action").truthy = false := by
  unfold ensureOwnerDeadline at h
  dsimp only at h
  split at h
  · cases h
  · rename_i d
    split at h
    · cases h
    · rename_i hguard
      simp only [not_or, Bool.not_eq_true] at hguard
      exact ⟨d, rfl, hguard.2.1⟩

end HeyKevin.L13
