import HeyKevin.Core.Machine
import HeyKevin.L1Encoding.Python
/-!
# The post-call handoff record

`app/db/post_call_handoffs.py` keeps one Firestore record per call, so that
the inline call path, the polling worker and an operator agree on who runs
the side effects of a finished call. `enqueue_handoff` creates the record
once; `claim_handoff` gives the right to process; `finish_handoff`,
`mark_needs_attention`, `quarantine_pending_handoff` and
`acknowledge_handoff` move it on. Each runs in one transaction on the record,
so a run of `step` over any list of calls is an interleaving of any number of
callers. Clock readings and lease lengths are arbitrary finite numbers.

`Phase` and `Edge` are the purpose of the record: a status graph without
cycles. `step_edge` is the refinement: every operation leaves the record
untouched or takes one edge, and `claim_handoff` returns `True` exactly on
the edge from pending to in progress. Everything about runs follows from the
graph (`handoff_claimed_at_most_once`).

Line numbers are those of app/db/post_call_handoffs.py.
-/
namespace HeyKevin.L4.PostCallHandoff

open HeyKevin.Core Binary64 L1 L1.Text L1.Datetime

def RETENTION_DAYS : ℤ := 90

def TERMINAL_STATUSES : List String := ["completed", "needs_attention", "acknowledged"]

def ACKNOWLEDGEMENT_RESOLUTIONS : List String :=
  ["verified_complete", "customer_contacted_manually", "no_action_required", "false_alarm"]

/-- `status in names` for a set of string constants. -/
def isOneOf (v : Value) (names : List String) : Bool := names.any fun s => v.isStr (py s)

/-- `isinstance(status, str)` -/
def isString : Value → Bool
  | .str _ => true
  | _ => false

def epochMicros : ℤ := 719162 * 86400000000

/-- `none` is the `OverflowError` or `ValueError` of a clock reading out of range.
mirrors 123-124 -/
def retentionDeadline (now : Number) : Option DateTime :=
  DateTime.ofInstant (epochMicros + roundHalfEven (now.val * 1000000) +
    RETENTION_DAYS * 86400000000)

/-- `not isinstance(lease_expires_at, (int, float)) or lease_expires_at <= now`;
a boolean is an `int`. -/
def leaseExpired (v : Value) (now : Number) : Bool :=
  match v with
  | .number n => n.val ≤ now.val
  | .bool b => (if b then 1 else 0) ≤ now.val
  | .nonFinite .negInf => true
  | .nonFinite _ => false
  | _ => true

/-- `data.get("attempts", 0)`, reset to 0 unless it is a non-negative `int`. -/
def attemptsOf (data : Dict) : ℤ :=
  match data.get "attempts" with
  | .number (.int z) => if z < 0 then 0 else z
  | .bool b => if b then 1 else 0
  | _ => 0

/-- mirrors 127-159 -/
def claimTransition (data : Dict) (now leaseSeconds : Number) : Bool × Dict :=
  let status := data.get "status"
  if !isString status then (false, [])
  else if isOneOf status TERMINAL_STATUSES then (false, [])
  else if status.isStr (py "in_progress") then
    if leaseExpired (data.get "lease_expires_at") now then
      (false, [("status", .text "needs_attention"), ("finished_at", .number now),
        ("lease_expires_at", .int 0), ("failure_code", .text "lease_expired_uncertain")])
    else (false, [])
  else if !status.isStr (py "pending") then (false, [])
  else
    (true, [("status", .text "in_progress"), ("attempts", .int (attemptsOf data + 1)),
      ("started_at", .number now), ("lease_expires_at", .number (now.add leaseSeconds))])

/-- The result of processing one call, `status` and the effects it names. -/
structure Result where
  status : Str
  completed_effects : List Str
  failed_effects : List Str

/-- mirrors 233-239 -/
def terminalOutcome (resultStatus : Str) : String × String :=
  if resultStatus = py "complete" then ("completed", "")
  else if resultStatus = py "partial" then ("needs_attention", "partial_delivery")
  else ("needs_attention", "processing_failed")

/-- mirrors 242-252 -/
def finishTransition (data updates : Dict) : Bool × Dict :=
  let current := data.get "status"
  match current with
  | .str s =>
    if (updates.get "status").isStr s && isOneOf current TERMINAL_STATUSES then (true, [])
    else if isOneOf current TERMINAL_STATUSES || !current.isStr (py "in_progress") then (false, [])
    else (true, updates)
  | _ => (false, [])

/-- mirrors 255-266 -/
def attentionTransition (data updates : Dict) : Bool × Dict :=
  let current := data.get "status"
  if !isString current then (false, [])
  else if current.isStr (py "needs_attention") then (true, [])
  else if current.isStr (py "completed") then (false, [])
  else if !isOneOf current ["pending", "in_progress"] then (false, [])
  else (true, updates)

/-- `none` when `_retention_deadline` raises.
mirrors 269-285 -/
def acknowledgeTransition (data : Dict) (resolution : Str) (now : Number) : Option (Bool × Dict) :=
  if !ACKNOWLEDGEMENT_RESOLUTIONS.any (fun r => resolution == py r) then some (false, [])
  else if !(data.get "status").isStr (py "needs_attention") then some (false, [])
  else (retentionDeadline now).map fun expires =>
    (true, [("status", .text "acknowledged"), ("resolution", .str resolution),
      ("acknowledged_at", .number now), ("expires_at", .time expires)])

/-- mirrors 288-300 -/
def finishUpdates (result : Result) (now : Number) : Option Dict :=
  let (status, failureCode) := terminalOutcome result.status
  let updates : Dict :=
    [("status", .text status), ("finished_at", .number now), ("lease_expires_at", .int 0),
      ("failure_code", .text failureCode),
      ("completed_effects", .list (result.completed_effects.map .str)),
      ("failed_effects", .list (result.failed_effects.map .str))]
  if status = "completed" then
    (retentionDeadline now).map fun expires => updates.set "expires_at" (.time expires)
  else some updates

/-- mirrors 340-345, 422-427 -/
def attentionUpdates (failureCode : Str) (now : Number) : Dict :=
  [("status", .text "needs_attention"), ("finished_at", .number now), ("lease_expires_at", .int 0),
    ("failure_code", .str failureCode)]

/-- `math.isfinite(created_at) and now - float(created_at) <= 86400`, for a
number that is not a boolean. -/
def createdWithinADay (data : Dict) (now : Number) : Bool :=
  match (data.get "created_at").finite? with
  | some created => (now.sub (.float created.toFloat)).val ≤ 86400
  | none => false

def ENDED_CALL_STATUSES : List String := ["completed", "busy", "no-answer", "canceled", "failed"]

/-- The guards of `quarantine_pending_handoff` over the call document.
mirrors 396-419 -/
def quarantineRefused (P : Python) (failureCode : Str) (data : Dict) (callDoc : Option Dict)
    (now : Number) : Bool :=
  let hCid := strip (P.strOrEmpty (data.get "contractor_id"))
  if failureCode = py "call_end_unconfirmed" then
    createdWithinADay data now ||
      match callDoc with
      | some call =>
        let callStatus := P.lower (strip (P.strOrEmpty (call.get "call_status")))
        let cCid := strip (P.strOrEmpty (call.get "contractor_id"))
        ENDED_CALL_STATUSES.any (fun s => callStatus == py s) && !hCid.isEmpty && !cCid.isEmpty &&
          hCid == cCid
      | none => false
  else
    match callDoc with
    | none => true
    | some call =>
      let cCid := strip (P.strOrEmpty (call.get "contractor_id"))
      hCid.isEmpty || cCid.isEmpty || hCid == cCid

/-! ## The operations as transactions on the record -/

abbrev Record := Option Dict

/-- mirrors 162-197: `create` fails without
effect on an existing record and still reports success. -/
def enqueueHandoff (callSid contractorId callerLanguage : Str) (now : Number) (r : Record) :
    Record × Bool :=
  if callSid.isEmpty then (r, false)
  else
    match r with
    | some data => (some data, true)
    | none =>
      (some [("call_sid", .str callSid), ("contractor_id", .str contractorId),
        ("caller_language", .str (if callerLanguage.isEmpty then py "en" else callerLanguage)),
        ("status", .text "pending"), ("attempts", .int 0), ("created_at", .number now)], true)

/-- `tx.update(doc_ref, updates)` when there are updates. -/
def applyUpdates (data : Dict) (t : Bool × Dict) : Record × Bool := (some (data.update t.2), t.1)

/-- mirrors 200-230 -/
def claimHandoff (now leaseSeconds : Number) : Record → Record × Bool
  | none => (none, false)
  | some data => applyUpdates data (claimTransition data now leaseSeconds)

/-- mirrors 303-334 -/
def finishHandoff (result : Result) (now : Number) (r : Record) : Record × Bool :=
  match finishUpdates result now, r with
  | some updates, some data => applyUpdates data (finishTransition data updates)
  | _, r => (r, false)

/-- mirrors 337-375 -/
def markNeedsAttention (failureCode : Str) (now : Number) : Record → Record × Bool
  | none => (none, false)
  | some data => applyUpdates data (attentionTransition data (attentionUpdates failureCode now))

/-- mirrors 378-442 -/
def quarantinePendingHandoff (P : Python) (failureCode : Str) (callDoc : Option Dict)
    (now : Number) (r : Record) : Record × Bool :=
  if failureCode ≠ py "call_end_unconfirmed" ∧ failureCode ≠ py "contractor_mismatch" then (r, false)
  else
    match r with
    | none => (none, false)
    | some data =>
      if !(data.get "status").isStr (py "pending") then (some data, false)
      else if quarantineRefused P failureCode data callDoc now then (some data, false)
      else applyUpdates data (true, attentionUpdates failureCode now)

/-- mirrors 515-549 -/
def acknowledgeHandoff (resolution : Str) (now : Number) (r : Record) : Record × Bool :=
  match r with
  | none => (none, false)
  | some data =>
    match acknowledgeTransition data resolution now with
    | some t => applyUpdates data t
    | none => (some data, false)

inductive Call
  | enqueue (callSid contractorId callerLanguage : Str) (now : Number)
  | claim (now leaseSeconds : Number)
  | finish (result : Result) (now : Number)
  | markNeedsAttention (failureCode : Str) (now : Number)
  | quarantine (failureCode : Str) (callDoc : Option Dict) (now : Number)
  | acknowledge (resolution : Str) (now : Number)

def step (P : Python) : Machine Record Call Bool := fun r c =>
  match c with
  | .enqueue sid cid lang now => enqueueHandoff sid cid lang now r
  | .claim now lease => claimHandoff now lease r
  | .finish result now => finishHandoff result now r
  | .markNeedsAttention code now => markNeedsAttention code now r
  | .quarantine code callDoc now => quarantinePendingHandoff P code callDoc now r
  | .acknowledge resolution now => acknowledgeHandoff resolution now r

/-! ## The status graph -/

inductive Phase
  | absent
  | pending
  | inProgress
  | completed
  | needsAttention
  | acknowledged
  | malformed
deriving DecidableEq, Repr

/-- The status a record carries; anything else is `malformed`. -/
def phase : Record → Phase
  | none => .absent
  | some data =>
    let status := data.get "status"
    if status.isStr (py "pending") then .pending
    else if status.isStr (py "in_progress") then .inProgress
    else if status.isStr (py "completed") then .completed
    else if status.isStr (py "needs_attention") then .needsAttention
    else if status.isStr (py "acknowledged") then .acknowledged
    else .malformed

inductive Edge : Phase → Phase → Prop
  | enqueue : Edge .absent .pending
  | claim : Edge .pending .inProgress
  | quarantine : Edge .pending .needsAttention
  | complete : Edge .inProgress .completed
  | uncertain : Edge .inProgress .needsAttention
  | acknowledge : Edge .needsAttention .acknowledged

def rank : Phase → ℕ
  | .absent => 0
  | .malformed => 0
  | .pending => 1
  | .inProgress => 2
  | .needsAttention => 3
  | .completed => 4
  | .acknowledged => 4

theorem Edge.rank_lt {a b : Phase} (h : Edge a b) : rank a < rank b := by
  cases h <;> decide

theorem Edge.not_settled {a b : Phase} (h : Edge a b) : a ≠ .completed ∧ a ≠ .acknowledged := by
  cases h <;> decide

theorem Edge.from_needsAttention {b : Phase} (h : Edge .needsAttention b) : b = .acknowledged := by
  cases h; rfl

theorem Edge.to_acknowledged {a : Phase} (h : Edge a .acknowledged) : a = .needsAttention := by
  cases h; rfl

/-! ## Every operation follows the graph -/

/-- The status of a record is one of the five strings of the graph, or every
comparison a transition makes with them fails. -/
theorem status_cases (data : Dict) :
    (phase (some data) = .pending ∧ data.get "status" = .text "pending") ∨
    (phase (some data) = .inProgress ∧ data.get "status" = .text "in_progress") ∨
    (phase (some data) = .completed ∧ data.get "status" = .text "completed") ∨
    (phase (some data) = .needsAttention ∧ data.get "status" = .text "needs_attention") ∨
    (phase (some data) = .acknowledged ∧ data.get "status" = .text "acknowledged") ∨
    (phase (some data) = .malformed ∧
      ∀ t ∈ ["pending", "in_progress", "completed", "needs_attention", "acknowledged"],
        (data.get "status").isStr (py t) = false) := by
  have htext : ∀ t, (data.get "status").isStr (py t) = true → data.get "status" = .text t :=
    fun t h => (Value.isStr_iff _ _).mp h
  simp only [phase]
  by_cases h1 : (data.get "status").isStr (py "pending") = true
  · exact .inl ⟨by rw [if_pos h1], htext _ h1⟩
  by_cases h2 : (data.get "status").isStr (py "in_progress") = true
  · exact .inr (.inl ⟨by rw [if_neg h1, if_pos h2], htext _ h2⟩)
  by_cases h3 : (data.get "status").isStr (py "completed") = true
  · exact .inr (.inr (.inl ⟨by rw [if_neg h1, if_neg h2, if_pos h3], htext _ h3⟩))
  by_cases h4 : (data.get "status").isStr (py "needs_attention") = true
  · exact .inr (.inr (.inr (.inl
      ⟨by rw [if_neg h1, if_neg h2, if_neg h3, if_pos h4], htext _ h4⟩)))
  by_cases h5 : (data.get "status").isStr (py "acknowledged") = true
  · exact .inr (.inr (.inr (.inr (.inl
      ⟨by rw [if_neg h1, if_neg h2, if_neg h3, if_neg h4, if_pos h5], htext _ h5⟩))))
  · refine .inr (.inr (.inr (.inr (.inr ⟨by simp [h1, h2, h3, h4, h5], ?_⟩))))
    simp only [Bool.not_eq_true] at h1 h2 h3 h4 h5
    simpa using ⟨h1, h2, h3, h4, h5⟩

theorem phase_pending {d : Dict} (h : d.get "status" = .text "pending") :
    phase (some d) = .pending := by simp [phase, h]

theorem phase_inProgress {d : Dict} (h : d.get "status" = .text "in_progress") :
    phase (some d) = .inProgress := by simp [phase, h]

theorem phase_completed {d : Dict} (h : d.get "status" = .text "completed") :
    phase (some d) = .completed := by simp [phase, h]

theorem phase_needsAttention {d : Dict} (h : d.get "status" = .text "needs_attention") :
    phase (some d) = .needsAttention := by simp [phase, h]

theorem phase_acknowledged {d : Dict} (h : d.get "status" = .text "acknowledged") :
    phase (some d) = .acknowledged := by simp [phase, h]

theorem isString_text (s : String) : isString (.text s) = true := rfl

theorem attentionUpdates_phase (data : Dict) (failureCode : Str) (now : Number) :
    phase (some (data.update (attentionUpdates failureCode now))) = .needsAttention :=
  phase_needsAttention (by simp [attentionUpdates])

/-- A claim is refused without effect, finds an expired lease and gives the
record up as uncertain, or takes a pending record. -/
theorem claimTransition_spec (data : Dict) (now leaseSeconds : Number) :
    (claimTransition data now leaseSeconds = (false, [])) ∨
    (phase (some data) = .inProgress ∧ (claimTransition data now leaseSeconds).1 = false ∧
      phase (some (data.update (claimTransition data now leaseSeconds).2)) = .needsAttention) ∨
    (phase (some data) = .pending ∧ (claimTransition data now leaseSeconds).1 = true ∧
      phase (some (data.update (claimTransition data now leaseSeconds).2)) = .inProgress) := by
  unfold claimTransition
  rcases status_cases data with ⟨hp, h⟩ | ⟨hp, h⟩ | ⟨-, h⟩ | ⟨-, h⟩ | ⟨-, h⟩ | ⟨-, h⟩
  · right; right
    simp [h, hp, isString_text, isOneOf, TERMINAL_STATUSES, phase_inProgress]
  · simp only [h, isString_text, isOneOf, TERMINAL_STATUSES, hp]
    cases leaseExpired (data.get "lease_expires_at") now
    · left; simp
    · right; left; simp [phase_needsAttention]
  · left; simp [h, isString_text, isOneOf, TERMINAL_STATUSES]
  · left; simp [h, isString_text, isOneOf, TERMINAL_STATUSES]
  · left; simp [h, isString_text, isOneOf, TERMINAL_STATUSES]
  · left
    have h1 := h "pending" (by simp)
    have h2 := h "in_progress" (by simp)
    simp [h1, h2]

theorem finishUpdates_status {result : Result} {now : Number} {updates : Dict}
    (h : finishUpdates result now = some updates) (data : Dict) :
    (phase (some (data.update updates)) = .completed ∨
      phase (some (data.update updates)) = .needsAttention) := by
  have hterm : (terminalOutcome result.status).1 = "completed" ∨
      (terminalOutcome result.status).1 = "needs_attention" := by
    unfold terminalOutcome
    split
    · exact .inl rfl
    split <;> exact .inr rfl
  simp only [finishUpdates] at h
  split at h
  · rename_i hc
    obtain ⟨expires, -, rfl⟩ := Option.map_eq_some_iff.mp h
    left
    exact phase_completed (by simp [Entries.set, hc])
  · rename_i hc
    cases h
    right
    exact phase_needsAttention (by simp [hterm.resolve_left hc])

theorem finishTransition_spec (data updates : Dict) :
    (finishTransition data updates).2 = [] ∨
      (phase (some data) = .inProgress ∧ (finishTransition data updates).2 = updates) := by
  unfold finishTransition
  rcases status_cases data with ⟨-, h⟩ | ⟨hp, h⟩ | ⟨-, h⟩ | ⟨-, h⟩ | ⟨-, h⟩ | ⟨-, h⟩
  · left; simp [h, Value.text, isOneOf, TERMINAL_STATUSES]
  · right; simp [h, hp, Value.text, isOneOf, TERMINAL_STATUSES]
  · left
    simp only [h, Value.text, isOneOf, TERMINAL_STATUSES]
    split
    · rfl
    · simp
  · left
    simp only [h, Value.text, isOneOf, TERMINAL_STATUSES]
    split
    · rfl
    · simp
  · left
    simp only [h, Value.text, isOneOf, TERMINAL_STATUSES]
    split
    · rfl
    · simp
  · left
    have h2 := h "in_progress" (by simp)
    simp only [h2]
    split
    · split <;> simp
    · rfl

theorem attentionTransition_spec (data updates : Dict) :
    (attentionTransition data updates).2 = [] ∨
      ((phase (some data) = .pending ∨ phase (some data) = .inProgress) ∧
        (attentionTransition data updates).2 = updates) := by
  unfold attentionTransition
  rcases status_cases data with ⟨hp, h⟩ | ⟨hp, h⟩ | ⟨-, h⟩ | ⟨-, h⟩ | ⟨-, h⟩ | ⟨-, h⟩
  · right; simp [h, hp, isString_text, isOneOf]
  · right; simp [h, hp, isString_text, isOneOf]
  · left; simp [h, isString_text]
  · left; simp [h, isString_text]
  · left; simp [h, isString_text, isOneOf]
  · left
    have h1 := h "pending" (by simp)
    have h2 := h "in_progress" (by simp)
    simp only [isOneOf, List.any_cons, h1, h2]
    repeat' split
    all_goals simp_all

theorem acknowledgeTransition_spec {data : Dict} {resolution : Str} {now : Number}
    {t : Bool × Dict} (h : acknowledgeTransition data resolution now = some t) :
    t.2 = [] ∨ (phase (some data) = .needsAttention ∧
      phase (some (data.update t.2)) = .acknowledged) := by
  unfold acknowledgeTransition at h
  split at h
  · cases h; exact .inl rfl
  split at h
  · cases h; exact .inl rfl
  · rename_i hs
    obtain ⟨expires, -, rfl⟩ := Option.map_eq_some_iff.mp h
    right
    refine ⟨phase_needsAttention ?_, phase_acknowledged (by simp)⟩
    exact (Value.isStr_iff _ _).mp (by simpa using hs)

def isClaim : Call → Bool
  | .claim .. => true
  | _ => false

/-- A claim that returned `True`. -/
def isClaimed (e : Event Record Call Bool) : Bool := isClaim e.call && e.resp

/-- **Refinement.** An operation leaves the record as it is, without a claim,
or takes one edge of the graph; it is a claim exactly on the edge from
pending to in progress. -/
theorem step_edge (P : Python) (r : Record) (c : Call) :
    ((step P).event r c).post = r ∧ isClaimed ((step P).event r c) = false ∨
    Edge (phase r) (phase ((step P).event r c).post) ∧
      (isClaimed ((step P).event r c) = true ↔
        phase r = .pending ∧ phase ((step P).event r c).post = .inProgress) := by
  cases c with
  | enqueue sid cid lang now =>
    simp only [Machine.event, step, enqueueHandoff, isClaimed, isClaim]
    split
    · exact .inl ⟨rfl, rfl⟩
    · cases r with
      | some data => exact .inl ⟨rfl, rfl⟩
      | none =>
        right
        rw [phase_pending (by simp)]
        exact ⟨.enqueue, by simp⟩
  | claim now lease =>
    simp only [Machine.event, step, isClaimed, isClaim]
    cases r with
    | none => exact .inl ⟨rfl, rfl⟩
    | some data =>
      simp only [claimHandoff, applyUpdates]
      rcases claimTransition_spec data now lease with h | ⟨hp, hr, hn⟩ | ⟨hp, hr, hn⟩
      · exact .inl (by rw [h]; exact ⟨rfl, rfl⟩)
      · right; rw [hp, hr, hn]; exact ⟨.uncertain, by simp⟩
      · right; rw [hp, hr, hn]; exact ⟨.claim, by simp⟩
  | finish result now =>
    simp only [Machine.event, step, isClaimed, isClaim, finishHandoff]
    split
    · rename_i updates data hu
      rcases finishTransition_spec data updates with h | ⟨hp, h⟩
      · exact .inl (by simp [applyUpdates, h])
      · right
        simp only [applyUpdates, h, hp]
        rcases finishUpdates_status hu data with hn | hn <;> rw [hn]
        · exact ⟨.complete, by simp⟩
        · exact ⟨.uncertain, by simp⟩
    · exact .inl ⟨rfl, rfl⟩
  | markNeedsAttention code now =>
    simp only [Machine.event, step, isClaimed, isClaim]
    cases r with
    | none => exact .inl ⟨rfl, rfl⟩
    | some data =>
      simp only [markNeedsAttention, applyUpdates]
      rcases attentionTransition_spec data (attentionUpdates code now) with h | ⟨hp, h⟩
      · exact .inl (by rw [h]; exact ⟨rfl, rfl⟩)
      · right
        rw [h, attentionUpdates_phase]
        rcases hp with hp | hp <;> rw [hp]
        · exact ⟨.quarantine, by simp⟩
        · exact ⟨.uncertain, by simp⟩
  | quarantine code callDoc now =>
    simp only [Machine.event, step, isClaimed, isClaim, quarantinePendingHandoff]
    split
    · exact .inl ⟨rfl, rfl⟩
    cases r with
    | none => exact .inl ⟨rfl, rfl⟩
    | some data =>
      simp only
      split
      · exact .inl ⟨rfl, rfl⟩
      rename_i hs
      split
      · exact .inl ⟨rfl, rfl⟩
      · right
        have hp := phase_pending ((Value.isStr_iff _ _).mp (by simpa using hs))
        rw [applyUpdates, attentionUpdates_phase, hp]
        exact ⟨.quarantine, by simp⟩
  | acknowledge resolution now =>
    simp only [Machine.event, step, isClaimed, isClaim, acknowledgeHandoff]
    cases r with
    | none => exact .inl ⟨rfl, rfl⟩
    | some data =>
      simp only
      split
      · rename_i t ht
        rcases acknowledgeTransition_spec ht with h | ⟨hp, hn⟩
        · exact .inl (by simp [applyUpdates, h])
        · right
          simp only [applyUpdates, hp, hn]
          exact ⟨.acknowledge, by simp⟩
      · exact .inl ⟨rfl, rfl⟩

/-! ## Runs -/

section Runs
variable (P : Python)

theorem rank_le_step (r : Record) (c : Call) :
    rank (phase r) ≤ rank (phase ((step P r c).1)) := by
  rcases step_edge P r c with ⟨h, -⟩ | ⟨h, -⟩
  · rw [Machine.event_post] at h; rw [h]
  · exact h.rank_lt.le

theorem settled_run (r : Record) (h : phase r = .completed ∨ phase r = .acknowledged)
    (cs : List Call) : (step P).run r cs = r := by
  induction cs generalizing r with
  | nil => rfl
  | cons c cs ih =>
    have hstay : (step P r c).1 = r := by
      rcases step_edge P r c with ⟨he, -⟩ | ⟨he, -⟩
      · exact he
      · exact absurd h (not_or.mpr he.not_settled)
    rw [Machine.run_cons, hstay]
    exact ih r h

theorem attention_step (r : Record) (c : Call)
    (h : phase r = .needsAttention ∨ phase r = .acknowledged) :
    phase (step P r c).1 = .needsAttention ∨ phase (step P r c).1 = .acknowledged := by
  rcases step_edge P r c with ⟨he, -⟩ | ⟨he, -⟩
  · rw [Machine.event_post] at he; rwa [he]
  · rw [Machine.event_post] at he
    rcases h with h | h <;> rw [h] at he
    · exact .inr he.from_needsAttention
    · exact absurd rfl he.not_settled.2

theorem attention_run (r : Record) (h : phase r = .needsAttention ∨ phase r = .acknowledged)
    (cs : List Call) : phase ((step P).run r cs) = .needsAttention ∨
      phase ((step P).run r cs) = .acknowledged :=
  (step P).reachable_inv (I := fun r => phase r = .needsAttention ∨ phase r = .acknowledged) h
    (attention_step P) ⟨cs, rfl⟩

theorem claimed_le_one (r : Record) (cs : List Call) :
    ((step P).log r cs).countP isClaimed ≤ 1 := by
  have hstart : List.countP isClaimed [] = 0 ∨
      List.countP isClaimed [] = 1 ∧ 2 ≤ rank (phase r) := .inl rfl
  have := (step P).log_inv (G := fun _ => True)
    (I := fun l r => l.countP isClaimed = 0 ∨ l.countP isClaimed = 1 ∧ 2 ≤ rank (phase r))
    hstart ?_ cs (fun _ _ => trivial)
  · omega
  · intro l r c hi _
    have hmono := rank_le_step P r c
    rw [List.countP_append, List.countP_singleton]
    split
    · rename_i hc
      rcases step_edge P r c with ⟨-, h⟩ | ⟨-, h⟩
      · rw [hc] at h; cases h
      · obtain ⟨h1, h2⟩ := h.mp hc
        rw [Machine.event_post] at h2
        rw [h1] at hi
        right
        exact ⟨by rcases hi with hi | ⟨-, hi⟩ <;> simp_all [rank], by rw [h2]; decide⟩
    · rcases hi with hi | ⟨hi, hr⟩
      · exact .inl (by omega)
      · exact .inr ⟨by omega, hr.trans hmono⟩

end Runs

/-- **At most one claim.** In every run of the six operations on one record,
from any record: at most one `claim_handoff` returns `True`; a terminal status
never goes back to pending or in progress; a completed or acknowledged record
is never written again; acknowledged is entered only from needs-attention; and
once a claim declared an expired lease uncertain, no later operation, a late
finish included, completes the record. -/
theorem handoff_claimed_at_most_once (P : Python) (r : Record) (cs : List Call) :
    ((step P).log r cs).countP isClaimed ≤ 1 ∧
    (∀ cs₁ cs₂, cs = cs₁ ++ cs₂ →
      (phase ((step P).run r cs₁) ∈ [Phase.completed, .needsAttention, .acknowledged] →
        phase ((step P).run r cs) ∉ [Phase.pending, .inProgress]) ∧
      (phase ((step P).run r cs₁) ∈ [Phase.completed, .acknowledged] →
        (step P).run r cs = (step P).run r cs₁)) ∧
    (∀ e ∈ (step P).log r cs, phase e.post = .acknowledged →
      phase e.pre = .acknowledged ∨ phase e.pre = .needsAttention) ∧
    (∀ l₁ e l₂, (step P).log r cs = l₁ ++ e :: l₂ → isClaim e.call = true →
      phase e.pre = .inProgress → phase e.post = .needsAttention →
      ∀ f ∈ l₂, phase f.post ≠ .completed) := by
  refine ⟨claimed_le_one P r cs, ?_, ?_, ?_⟩
  · rintro cs₁ cs₂ rfl
    rw [Machine.run_append]
    refine ⟨fun h => ?_, fun h => settled_run P _ (by simpa using h) cs₂⟩
    simp only [List.mem_cons, List.not_mem_nil, or_false] at h
    rcases h with h | h
    · rw [settled_run P _ (.inl h) cs₂, h]; decide
    · rcases attention_run P _ h cs₂ with h | h <;> rw [h] <;> decide
  · intro e he hack
    obtain ⟨cs₁, c, cs₂, -, rfl⟩ := (step P).mem_log he
    rcases step_edge P ((step P).run r cs₁) c with ⟨h, -⟩ | ⟨h, -⟩
    · left; rw [h] at hack; exact hack
    · right
      rw [hack] at h
      exact h.to_acknowledged
  · intro l₁ e l₂ h _ _ hpost f hf
    obtain ⟨cs₁, c, cs₂, -, -, rfl, rfl⟩ := (step P).log_eq_append_cons h
    have hI := (step P).log_pre (I := fun r => phase r = .needsAttention ∨ phase r = .acknowledged)
      (.inl hpost) (attention_step P) hf
    rcases hI.2 with h | h <;> rw [h] <;> decide

end HeyKevin.L4.PostCallHandoff
