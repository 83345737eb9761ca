import HeyKevin.L1Encoding.Numeric
import HeyKevin.L1Encoding.Sha256
/-!
# The call gate and the sweeps

Whether an inbound call gets paid features (`evaluate_subscription_access`),
which trials are marked expired (`should_expire_trial`) and which numbers of
lapsed accounts go back (`is_safe_to_release_lapsed_number`) are decided
apart, from the same fields of the contractor record: the status, the stored
expiry and the start of the trial, each possibly missing or of another type
(app/services/subscription.py).

* `lapsed_denied`: an account whose number may go is denied, now and later.
* `sweep_iff`: a trial that is swept is denied as well, but where its only
  date is its start.

Line numbers are those of app/services/subscription.py.
-/
namespace HeyKevin.L6.AccessGate

open HeyKevin.Core Binary64 L1 L1.Text

/-- `isinstance(v, (int, float)) and v` -/
def usable (v : Value) : Option Numeric := v.numeric?.filter Numeric.truthy

/-- mirrors 40 (`TRIAL_PERIOD_DAYS`, in seconds) -/
def trialPeriod : ℤ := 14 * 86400

/-- mirrors 43-64 -/
def trialExpiresAt (contractor : Dict) : PyFloat :=
  let stored := ((usable (contractor.get "subscription_expires")).map Numeric.toFloat).getD .zero
  match usable (contractor.get "trial_start") with
  | some started => stored.max (started.toFloat.addInt trialPeriod)
  | none => stored

variable (P : Python)

/-- `str(contractor.get(key) or "").strip()` -/
def textOf (contractor : Dict) (key : String) : Str := strip (P.strOrEmpty (contractor.get key))

def statusOf (contractor : Dict) : Str := P.lower (textOf P contractor "subscription_status")

/-- mirrors 29-36 (`_APPLE_MANAGED_STATUSES`,
`_LOCALLY_MANAGED_STATUSES`, `_TERMINAL_STATUSES`) -/
def isTerminal (status : Str) : Bool := status == py "expired" || status == py "cancelled"

/-- mirrors 67-121 -/
def evaluateSubscriptionAccess (contractor : Option Dict) (now : PyFloat) : Bool × String :=
  match contractor.filter fun d => !d.isEmpty with
  | none => (true, "no_contractor")
  | some d =>
    let status := statusOf P d
    match usable (d.get "subscription_expires") with
    | none => if isTerminal status then (false, "expired") else (true, "missing_expiry")
    | some expires =>
      if status = py "trial" then
        if now.numeric.lt (trialExpiresAt d).numeric then (true, "trial_active")
        else (false, "trial_expired")
      else if status = py "active" then
        if now.numeric.lt expires then (true, "subscription_active")
        else (true, "active_stale_expiry_needs_reconciliation")
      else if isTerminal status then
        if now.numeric.lt expires then (true, "expired_grace_period") else (false, "expired")
      else (true, "unrecognized_status")

/-- mirrors 274-290 -/
def shouldExpireTrial (contractor : Option Dict) (now : PyFloat) : Bool :=
  match contractor.filter fun d => !d.isEmpty with
  | none => false
  | some d =>
    if statusOf P d ≠ py "trial" then false
    else if (trialExpiresAt d).numeric.truthy = false then false
    else (trialExpiresAt d).numeric.le now.numeric

/-! ## Number release -/

/-- mirrors 128-136 -/
def readableTimestamp : Value → Option PyFloat
  | .bool _ => none
  | v =>
    match v.numeric? with
    | some n => if n.le (.finite (.int 0)) then none else some n.toFloat
    | none => none

/-- `now - stamp < window` -/
def within (now stamp : PyFloat) (window : ℤ) : Bool :=
  (now.sub stamp).numeric.lt (.finite (.int window))

/-- A stamp that is present is unreadable, or inside the window.
mirrors 139-155 (`_inbound_stamp_blocks`, and the same check of the
other stamps) -/
def stampBlocks (stamp : Value) (now : PyFloat) (window : ℤ) : Bool :=
  match stamp with
  | .none => false
  | stamp =>
    match readableTimestamp stamp with
    | some t => within now t window
    | none => true

/-- mirrors 125 (`NUMBER_RELEASE_QUIET_DAYS`, in seconds) -/
def numberReleaseQuiet : ℤ := 14 * 86400

/-- mirrors 158-204 -/
def isSafeToReleaseNumber (contractor : Option Dict) (now : PyFloat) : Bool :=
  match contractor.filter fun d => !d.isEmpty with
  | none => false
  | some d =>
    match readableTimestamp (d.get "deleted_app_detected_at") with
    | none => false
    | some deletedAt =>
      if within now deletedAt numberReleaseQuiet then false
      else if stampBlocks (d.get "forwarding_last_seen_at") now numberReleaseQuiet then false
      else if stampBlocks (d.get "last_inbound_call_at") now numberReleaseQuiet then false
      else true

/-- mirrors 209 (`LAPSED_NUMBER_RELEASE_DAYS`, in seconds) -/
def lapsedNumberRelease : ℤ := 30 * 86400

/-- mirrors 212-271 -/
def isSafeToReleaseLapsedNumber (contractor : Option Dict) (now : PyFloat) (lastCallAt : Value) :
    Bool :=
  match contractor.filter fun d => !d.isEmpty with
  | none => false
  | some d =>
    if statusOf P d ≠ py "expired" then false
    else if textOf P d "twilio_number" = [] then false
    else if (trialExpiresAt d).numeric.truthy = false then false
    else if within now (trialExpiresAt d) lapsedNumberRelease then false
    else if stampBlocks (d.get "forwarding_last_seen_at") now lapsedNumberRelease then false
    else if stampBlocks (d.get "last_inbound_call_at") now lapsedNumberRelease then false
    else if stampBlocks lastCallAt now lapsedNumberRelease then false
    else true

/-! ## Accounts whose number may go -/

theorem lt_eq_false_of_not_within {now t : PyFloat} {e : Numeric} {window : ℤ} (hw : 0 < window)
    (ht : t = e.toFloat ∨ e.toFloat.numeric.lt t.numeric = true)
    (h : within now t window = false) : now.numeric.lt e = false := by
  have hfinite : ∀ m d : Double, within (.finite m) (.finite d) window = false → d.val < m.val := by
    intro m d h
    have hage : ¬ rnd (m.val - d.val) < window := of_decide_eq_false h
    by_contra hle
    have hneg := rnd_nonpos (q := m.val - d.val) (by linarith)
    have hpos : (0 : ℚ) < (window : ℚ) := by exact_mod_cast hw
    exact hage (hneg.trans_lt hpos)
  have hround : ∀ (m : Double) (n : Number), n.toFloat.val < m.val → n.val < m.val := by
    intro m n hlt
    by_contra hle
    exact absurd (m.le_rnd_of_le (not_lt.mp hle)) (not_le.mpr hlt)
  rcases now with m | (_ | _ | _) <;> rcases e with n | (_ | _ | _) <;>
    rcases t with d | (_ | _ | _) <;> try first | rfl | exact Bool.noConfusion h |
      (rcases ht with ht | ht <;> cases ht)
  have hd := hfinite m d h
  have hn : n.toFloat.val ≤ d.val := by
    rcases ht with ht | ht
    · cases ht
      exact le_rfl
    · have hlt : n.toFloat.val < d.val := of_decide_eq_true ht
      exact hlt.le
  exact decide_eq_false (not_lt.mpr (hround m n (hn.trans_lt hd)).le)

theorem max_eq (a b : PyFloat) : a.max b = a ∨ a.numeric.lt (a.max b).numeric = true := by
  unfold PyFloat.max
  split
  · rename_i h
    exact .inr h
  · exact .inl rfl

theorem trialExpiresAt_of_usable {d : Dict} {e : Numeric}
    (h : usable (d.get "subscription_expires") = some e) :
    trialExpiresAt d = e.toFloat ∨ e.toFloat.numeric.lt (trialExpiresAt d).numeric = true := by
  unfold trialExpiresAt
  rw [h]
  dsimp only [Option.map_some, Option.getD_some]
  split
  · exact max_eq _ _
  · exact .inl rfl

theorem lapsed_inv {contractor : Option Dict} {now : PyFloat} {lastCallAt : Value}
    (h : isSafeToReleaseLapsedNumber P contractor now lastCallAt = true) :
    ∃ d, (contractor.filter fun d => !d.isEmpty) = some d ∧ statusOf P d = py "expired" ∧
      within now (trialExpiresAt d) lapsedNumberRelease = false := by
  unfold isSafeToReleaseLapsedNumber at h
  split at h
  · cases h
  · rename_i d hd
    split at h
    · cases h
    · rename_i hstatus
      split at h
      · cases h
      · split at h
        · cases h
        · split at h
          · cases h
          · rename_i hwithin
            exact ⟨d, hd, not_not.mp hstatus, by simpa using hwithin⟩

theorem lapsed_denied {contractor : Option Dict} {now later : PyFloat} {lastCallAt : Value}
    (h : isSafeToReleaseLapsedNumber P contractor now lastCallAt = true)
    (hlater : later = now ∨ now.numeric.le later.numeric = true) :
    (evaluateSubscriptionAccess P contractor later).1 = false := by
  obtain ⟨d, hd, hstatus, hwithin⟩ := lapsed_inv P h
  unfold evaluateSubscriptionAccess
  rw [hd]
  dsimp only
  rw [hstatus]
  split
  · rfl
  · rename_i e he
    have hover : now.numeric.lt e = false :=
      lt_eq_false_of_not_within (by decide) (trialExpiresAt_of_usable he) hwithin
    have hover' : later.numeric.lt e = false := by
      rcases hlater with rfl | hle
      · exact hover
      · exact Numeric.lt_eq_false_mono hle hover
    rw [if_neg (by decide), if_neg (by decide), if_pos (by decide), hover']
    rfl

/-! ## Trials that are swept -/

/-- A trial whose expiry was never stored, and whose start puts its end before `now`. -/
def OnlyStart (contractor : Option Dict) (now : PyFloat) : Prop :=
  ∃ d started, contractor = some d ∧ statusOf P d = py "trial" ∧
    usable (d.get "subscription_expires") = none ∧ usable (d.get "trial_start") = some started ∧
    PyFloat.zero.numeric.lt (started.toFloat.addInt trialPeriod).numeric = true ∧
    (started.toFloat.addInt trialPeriod).numeric.le now.numeric = true

theorem truthy_of_pos {x : PyFloat} (h : PyFloat.zero.numeric.lt x.numeric = true) :
    x.numeric.truthy = true := by
  cases x with
  | finite d =>
    have hpos : (PyFloat.zero.numeric.lt (.finite (.float d)) = true) := h
    simp only [PyFloat.zero, PyFloat.numeric, Numeric.lt, Number.val, Double.ofRat_val, rnd_zero,
      decide_eq_true_eq] at hpos
    simp only [PyFloat.numeric, Numeric.truthy, Number.val, bne_iff_ne]
    exact hpos.ne'
  | nonFinite f => rfl

@[simp] theorem zero_not_truthy : PyFloat.zero.numeric.truthy = false := by
  simp [PyFloat.zero, PyFloat.numeric, Numeric.truthy, Number.val]

theorem trialExpiresAt_of_start {d : Dict} (h : usable (d.get "subscription_expires") = none)
    (htruthy : (trialExpiresAt d).numeric.truthy = true) :
    ∃ started, usable (d.get "trial_start") = some started ∧
      trialExpiresAt d = started.toFloat.addInt trialPeriod ∧
      PyFloat.zero.numeric.lt (started.toFloat.addInt trialPeriod).numeric = true := by
  unfold trialExpiresAt at htruthy ⊢
  rw [h] at htruthy ⊢
  dsimp only [Option.map_none, Option.getD_none] at htruthy ⊢
  split at htruthy
  · rename_i started hstarted
    refine ⟨started, hstarted, ?_⟩
    unfold PyFloat.max at htruthy ⊢
    split at htruthy
    · rename_i hpos
      exact ⟨if_pos hpos, hpos⟩
    · rw [zero_not_truthy] at htruthy
      cases htruthy
  · rw [zero_not_truthy] at htruthy
    cases htruthy

theorem OnlyStart.swept {contractor : Option Dict} {now : PyFloat}
    (h : OnlyStart P contractor now) :
    shouldExpireTrial P contractor now = true ∧
      (evaluateSubscriptionAccess P contractor now).1 = true := by
  obtain ⟨d, started, rfl, hstatus, hexpires, hstart, hpos, hle⟩ := h
  have hfilter : (some d).filter (fun d : Dict => !d.isEmpty) = some d := by
    cases d with
    | nil => cases hstart
    | cons => rfl
  have hends : trialExpiresAt d = started.toFloat.addInt trialPeriod := by
    unfold trialExpiresAt
    rw [hexpires, hstart]
    exact if_pos hpos
  constructor
  · unfold shouldExpireTrial
    rw [hfilter]
    dsimp only
    rw [hends, if_neg (by simpa using hstatus), if_neg (by simp [truthy_of_pos hpos]), hle]
  · unfold evaluateSubscriptionAccess
    rw [hfilter]
    dsimp only
    rw [hexpires, hstatus]
    rfl

theorem swept_denied {contractor : Option Dict} {now : PyFloat}
    (honly : ¬ OnlyStart P contractor now)
    (hswept : shouldExpireTrial P contractor now = true) :
    (evaluateSubscriptionAccess P contractor now).1 = false := by
  unfold shouldExpireTrial at hswept
  unfold evaluateSubscriptionAccess
  split at hswept
  · cases hswept
  · rename_i d hd
    dsimp only
    split at hswept
    · cases hswept
    · rename_i hstatus
      have hstatus : statusOf P d = py "trial" := not_not.mp hstatus
      split at hswept
      · cases hswept
      · rename_i htruthy
        split
        · rename_i hexpires
          obtain ⟨started, hstart, hends, hpos⟩ :=
            trialExpiresAt_of_start hexpires (by simpa using htruthy)
          exact absurd ⟨d, started, (Option.filter_eq_some_iff.mp hd).1, hstatus, hexpires,
            hstart, hpos, hends ▸ hswept⟩ honly
        · rw [if_pos hstatus, Numeric.lt_of_le hswept]
          rfl

/-- Neither sweep is harsher than the gate, but for trials that have only a start. -/
theorem sweep_iff (contractor : Option Dict) (now : PyFloat) (lastCallAt : Value) :
    ((shouldExpireTrial P contractor now = true →
        (evaluateSubscriptionAccess P contractor now).1 = false) ∧
      (isSafeToReleaseLapsedNumber P contractor now lastCallAt = true →
        (evaluateSubscriptionAccess P contractor now).1 = false ∧
          ∀ later, now.numeric.le later.numeric = true →
            (evaluateSubscriptionAccess P contractor later).1 = false)) ↔
      ¬ OnlyStart P contractor now := by
  have hlapsed : isSafeToReleaseLapsedNumber P contractor now lastCallAt = true →
      (evaluateSubscriptionAccess P contractor now).1 = false ∧
        ∀ later, now.numeric.le later.numeric = true →
          (evaluateSubscriptionAccess P contractor later).1 = false := fun h =>
    ⟨lapsed_denied P h (.inl rfl), fun later hle => lapsed_denied P h (.inr hle)⟩
  rw [and_iff_left hlapsed]
  constructor
  · intro hdenied honly
    obtain ⟨hswept, hallowed⟩ := honly.swept
    rw [hdenied hswept] at hallowed
    cases hallowed
  · exact swept_denied P

def exampleTrial : Dict :=
  [("subscription_status", .text "trial"), ("trial_start", .int 1000000)]

/-- It is swept at three million seconds, and would still be let in. -/
theorem exampleTrial_swept :
    ¬ (shouldExpireTrial asciiPython (some exampleTrial) (.finite (.ofRat 3000000)) = true →
      (evaluateSubscriptionAccess asciiPython (some exampleTrial)
        (.finite (.ofRat 3000000))).1 = false) := by
  have hstart : rnd 1000000 = 1000000 := rnd_natCast (n := 1000000) (by decide)
  have hend : rnd 2209600 = 2209600 := rnd_natCast (n := 2209600) (by decide)
  have hnow : rnd 3000000 = 3000000 := rnd_natCast (n := 3000000) (by decide)
  have honly : OnlyStart asciiPython (some exampleTrial) (.finite (.ofRat 3000000)) := by
    refine ⟨exampleTrial, .finite (.int 1000000), rfl, by decide, rfl, ?_, ?_, ?_⟩
    · simp [usable, exampleTrial, Value.numeric?, Value.int, Numeric.truthy, Number.val]
    · simp [PyFloat.zero, PyFloat.numeric, PyFloat.addInt, Numeric.toFloat, Numeric.lt,
        Number.toFloat, Number.val, trialPeriod, hstart]
      norm_num [hend]
    · simp [PyFloat.numeric, PyFloat.addInt, Numeric.toFloat, Numeric.le,
        Number.toFloat, Number.val, trialPeriod, hstart, hnow]
      norm_num [hend]
  intro hdenied
  obtain ⟨hswept, hallowed⟩ := honly.swept
  rw [hdenied hswept] at hallowed
  cases hallowed

end HeyKevin.L6.AccessGate
