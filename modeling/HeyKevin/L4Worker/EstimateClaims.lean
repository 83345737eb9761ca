import HeyKevin.L1Encoding.Numeric
import HeyKevin.L1Encoding.Python
import HeyKevin.Core.Machine
/-!
# Settling an estimate

Five transactions on one estimate record (app/services/estimate_worker.py).
An embedded worker takes the right to notify by setting `notified_at` before
it sends; a strict worker leaves a pending state, and confirms or holds it
after it has sent.

* `step_cases`: what one transaction can do to the record.
* `settled_once`: the record is settled once and the right to notify is
  granted once.

Line numbers are those of app/services/estimate_worker.py.
-/
namespace HeyKevin.L4.EstimateClaims

open HeyKevin.Core Binary64 L1 L1.Text

def maxAnalysisAttempts : Numeric := .finite (.int 3)

/-- mirrors 31-33 -/
def notificationAvailable (data : Dict) : Bool :=
  !(data.get "notified_at").truthy && (data.get "notification_state") matches .none

/-- mirrors 36-46 -/
def claimNotificationUpdates (data : Dict) (now : PyFloat) (strictExternal : Bool) :
    Bool × Dict :=
  if !notificationAvailable data then (false, [])
  else if strictExternal then
    (true, [("notification_state", .text "pending_external"),
      ("notification_claimed_at", now.numeric.value)])
  else (true, [("notified_at", now.numeric.value)])

inductive Action
  | reclaimed
  | failedNotify
  | failedNoNotify
  | noop
deriving DecidableEq

inductive Resp
  | action (action : Action) (data : Dict)
  | claimed (accepted shouldNotify : Bool) (data : Dict)
  | flag (done : Bool)
  | raised

inductive Call
  | claimReanalysisOrFail (now leaseSeconds : PyFloat) (strictExternal : Bool)
  | claimNotificationAndComplete (mediaId result : Value) (now : PyFloat) (strictExternal : Bool)
  | claimNotificationAndFail (mediaId : Value) (now : PyFloat) (strictExternal : Bool)
  | confirmExternalNotification (now : PyFloat)
  | holdExternalNotification (now : PyFloat)

def processing (data : Dict) : Bool := (data.get "status").isStr (py "processing")

def pendingExternal (data : Dict) : Bool :=
  (data.get "notification_state").isStr (py "pending_external")

/-- `data.get("lease_expires_at", 0)`, where it compares with a number. -/
def leaseExpiresAt (data : Dict) : Option Numeric :=
  if data.has "lease_expires_at" then (data.get "lease_expires_at").numeric?
  else some (.finite (.int 0))

/-- `data.get("attempts") or 0`, where it compares with a number. -/
def attemptsOf (data : Dict) : Option Numeric :=
  if (data.get "attempts").truthy then (data.get "attempts").numeric?
  else some (.finite (.int 0))

def settle (data updates : Dict) (now : PyFloat) (strictExternal : Bool) : Bool × Dict :=
  let (shouldNotify, notificationUpdates) := claimNotificationUpdates data now strictExternal
  (shouldNotify, data.update (updates ++ notificationUpdates))

/-- mirrors 49-100 -/
def claimReanalysisOrFail (now leaseSeconds : PyFloat) (strictExternal : Bool) :
    Option Dict → Option Dict × Resp
  | none => (none, .action .noop [])
  | some data =>
    if !processing data then (some data, .action .noop data)
    else match leaseExpiresAt data with
      | none => (some data, .raised)
      | some lease =>
        if now.numeric.le lease then (some data, .action .noop data)
        else match attemptsOf data with
          | none => (some data, .raised)
          | some attempts =>
            if maxAnalysisAttempts.le attempts then
              let (shouldNotify, data) := settle data
                [("status", .text "failed"), ("completed_at", now.numeric.value)]
                now strictExternal
              (some data, .action (bif shouldNotify then .failedNotify else .failedNoNotify) data)
            else
              let data := data.update [("attempts", attempts.addOne.value),
                ("lease_expires_at", (now.add leaseSeconds).numeric.value)]
              (some data, .action .reclaimed data)

/-- What the two claims of a finished analysis share. -/
def claimSettled (mediaId : Value) (updates : Dict) (now : PyFloat) (strictExternal : Bool) :
    Option Dict → Option Dict × Resp
  | none => (none, .claimed false false [])
  | some data =>
    if !processing data || !(data.get "media_id").eq mediaId then
      (some data, .claimed false false data)
    else
      let (shouldNotify, data) := settle data updates now strictExternal
      (some data, .claimed true shouldNotify data)

/-- mirrors 103-142 -/
def claimNotificationAndComplete (mediaId result : Value) (now : PyFloat)
    (strictExternal : Bool) : Option Dict → Option Dict × Resp :=
  claimSettled mediaId [("status", .text "complete"), ("result", result),
    ("completed_at", now.numeric.value)] now strictExternal

/-- mirrors 145-180 -/
def claimNotificationAndFail (mediaId : Value) (now : PyFloat) (strictExternal : Bool) :
    Option Dict → Option Dict × Resp :=
  claimSettled mediaId [("status", .text "failed"), ("completed_at", now.numeric.value)]
    now strictExternal

/-- mirrors 183-205 -/
def confirmExternalNotification (now : PyFloat) : Option Dict → Option Dict × Resp
  | none => (none, .flag false)
  | some data =>
    let settled := (data.get "status").isStr (py "complete") ||
      (data.get "status").isStr (py "failed")
    if !settled || !pendingExternal data || (data.get "notified_at").truthy then
      (some data, .flag false)
    else
      (some (data.update [("notification_state", .text "sent"),
        ("notified_at", now.numeric.value)]), .flag true)

/-- mirrors 208-226 -/
def holdExternalNotification (now : PyFloat) : Option Dict → Option Dict × Resp
  | none => (none, .flag false)
  | some data =>
    if !pendingExternal data then (some data, .flag false)
    else
      (some (data.update [("notification_state", .text "needs_attention"),
        ("notification_uncertain_at", now.numeric.value)]), .flag true)

/-- One transaction; every clock reading is the caller's, and a transaction that raises
writes nothing. -/
def step : Machine (Option Dict) Call Resp
  | s, .claimReanalysisOrFail now lease strict => claimReanalysisOrFail now lease strict s
  | s, .claimNotificationAndComplete mediaId result now strict =>
    claimNotificationAndComplete mediaId result now strict s
  | s, .claimNotificationAndFail mediaId now strict => claimNotificationAndFail mediaId now strict s
  | s, .confirmExternalNotification now => confirmExternalNotification now s
  | s, .holdExternalNotification now => holdExternalNotification now s

def Call.strict : Call → Bool
  | .claimReanalysisOrFail _ _ strict | .claimNotificationAndComplete _ _ _ strict
  | .claimNotificationAndFail _ _ strict => strict
  | .confirmExternalNotification _ | .holdExternalNotification _ => true

def Resp.mayNotify : Resp → Bool
  | .action .failedNotify _ => true
  | .claimed _ shouldNotify _ => shouldNotify
  | _ => false

/-! ## What one transaction can do -/

inductive Settlement : PyFloat → Dict → Prop
  | failed (now : PyFloat) :
      Settlement now [("status", .text "failed"), ("completed_at", now.numeric.value)]
  | complete (now : PyFloat) (result : Value) :
      Settlement now [("status", .text "complete"), ("result", result),
        ("completed_at", now.numeric.value)]

inductive Write : Call → Dict → Bool → Dict → Prop
  | reclaim {now lease strict data attempts} (hprocessing : processing data = true)
      (hattempts : attemptsOf data = some attempts)
      (hbelow : maxAnalysisAttempts.le attempts = false) :
      Write (.claimReanalysisOrFail now lease strict) data false
        [("attempts", attempts.addOne.value),
          ("lease_expires_at", (now.add lease).numeric.value)]
  | settle {c data now updates} (hprocessing : processing data = true)
      (hupdates : Settlement now updates) :
      Write c data (claimNotificationUpdates data now c.strict).1
        (updates ++ (claimNotificationUpdates data now c.strict).2)
  | confirm {now data} (hprocessing : processing data = false)
      (hpending : pendingExternal data = true) :
      Write (.confirmExternalNotification now) data false
        [("notification_state", .text "sent"), ("notified_at", now.numeric.value)]
  | hold {now data} (hpending : pendingExternal data = true) :
      Write (.holdExternalNotification now) data false
        [("notification_state", .text "needs_attention"),
          ("notification_uncertain_at", now.numeric.value)]

theorem claimSettled_cases {mediaId : Value} {updates : Dict} {now : PyFloat} {c : Call}
    (hupdates : Settlement now updates) (s : Option Dict) :
    ((claimSettled mediaId updates now c.strict s).1 = s ∧
      (claimSettled mediaId updates now c.strict s).2.mayNotify = false) ∨
    ∃ data u, s = some data ∧
      Write c data (claimSettled mediaId updates now c.strict s).2.mayNotify u ∧
      (claimSettled mediaId updates now c.strict s).1 = some (data.update u) := by
  cases s with
  | none => exact .inl ⟨rfl, rfl⟩
  | some data =>
    unfold claimSettled
    by_cases hskip : (!processing data || !(data.get "media_id").eq mediaId) = true
    · exact .inl ⟨by simp only [hskip, if_true], by simp only [hskip, if_true, Resp.mayNotify]⟩
    · simp only [hskip, if_false, Bool.false_eq_true, settle]
      have hprocessing : processing data = true := by
        simp only [Bool.or_eq_true, Bool.not_eq_true', not_or, Bool.not_eq_false] at hskip
        exact hskip.1
      exact .inr ⟨data, _, rfl, .settle hprocessing hupdates, rfl⟩

theorem claimReanalysis_cases (now lease : PyFloat) (strict : Bool) (s : Option Dict) :
    ((claimReanalysisOrFail now lease strict s).1 = s ∧
      (claimReanalysisOrFail now lease strict s).2.mayNotify = false) ∨
    ∃ data u, s = some data ∧
      Write (.claimReanalysisOrFail now lease strict) data
        (claimReanalysisOrFail now lease strict s).2.mayNotify u ∧
      (claimReanalysisOrFail now lease strict s).1 = some (data.update u) := by
  cases s with
  | none => exact .inl ⟨rfl, rfl⟩
  | some data =>
    unfold claimReanalysisOrFail
    by_cases hprocessing : processing data = true
    · simp only [hprocessing, Bool.not_true, Bool.false_eq_true, if_false]
      cases hlease : leaseExpiresAt data with
      | none => exact .inl ⟨rfl, rfl⟩
      | some expires =>
        by_cases hleased : now.numeric.le expires = true
        · exact .inl ⟨by simp only [hleased, if_true], by
            simp only [hleased, if_true, Resp.mayNotify]⟩
        · simp only [hleased, Bool.false_eq_true, if_false]
          cases hattempts : attemptsOf data with
          | none => exact .inl ⟨rfl, rfl⟩
          | some attempts =>
            by_cases hmax : maxAnalysisAttempts.le attempts = true
            · simp only [hmax, if_true, settle]
              refine .inr ⟨data, _, rfl, ?_, rfl⟩
              have hwrite := Write.settle (c := .claimReanalysisOrFail now lease strict)
                hprocessing (.failed now)
              have hgrant : ∀ b d, (Resp.action (bif b then .failedNotify else .failedNoNotify)
                  d).mayNotify = b := by
                rintro (_ | _) _ <;> rfl
              rw [hgrant]
              exact hwrite
            · simp only [hmax, Bool.false_eq_true, if_false]
              rw [Bool.not_eq_true] at hmax
              exact .inr ⟨data, _, rfl, .reclaim hprocessing hattempts hmax, rfl⟩
    · rw [Bool.not_eq_true] at hprocessing
      exact .inl ⟨by simp only [hprocessing, Bool.not_false, if_true], by
        simp only [hprocessing, Bool.not_false, if_true, Resp.mayNotify]⟩

theorem step_cases (s : Option Dict) (c : Call) :
    ((step s c).1 = s ∧ (step s c).2.mayNotify = false) ∨
    ∃ data u, s = some data ∧ Write c data (step s c).2.mayNotify u ∧
      (step s c).1 = some (data.update u) := by
  cases c with
  | claimReanalysisOrFail now lease strict => exact claimReanalysis_cases now lease strict s
  | claimNotificationAndComplete mediaId result now strict =>
    exact claimSettled_cases (c := .claimNotificationAndComplete mediaId result now strict)
      (.complete now result) s
  | claimNotificationAndFail mediaId now strict =>
    exact claimSettled_cases (c := .claimNotificationAndFail mediaId now strict) (.failed now) s
  | confirmExternalNotification now =>
    cases s with
    | none => exact .inl ⟨rfl, rfl⟩
    | some data =>
      simp only [step, confirmExternalNotification]
      split
      · exact .inl ⟨rfl, rfl⟩
      · rename_i hgo
        simp only [Bool.or_eq_true, Bool.not_eq_true', not_or, Bool.not_eq_false] at hgo
        refine .inr ⟨data, _, rfl, .confirm ?_ hgo.1.2, rfl⟩
        rcases hgo.1.1 with h | h <;> rw [Value.isStr_iff] at h <;>
          simp only [processing, h] <;> decide
  | holdExternalNotification now =>
    cases s with
    | none => exact .inl ⟨rfl, rfl⟩
    | some data =>
      simp only [step, holdExternalNotification]
      split
      · exact .inl ⟨rfl, rfl⟩
      · rename_i hgo
        rw [Bool.not_eq_true', Bool.not_eq_false] at hgo
        exact .inr ⟨data, _, rfl, .hold hgo, rfl⟩

/-! ## The fields of the record -/

theorem claimNotificationUpdates_cases (data : Dict) (now : PyFloat) (strict : Bool) :
    (claimNotificationUpdates data now strict = (false, [])) ∨
    (notificationAvailable data = true ∧ strict = true ∧
      claimNotificationUpdates data now strict = (true,
        [("notification_state", .text "pending_external"),
          ("notification_claimed_at", now.numeric.value)])) ∨
    (notificationAvailable data = true ∧ strict = false ∧
      claimNotificationUpdates data now strict = (true, [("notified_at", now.numeric.value)])) := by
  unfold claimNotificationUpdates
  cases notificationAvailable data with
  | false => exact .inl rfl
  | true =>
    cases strict with
    | true => exact .inr (.inl ⟨rfl, rfl, rfl⟩)
    | false => exact .inr (.inr ⟨rfl, rfl, rfl⟩)

theorem settle_get {data updates : Dict} {now : PyFloat} {strict : Bool}
    (h : Settlement now updates) {k : String} (hk : k ∉ ["status", "result", "completed_at",
      "notification_state", "notification_claimed_at", "notified_at"]) :
    (data.update (updates ++ (claimNotificationUpdates data now strict).2)).get k =
      data.get k := by
  refine Dict.get_update_of_not_mem _ _ fun hmem => hk ?_
  simp only [Entries.keys, List.map_append, List.mem_append] at hmem
  rcases hmem with hmem | hmem
  · cases h with
    | failed => 
      simp only [List.map_cons, List.map_nil, List.mem_cons, List.not_mem_nil, or_false] at hmem
      rcases hmem with rfl | rfl <;> simp
    | complete =>
      simp only [List.map_cons, List.map_nil, List.mem_cons, List.not_mem_nil, or_false] at hmem
      rcases hmem with rfl | rfl | rfl <;> simp
  · rcases claimNotificationUpdates_cases data now strict with h | ⟨-, -, h⟩ | ⟨-, -, h⟩ <;>
      rw [h] at hmem
    · cases hmem
    · simp only [List.map_cons, List.map_nil, List.mem_cons, List.not_mem_nil, or_false] at hmem
      rcases hmem with rfl | rfl <;> simp
    · simp only [List.map_cons, List.map_nil, List.mem_cons, List.not_mem_nil, or_false] at hmem
      subst hmem
      simp

theorem Write.keeps {c : Call} {data u : Dict} {grant : Bool} (h : Write c data grant u)
    (hsettled : processing data = false) {k : String}
    (hk : k ∈ ["status", "result", "completed_at"]) : (data.update u).get k = data.get k := by
  refine Dict.get_update_of_not_mem _ _ fun hmem => ?_
  simp only [List.mem_cons, List.not_mem_nil, or_false] at hk
  cases h with
  | reclaim hprocessing | settle hprocessing =>
    rw [hprocessing] at hsettled
    cases hsettled
  | confirm | hold =>
    simp only [Entries.keys, List.map_cons, List.map_nil, List.mem_cons, List.not_mem_nil,
      or_false] at hmem
    rcases hk with rfl | rfl | rfl <;> revert hmem <;> decide

theorem Write.settled {c : Call} {data u : Dict} {grant : Bool} (h : Write c data grant u)
    (hsettled : processing data = false) : processing (data.update u) = false := by
  unfold processing
  rw [h.keeps hsettled (by simp)]
  exact hsettled

theorem Write.grant {c : Call} {data u : Dict} {grant : Bool} (h : Write c data grant u)
    (hg : grant = true) : processing data = true ∧ processing (data.update u) = false := by
  cases h with
  | reclaim | confirm | hold => cases hg
  | settle hprocessing hupdates =>
    refine ⟨hprocessing, ?_⟩
    unfold processing
    rcases claimNotificationUpdates_cases data _ c.strict with h | ⟨-, -, h⟩ | ⟨-, -, h⟩ <;>
      rw [h] <;> cases hupdates <;> simp

theorem Write.notifiedAt {c : Call} {data u : Dict} {grant : Bool} (h : Write c data grant u)
    (hstrict : c.strict = true) (hconfirm : ∀ now, c ≠ .confirmExternalNotification now) :
    (data.update u).get "notified_at" = data.get "notified_at" := by
  cases h with
  | reclaim | hold => simp
  | settle hprocessing hupdates =>
    rcases claimNotificationUpdates_cases data _ c.strict with h | ⟨-, -, h⟩ | ⟨-, hno, -⟩
    · rw [h]
      cases hupdates <;> simp
    · rw [h]
      cases hupdates <;> simp
    · rw [hstrict] at hno
      cases hno
  | confirm => exact absurd rfl (hconfirm _)

/-- The moves of `notification_state`. -/
inductive NotificationMove : Value → Value → Prop
  | pending : NotificationMove .none (.text "pending_external")
  | sent : NotificationMove (.text "pending_external") (.text "sent")
  | needsAttention : NotificationMove (.text "pending_external") (.text "needs_attention")

theorem pendingExternal_iff (data : Dict) : pendingExternal data = true ↔
    data.get "notification_state" = .text "pending_external" :=
  Value.isStr_iff _ _

theorem notificationAvailable_state {data : Dict} (h : notificationAvailable data = true) :
    data.get "notification_state" = .none := by
  unfold notificationAvailable at h
  rw [Bool.and_eq_true] at h
  cases hstate : data.get "notification_state" <;> rw [hstate] at h <;> first
    | rfl
    | exact Bool.noConfusion h.2

theorem Write.notificationState {c : Call} {data u : Dict} {grant : Bool}
    (h : Write c data grant u) :
    (data.update u).get "notification_state" = data.get "notification_state" ∨
      NotificationMove (data.get "notification_state")
        ((data.update u).get "notification_state") := by
  cases h with
  | reclaim => exact .inl (by simp)
  | settle hprocessing hupdates =>
    rcases claimNotificationUpdates_cases data _ c.strict with h | ⟨hfree, -, h⟩ | ⟨-, -, h⟩
    · rw [h]
      exact .inl (by cases hupdates <;> simp)
    · rw [h, notificationAvailable_state hfree]
      have hpost : NotificationMove .none (.text "pending_external") := .pending
      exact .inr (by cases hupdates <;> simpa using hpost)
    · rw [h]
      exact .inl (by cases hupdates <;> simp)
  | confirm hprocessing hpending =>
    rw [(pendingExternal_iff data).mp hpending]
    exact .inr (by simpa using .sent)
  | hold hpending =>
    rw [(pendingExternal_iff data).mp hpending]
    exact .inr (by simpa using .needsAttention)

/-! ## Attempts -/

/-- The record counts `n` attempts; none stored counts as zero. -/
def AttemptsAre (data : Dict) (n : ℕ) : Prop :=
  ∃ x, attemptsOf data = some (.finite x) ∧ x.val = n

theorem addOne_val {x : Number} {n : ℕ} (h : x.val = n) (hn : n < 3) :
    (x.add (.int 1)).val = n + 1 := by
  cases x with
  | int z =>
    simp only [Number.val] at h
    simp only [Number.add, Number.val, Int.cast_add, h, Int.cast_one]
  | float d =>
    simp only [Number.val] at h
    have hn' : rnd (n : ℚ) = n := rnd_natCast (by omega)
    have h1 : rnd (1 : ℚ) = 1 := by exact_mod_cast rnd_natCast (n := 1) (by norm_num)
    have hsum : rnd ((n : ℚ) + 1) = n + 1 := by
      exact_mod_cast rnd_natCast (n := n + 1) (by omega)
    simp only [Number.add, Number.toFloat, Number.val, Double.ofRat, h, hn', Int.cast_one, h1, hsum]

theorem below_max {x : Number} {n : ℕ} (h : x.val = n)
    (hbelow : maxAnalysisAttempts.le (.finite x) = false) : n < 3 := by
  have hlt : ¬ ((3 : ℚ) ≤ x.val) := by simpa [maxAnalysisAttempts, Numeric.le, Number.val] using hbelow
  rw [h] at hlt
  exact_mod_cast not_le.mp hlt

theorem Write.attempts {c : Call} {data u : Dict} {grant : Bool} (h : Write c data grant u)
    {n : ℕ} (hn : AttemptsAre data n) :
    AttemptsAre (data.update u) n ∨ n < 3 ∧ AttemptsAre (data.update u) (n + 1) := by
  have hsame : (data.update u).get "attempts" = data.get "attempts" →
      AttemptsAre (data.update u) n := by
    intro heq
    unfold AttemptsAre attemptsOf
    rw [heq]
    exact hn
  cases h with
  | reclaim hprocessing hattempts hbelow =>
    obtain ⟨x, hx, hval⟩ := hn
    rw [hattempts] at hx
    cases hx
    have hlt := below_max hval hbelow
    have hnext := addOne_val hval hlt
    refine .inr ⟨hlt, x.add (.int 1), ?_, by exact_mod_cast hnext⟩
    have htruthy : (Numeric.finite (x.add (.int 1))).truthy = true := by
      simp only [Numeric.truthy, hnext, bne_iff_ne]
      exact_mod_cast Nat.succ_ne_zero n
    simp [attemptsOf, Numeric.addOne, htruthy]
  | settle hprocessing hupdates => exact .inl (hsame (settle_get hupdates (by decide)))
  | confirm | hold => exact .inl (hsame (by simp))

/-! ## Runs -/

def field (s : Option Dict) (k : String) : Value := (s.getD []).get k

def isProcessing (s : Option Dict) : Bool := processing (s.getD [])

abbrev ClaimEvent := Event (Option Dict) Call Resp

/-- The status leaves `processing`. -/
def settles (e : ClaimEvent) : Bool := isProcessing e.pre && !isProcessing e.post

/-- The state leaves `pending_external`. -/
def settlesNotification (e : ClaimEvent) : Bool :=
  pendingExternal (e.pre.getD []) && !pendingExternal (e.post.getD [])

theorem step_keeps (s : Option Dict) (c : Call) (hsettled : isProcessing s = false) :
    isProcessing (step s c).1 = false ∧
      ∀ k ∈ ["status", "result", "completed_at"], field (step s c).1 k = field s k := by
  rcases step_cases s c with ⟨h, -⟩ | ⟨data, u, rfl, hwrite, h⟩
  · rw [h]
    exact ⟨hsettled, fun _ _ => rfl⟩
  · rw [h]
    exact ⟨hwrite.settled hsettled, fun k hk => hwrite.keeps hsettled hk⟩

theorem countP_le_one_of_settles {Q : ClaimEvent → Bool}
    (hQ : ∀ s c, Q (step.event s c) = true →
      isProcessing s = true ∧ isProcessing (step s c).1 = false) (s : Option Dict)
    (cs : List Call) : (step.log s cs).countP Q ≤ 1 := by
  refine step.countP_log_le_one (P := fun s => isProcessing s = true) ?_ ?_ s cs
  · intro s c hq
    obtain ⟨hpre, hpost⟩ := hQ s c hq
    exact ⟨hpre, by rw [hpost]; exact Bool.false_ne_true⟩
  · intro s c hs
    rw [Bool.not_eq_true] at hs ⊢
    exact (step_keeps s c hs).1

theorem settles_le_one (s : Option Dict) (cs : List Call) :
    (step.log s cs).countP settles ≤ 1 := by
  refine countP_le_one_of_settles (fun s c hq => ?_) s cs
  simpa only [settles, Machine.event_pre, Machine.event_post, Bool.and_eq_true,
    Bool.not_eq_true'] using hq

theorem mayNotify_le_one (s : Option Dict) (cs : List Call) :
    (step.log s cs).countP (fun e => e.resp.mayNotify) ≤ 1 := by
  refine countP_le_one_of_settles (fun s c hq => ?_) s cs
  rcases step_cases s c with ⟨-, h⟩ | ⟨data, u, rfl, hwrite, h⟩
  · rw [Machine.event_resp, h] at hq
    cases hq
  · rw [h]
    exact hwrite.grant hq

theorem step_attempts (s : Option Dict) (c : Call) {n : ℕ}
    (h : AttemptsAre (s.getD []) n) :
    AttemptsAre ((step s c).1.getD []) n ∨
      n < 3 ∧ AttemptsAre ((step s c).1.getD []) (n + 1) := by
  rcases step_cases s c with ⟨hs, -⟩ | ⟨data, u, rfl, hwrite, hs⟩
  · rw [hs]
    exact .inl h
  · rw [hs]
    exact hwrite.attempts h

theorem step_notificationState (s : Option Dict) (c : Call) :
    field (step s c).1 "notification_state" = field s "notification_state" ∨
      NotificationMove (field s "notification_state")
        (field (step s c).1 "notification_state") := by
  rcases step_cases s c with ⟨hs, -⟩ | ⟨data, u, rfl, hwrite, hs⟩
  · rw [hs]
    exact .inl rfl
  · rw [hs]
    exact hwrite.notificationState

theorem settlesNotification_le_one (s : Option Dict) (cs : List Call) :
    (step.log s cs).countP settlesNotification ≤ 1 := by
  -- before: no state yet, or pending
  refine step.countP_log_le_one (P := fun s => field s "notification_state" = .none ∨
    pendingExternal (s.getD []) = true) ?_ ?_ s cs
  · intro s c hq
    simp only [settlesNotification, Machine.event_pre, Machine.event_post, Bool.and_eq_true,
      Bool.not_eq_true'] at hq
    refine ⟨.inr hq.1, not_or.mpr ⟨fun hnone => ?_, by rw [hq.2]; exact Bool.false_ne_true⟩⟩
    have hpre : field s "notification_state" = .text "pending_external" :=
      (pendingExternal_iff _).mp hq.1
    rcases step_notificationState s c with h | h
    · rw [hpre, hnone] at h
      cases h
    · rw [hpre, hnone] at h
      cases h
  · intro s c hs hpost
    refine hs ?_
    rw [pendingExternal_iff] at hpost ⊢
    change field (step s c).1 "notification_state" = _ ∨
      field (step s c).1 "notification_state" = _ at hpost
    change field s "notification_state" = _ ∨ field s "notification_state" = _
    rcases step_notificationState s c with h | h
    · rw [← h]
      exact hpost
    · revert h
      generalize field s "notification_state" = pre
      generalize field (step s c).1 "notification_state" = post
      rintro (_ | _ | _)
      · exact .inl rfl
      · exact .inr rfl
      · exact .inr rfl

/-- **Settled once.** From a record with at most three attempts, in every run of the
five transactions: the status leaves processing at most once, and then status, result and
completion time stay; at most one call grants the right to notify; attempts never decrease
nor exceed three; of a strict worker's calls only a confirmation writes `notified_at`; and the
notification state moves only from none to pending, and from there at most once. -/
theorem settled_once {d : Dict} {n : ℕ} (hn : n ≤ 3)
    (hattempts : AttemptsAre d n) (cs : List Call) :
    (step.log (some d) cs).countP settles ≤ 1 ∧
    (∀ e ∈ step.log (some d) cs, isProcessing e.pre = false →
      ∀ k ∈ ["status", "result", "completed_at"], field e.post k = field e.pre k) ∧
    (step.log (some d) cs).countP (fun e => e.resp.mayNotify) ≤ 1 ∧
    (∀ e ∈ step.log (some d) cs, ∃ a b, AttemptsAre (e.pre.getD []) a ∧
      AttemptsAre (e.post.getD []) b ∧ n ≤ a ∧ a ≤ b ∧ b ≤ 3) ∧
    (∀ e ∈ step.log (some d) cs, e.call.strict = true →
      (∀ now, e.call ≠ .confirmExternalNotification now) →
      field e.post "notified_at" = field e.pre "notified_at") ∧
    (∀ e ∈ step.log (some d) cs,
      field e.post "notification_state" = field e.pre "notification_state" ∨
        NotificationMove (field e.pre "notification_state")
          (field e.post "notification_state")) ∧
    (step.log (some d) cs).countP settlesNotification ≤ 1 := by
  refine ⟨settles_le_one _ cs, ?_, mayNotify_le_one _ cs, ?_, ?_, ?_,
    settlesNotification_le_one _ cs⟩
  · intro e he hsettled
    obtain ⟨cs₁, c, cs₂, -, rfl⟩ := step.mem_log he
    exact (step_keeps _ c hsettled).2
  · intro e he
    obtain ⟨cs₁, c, cs₂, -, rfl⟩ := step.mem_log he
    have hstart : ∃ a, AttemptsAre ((some d).getD []) a ∧ n ≤ a ∧ a ≤ 3 :=
      ⟨n, hattempts, le_rfl, hn⟩
    obtain ⟨a, ha, hna, ha3⟩ := step.reachable_inv
      (I := fun s => ∃ a, AttemptsAre (s.getD []) a ∧ n ≤ a ∧ a ≤ 3) hstart
      (fun s c ⟨a, ha, hna, ha3⟩ => by
        rcases step_attempts s c ha with h | ⟨hlt, h⟩
        · exact ⟨a, h, hna, ha3⟩
        · exact ⟨a + 1, h, by omega, by omega⟩) ⟨cs₁, rfl⟩
    rcases step_attempts _ c ha with h | ⟨hlt, h⟩
    · exact ⟨a, a, ha, h, hna, le_rfl, ha3⟩
    · exact ⟨a, a + 1, ha, h, hna, by omega, by omega⟩
  · intro e he hstrict hconfirm
    obtain ⟨cs₁, c, cs₂, -, rfl⟩ := step.mem_log he
    rcases step_cases (step.run (some d) cs₁) c with ⟨hs, -⟩ | ⟨data, u, hpre, hwrite, hs⟩
    · rw [Machine.event_post, hs, Machine.event_pre]
    · rw [Machine.event_post, hs, Machine.event_pre, hpre]
      exact hwrite.notifiedAt hstrict hconfirm
  · intro e he
    obtain ⟨cs₁, c, cs₂, -, rfl⟩ := step.mem_log he
    exact step_notificationState _ c

def exampleEstimate : Dict :=
  [("status", .text "processing"), ("media_id", .text "m"), ("attempts", .int 1)]

def exampleClaims : List Call :=
  [.claimNotificationAndFail (.text "m") .zero true, .holdExternalNotification .zero,
    .claimNotificationAndFail (.text "m") .zero false]

theorem settled_once_exampleEstimate :
    (step.log (some exampleEstimate) exampleClaims).countP (fun e => e.resp.mayNotify) = 1 ∧
    (step.log (some exampleEstimate) exampleClaims).countP settles ≤ 1 :=
  ⟨by rfl, (settled_once (n := 1) (by decide) ⟨.int 1, rfl, rfl⟩ exampleClaims).1⟩

end HeyKevin.L4.EstimateClaims
