import HeyKevin.Core.Recorded
import HeyKevin.L4Worker.EstimateClaims
/-!
# Recovering stranded estimates

mirrors app/services/estimate_worker.py:319-529 (`run_pending_estimates_once`),
an unbounded pass: every listed estimate whose lease is over is claimed,
analysed again and notified, or failed.

**Model.** An estimate comes with what its collaborators answer when they are
asked for it. A transaction reads the record as it is then, or fails; an
exception is one that `except Exception` handles. What is logged is left out.

* `recover_ok_iff`: when the round of one estimate ends normally.
* `isolated_iff`: a pass ends normally, with every due estimate claimed, when
  no listed estimate blocks it.
* `blocked_by_one`: a record whose lease is null ends the pass for the others.

Line numbers are those of app/services/estimate_worker.py.
-/
namespace HeyKevin.L4.EstimateRecovery

open HeyKevin.Core Binary64 L1 L1.Text L4.EstimateClaims

def defaultLeaseSeconds : PyFloat := .finite (.ofRat 300)

inductive Raised
  /-- `EstimateNotificationOutcomeUncertain` -/
  | uncertain
  | other
deriving DecidableEq

/-- What `analyze_media` is given. -/
structure Analysis where
  mediaBytes : List UInt8
  mediaType : Value
  servicesList : Value
  businessName : Value
  textDescription : Value

/-- What `send_estimate_notifications` is given. -/
structure Notification where
  callerPhone : Value
  contractor : Option Dict
  callSid : Value
  tokenHash : Str
  result : Option Value
  isFailure : Bool
  watchUrl : Str

inductive Request
  | claimReanalysisOrFail (id : Str) (now leaseSeconds : PyFloat)
  | getContractor (contractorId : Value)
  | makeWatchUrl (mediaId : Value)
  | readMedia (objectPath : Value)
  | analyzeMedia (analysis : Analysis)
  | claimNotificationAndComplete (id : Str) (mediaId result : Value) (now : PyFloat)
  | claimNotificationAndFail (id : Str) (mediaId : Value) (now : PyFloat)
  | sendEstimateNotifications (notification : Notification)

structure Delivery where
  watchUrl : Except Raised Str
  sent : Except Raised Unit

structure Answers where
  /-- The record that `claim_reanalysis_or_fail` reads. -/
  claimed : Except Raised (Option Dict)
  contractor : Except Raised (Option Dict)
  media : Except Raised (List UInt8)
  analysis : Except Raised Value
  finishedAt : PyFloat
  /-- The record that `claim_notification_and_complete` reads. -/
  completed : Except Raised (Option Dict)
  delivery : Delivery
  failedAt : PyFloat
  /-- The record that `claim_notification_and_fail` reads. -/
  failed : Except Raised (Option Dict)
  /-- The delivery after an analysis that raised. -/
  failureDelivery : Delivery

structure Estimate where
  id : Str
  data : Dict
  answers : Answers

abbrev Run := Recorded Request Raised

/-! ## The pass -/

/-- `data.get(k, "")` -/
def getOrEmpty (data : Dict) (k : String) : Value := (Entries.find? data k).getD (.str [])

/-- `contractor.get(k, default) if contractor else default` -/
def contractorField (contractor : Option Dict) (k : String) (default : Value) : Value :=
  match contractor with
  | none => default
  | some contractor => (Entries.find? contractor k).getD default

/-- A transaction whose body reads `read`. -/
def transaction (read : Except Raised (Option Dict)) (body : Option Dict → Option Dict × Resp) :
    Except Raised Resp :=
  match read with
  | .error e => .error e
  | .ok doc =>
    match (body doc).2 with
    | .raised => .error .other
    | resp => .ok resp

/-- `accepted and should_notify` -/
def granted : Resp → Bool
  | .claimed accepted shouldNotify _ => accepted && shouldNotify
  | _ => false

def hasMedia (data : Dict) : Bool := (getOrEmpty data "media_object_path").truthy

def watchUrl (wanted : Bool) (data : Dict) (d : Delivery) : Run Str :=
  if wanted then .ask (.makeWatchUrl (getOrEmpty data "media_id")) d.watchUrl else pure []

/-- mirrors 229-316 (`_send_claimed_estimate_notifications`), where
it is not strict -/
def sendClaimed (id : Str) (data : Dict) (contractor : Option Dict) (result : Option Value)
    (url : Str) (d : Delivery) : Run Unit :=
  .ask (.sendEstimateNotifications
    { callerPhone := getOrEmpty data "caller_phone", contractor := contractor,
      callSid := getOrEmpty data "call_sid", tokenHash := id, result := result,
      isFailure := result.isNone, watchUrl := url }) d.sent

/-- `await get_contractor(contractor_id) if contractor_id else None` -/
def readContractor (data : Dict) (a : Answers) : Run (Option Dict) :=
  if (getOrEmpty data "contractor_id").truthy then
    .ask (.getContractor (getOrEmpty data "contractor_id")) a.contractor
  else pure none

/-- The answer of `claim_notification_and_fail`. -/
def markFailed (id : Str) (data : Dict) (a : Answers) : Run Resp :=
  .ask (.claimNotificationAndFail id (getOrEmpty data "media_id") a.failedAt)
    (transaction a.failed
      (claimNotificationAndFail (getOrEmpty data "media_id") a.failedAt false))

def notifyFailed (id : Str) (data : Dict) (contractor : Option Dict) (a : Answers) : Run Unit := do
  let url ← watchUrl ((getOrEmpty data "media_id").truthy && hasMedia data) data a.delivery
  sendClaimed id data contractor none url a.delivery

def failWithoutMedia (id : Str) (data : Dict) (contractor : Option Dict) (a : Answers) :
    Run Unit := do
  let resp ← markFailed id data a
  if granted resp then sendClaimed id data contractor none [] a.delivery else pure ()

/-- The body of the `try`. -/
def analyze (id : Str) (data : Dict) (contractor : Option Dict) (a : Answers) : Run Unit := do
  let mediaBytes ← .ask (.readMedia (getOrEmpty data "media_object_path")) a.media
  let result ← .ask (.analyzeMedia
    { mediaBytes := mediaBytes, mediaType := getOrEmpty data "media_content_type",
      servicesList := contractorField contractor "services" (.list []),
      businessName := contractorField contractor "business_name" (.str []),
      textDescription := getOrEmpty data "description" }) a.analysis
  let resp ← .ask
    (.claimNotificationAndComplete id (getOrEmpty data "media_id") result a.finishedAt)
    (transaction a.completed
      (claimNotificationAndComplete (getOrEmpty data "media_id") result a.finishedAt false))
  if granted resp then do
    let url ← watchUrl (getOrEmpty data "media_id").truthy data a.delivery
    sendClaimed id data contractor (some result) url a.delivery
  else pure ()

/-- The handler of the `try`. -/
def afterFailure (id : Str) (data : Dict) (contractor : Option Dict) (a : Answers) :
    Raised → Run Unit
  | .uncertain => .lift (.error .uncertain)
  | .other =>
    match attemptsOf data with
    | none => .lift (.error .other)
    | some attempts =>
      if maxAnalysisAttempts.le attempts then
        Recorded.handle (do
          let resp ← markFailed id data a
          if granted resp then do
            let url ← watchUrl ((getOrEmpty data "media_id").truthy && hasMedia data) data
              a.failureDelivery
            sendClaimed id data contractor none url a.failureDelivery
          else pure ())
          fun
            | .uncertain => .lift (.error .uncertain)
            | .other => pure ()
      else pure ()

def process (id : Str) (action : Action) (data : Dict) (a : Answers) : Run Unit :=
  if action = .noop ∨ action = .failedNoNotify then pure ()
  else do
    let contractor ← readContractor data a
    if action = .failedNotify then notifyFailed id data contractor a
    else if !hasMedia data then failWithoutMedia id data contractor a
    else (analyze id data contractor a).handle (afterFailure id data contractor a)

/-- The answer of `claim_reanalysis_or_fail`, none where it raises. -/
def claim (now : PyFloat) (e : Estimate) : Run (Option Resp) :=
  Recorded.handle (do
    let resp ← .ask (.claimReanalysisOrFail e.id now defaultLeaseSeconds)
      (transaction e.answers.claimed (claimReanalysisOrFail now defaultLeaseSeconds false))
    pure (some resp))
    fun _ => pure none

def recover (now : PyFloat) (e : Estimate) : Run Unit :=
  match leaseExpiresAt e.data with
  | none => .lift (.error .other)
  | some lease =>
    if now.numeric.lt lease then pure ()
    else do
      let resp ← claim now e
      match resp with
      | some (.action action data) => process e.id action data e.answers
      | _ => pure ()

/-- mirrors 319-529, unbounded -/
def runPendingEstimatesOnce (now : PyFloat) : Except Raised (List Estimate) → Run Unit
  | .error _ => pure ()
  | .ok docs => .forEach (recover now) docs

/-! ## What one round raises -/

def error? {α : Type} : Except Raised α → Option Raised
  | .error e => some e
  | .ok _ => none

def firstRaised (answers : List (Option Raised)) : Option Raised := answers.findSome? id

def Due (now : PyFloat) (data : Dict) : Prop :=
  ∃ lease, leaseExpiresAt data = some lease ∧ now.numeric.lt lease = false

def Stranded (now : PyFloat) (data : Dict) : Prop :=
  processing data = true ∧ ∃ lease, leaseExpiresAt data = some lease ∧ now.numeric.le lease = false

def grants (mediaId : Value) : Except Raised (Option Dict) → Bool
  | .ok (some doc) =>
    processing doc && (doc.get "media_id").eq mediaId && notificationAvailable doc
  | _ => false

def Delivery.raises (d : Delivery) (wanted : Bool) : Option Raised :=
  firstRaised [if wanted then error? d.watchUrl else none, error? d.sent]

def contractorRaises (data : Dict) (a : Answers) : Option Raised :=
  if (getOrEmpty data "contractor_id").truthy then error? a.contractor else none

def analysisRaises (data : Dict) (a : Answers) : Option Raised :=
  firstRaised [error? a.media, error? a.analysis, error? a.completed,
    if grants (getOrEmpty data "media_id") a.completed then
      a.delivery.raises (getOrEmpty data "media_id").truthy
    else none]

def failureRaises (data : Dict) (a : Answers) : Option Raised :=
  firstRaised [error? a.failed,
    if grants (getOrEmpty data "media_id") a.failed then
      a.failureDelivery.raises ((getOrEmpty data "media_id").truthy && hasMedia data)
    else none]

def LastNoticeRaises (data : Dict) (a : Answers) : Prop :=
  contractorRaises data a ≠ none ∨
    a.delivery.raises ((getOrEmpty data "media_id").truthy && hasMedia data) ≠ none

/-- One more attempt raises; `last` tells whether it is the last one. -/
def AttemptRaises (data : Dict) (last : Bool) (a : Answers) : Prop :=
  contractorRaises data a ≠ none ∨
    (hasMedia data = false ∧ (error? a.failed ≠ none ∨
      grants (getOrEmpty data "media_id") a.failed = true ∧ error? a.delivery.sent ≠ none)) ∨
    (hasMedia data = true ∧ (analysisRaises data a = some .uncertain ∨
      analysisRaises data a = some .other ∧ last = true ∧
        failureRaises data a = some .uncertain))

def TakenRaises (now : PyFloat) (data : Dict) (a : Answers) : Prop :=
  ∃ attempts, Stranded now data ∧ attemptsOf data = some attempts ∧
    (maxAnalysisAttempts.le attempts = true ∧ notificationAvailable data = true ∧
        LastNoticeRaises data a ∨
      maxAnalysisAttempts.le attempts = false ∧
        AttemptRaises data (maxAnalysisAttempts.le attempts.addOne) a)

def Blocks (now : PyFloat) (e : Estimate) : Prop :=
  leaseExpiresAt e.data = none ∨
    Due now e.data ∧ ∃ data, e.answers.claimed = .ok (some data) ∧ TakenRaises now data e.answers

/-! ## The outcome of each part -/

theorem ok_iff {x : Except Raised Unit} : x = .ok () ↔ error? x = none := by
  cases x <;> simp [error?]

theorem error?_bind {α β : Type} (x : Except Raised α) (f : α → Except Raised β) :
    error? (x >>= f) = match x with
      | .error e => some e
      | .ok a => error? (f a) := by
  cases x <;> rfl

theorem granted_claimSettled (mediaId : Value) (updates : Dict) (now : PyFloat)
    (doc : Option Dict) :
    granted (claimSettled mediaId updates now false doc).2 = grants mediaId (.ok doc) := by
  cases doc with
  | none => rfl
  | some data =>
    cases hp : processing data <;> cases hm : (data.get "media_id").eq mediaId <;>
      cases hn : notificationAvailable data <;>
      simp [claimSettled, settle, claimNotificationUpdates, grants, granted, hp, hm, hn]

theorem transaction_claimSettled (read : Except Raised (Option Dict)) (mediaId : Value)
    (updates : Dict) (now : PyFloat) :
    transaction read (claimSettled mediaId updates now false) =
      read.map fun doc => (claimSettled mediaId updates now false doc).2 := by
  unfold transaction
  rcases read with e | _ | data
  · rfl
  · rfl
  · simp only [claimSettled, Except.map]
    split
    · rename_i h
      split at h <;> cases h
    · rfl

theorem error?_settled {read : Except Raised (Option Dict)} {mediaId : Value} {updates : Dict}
    {now : PyFloat} {q : Request} (p : Run Unit) :
    error? (Recorded.ask q (transaction read (claimSettled mediaId updates now false)) >>=
        fun resp => if granted resp then p else pure ()).outcome =
      firstRaised [error? read, if grants mediaId read then error? p.outcome else none] := by
  rw [Recorded.outcome_bind, Recorded.outcome_ask, transaction_claimSettled, error?_bind]
  cases read with
  | error e => rfl
  | ok doc =>
    simp only [Except.map, granted_claimSettled]
    cases grants mediaId (.ok doc) with
    | false => rfl
    | true =>
      simp only [if_true, error?, firstRaised, List.findSome?_cons, id_eq, List.findSome?_nil]
      cases p.outcome <;> rfl

theorem error?_deliver (id : Str) (data : Dict) (contractor : Option Dict)
    (result : Option Value) (wanted : Bool) (d : Delivery) :
    error? (watchUrl wanted data d >>= fun url =>
        sendClaimed id data contractor result url d).outcome = d.raises wanted := by
  rw [Recorded.outcome_bind, error?_bind]
  simp only [sendClaimed, Recorded.outcome_ask]
  unfold watchUrl Delivery.raises
  cases wanted with
  | false =>
    cases hsent : d.sent <;> simp [firstRaised, error?]
  | true =>
    cases hurl : d.watchUrl <;> cases hsent : d.sent <;> simp [firstRaised, error?]

theorem error?_analyze (id : Str) (data : Dict) (contractor : Option Dict) (a : Answers) :
    error? (analyze id data contractor a).outcome = analysisRaises data a := by
  unfold analyze analysisRaises
  rw [Recorded.outcome_bind, error?_bind, Recorded.outcome_ask]
  cases a.media with
  | error e => rfl
  | ok mediaBytes =>
    simp only
    rw [Recorded.outcome_bind, error?_bind, Recorded.outcome_ask]
    cases a.analysis with
    | error e => rfl
    | ok result =>
      simp only [claimNotificationAndComplete]
      rw [error?_settled, error?_deliver]
      rfl

theorem error?_failWithoutMedia (id : Str) (data : Dict) (contractor : Option Dict)
    (a : Answers) : error? (failWithoutMedia id data contractor a).outcome =
      firstRaised [error? a.failed, if grants (getOrEmpty data "media_id") a.failed then
        error? a.delivery.sent else none] := by
  unfold failWithoutMedia markFailed claimNotificationAndFail
  rw [error?_settled]
  rfl

theorem error?_handle (p : Run Unit) (h : Raised → Run Unit) :
    error? (p.handle h).outcome = (error? p.outcome).bind fun e => error? (h e).outcome := by
  rw [Recorded.outcome_handle]
  cases p.outcome <;> rfl

def unhandled (data : Dict) (last : Bool) (a : Answers) : Raised → Option Raised
  | .uncertain => some .uncertain
  | .other => if last = true ∧ failureRaises data a = some .uncertain then some .uncertain else none

theorem error?_afterFailure (id : Str) {data : Dict} (contractor : Option Dict) (a : Answers)
    {attempts : Numeric} (hattempts : attemptsOf data = some attempts) (e : Raised) :
    error? (afterFailure id data contractor a e).outcome =
      unhandled data (maxAnalysisAttempts.le attempts) a e := by
  cases e with
  | uncertain => rfl
  | other =>
    simp only [afterFailure, hattempts, unhandled]
    cases hlast : maxAnalysisAttempts.le attempts with
    | false => rfl
    | true =>
      simp only [if_true, true_and]
      rw [error?_handle, markFailed, claimNotificationAndFail, error?_settled, error?_deliver]
      rcases hfailure : failureRaises data a with _ | _ | _ <;> unfold failureRaises at hfailure <;>
        rw [hfailure] <;> rfl

/-! ## What an estimate raises once it is claimed -/

theorem firstRaised_eq_none {answers : List (Option Raised)} :
    firstRaised answers = none ↔ ∀ x ∈ answers, x = none := by
  simp [firstRaised, List.findSome?_eq_none_iff]

theorem error?_readContractor (data : Dict) (a : Answers) (p : Option Dict → Run Unit)
    (e : Option Raised) (hp : ∀ contractor, error? (p contractor).outcome = e) :
    error? (readContractor data a >>= p).outcome = (contractorRaises data a).or e := by
  rw [Recorded.outcome_bind, error?_bind]
  unfold readContractor contractorRaises
  cases (getOrEmpty data "contractor_id").truthy with
  | false => exact hp none
  | true =>
    simp only [if_true, Recorded.outcome_ask]
    cases a.contractor with
    | error e => rfl
    | ok contractor => exact hp contractor

theorem process_failedNotify (id : Str) (data : Dict) (a : Answers) :
    (process id .failedNotify data a).outcome = .ok () ↔ ¬ LastNoticeRaises data a := by
  rw [ok_iff]
  unfold process LastNoticeRaises
  rw [if_neg (by simp)]
  simp only [if_true, notifyFailed]
  rw [error?_readContractor data a _ _ fun contractor => error?_deliver id data contractor none _ _]
  simp [Option.or_eq_none_iff]

theorem process_reclaimed (id : Str) {data : Dict} (a : Answers) {attempts : Numeric}
    (hattempts : attemptsOf data = some attempts) :
    (process id .reclaimed data a).outcome = .ok () ↔
      ¬ AttemptRaises data (maxAnalysisAttempts.le attempts) a := by
  rw [ok_iff]
  unfold process AttemptRaises
  rw [if_neg (by simp)]
  simp only [reduceCtorEq, if_false]
  cases hmedia : hasMedia data with
  | false =>
    simp only [Bool.not_false, if_true, Bool.false_eq_true, false_and, or_false, true_and]
    rw [error?_readContractor data a _ _ fun contractor =>
      error?_failWithoutMedia id data contractor a, Option.or_eq_none_iff, firstRaised_eq_none]
    cases grants (getOrEmpty data "media_id") a.failed <;> simp
  | true =>
    simp only [Bool.not_true, Bool.false_eq_true, if_false, false_and, false_or, true_and,
      Bool.true_eq_false]
    rw [error?_readContractor data a _ ((analysisRaises data a).bind
      (unhandled data (maxAnalysisAttempts.le attempts) a)), Option.or_eq_none_iff]
    · rcases analysisRaises data a with _ | _ | _ <;> simp [unhandled]
    · intro contractor
      rw [error?_handle, error?_analyze]
      congr 1
      exact funext (error?_afterFailure id contractor a hattempts)

/-! ## One round -/

theorem getOrEmpty_update {data updates : Dict} {k : String} (h : k ∉ Dict.keys updates) :
    getOrEmpty (data.update updates) k = getOrEmpty data k := by
  unfold getOrEmpty
  rw [Entries.find?_update_of_not_mem data updates h]

def KeepsMedia (updates : Dict) : Prop :=
  "contractor_id" ∉ Dict.keys updates ∧ "media_id" ∉ Dict.keys updates ∧
    "media_object_path" ∉ Dict.keys updates

theorem lastNoticeRaises_update {updates : Dict} (h : KeepsMedia updates) (data : Dict)
    (a : Answers) : LastNoticeRaises (data.update updates) a ↔ LastNoticeRaises data a := by
  unfold LastNoticeRaises contractorRaises hasMedia
  rw [getOrEmpty_update h.1, getOrEmpty_update h.2.1, getOrEmpty_update h.2.2]

theorem attemptRaises_update {updates : Dict} (h : KeepsMedia updates) (data : Dict) (last : Bool)
    (a : Answers) : AttemptRaises (data.update updates) last a ↔ AttemptRaises data last a := by
  unfold AttemptRaises analysisRaises failureRaises contractorRaises hasMedia
  rw [getOrEmpty_update h.1, getOrEmpty_update h.2.1, getOrEmpty_update h.2.2]

theorem attemptsOf_claimed (data : Dict) (attempts : Numeric) (expires : Value) :
    ∃ n, attemptsOf (data.update [("attempts", attempts.addOne.value),
        ("lease_expires_at", expires)]) = some n ∧
      maxAnalysisAttempts.le n = maxAnalysisAttempts.le attempts.addOne := by
  have hget : (data.update [("attempts", attempts.addOne.value),
      ("lease_expires_at", expires)]).get "attempts" = attempts.addOne.value := by simp
  unfold attemptsOf
  rw [hget, Numeric.truthy_value, Numeric.numeric?_value]
  cases htruthy : attempts.addOne.truthy with
  | true => exact ⟨_, rfl, rfl⟩
  | false =>
    refine ⟨_, rfl, ?_⟩
    -- what counts as false is zero
    cases hone : attempts.addOne with
    | nonFinite f =>
      rw [hone] at htruthy
      cases htruthy
    | finite x =>
      rw [hone] at htruthy
      have hzero : x.val = 0 := by simpa [Numeric.truthy] using htruthy
      have hint : (Number.int 0).val = 0 := by simp [Number.val]
      simp only [maxAnalysisAttempts, Numeric.le, hzero, hint]

/-- What a claim does with the record it reads: nothing, or it takes the record as failed or for
one more attempt. -/
theorem claimReanalysis_resp (now lease : PyFloat) (data : Dict) :
    ((claimReanalysisOrFail now lease false (some data)).2 = .raised ∨
        (claimReanalysisOrFail now lease false (some data)).2 = .action .noop data) ∧
      (∀ attempts, ¬ (Stranded now data ∧ attemptsOf data = some attempts)) ∨
    ∃ attempts, Stranded now data ∧ attemptsOf data = some attempts ∧
      (maxAnalysisAttempts.le attempts = true ∧ (∃ updates, KeepsMedia updates ∧
          (claimReanalysisOrFail now lease false (some data)).2 = .action
            (bif notificationAvailable data then .failedNotify else .failedNoNotify)
            (data.update updates)) ∨
        maxAnalysisAttempts.le attempts = false ∧
          (claimReanalysisOrFail now lease false (some data)).2 = .action .reclaimed
            (data.update [("attempts", attempts.addOne.value),
              ("lease_expires_at", (now.add lease).numeric.value)])) := by
  simp only [claimReanalysisOrFail, Stranded]
  cases hprocessing : processing data with
  | false => exact .inl ⟨.inr (by simp), by simp⟩
  | true =>
    simp only [Bool.not_true, Bool.false_eq_true, if_false, true_and]
    cases hlease : leaseExpiresAt data with
    | none => exact .inl ⟨.inl (by simp), by simp⟩
    | some expires =>
      cases hover : now.numeric.le expires with
      | true => exact .inl ⟨.inr (by simp [hover]), by simp [hover]⟩
      | false =>
        cases hattempts : attemptsOf data with
        | none => exact .inl ⟨.inl (by simp [hover]), by simp⟩
        | some attempts =>
          refine .inr ⟨attempts, ⟨expires, rfl, hover⟩, rfl, ?_⟩
          cases hmax : maxAnalysisAttempts.le attempts with
          | false => exact .inr ⟨rfl, by simp [hover, hmax]⟩
          | true =>
            refine .inl ⟨rfl, [("status", .text "failed"), ("completed_at", now.numeric.value)] ++
              (claimNotificationUpdates data now false).2, ?_, ?_⟩
            · rcases claimNotificationUpdates_cases data now false with h | ⟨-, h, -⟩ | ⟨-, -, h⟩
              · rw [h]
                simp [KeepsMedia, Entries.keys]
              · cases h
              · rw [h]
                simp [KeepsMedia, Entries.keys]
            · have hgrant : (claimNotificationUpdates data now false).1 =
                  notificationAvailable data := by
                unfold claimNotificationUpdates
                cases notificationAvailable data <;> rfl
              simp [hover, hmax, settle, hgrant]

theorem recover_due {now : PyFloat} {e : Estimate} (h : Due now e.data) :
    (recover now e).outcome =
      match transaction e.answers.claimed (claimReanalysisOrFail now defaultLeaseSeconds false) with
      | .ok (.action action data) => (process e.id action data e.answers).outcome
      | _ => .ok () := by
  obtain ⟨lease, hlease, hlt⟩ := h
  simp only [recover, hlease, hlt, Bool.false_eq_true, if_false, claim, Recorded.outcome_bind,
    Recorded.outcome_handle, Recorded.outcome_ask]
  rcases transaction e.answers.claimed (claimReanalysisOrFail now defaultLeaseSeconds false) with
    x | resp
  · rfl
  · cases resp <;> rfl

theorem recover_skipped {now : PyFloat} {e : Estimate} (hlease : leaseExpiresAt e.data ≠ none)
    (h : ¬ Due now e.data) : (recover now e).outcome = .ok () := by
  unfold recover
  split
  · rename_i hread
    exact absurd hread hlease
  · rename_i lease hread
    cases hlt : now.numeric.lt lease with
    | true => rfl
    | false => exact absurd ⟨lease, hread, hlt⟩ h

theorem recover_reads {now : PyFloat} {e : Estimate} {data : Dict} (h : Due now e.data)
    (hread : e.answers.claimed = .ok (some data)) :
    (recover now e).outcome = .ok () ↔ ¬ TakenRaises now data e.answers := by
  rw [recover_due h, hread]
  rcases claimReanalysis_resp now defaultLeaseSeconds data with
    ⟨hresp, hnone⟩ | ⟨attempts, hstranded, hattempts, hstage⟩
  · refine iff_of_true ?_ fun ⟨attempts, hstranded, hattempts, _⟩ =>
      hnone attempts ⟨hstranded, hattempts⟩
    rcases hresp with hresp | hresp
    · simp only [transaction, hresp]
    · simp only [transaction, hresp]
      rfl
  · have htaken : TakenRaises now data e.answers ↔
        (maxAnalysisAttempts.le attempts = true ∧ notificationAvailable data = true ∧
          LastNoticeRaises data e.answers ∨ maxAnalysisAttempts.le attempts = false ∧
          AttemptRaises data (maxAnalysisAttempts.le attempts.addOne) e.answers) := by
      unfold TakenRaises
      simp [hstranded, hattempts]
    rw [htaken]
    rcases hstage with ⟨hmax, updates, hkeeps, hresp⟩ | ⟨hmax, hresp⟩
    · simp only [transaction, hresp, hmax, true_and, Bool.true_eq_false, false_and, or_false]
      cases hfree : notificationAvailable data with
      | false =>
        refine iff_of_true ?_ fun hraises => Bool.false_ne_true hraises.1
        rfl
      | true =>
        simp only [cond_true, true_and]
        rw [process_failedNotify, lastNoticeRaises_update hkeeps]
    · obtain ⟨n, hn, hle⟩ := attemptsOf_claimed data attempts
        (now.add defaultLeaseSeconds).numeric.value
      simp only [transaction, hresp, hmax, true_and, Bool.false_eq_true, false_and, false_or]
      rw [process_reclaimed e.id e.answers hn, hle,
        attemptRaises_update (by simp [KeepsMedia, Entries.keys])]

theorem recover_ok_iff (now : PyFloat) (e : Estimate) :
    (recover now e).outcome = .ok () ↔ ¬ Blocks now e := by
  unfold Blocks
  by_cases hlease : leaseExpiresAt e.data = none
  · refine iff_of_false ?_ (not_not.mpr (.inl hlease))
    simp [recover, hlease]
  · by_cases hdue : Due now e.data
    · simp only [hlease, hdue, true_and, false_or]
      rcases hread : e.answers.claimed with x | _ | data
      · rw [recover_due hdue, hread]
        simp [transaction]
      · rw [recover_due hdue, hread]
        simp [transaction, claimReanalysisOrFail, process]
      · rw [recover_reads hdue hread]
        simp
    · simp only [hlease, hdue, false_and, or_self, not_false_eq_true, iff_true]
      exact recover_skipped hlease hdue

/-! ## The pass -/

/-- The lease of the listed record is a number that is not after `now`. -/
def LeaseOver (now : PyFloat) (data : Dict) : Prop :=
  ∃ lease, (data.get "lease_expires_at").numeric? = some lease ∧ now.numeric.lt lease = false

theorem due_of_leaseOver {now : PyFloat} {data : Dict} (h : LeaseOver now data) : Due now data := by
  obtain ⟨lease, hlease, hlt⟩ := h
  refine ⟨lease, ?_, hlt⟩
  unfold leaseExpiresAt
  cases hhas : data.has "lease_expires_at" with
  | true => exact hlease
  | false =>
    have hget : data.get "lease_expires_at" = .none := by
      rw [Dict.has, Option.isSome_eq_false_iff, Option.isNone_iff_eq_none] at hhas
      rw [Dict.get, hhas]
      rfl
    rw [hget] at hlease
    cases hlease

def claimRequest (now : PyFloat) (e : Estimate) : Request :=
  .claimReanalysisOrFail e.id now defaultLeaseSeconds

theorem recover_claims {now : PyFloat} {e : Estimate} (h : Due now e.data) :
    claimRequest now e ∈ (recover now e).requests := by
  obtain ⟨lease, hlease, hlt⟩ := h
  simp only [recover, hlease, hlt, Bool.false_eq_true, if_false]
  refine (Recorded.requests_bind _ _).subset ((Recorded.requests_handle _ _).subset
    ((Recorded.requests_bind _ _).subset ?_))
  simp [claimRequest]

def Isolated (now : PyFloat) (listed : List Estimate) : Prop :=
  (runPendingEstimatesOnce now (.ok listed)).outcome = .ok () ∧
    ∀ e ∈ listed, LeaseOver now e.data →
      claimRequest now e ∈ (runPendingEstimatesOnce now (.ok listed)).requests

/-- A pass over estimates that do not block it claims every one that is due. -/
theorem isolated_iff (now : PyFloat) (listed : List Estimate) :
    Isolated now listed ↔ ∀ e ∈ listed, ¬ Blocks now e := by
  have hreturns : (runPendingEstimatesOnce now (.ok listed)).outcome = .ok () ↔
      ∀ e ∈ listed, ¬ Blocks now e := by
    rw [runPendingEstimatesOnce, Recorded.forEach_ok_iff]
    exact forall₂_congr fun e _ => recover_ok_iff now e
  unfold Isolated
  rw [hreturns]
  refine and_iff_left_of_imp fun hnone e he hlease => ?_
  exact Recorded.mem_requests_forEach (hreturns.mpr hnone) he
    (recover_claims (due_of_leaseOver hlease))

def exampleAnswers : Answers where
  claimed := .ok none
  contractor := .ok none
  media := .ok []
  analysis := .ok (.dict [])
  finishedAt := .zero
  completed := .ok none
  delivery := ⟨.ok [], .ok ()⟩
  failedAt := .zero
  failed := .ok none
  failureDelivery := ⟨.ok [], .ok ()⟩

def exampleListed : List Estimate :=
  [⟨py "a", [("status", .text "processing"), ("lease_expires_at", .none)], exampleAnswers⟩,
    ⟨py "b", [("status", .text "processing"), ("lease_expires_at", .int 0)], exampleAnswers⟩]

/-- The pass raises at the first record, and asks for nothing at the second. -/
theorem blocked_by_one : ¬ Isolated (.finite (.ofRat 1)) exampleListed ∧
    (runPendingEstimatesOnce (.finite (.ofRat 1)) (.ok exampleListed)).requests = [] := by
  refine ⟨fun h => ?_, rfl⟩
  cases h.1

end HeyKevin.L4.EstimateRecovery
