import HeyKevin.Core.Binary64Order
import HeyKevin.Core.Machine
import HeyKevin.Core.SlidingWindow
import HeyKevin.L1Encoding.Value
/-!
# Rate limits

mirrors app/db/rate_limits.py. A document holds the times of the calls it
allowed; a transaction drops what has left the window and allows the call if
fewer than `limit` times are left. Times are floats, and the start of the
window is one float subtraction away from them.

* `step_governed`: a call under fixed parameters is a step of the abstract window.
* `window_and_retry`: the limit over every window, and what `retry_after` promises.

**Left out.** Bucket entries that are no floats, which the limiter never writes;
`updated_at` and `expires_at`, which it never reads; a failing Firestore.

Line numbers are those of app/db/rate_limits.py.
-/
namespace HeyKevin.L3.RateLimits

open HeyKevin.Core Binary64 L1 L1.Text

structure RateLimitResult where
  allowed : Bool
  remaining : ℤ
  retryAfterSeconds : ℤ
  countInWindow : ℤ
deriving DecidableEq

/-- The arguments of `check_and_increment`, and the time it reads where `now` is not given. -/
structure RateCall where
  scope : Str
  key : Str
  limit : ℤ
  windowSeconds : ℤ
  now : Double
  documentTtlSeconds : Option Value

/-- The `bucket` of every document; an absent document has an empty one. -/
abbrev Store := Str → List Double

/-- mirrors 45-47 -/
def docId (scope key : Str) : Str :=
  scope ++ py "__" ++ key.map fun c => if c = 0x2f then 0x5f else c

def RateCall.doc (c : RateCall) : Str := docId c.scope c.key

/-- `float(window_seconds)` -/
def RateCall.window (c : RateCall) : Double := .ofRat c.windowSeconds

/-- The range of `datetime.fromtimestamp(x, tz=UTC)`, the years 1 to 9999. -/
def InTimestampRange (x : Double) : Prop := -62135596800 ≤ x.val ∧ x.val < 253402300800

instance (x : Double) : Decidable (InTimestampRange x) := inferInstanceAs (Decidable (_ ∧ _))

/-- `document_ttl_seconds` is usable, or not given.
mirrors 81-96 -/
def RateCall.ttlAccepted (c : RateCall) : Bool :=
  match c.documentTtlSeconds with
  | none => true
  | some (.number n) =>
    decide (c.window.val ≤ n.toFloat.val ∧ InTimestampRange (.ofRat (c.now.val + n.toFloat.val)))
  | some _ => false

/-- `current_time - float(window_seconds)` -/
def windowStart (window now : Double) : Double := .ofRat (now.val - window.val)

/-- `int(x)` -/
def truncate (x : Double) : ℤ := if 0 ≤ x.val then ⌊x.val⌋ else ⌈x.val⌉

/-- `min(bucket)` -/
def oldest (bucket : List Double) : Double := bucket.min?.getD (.ofRat 0)

/-- `max(1, int(oldest + window_seconds - current_time) + 1)` -/
def retryAfter (c : RateCall) (bucket : List Double) : ℤ :=
  max 1 (truncate (.ofRat ((Double.ofRat ((oldest bucket).val + c.window.val)).val - c.now.val)) + 1)

/-- `if len(bucket) > limit + 1: bucket = sorted(bucket)[-(limit + 1):]` -/
def capBucket (limit : ℕ) (bucket : List Double) : List Double :=
  if limit + 1 < bucket.length then
    let sorted := bucket.mergeSort fun a b => a ≤ b
    sorted.drop (sorted.length - (limit + 1))
  else bucket

/-- mirrors 56-161 -/
def checkAndIncrement : Machine Store RateCall RateLimitResult := fun store c =>
  if c.limit ≤ 0 ∨ c.windowSeconds ≤ 0 ∨ c.key = [] then
    (store, ⟨false, 0, c.windowSeconds, 0⟩)
  else if c.ttlAccepted = false then (store, ⟨false, 0, c.windowSeconds, c.limit⟩)
  else
    let bucket := (store c.doc).filter fun ts => windowStart c.window c.now < ts
    if c.limit ≤ bucket.length then
      (Function.update store c.doc bucket, ⟨false, 0, retryAfter c bucket, bucket.length⟩)
    else
      let bucket := capBucket c.limit.toNat (bucket ++ [c.now])
      (Function.update store c.doc bucket,
        ⟨true, max 0 (c.limit - bucket.length), 0, bucket.length⟩)

/-! ## One call -/

structure RateCall.Governed (c : RateCall) (limit window : ℤ) : Prop where
  limit_eq : c.limit = limit
  window_eq : c.windowSeconds = window
  key_ne : c.key ≠ []
  ttl : c.ttlAccepted = true

section

open SlidingWindow

variable {d : Str} {limit window : ℤ} {store : Store} {c : RateCall} {s : State Double}

abbrev start (window : ℤ) : Double → Double := windowStart (.ofRat window)

theorem start_mono (window : ℤ) : Monotone (start window) := by
  intro t u h
  exact Double.ofRat_le_ofRat (sub_le_sub_right (Double.le_def.mp h) _)

theorem checkAndIncrement_of_governed (hlimit : 0 < limit) (hwindow : 0 < window)
    (hc : c.Governed limit window) :
    checkAndIncrement store c =
      if limit ≤ (keep (start window) c.now (store c.doc)).length then
        (Function.update store c.doc (keep (start window) c.now (store c.doc)),
          ⟨false, 0, retryAfter c (keep (start window) c.now (store c.doc)),
            (keep (start window) c.now (store c.doc)).length⟩)
      else
        (Function.update store c.doc (keep (start window) c.now (store c.doc) ++ [c.now]),
          ⟨true, max 0 (limit - (keep (start window) c.now (store c.doc) ++ [c.now]).length), 0,
            (keep (start window) c.now (store c.doc) ++ [c.now]).length⟩) := by
  have hvalid : ¬ (c.limit ≤ 0 ∨ c.windowSeconds ≤ 0 ∨ c.key = []) := by
    rw [hc.limit_eq, hc.window_eq]
    rintro (h | h | h)
    · omega
    · omega
    · exact hc.key_ne h
  have hbucket : (store c.doc).filter (fun ts => windowStart c.window c.now < ts) =
      keep (start window) c.now (store c.doc) := by
    rw [keep, start, RateCall.window, hc.window_eq]
  unfold checkAndIncrement
  rw [if_neg hvalid, if_neg (by rw [hc.ttl]; exact Bool.true_eq_false_eq_False)]
  simp only [hbucket, hc.limit_eq]
  split
  · rfl
  · rename_i hroom
    have hcap : capBucket limit.toNat (keep (start window) c.now (store c.doc) ++ [c.now]) =
        keep (start window) c.now (store c.doc) ++ [c.now] := by
      refine if_neg ?_
      rw [List.length_append, List.length_singleton]
      omega
    rw [hcap]

theorem admits_iff (hlimit : 0 < limit) (t : Double) :
    admits (start window) limit.toNat s t ↔
      ¬ limit ≤ (keep (start window) t s.bucket).length := by
  unfold admits
  omega

/-- **A call under fixed parameters is a step of the abstract window.** -/
theorem step_governed (hlimit : 0 < limit) (hwindow : 0 < window) (hc : c.Governed limit window)
    (hstore : store c.doc = s.bucket) :
    (checkAndIncrement store c).1 c.doc =
        (advance (start window) limit.toNat s c.now).bucket ∧
      ((checkAndIncrement store c).2.allowed = true ↔
        admits (start window) limit.toNat s c.now) := by
  rw [checkAndIncrement_of_governed hlimit hwindow hc, hstore]
  by_cases hfull : limit ≤ (keep (start window) c.now s.bucket).length
  · have hrefused : ¬ admits (start window) limit.toNat s c.now := by
      rw [admits_iff hlimit]
      exact not_not_intro hfull
    rw [if_pos hfull, advance_of_not_admits hrefused]
    exact ⟨Function.update_self .., iff_of_false Bool.false_ne_true hrefused⟩
  · have hadmits := (admits_iff hlimit c.now).mpr hfull
    rw [if_neg hfull, advance_of_admits hadmits]
    exact ⟨Function.update_self .., iff_of_true rfl hadmits⟩

theorem checkAndIncrement_other (store : Store) (hd : c.doc ≠ d) :
    (checkAndIncrement store c).1 d = store d := by
  unfold checkAndIncrement
  split
  · rfl
  split
  · rfl
  simp only
  split
  · exact Function.update_of_ne (Ne.symm hd) ..
  · exact Function.update_of_ne (Ne.symm hd) ..

end

/-! ## Runs -/

section

open SlidingWindow

variable {d : Str} {limit window : ℤ} {store : Store} {s : State Double} {calls : List RateCall}

def timesOf (d : Str) (calls : List RateCall) : List Double :=
  (calls.filter fun c => c.doc = d).map RateCall.now

def allowedTimes (d : Str) (log : List (Event Store RateCall RateLimitResult)) : List Double :=
  (log.filter fun e => decide (e.call.doc = d) && e.resp.allowed).map fun e => e.call.now

theorem timesOf_cons_self {c : RateCall} (h : c.doc = d) :
    timesOf d (c :: calls) = c.now :: timesOf d calls := by
  simp only [timesOf, List.filter_cons, h, decide_true, if_true, List.map_cons]

theorem timesOf_cons_other {c : RateCall} (h : c.doc ≠ d) :
    timesOf d (c :: calls) = timesOf d calls := by
  simp only [timesOf, List.filter_cons, h, decide_false, Bool.false_eq_true, if_false]

theorem allowedTimes_cons_allowed {e : Event Store RateCall RateLimitResult}
    {log : List (Event Store RateCall RateLimitResult)} (hd : e.call.doc = d)
    (h : e.resp.allowed = true) : allowedTimes d (e :: log) = e.call.now :: allowedTimes d log := by
  simp only [allowedTimes, List.filter_cons, hd, h, decide_true, Bool.and_true, if_true,
    List.map_cons]

theorem allowedTimes_cons_other {e : Event Store RateCall RateLimitResult}
    {log : List (Event Store RateCall RateLimitResult)}
    (h : e.call.doc = d → e.resp.allowed = false) :
    allowedTimes d (e :: log) = allowedTimes d log := by
  rw [allowedTimes, List.filter_cons_of_neg, allowedTimes]
  rw [Bool.and_eq_true, decide_eq_true_eq]
  rintro ⟨hd, hallowed⟩
  rw [h hd] at hallowed
  cases hallowed

/-- **A run computes the abstract window** of every document whose calls have fixed parameters. -/
theorem run_governed (hlimit : 0 < limit) (hwindow : 0 < window)
    (hcalls : ∀ c ∈ calls, c.doc = d → c.Governed limit window) (hstore : store d = s.bucket) :
    checkAndIncrement.run store calls d =
        ((timesOf d calls).foldl (advance (start window) limit.toNat) s).bucket ∧
      ((timesOf d calls).foldl (advance (start window) limit.toNat) s).admitted =
        s.admitted ++ allowedTimes d (checkAndIncrement.log store calls) := by
  induction calls generalizing store s with
  | nil => exact ⟨hstore, (List.append_nil _).symm⟩
  | cons c calls ih =>
    have hrest := fun c' hc' => hcalls c' (List.mem_cons_of_mem _ hc')
    rw [Machine.run_cons, Machine.log_cons]
    by_cases hd : c.doc = d
    · have hc := hcalls c List.mem_cons_self hd
      subst hd
      obtain ⟨hbucket, hallowed⟩ := step_governed hlimit hwindow hc hstore
      obtain ⟨hrun, hadmitted⟩ := ih hrest hbucket
      rw [timesOf_cons_self rfl, List.foldl_cons]
      refine ⟨hrun, hadmitted.trans ?_⟩
      by_cases hadmits : admits (start window) limit.toNat s c.now
      · have hlog : allowedTimes c.doc (checkAndIncrement.event store c ::
            checkAndIncrement.log (checkAndIncrement store c).1 calls) =
              c.now :: allowedTimes c.doc (checkAndIncrement.log (checkAndIncrement store c).1 calls) :=
          allowedTimes_cons_allowed rfl (hallowed.mpr hadmits)
        rw [advance_of_admits hadmits, hlog, List.append_assoc, List.singleton_append]
      · rw [advance_of_not_admits hadmits, allowedTimes_cons_other]
        intro _
        exact Bool.eq_false_iff.mpr fun h => hadmits (hallowed.mp h)
    · have hother := checkAndIncrement_other store hd
      obtain ⟨hrun, hadmitted⟩ := ih hrest (hother.trans hstore)
      rw [timesOf_cons_other hd]
      refine ⟨hrun, hadmitted.trans ?_⟩
      rw [allowedTimes_cons_other fun h => absurd h hd]

theorem refuses_of_log (hlimit : 0 < limit) (hwindow : 0 < window)
    (hcalls : ∀ c ∈ calls, c.doc = d → c.Governed limit window) (hstore : store d = s.bucket)
    (hlog : ∀ e ∈ checkAndIncrement.log store calls, e.call.doc = d → e.resp.allowed = false) :
    Refuses (start window) limit.toNat s (timesOf d calls) := by
  induction calls generalizing store s with
  | nil => trivial
  | cons c calls ih =>
    have hrest := fun c' hc' => hcalls c' (List.mem_cons_of_mem _ hc')
    rw [Machine.log_cons] at hlog
    have hlater := fun e he => hlog e (List.mem_cons_of_mem _ he)
    by_cases hd : c.doc = d
    · have hc := hcalls c List.mem_cons_self hd
      have hdenied := hlog _ List.mem_cons_self hd
      subst hd
      obtain ⟨hbucket, hallowed⟩ := step_governed hlimit hwindow hc hstore
      rw [timesOf_cons_self rfl]
      refine ⟨fun hadmits => ?_, ih hrest hbucket hlater⟩
      rw [Machine.event_resp, hallowed.mpr hadmits] at hdenied
      cases hdenied
    · rw [timesOf_cons_other hd]
      exact ih hrest ((checkAndIncrement_other store hd).trans hstore) hlater

end

/-! ## Every window -/

section

open SlidingWindow

variable {d : Str} {limit window : ℤ} {calls : List RateCall}

structure FixedCalls (d : Str) (limit window : ℤ) (calls : List RateCall) : Prop where
  governed : ∀ c ∈ calls, c.doc = d → c.Governed limit window
  ordered : (timesOf d calls).Pairwise (· ≤ ·)

def ExactTime (t : Double) : Prop := 0 ≤ t.val ∧ t.val < 2 ^ 53

instance (t : Double) : Decidable (ExactTime t) := inferInstanceAs (Decidable (_ ∧ _))

theorem start_lt {e t : Double} (hwindow : 0 < window) (he : 0 ≤ e.val) (ht : ExactTime t)
    (h : t.val - window < e.val) : start window t < e := by
  obtain ⟨w, rfl⟩ := Int.eq_ofNat_of_zero_le hwindow.le
  rw [Double.lt_def]
  rcases le_or_gt (w : ℚ) t.val with hle | hgt
  · have hw : rnd ((w : ℤ) : ℚ) = w := by
      have hlt : w < 2 ^ 53 := by exact_mod_cast hle.trans_lt ht.2
      exact_mod_cast rnd_natCast hlt
    have hexact : (start w t).val = t.val - w := by
      rw [start, windowStart, Double.ofRat_val, Double.ofRat_val, hw]
      exact rnd_sub_natCast ht.2 hle
    rw [hexact]
    exact_mod_cast h
  · have hw : t.val < rnd ((w : ℤ) : ℚ) := by
      rcases (t.le_rnd_of_le (q := ((w : ℤ) : ℚ)) (by exact_mod_cast hgt.le)).lt_or_eq with h | h
      · exact h
      · exfalso
        rcases lt_or_ge w (2 ^ 53) with hsmall | hlarge
        · have hw : rnd ((w : ℤ) : ℚ) = w := by exact_mod_cast rnd_natCast hsmall
          rw [hw] at h
          exact absurd h hgt.ne
        · have hbound : ((2 ^ 53 : ℤ) : ℚ) ≤ rnd ((w : ℤ) : ℚ) :=
            intCast_le_rnd (by norm_num) (by norm_num) (by exact_mod_cast hlarge)
          have := ht.2
          rw [h] at this
          push_cast at hbound
          exact absurd this (not_lt.mpr hbound)
    calc (start w t).val < 0 := rnd_neg_of_neg (sub_neg.mpr hw)
      _ ≤ e.val := he

theorem oldest_le_start {o t u : Double} {r : ℤ}
    (hr : r = max 1 (truncate (.ofRat ((Double.ofRat (o.val + (Double.ofRat window).val)).val -
      t.val)) + 1)) (hmax : r ≤ 2 ^ 53) (hu : t.val + r ≤ u.val) : o ≤ start window u := by
  by_contra hlt
  have hreal : u.val < o.val + (Double.ofRat window).val := by
    by_contra hge
    refine hlt (Double.le_rnd_of_le ?_)
    linarith
  have hpos : 1 ≤ r := hr ▸ le_max_left _ _
  have hsum : u.val ≤ (Double.ofRat (o.val + (Double.ofRat window).val)).val :=
    u.le_rnd_of_le hreal.le
  have hwait : (r : ℚ) ≤
      (Double.ofRat ((Double.ofRat (o.val + (Double.ofRat window).val)).val - t.val)).val :=
    intCast_le_rnd hmax (by omega) (by linarith)
  have hnonneg : (0 : ℚ) ≤
      (Double.ofRat ((Double.ofRat (o.val + (Double.ofRat window).val)).val - t.val)).val :=
    le_trans (by exact_mod_cast (by omega : (0 : ℤ) ≤ r)) hwait
  have htrunc : r ≤ truncate
      (.ofRat ((Double.ofRat (o.val + (Double.ofRat window).val)).val - t.val)) := by
    rw [truncate, if_pos hnonneg]
    exact Int.le_floor.mpr hwait
  have hnext := le_max_right 1 (truncate
    (.ofRat ((Double.ofRat (o.val + (Double.ofRat window).val)).val - t.val)) + 1)
  omega

theorem oldest_mem {bucket : List Double} (h : bucket ≠ []) : oldest bucket ∈ bucket := by
  obtain ⟨a, ha⟩ := Option.isSome_iff_exists.mp (List.isSome_min?_of_ne_nil h)
  rw [oldest, ha, Option.getD_some]
  exact List.min?_mem ha

def noDocuments : Store := fun _ => []

/-- So many calls of the document are allowed in `(t - window, t]`. -/
def allowedIn (d : Str) (window : ℤ) (calls : List RateCall) (t : ℚ) : ℕ :=
  ((allowedTimes d (checkAndIncrement.log noDocuments calls)).filter fun e =>
    decide (t - window < e.val ∧ e.val ≤ t)).length

/-- No window of time has more allowed calls than `limit`. -/
def WindowBound (d : Str) (limit window : ℤ) (calls : List RateCall) : Prop :=
  ∀ t : ℚ, (allowedIn d window calls t : ℤ) ≤ limit

/-- A call that comes when `retry_after` has passed, or later, and before which none was allowed,
is allowed. A wait past 2^53 is no exact float. -/
def RetryHolds (d : Str) (calls : List RateCall) : Prop :=
  ∀ before denied between next after,
    checkAndIncrement.log noDocuments calls = before ++ denied :: (between ++ next :: after) →
    denied.call.doc = d → denied.resp.allowed = false →
    (∀ e ∈ between, e.call.doc = d → e.resp.allowed = false) →
    next.call.doc = d → denied.resp.retryAfterSeconds ≤ 2 ^ 53 →
    denied.call.now.val + (denied.resp.retryAfterSeconds : ℚ) ≤ next.call.now.val →
    next.resp.allowed = true

theorem windowBound_of_fixed (hlimit : 0 < limit) (hwindow : 0 < window)
    (hcalls : FixedCalls d limit window calls) (htimes : ∀ t ∈ timesOf d calls, ExactTime t) :
    WindowBound d limit window calls := by
  intro t
  have hadmitted := (run_governed hlimit hwindow hcalls.governed
    (show noDocuments d = (⟨[], []⟩ : State Double).bucket from rfl)).2
  rw [List.nil_append] at hadmitted
  have hin : ∀ e ∈ timesOf d calls, ∀ u ∈ timesOf d calls,
      decide (t - window < e.val ∧ e.val ≤ t) = true →
        decide (t - window < u.val ∧ u.val ≤ t) = true → start window u < e := by
    intro e he u hu hpe hpu
    have hpe := of_decide_eq_true hpe
    have hpu := of_decide_eq_true hpu
    exact start_lt hwindow (htimes e he).1 (htimes u hu) (by linarith [hpe.1, hpu.2])
  have hbound : ((SlidingWindow.run (start window) limit.toNat (timesOf d calls)).admitted.filter
      fun e => decide (t - window < e.val ∧ e.val ≤ t)).length ≤ limit.toNat :=
    length_admitted_le (start_mono window) hcalls.ordered hin
  rw [run, hadmitted] at hbound
  rw [allowedIn]
  omega

theorem retryHolds_of_fixed (hlimit : 0 < limit) (hwindow : 0 < window)
    (hcalls : FixedCalls d limit window calls) : RetryHolds d calls := by
  intro before denied between next after hlog hd hdenied hbetween hnext hmax hlater
  obtain ⟨cs₁, c, cs₂, rfl, rfl, rfl, hrest⟩ := checkAndIncrement.log_eq_append_cons hlog
  obtain ⟨cs₃, c', cs₄, rfl, rfl, rfl, -⟩ := checkAndIncrement.log_eq_append_cons hrest.symm
  have hgoverned := hcalls.governed
  have hbefore := fun x hx => hgoverned x (List.mem_append_left _ hx)
  have hc := hgoverned c (List.mem_append_right _ List.mem_cons_self) hd
  have hmiddle := fun x hx => hgoverned x (List.mem_append_right _
    (List.mem_cons_of_mem _ (List.mem_append_left _ hx)))
  have hc' := hgoverned c' (List.mem_append_right _ (List.mem_cons_of_mem _
    (List.mem_append_right _ List.mem_cons_self))) hnext
  have hstore := (run_governed hlimit hwindow hbefore
    (show noDocuments d = (⟨[], []⟩ : State Double).bucket from rfl)).1
  simp only [Machine.event_call, Machine.event_resp] at hd hdenied hnext hmax hlater ⊢
  subst hd
  set s := (timesOf c.doc cs₁).foldl (advance (start window) limit.toNat) ⟨[], []⟩
  obtain ⟨hbucket, hallowed⟩ := step_governed hlimit hwindow hc hstore
  have hrefused : ¬ admits (start window) limit.toNat s c.now := by
    intro hadmits
    rw [hallowed.mpr hadmits] at hdenied
    cases hdenied
  have hrefuses := refuses_of_log hlimit hwindow hmiddle hbucket hbetween
  have hfinal := (run_governed hlimit hwindow hmiddle hbucket).1
  rw [← hnext] at hfinal
  refine (step_governed hlimit hwindow hc' hfinal).2.mpr ?_
  -- the oldest entry that was kept has left the window by then
  have hfull : limit ≤ (keep (start window) c.now s.bucket).length := by
    rw [admits_iff hlimit] at hrefused
    exact not_not.mp hrefused
  have hne : keep (start window) c.now s.bucket ≠ [] := by
    intro hnil
    rw [hnil, List.length_nil] at hfull
    omega
  have hretry : (checkAndIncrement (checkAndIncrement.run noDocuments cs₁) c).2.retryAfterSeconds =
      retryAfter c (keep (start window) c.now s.bucket) := by
    rw [checkAndIncrement_of_governed hlimit hwindow hc, hstore, if_pos hfull]
  rw [hretry] at hmax hlater
  refine admitted_after_refusal (length_bucket_le _) hrefused ?_ (oldest_mem hne)
    (oldest_le_start (t := c.now) ?_ hmax hlater)
  · rw [hnext]
    exact hrefuses
  · rw [retryAfter, RateCall.window, hc.window_eq]

/-- **The window and the retry.** -/
theorem window_and_retry (hlimit : 0 < limit) (hwindow : 0 < window)
    (hcalls : FixedCalls d limit window calls) :
    ((∀ t ∈ timesOf d calls, ExactTime t) → WindowBound d limit window calls) ∧
      RetryHolds d calls :=
  ⟨windowBound_of_fixed hlimit hwindow hcalls, retryHolds_of_fixed hlimit hwindow hcalls⟩

end

/-! ## Three calls, and two limits of the promise -/

def callAt (limit window : ℤ) (now : ℕ) : RateCall :=
  ⟨py "demo", py "caller", limit, window, .ofRat now, none⟩

theorem callAt_governed (limit window : ℤ) (now : ℕ) :
    (callAt limit window now).Governed limit window :=
  ⟨rfl, rfl, List.cons_ne_nil _ _, rfl⟩

def exampleCalls : List RateCall := [callAt 1 60 1000, callAt 1 60 1010, callAt 1 60 1061]

def exampleDoc : Str := docId (py "demo") (py "caller")

theorem exampleCalls_fixed : FixedCalls exampleDoc 1 60 exampleCalls := by
  refine ⟨?_, by decide +kernel⟩
  intro c hc _
  rcases List.mem_cons.mp hc with rfl | hc
  · exact callAt_governed 1 60 1000
  rcases List.mem_cons.mp hc with rfl | hc
  · exact callAt_governed 1 60 1010
  obtain rfl := List.mem_singleton.mp hc
  exact callAt_governed 1 60 1061

theorem exampleCalls_hold :
    WindowBound exampleDoc 1 60 exampleCalls ∧ RetryHolds exampleDoc exampleCalls := by
  obtain ⟨hwindow, hretry⟩ := window_and_retry (by decide) (by decide) exampleCalls_fixed
  exact ⟨hwindow (by decide +kernel), hretry⟩

/-- One call is allowed, the next is told to wait for 51 seconds, and does. -/
example : (checkAndIncrement.log noDocuments exampleCalls).map Event.resp =
    [⟨true, 0, 0, 1⟩, ⟨false, 0, 51, 1⟩, ⟨true, 0, 0, 1⟩] := by
  decide +kernel

/-- A limit of zero refuses for ever. Under a limit of one, two calls in one instant past 2^53 are
allowed: the float subtraction rounds the beginning of the window up to that instant. -/
theorem exampleLimits :
    ¬ RetryHolds exampleDoc [callAt 0 60 1000, callAt 0 60 1060] ∧
      ¬ WindowBound exampleDoc 1 1 [callAt 1 1 9007199254740996, callAt 1 1 9007199254740996] := by
  constructor
  · intro h
    have hallowed := h [] (checkAndIncrement.event noDocuments (callAt 0 60 1000)) []
      (checkAndIncrement.event noDocuments (callAt 0 60 1060)) [] rfl rfl rfl
      (by intro e he; cases he) rfl (by decide +kernel) (by decide +kernel)
    cases hallowed
  · intro h
    have htwo : allowedIn exampleDoc 1
        [callAt 1 1 9007199254740996, callAt 1 1 9007199254740996] 9007199254740996 = 2 := by
      decide +kernel
    have hone := h 9007199254740996
    rw [htwo] at hone
    exact absurd hone (by decide)

end HeyKevin.L3.RateLimits
