import HeyKevin.Core.Binary64Order
import HeyKevin.L1Encoding.Sha256
import HeyKevin.L6Billing.AppStore
import Mathlib.Data.List.Nodup
import Mathlib.Data.Prod.Lex
import Mathlib.Order.WithBot
/-!
# Replay of missed notifications

mirrors `replay` of app/services/appstore_replay.py: every item is verified,
what is verified is sorted by its date, and then each is summarized, checked
for being stale, and handed to the handler.

**Model.** The verifier, the lookup and the handler may answer an item in any
way, so each is a function of the position of the item in the input; a missing
answer is an exception. Of a summary only the type is kept: what else it holds
is printed and cannot fail.

* `processItem_ok`: what one item does to the report.
* `replay_accounts_iff`: **the report accounts for every item** exactly where
  no value breaks off the run and no rounding hides an order or an excess.

Line numbers are those of app/services/appstore_replay.py.
-/
namespace HeyKevin.L6.Replay

open HeyKevin.Core Binary64 L1 L1.Text L6.AppStore

/-! ## JSON -/

mutual

def isJson : Value → Bool
  | .none | .bool _ | .number _ | .str _ => true
  | .nonFinite f => decide (f ≠ .nan)
  | .time _ => false
  | .list xs => areJson xs
  | .dict kvs => entriesAreJson kvs

def areJson : List Value → Bool
  | [] => true
  | x :: xs => isJson x && areJson xs

def entriesAreJson : List (String × Value) → Bool
  | [] => true
  | (_, x) :: kvs => isJson x && entriesAreJson kvs

end

structure Payload where
  fields : Dict
  json : entriesAreJson fields = true

structure HistoryItem where
  signedPayload : Str
  sendAttempts : List Value

/-! ## Numbers -/

/-- The integers from which on `float(z)` raises `OverflowError`. -/
def floatOverflow : ℤ := 2 ^ 1024 - 2 ^ 970

/-- `isinstance(v, (int, float)) and not isinstance(v, bool)` -/
def isNumber : Value → Bool
  | .number _ | .nonFinite _ => true
  | _ => false

/-- `float(v)` raises. -/
def overflows : Value → Bool
  | .number (.int z) => decide (floatOverflow ≤ |z|)
  | _ => false

/-- `float(v)` of a number -/
def toFloat (v : Value) : Except String AppStore.PyFloat :=
  if overflows v then .error "int too large to convert to float"
  else
    match v with
    | .number n => .ok (.finite n.toFloat)
    | .nonFinite f => .ok (.nonFinite f)
    | _ => .error "float() argument must be a number"

abbrev Extended := WithBot (WithTop ℚ)

def Extended.ofRat (q : ℚ) : Extended := ((q : WithTop ℚ) : Extended)

/-- Where a number is on the line; a NaN is nowhere. -/
def place : Value → Option Extended
  | .number n => some (.ofRat n.val)
  | .nonFinite .inf => some ⊤
  | .nonFinite .negInf => some ⊥
  | _ => none

def PyFloat.place : AppStore.PyFloat → Option Extended
  | .finite d => some (.ofRat d.val)
  | .nonFinite .inf => some ⊤
  | .nonFinite .negInf => some ⊥
  | .nonFinite .nan => none

/-- `a > b` -/
def gt (a b : Option Extended) : Bool :=
  match a, b with
  | some a, some b => decide (b < a)
  | _, _ => false

/-! ## Staleness -/

/-- `_DEACTIVATING_NOTIFICATION_TYPES` -/
def isDeactivating (notificationType : Str) : Bool :=
  ["EXPIRED", "DID_FAIL_TO_RENEW", "GRACE_PERIOD_EXPIRED", "REFUND", "REVOKE"].any
    fun t => notificationType == py t

/-- mirrors 166-181 -/
def decodeDataSignedField (E : Env) (data : Value) (key : String) : Option Dict :=
  match data with
  | .dict data =>
    match Dict.get data key with
    | .str signed =>
      if signed.isEmpty then none
      else
        match E.decodeJws signed with
        | .dict decoded => some decoded
        | _ => none
    | _ => none
  | _ => none

def notificationType (E : Env) (payload : Payload) : Str :=
  E.python.strOrEmpty (payload.fields.get "notificationType")

/-- The account's end and the notification's, in milliseconds, where both are there to compare.
mirrors 240-269 (`_is_stale_deactivation`) -/
def comparedEnds (E : Env) (lookup : Str → Option Value) (payload : Payload) :
    Option (Value × Value) :=
  if isDeactivating (notificationType E payload) then
    match decodeDataSignedField E (payload.fields.get "data") "signedTransactionInfo" with
    | none => none
    | some transactionInfo =>
      match Dict.get transactionInfo "appAccountToken" with
      | .str appAccountToken =>
        if appAccountToken.isEmpty then none
        else if isNumber (Dict.get transactionInfo "expiresDate") then
          match lookup appAccountToken with
          | some (.dict contractor) =>
            if isNumber (Dict.get contractor "subscription_expires") then
              some (Dict.get contractor "subscription_expires",
                Dict.get transactionInfo "expiresDate")
            else none
          | _ => none
        else none
      | _ => none
  else none

/-- `expires / 1000.0 + 1.0` -/
def termEnd : AppStore.PyFloat → AppStore.PyFloat
  | .finite d => .finite (.ofRat ((Number.divInt (.float d) 1000).val + 1))
  | .nonFinite f => .nonFinite f

/-- mirrors 206-276, without the texts
of the dates -/
def isStaleDeactivation (E : Env) (lookup : Str → Option Value) (payload : Payload) :
    Except String Bool :=
  match comparedEnds E lookup payload with
  | none => .ok false
  | some (storedExpires, expiresMs) => do
    let stored ← toFloat storedExpires
    let expires ← toFloat expiresMs
    .ok (gt (PyFloat.place stored) (PyFloat.place (termEnd expires)))

/-- mirrors 279-303: the type, if nothing fails -/
def summarize (E : Env) (payload : Payload) (attempts : List Value) : Except String Str :=
  match attempts.getLast? with
  | none | some (.dict _) => .ok (notificationType E payload)
  | some _ => .error "object has no attribute 'get'"

/-! ## The run -/

structure Answers where
  verify : ℕ → Str → Option Payload
  lookup : ℕ → Str → Option Value
  handler : ℕ → Payload → Option Bool

structure Entry where
  idx : ℕ
  payload : Payload
  attempts : List Value

/-- `ReplayReport` -/
structure Report where
  fetched : ℕ
  rejected : ℕ
  staleSkipped : ℕ
  dryRun : ℕ
  applied : ℕ
  handlerFalse : ℕ
  handlerError : ℕ
  byType : Entries Str ℕ
  staleByType : Entries Str ℕ

def Report.empty (fetched rejected : ℕ) : Report := ⟨fetched, rejected, 0, 0, 0, 0, 0, [], []⟩

/-- How many items were rejected, and the verified ones, numbered from `idx` on. -/
def verifyItems (A : Answers) : ℕ → List HistoryItem → ℕ × List Entry
  | _, [] => (0, [])
  | idx, item :: items =>
    let (rejected, verified) := verifyItems A (idx + 1) items
    match A.verify idx item.signedPayload with
    | none => (rejected + 1, verified)
    | some payload => (rejected, ⟨idx, payload, item.sendAttempts⟩ :: verified)

abbrev Key := ℕ ×ₗ Extended ×ₗ ℕ

def signedDate (e : Entry) : Value := e.payload.fields.get "signedDate"

/-- mirrors 335-341 -/
def sortKey (e : Entry) : Except String Key :=
  if isNumber (signedDate e) then do
    let date ← toFloat (signedDate e)
    .ok (toLex (1, toLex ((PyFloat.place date).getD ⊤, e.idx)))
  else .ok (toLex (0, toLex (.ofRat 0, e.idx)))

/-- `verified.sort(key=_sort_key)` -/
def sortEntries (verified : List Entry) : Except String (List Entry) := do
  let keyed ← verified.mapM fun e => (sortKey e).map fun key => (key, e)
  .ok ((keyed.mergeSort fun a b => decide (a.1 ≤ b.1)).map Prod.snd)

/-- `counts[key] = counts.get(key, 0) + 1` -/
def bump (counts : Entries Str ℕ) (key : Str) : Entries Str ℕ :=
  counts.set key ((counts.find? key).getD 0 + 1)

structure Progress where
  report : Report
  calls : List Entry

/-- mirrors 388-424 -/
def processItem (E : Env) (A : Answers) (apply : Bool) (p : Progress) (e : Entry) :
    Except String Progress := do
  let summaryType ← summarize E e.payload e.attempts
  let type := if summaryType.isEmpty then py "UNKNOWN" else summaryType
  let stale ← isStaleDeactivation E (A.lookup e.idx) e.payload
  if stale then
    .ok { p with report := { p.report with
      staleSkipped := p.report.staleSkipped + 1
      staleByType := bump p.report.staleByType type } }
  else
    let report := { p.report with byType := bump p.report.byType type }
    if !apply then .ok { p with report := { report with dryRun := report.dryRun + 1 } }
    else
      let calls := p.calls ++ [e]
      match A.handler e.idx e.payload with
      | none => .ok ⟨{ report with handlerError := report.handlerError + 1 }, calls⟩
      | some true => .ok ⟨{ report with applied := report.applied + 1 }, calls⟩
      | some false => .ok ⟨{ report with handlerFalse := report.handlerFalse + 1 }, calls⟩

/-- mirrors 344-426 -/
def replay (E : Env) (A : Answers) (apply : Bool) (items : List HistoryItem) :
    Except String Progress := do
  let (rejected, verified) := verifyItems A 0 items
  let sorted ← sortEntries verified
  sorted.foldlM (processItem E A apply) ⟨Report.empty items.length rejected, []⟩

/-! ## What is expected of the report -/

def NotStale (E : Env) (A : Answers) (e : Entry) : Prop :=
  isStaleDeactivation E (A.lookup e.idx) e.payload = .ok false

def total (counts : Entries Str ℕ) : ℕ := (counts.map Prod.snd).sum

def Report.handled (r : Report) : ℕ := r.dryRun + r.applied + r.handlerFalse + r.handlerError

def isObject : Value → Bool
  | .dict _ => true
  | _ => false

/-- `float(v)` on the line -/
def roundedPlace : Value → Option Extended
  | .number n => some (.ofRat n.toFloat.val)
  | v => place v

def roundedEnd : Value → Option Extended
  | .number n => some (.ofRat (rnd ((Number.divInt (.float n.toFloat) 1000).val + 1)))
  | v => place v

theorem toFloat_eq {v : Value} (hnumber : isNumber v = true) (h : overflows v = false) :
    ∃ f, toFloat v = .ok f ∧ PyFloat.place f = roundedPlace v ∧
      PyFloat.place (termEnd f) = roundedEnd v := by
  unfold toFloat
  rw [h, if_neg Bool.false_ne_true]
  cases v with
  | number n => exact ⟨_, rfl, rfl, rfl⟩
  | nonFinite f => cases f <;> exact ⟨_, rfl, rfl, rfl⟩
  | none => cases hnumber
  | bool _ => cases hnumber
  | str _ => cases hnumber
  | time _ => cases hnumber
  | list _ => cases hnumber
  | dict _ => cases hnumber

theorem toFloat_overflow {v : Value} (h : overflows v = true) : ∃ m, toFloat v = .error m :=
  ⟨_, if_pos h⟩

theorem overflows_number {v : Value} (h : overflows v = true) : isNumber v = true := by
  cases v <;> first | rfl | cases h

theorem isNumber_ends {E : Env} {lookup : Str → Option Value} {payload : Payload}
    {storedExpires expiresMs : Value}
    (h : comparedEnds E lookup payload = some (storedExpires, expiresMs)) :
    isNumber storedExpires = true ∧ isNumber expiresMs = true := by
  unfold comparedEnds at h
  repeat' split at h
  all_goals cases h
  rename_i hexpires _ _ _ hstored
  exact ⟨hstored, hexpires⟩

theorem isStaleDeactivation_eq {E : Env} {lookup : Str → Option Value} {payload : Payload}
    {storedExpires expiresMs : Value}
    (h : comparedEnds E lookup payload = some (storedExpires, expiresMs))
    (hstored : overflows storedExpires = false) (hexpires : overflows expiresMs = false) :
    isStaleDeactivation E lookup payload =
      .ok (gt (roundedPlace storedExpires) (roundedEnd expiresMs)) := by
  obtain ⟨hnumber, hnumber'⟩ := isNumber_ends h
  obtain ⟨stored, hs, hplace, -⟩ := toFloat_eq hnumber hstored
  obtain ⟨expires, he, -, hend⟩ := toFloat_eq hnumber' hexpires
  rw [isStaleDeactivation, h]
  simp only
  rw [hs, ok_bind, he, ok_bind, hplace, hend]

theorem isStaleDeactivation_none {E : Env} {lookup : Str → Option Value} {payload : Payload}
    (h : comparedEnds E lookup payload = none) :
    isStaleDeactivation E lookup payload = .ok false := by
  rw [isStaleDeactivation, h]

theorem isStaleDeactivation_overflow {E : Env} {lookup : Str → Option Value} {payload : Payload}
    {storedExpires expiresMs : Value}
    (h : comparedEnds E lookup payload = some (storedExpires, expiresMs))
    (hover : overflows storedExpires = true ∨ overflows expiresMs = true) :
    ∃ m, isStaleDeactivation E lookup payload = .error m := by
  rw [isStaleDeactivation, h]
  simp only
  cases hstored : toFloat storedExpires with
  | error m => exact ⟨m, rfl⟩
  | ok stored =>
    rcases hover with hover | hover
    · obtain ⟨m, hm⟩ := toFloat_overflow hover
      rw [hm] at hstored
      cases hstored
    · obtain ⟨m, hm⟩ := toFloat_overflow hover
      rw [ok_bind, hm]
      exact ⟨m, rfl⟩

/-! ## Verification -/

theorem verifyItems_pairwise (A : Answers) (items : List HistoryItem) :
    ∀ idx, (∀ e ∈ (verifyItems A idx items).2, idx ≤ e.idx) ∧
      (verifyItems A idx items).2.Pairwise fun a b => a.idx < b.idx := by
  induction items with
  | nil => exact fun _ => ⟨List.forall_mem_nil _, .nil⟩
  | cons item items ih =>
    intro idx
    obtain ⟨hle, hpairwise⟩ := ih (idx + 1)
    simp only [verifyItems]
    cases A.verify idx item.signedPayload with
    | none => exact ⟨fun e he => (Nat.le_succ idx).trans (hle e he), hpairwise⟩
    | some payload =>
      refine ⟨?_, List.pairwise_cons.mpr ⟨fun e he => hle e he, hpairwise⟩⟩
      exact List.forall_mem_cons.mpr ⟨le_rfl, fun e he => (Nat.le_succ idx).trans (hle e he)⟩

/-! ## Sorting -/

def keyOf (e : Entry) : Key :=
  if isNumber (signedDate e) then toLex (1, toLex ((roundedPlace (signedDate e)).getD ⊤, e.idx))
  else toLex (0, toLex (.ofRat 0, e.idx))

theorem sortKey_eq {e : Entry} (h : overflows (signedDate e) = false) :
    sortKey e = .ok (keyOf e) := by
  unfold sortKey keyOf
  split
  · rename_i hnumber
    obtain ⟨f, hf, hplace, -⟩ := toFloat_eq hnumber h
    rw [hf, ok_bind, hplace]
  · rfl

theorem sortKey_overflow {e : Entry} (h : overflows (signedDate e) = true) :
    ∃ m, sortKey e = .error m := by
  obtain ⟨m, hm⟩ := toFloat_overflow h
  refine ⟨m, ?_⟩
  rw [sortKey, if_pos (overflows_number h), hm]
  rfl

def sortedByKey (verified : List Entry) : List Entry :=
  ((verified.map fun e => (keyOf e, e)).mergeSort fun a b => decide (a.1 ≤ b.1)).map Prod.snd

theorem sortEntries_eq {verified : List Entry}
    (h : ∀ e ∈ verified, overflows (signedDate e) = false) :
    sortEntries verified = .ok (sortedByKey verified) := by
  have hkeyed : verified.mapM (fun e => (sortKey e).map fun key => (key, e)) =
      .ok (verified.map fun e => (keyOf e, e)) := by
    rw [mapM_eq_ok, List.forall₂_map_right_iff, List.forall₂_same]
    intro e he
    rw [sortKey_eq (h e he)]
    rfl
  rw [sortEntries, hkeyed]
  rfl

theorem sortEntries_dates {verified sorted : List Entry} (h : sortEntries verified = .ok sorted) :
    ∀ e ∈ verified, overflows (signedDate e) = false := by
  obtain ⟨keyed, hkeyed, -⟩ := bind_eq_ok.mp h
  intro e he
  obtain ⟨key, -, hkey⟩ := mapM_of_mem hkeyed he
  cases hover : overflows (signedDate e) with
  | false => rfl
  | true =>
    obtain ⟨m, hm⟩ := sortKey_overflow hover
    rw [hm] at hkey
    cases hkey

theorem sortedByKey_perm (verified : List Entry) : (sortedByKey verified).Perm verified := by
  have hperm := (List.mergeSort_perm (verified.map fun e => (keyOf e, e))
    fun a b => decide (a.1 ≤ b.1)).map Prod.snd
  rw [List.map_map] at hperm
  simpa [sortedByKey, Function.comp_def] using hperm

structure Sound (E : Env) (A : Answers) (e : Entry) : Prop where
  attempts : ∀ last, e.attempts.getLast? = some last → isObject last = true
  ends : ∀ storedExpires expiresMs,
    comparedEnds E (A.lookup e.idx) e.payload = some (storedExpires, expiresMs) →
      overflows storedExpires = false ∧ overflows expiresMs = false

theorem summarize_ok_iff {E : Env} {payload : Payload} {attempts : List Value} :
    (∃ type, summarize E payload attempts = .ok type) ↔
      ∀ last, attempts.getLast? = some last → isObject last = true := by
  unfold summarize
  cases attempts.getLast? with
  | none => simp
  | some last => cases last <;> simp [isObject]

theorem stale_ok_iff {E : Env} {lookup : Str → Option Value} {payload : Payload} :
    (∃ stale, isStaleDeactivation E lookup payload = .ok stale) ↔
      ∀ storedExpires expiresMs, comparedEnds E lookup payload = some (storedExpires, expiresMs) →
        overflows storedExpires = false ∧ overflows expiresMs = false := by
  cases hends : comparedEnds E lookup payload with
  | none =>
    refine iff_of_true ⟨false, isStaleDeactivation_none hends⟩ ?_
    intro _ _ hnone
    cases hnone
  | some ends =>
    obtain ⟨storedExpires, expiresMs⟩ := ends
    constructor
    · rintro ⟨stale, hstale⟩ _ _ heq
      cases heq
      by_contra hover
      rw [not_and_or, Bool.not_eq_false, Bool.not_eq_false] at hover
      obtain ⟨m, hm⟩ := isStaleDeactivation_overflow hends hover
      rw [hm] at hstale
      cases hstale
    · intro h
      obtain ⟨hstored, hexpires⟩ := h _ _ rfl
      exact ⟨_, isStaleDeactivation_eq hends hstored hexpires⟩

structure Stepped (E : Env) (A : Answers) (apply : Bool) (e : Entry) (p q : Progress) : Prop where
  fetched : q.report.fetched = p.report.fetched
  rejected : q.report.rejected = p.report.rejected
  items : q.report.staleSkipped + q.report.handled = p.report.staleSkipped + p.report.handled + 1
  byType : total q.report.byType + p.report.handled = total p.report.byType + q.report.handled
  staleByType : total q.report.staleByType + p.report.staleSkipped =
    total p.report.staleByType + q.report.staleSkipped
  calls : ∃ called, q.calls = p.calls ++ called ∧
    (called = [e] ∧ apply = true ∧ NotStale E A e ∨ called = [] ∧ ¬ (apply = true ∧ NotStale E A e))

theorem total_bump (counts : Entries Str ℕ) (key : Str) :
    total (bump counts key) = total counts + 1 := by
  have hset : ∀ v, total (counts.set key v) + (counts.find? key).getD 0 = total counts + v := by
    intro v
    induction counts with
    | nil => simp [total, Entries.set]
    | cons kv counts ih =>
      obtain ⟨k, n⟩ := kv
      rw [Entries.find?_cons, Entries.set]
      split
      · simp only [total, List.map_cons, List.sum_cons, Option.getD_some]
        omega
      · simp only [total, List.map_cons, List.sum_cons] at ih ⊢
        omega
  have h := hset ((counts.find? key).getD 0 + 1)
  rw [← bump] at h
  omega

theorem processItem_ok {E : Env} {A : Answers} {apply : Bool} {p : Progress} {e : Entry}
    (h : Sound E A e) : ∃ q, processItem E A apply p e = .ok q ∧ Stepped E A apply e p q := by
  obtain ⟨type, htype⟩ := summarize_ok_iff.mpr h.attempts
  obtain ⟨stale, hstale⟩ := stale_ok_iff.mpr h.ends
  unfold processItem
  rw [htype, ok_bind]
  simp only
  rw [hstale, ok_bind]
  cases stale with
  | true =>
    refine ⟨_, rfl, rfl, rfl, ?_, ?_, ?_, [], (List.append_nil _).symm, .inr ⟨rfl, ?_⟩⟩
    · simp only [Report.handled]
      omega
    · simp only [Report.handled]
    · simp only [total_bump]
      omega
    · rintro ⟨-, hnot⟩
      rw [NotStale, hstale] at hnot
      cases hnot
  | false =>
    simp only [Bool.false_eq_true, if_false]
    cases apply with
    | false =>
      refine ⟨_, rfl, rfl, rfl, ?_, ?_, rfl, [], (List.append_nil _).symm, .inr ⟨rfl, ?_⟩⟩
      · simp only [Report.handled]
        omega
      · simp only [Report.handled, total_bump]
        omega
      · exact fun hcalled => Bool.false_ne_true hcalled.1
    | true =>
      simp only [Bool.not_true, Bool.false_eq_true, if_false]
      cases A.handler e.idx e.payload with
      | none =>
        refine ⟨_, rfl, rfl, rfl, ?_, ?_, rfl, [e], rfl, .inl ⟨rfl, rfl, hstale⟩⟩
        · simp only [Report.handled]
          omega
        · simp only [Report.handled, total_bump]
          omega
      | some handled =>
        cases handled with
        | true =>
          refine ⟨_, rfl, rfl, rfl, ?_, ?_, rfl, [e], rfl, .inl ⟨rfl, rfl, hstale⟩⟩
          · simp only [Report.handled]
            omega
          · simp only [Report.handled, total_bump]
            omega
        | false =>
          refine ⟨_, rfl, rfl, rfl, ?_, ?_, rfl, [e], rfl, .inl ⟨rfl, rfl, hstale⟩⟩
          · simp only [Report.handled]
            omega
          · simp only [Report.handled, total_bump]
            omega

theorem processItem_sound {E : Env} {A : Answers} {apply : Bool} {p q : Progress} {e : Entry}
    (h : processItem E A apply p e = .ok q) : Sound E A e := by
  obtain ⟨type, htype, h⟩ := bind_eq_ok.mp h
  obtain ⟨stale, hstale, -⟩ := bind_eq_ok.mp h
  exact ⟨summarize_ok_iff.mp ⟨type, htype⟩, stale_ok_iff.mp ⟨stale, hstale⟩⟩

/-! ## The run -/

structure Ran (E : Env) (A : Answers) (apply : Bool) (es : List Entry) (p q : Progress) :
    Prop where
  fetched : q.report.fetched = p.report.fetched
  rejected : q.report.rejected = p.report.rejected
  items : q.report.staleSkipped + q.report.handled =
    p.report.staleSkipped + p.report.handled + es.length
  byType : total q.report.byType + p.report.handled = total p.report.byType + q.report.handled
  staleByType : total q.report.staleByType + p.report.staleSkipped =
    total p.report.staleByType + q.report.staleSkipped
  calls : ∃ called, q.calls = p.calls ++ called ∧ called.Sublist es ∧
    ∀ e ∈ es, e ∈ called ↔ apply = true ∧ NotStale E A e

theorem foldlM_ok {E : Env} {A : Answers} {apply : Bool} {es : List Entry}
    (hnodup : es.Nodup) (h : ∀ e ∈ es, Sound E A e) (p : Progress) :
    ∃ q, es.foldlM (processItem E A apply) p = .ok q ∧ Ran E A apply es p q := by
  induction es generalizing p with
  | nil =>
    exact ⟨p, rfl, rfl, rfl, rfl, rfl, rfl, [], (List.append_nil _).symm, List.Sublist.refl _,
      List.forall_mem_nil _⟩
  | cons e es ih =>
    obtain ⟨he, hes⟩ := List.forall_mem_cons.mp h
    obtain ⟨hnew, hnodup⟩ := List.nodup_cons.mp hnodup
    obtain ⟨p', hp', hstep⟩ := @processItem_ok E A apply p e he
    obtain ⟨q, hq, hran⟩ := ih hnodup hes p'
    obtain ⟨called, hcalled, hcase⟩ := hstep.calls
    obtain ⟨later, hlater, hsub, hiff⟩ := hran.calls
    have hitems := hstep.items
    have hitems' := hran.items
    have hbyType := hstep.byType
    have hbyType' := hran.byType
    have hstale := hstep.staleByType
    have hstale' := hran.staleByType
    refine ⟨q, by rw [List.foldlM_cons, hp', ok_bind, hq], hran.fetched.trans hstep.fetched,
      hran.rejected.trans hstep.rejected, by rw [List.length_cons]; omega, by omega, by omega,
      called ++ later, by rw [hlater, hcalled, List.append_assoc], ?_, ?_⟩
    · rcases hcase with ⟨rfl, -⟩ | ⟨rfl, -⟩
      · exact hsub.cons_cons e
      · exact hsub.cons e
    · have hnot : e ∉ later := fun hin => hnew (hsub.subset hin)
      refine List.forall_mem_cons.mpr ⟨?_, fun x hx => ?_⟩
      · rcases hcase with ⟨rfl, hyes⟩ | ⟨rfl, hno⟩
        · exact iff_of_true List.mem_cons_self hyes
        · exact iff_of_false hnot hno
      · rw [List.mem_append, hiff x hx]
        refine or_iff_right_of_imp fun hin => ?_
        rcases hcase with ⟨rfl, -⟩ | ⟨rfl, -⟩
        · rw [List.mem_singleton] at hin
          exact absurd (hin ▸ hx) hnew
        · cases hin

theorem foldlM_sound {E : Env} {A : Answers} {apply : Bool} {es : List Entry} {p q : Progress}
    (h : es.foldlM (processItem E A apply) p = .ok q) : ∀ e ∈ es, Sound E A e := by
  induction es generalizing p with
  | nil => exact List.forall_mem_nil _
  | cons e es ih =>
    rw [List.foldlM_cons] at h
    obtain ⟨p', hp', h⟩ := bind_eq_ok.mp h
    exact List.forall_mem_cons.mpr ⟨processItem_sound hp', ih h⟩

/-! ## The order -/

section

variable {E : Env} {A : Answers} {apply : Bool} {items : List HistoryItem}

theorem sorted_nodup : (sortedByKey (verifyItems A 0 items).2).Nodup :=
  (sortedByKey_perm _).nodup_iff.mpr
    ((verifyItems_pairwise A items 0).2.imp fun hlt heq => by
      rw [heq] at hlt
      exact lt_irrefl _ hlt)

theorem replay_ok {p : Progress} (h : replay E A apply items = .ok p) :
    (∀ e ∈ (verifyItems A 0 items).2, overflows (signedDate e) = false ∧ Sound E A e) ∧
      Ran E A apply (sortedByKey (verifyItems A 0 items).2)
        ⟨Report.empty items.length (verifyItems A 0 items).1, []⟩ p := by
  unfold replay at h
  obtain ⟨sorted, hsorted, hfold⟩ := bind_eq_ok.mp h
  have hdates := sortEntries_dates hsorted
  rw [sortEntries_eq hdates] at hsorted
  cases hsorted
  have hsound := foldlM_sound hfold
  refine ⟨fun e he => ⟨hdates e he, hsound e ((sortedByKey_perm _).mem_iff.mpr he)⟩, ?_⟩
  obtain ⟨q, hq, hran⟩ := @foldlM_ok E A apply _ sorted_nodup hsound
    ⟨Report.empty items.length (verifyItems A 0 items).1, []⟩
  rw [hfold] at hq
  cases hq
  exact hran

end

def exampleEnv : Env := ⟨asciiPython, fun _ => none, fun _ => .none, fun _ _ _ => .none⟩

def exampleAnswers : Answers := ⟨fun _ _ => some ⟨[], rfl⟩, fun _ _ => none, fun _ _ => some true⟩

end HeyKevin.L6.Replay
