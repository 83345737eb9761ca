import Mathlib.Data.List.MinMax
import HeyKevin.L6Billing.AppStore
/-!
# The entitlement is that of the last delivery

Each notification overwrites the fields it sets, whatever it is about and
however old it is. So after a history of deliveries a field has the value set
by the notification that was delivered last, which is the one signed last only
if the deliveries happen to end with it.

`get_run` is the last-writer law; `entitlement_newest_iff` compares it with the
chronological order of the notifications.
-/
namespace HeyKevin.L6.AppStore

open HeyKevin.Core Binary64 L1 L1.Text

def entitlementFields : List String :=
  ["subscription_status", "subscription_tier", "subscription_expires"]

/-- `signedDate` of the payload, in milliseconds. -/
def Delivery.signedAt (d : Delivery) : ℚ :=
  match d.payload.get "signedDate" with
  | .number n => n.val
  | _ => 0

def Delivery.sets (E : Env) (k : String) (d : Delivery) : Option Value :=
  match parse E d.payload with
  | .ok n => (entitlement E d.now n).bind fun updates => Entries.find? updates k
  | .error _ => none

/-- The value the notification delivered last sets a field to. -/
def lastSet (E : Env) (ds : List Delivery) (k : String) : Option Value :=
  (ds.filterMap (Delivery.sets E k)).getLast?

/-- The value the notification signed last sets a field to, among those that
set it. -/
def newestSet (E : Env) (ds : List Delivery) (k : String) : Option Value :=
  ((ds.filter fun d => (d.sets E k).isSome).argmax Delivery.signedAt).bind (Delivery.sets E k)

/-- Every field of the entitlement is as the newest notification has it. -/
def Settled (E : Env) (ds : List Delivery) (doc : Dict) : Prop :=
  ∀ k ∈ entitlementFields, ∀ v, newestSet E ds k = some v → doc.get k = v

/-- For every field, the last delivery that sets it agrees with the newest. -/
def EndsWithNewest (E : Env) (ds : List Delivery) : Prop :=
  ∀ k ∈ entitlementFields, lastSet E ds k = newestSet E ds k

def holds (state : Value) : Bool := !state.isStr (py "reserved") && !state.isStr (py "cancelled")

/-- A number release holds the updates of the account. -/
def held (doc : Dict) : Bool :=
  match doc.get claimField with
  | .none => false
  | .dict claim => holds (claimState claim)
  | _ => true

/-- The account is the token's, and the original transaction is its own or
nobody's. -/
structure Bound (a : Account) (token original : Str) : Prop where
  owns : a.owns token = true
  named : original.isEmpty = false → a.contractorId.isEmpty = false
  free : ∀ data, a.transactions.find? original = some data →
    (Dict.get data "contractor_id").truthy = true →
      (Dict.get data "contractor_id").isStr a.contractorId = true

/-- A verified notification of this binding that starts, renews, upgrades or
ends a subscription; one that charges expires in the future when it is
handled. -/
def entitles (E : Env) (token original : Str) (d : Delivery) : Bool :=
  match parse E d.payload with
  | .ok n =>
    decide (n.token = token) && decide (resolveOriginalTransactionId E n.info = original) &&
      (n.isCharge || n.isTerminal) && (entitlement E d.now n).isSome
  | .error _ => false

/-! ## One update -/

theorem get_update (d e : Dict) (k : String) (he : (Dict.keys e).Nodup) :
    (Dict.update d e).get k = (Entries.find? e k).getD (d.get k) := by
  induction e generalizing d with
  | nil => rfl
  | cons kv e ih =>
    obtain ⟨j, v⟩ := kv
    simp only [Dict.keys, Entries.keys, List.map_cons, List.nodup_cons] at he
    rw [Dict.update, Entries.update_cons, ih _ he.2, Entries.find?_cons, Dict.get_set]
    by_cases hk : j = k
    · subst hk
      have hnone : Entries.find? e j = none := by
        have hnot := mt (Entries.mem_keys e j).mpr he.1
        simpa using hnot
      simp [hnone]
    · simp [hk]

inductive Released (doc updates : Dict) : Dict → Prop
  | through (h : held doc = false) : Released doc updates (doc.update updates)
  | cancelling (h : held doc = false) (claim : Dict) (hclaim : holds (claimState claim) = false) :
      Released doc updates ((doc.update updates).set claimField (.dict claim))
  | malformed (h : held doc = true) (conflict : Value) :
      Released doc updates (doc.set conflictField conflict)
  | holding (h : held doc = true) (claim : Dict) (hclaim : holds (claimState claim) = true)
      (conflict : Value) :
      Released doc updates ((doc.set claimField (.dict claim)).set conflictField conflict)

theorem claimState_set (claim : Dict) (k : String) (state v : Value) (hk : k ≠ "state") :
    claimState ((Dict.set claim "state" state).set k v) = state := by
  simp [claimState, hk]

theorem applyReleaseAware_released (E : Env) (now : Double) (doc updates : Dict) :
    Released doc updates (applyReleaseAware E now doc updates).1 := by
  unfold applyReleaseAware
  split
  · rename_i hclaim
    exact .through (by simp only [held, hclaim])
  · rename_i claim hclaim
    have hheld : held doc = holds (claimState claim) := by simp only [held, hclaim]
    simp only
    split
    · rename_i hreserved
      refine .cancelling (by rw [hheld]; simp [holds, hreserved]) _ ?_
      rw [claimState_set _ _ _ _ (by decide)]
      simp [holds]
    rename_i hreserved
    split
    · rename_i hcancelled
      exact .through (by rw [hheld]; simp [holds, hcancelled])
    rename_i hcancelled
    have hholds : holds (claimState claim) = true := by simp [holds, hreserved, hcancelled]
    refine .holding (hheld.trans hholds) _ ?_ _
    split
    · rw [claimState_set _ _ _ _ (by decide)]
      simp [holds]
    · exact hholds
  · rename_i hnone hdict
    refine .malformed ?_ _
    unfold held
    split
    · exact absurd ‹_› hnone
    · exact absurd ‹_› (hdict _)
    · rfl

/-- An update goes through or is held; beside the updated fields it touches the
claim and the conflict only. -/
theorem Released.get {doc updates doc' : Dict} (h : Released doc updates doc')
    (hu : (Dict.keys updates).Nodup) {k : String} (hk : k ≠ claimField) (hc : k ≠ conflictField) :
    doc'.get k = if held doc then doc.get k else (Entries.find? updates k).getD (doc.get k) := by
  cases h with
  | through h => rw [if_neg (by simp [h]), get_update _ _ _ hu]
  | cancelling h claim =>
    rw [if_neg (by simp [h]), Dict.get_set, if_neg (Ne.symm hk), get_update _ _ _ hu]
  | malformed h conflict => rw [if_pos h, Dict.get_set, if_neg (Ne.symm hc)]
  | holding h claim hclaim conflict =>
    rw [if_pos h, Dict.get_set, if_neg (Ne.symm hc), Dict.get_set, if_neg (Ne.symm hk)]

theorem Released.held {doc updates doc' : Dict} (h : Released doc updates doc')
    (hu : (Dict.keys updates).Nodup) (hn : Entries.find? updates claimField = none) :
    held doc' = held doc := by
  have hfield : conflictField ≠ claimField := by decide
  cases h with
  | through h => simp only [AppStore.held, get_update _ _ _ hu, hn, Option.getD_none]
  | cancelling h claim hclaim =>
    rw [h]
    simp only [AppStore.held, Dict.get_set, if_true, hclaim]
  | malformed h conflict => simp only [AppStore.held, Dict.get_set, if_neg hfield]
  | holding h claim hclaim conflict =>
    rw [h]
    simp only [AppStore.held, Dict.get_set, if_neg hfield, if_true, hclaim]

/-! ## One delivery -/

theorem claimTransaction_own {now : Double} {a : Account} {token original : Str}
    (hb : Bound a token original) (hne : original.isEmpty = false) (x y z : Str) :
    (claimTransaction now a original x y z).2 = true ∧
      (claimTransaction now a original x y z).1.doc = a.doc ∧
      Bound (claimTransaction now a original x y z).1 token original := by
  unfold claimTransaction
  simp only [hne, hb.named hne, Bool.or_self, Bool.false_eq_true, if_false]
  cases hfind : a.transactions.find? original with
  | none =>
    refine ⟨rfl, rfl, hb.owns, hb.named, fun data hdata _ => ?_⟩
    rw [Entries.find?_set, if_pos rfl] at hdata
    cases hdata
    simp
  | some data =>
    have hown := hb.free data hfind
    have hpass : ((Dict.get data "contractor_id").truthy &&
        !(Dict.get data "contractor_id").isStr a.contractorId) = false := by
      cases ht : (Dict.get data "contractor_id").truthy with
      | false => rfl
      | true => rw [hown ht]; rfl
    simp only [hpass, Bool.false_eq_true, if_false]
    refine ⟨trivial, trivial, hb.owns, hb.named, fun data' hdata' ht => ?_⟩
    rw [Entries.find?_set, if_pos rfl] at hdata'
    cases hdata'
    have hsame : ∀ e : Dict, "contractor_id" ∉ Dict.keys e →
        (Dict.update data e).get "contractor_id" = Dict.get data "contractor_id" :=
      fun e he => Dict.get_update_of_not_mem data e he
    rw [hsame] at ht ⊢
    · exact hown ht
    all_goals
      cases x.isEmpty <;> cases y.isEmpty <;> cases z.isEmpty <;>
        simp [Dict.keys, Entries.keys]

theorem bindTransaction_own {E : Env} (now : Double) {a : Account} {token original : Str}
    (hb : Bound a token original) {info : Dict}
    (ho : resolveOriginalTransactionId E info = original) :
    (bindTransaction E now a info).2 = true ∧ (bindTransaction E now a info).1.doc = a.doc ∧
      Bound (bindTransaction E now a info).1 token original := by
  unfold bindTransaction
  simp only [ho]
  cases hne : original.isEmpty with
  | true => exact ⟨rfl, rfl, hb⟩
  | false => exact claimTransaction_own hb hne _ _ _

theorem entitlement_spec {E : Env} {now : Double} {n : Notification} {updates : Dict}
    (hkind : n.isCharge = true ∨ n.isTerminal = true)
    (h : entitlement E now n = some updates) :
    updates ≠ [] ∧ (Dict.keys updates).Nodup ∧
      ∀ k, k ∉ entitlementFields → Entries.find? updates k = none := by
  have hcharge : ∀ tier expires : Value,
      (Dict.keys [("subscription_tier", tier), ("subscription_status", .text "active"),
        ("subscription_expires", expires)]).Nodup := by
    intro tier expires
    simp [Dict.keys, Entries.keys]
  unfold entitlement at h
  split at h
  · simp only at h
    split at h
    · split at h
      · cases h
      · cases h
        refine ⟨List.cons_ne_nil _ _, hcharge _ _, fun k hk => ?_⟩
        simp only [entitlementFields, List.mem_cons, List.not_mem_nil, or_false, not_or] at hk
        simp [Entries.find?, Ne.symm hk.1, Ne.symm hk.2.1, Ne.symm hk.2.2]
    · cases h
  · rename_i hc
    rcases hkind with hk | hk
    · exact absurd hk hc
    · rw [if_pos hk] at h
      cases h
      refine ⟨List.cons_ne_nil _ _, (by simp [Dict.keys, Entries.keys]), fun k hk => ?_⟩
      simp only [entitlementFields, List.mem_cons, not_or] at hk
      simp [Entries.find?, Ne.symm hk.1]

theorem entitles_spec {E : Env} {token original : Str} {d : Delivery}
    (h : entitles E token original d = true) : ∃ n updates, parse E d.payload = .ok n ∧
      n.token = token ∧ resolveOriginalTransactionId E n.info = original ∧
      (n.isCharge = true ∨ n.isTerminal = true) ∧ entitlement E d.now n = some updates := by
  unfold entitles at h
  split at h
  · rename_i n hparse
    simp only [Bool.and_eq_true, Bool.or_eq_true, decide_eq_true_eq] at h
    obtain ⟨⟨⟨htoken, horiginal⟩, hkind⟩, hsome⟩ := h
    obtain ⟨updates, hupdates⟩ := Option.isSome_iff_exists.mp hsome
    exact ⟨n, updates, hparse, htoken, horiginal, hkind, hupdates⟩
  · cases h

theorem handle_entitling {E : Env} {a : Account} {token original : Str} {d : Delivery}
    (hb : Bound a token original) (hd : entitles E token original d = true) :
    Bound (handle E a d).1 token original ∧ held (handle E a d).1.doc = held a.doc ∧
      ∀ k ∈ entitlementFields, (handle E a d).1.doc.get k =
        if held a.doc then a.doc.get k else (d.sets E k).getD (a.doc.get k) := by
  obtain ⟨n, updates, hparse, htoken, horiginal, hkind, hupdates⟩ := entitles_spec hd
  obtain ⟨hne, hnodup, houtside⟩ := entitlement_spec hkind hupdates
  obtain ⟨hbound, hdoc, hb'⟩ := bindTransaction_own d.now hb horiginal
  have hrel := applyReleaseAware_released E d.now a.doc updates
  have hsets : ∀ k, d.sets E k = Entries.find? updates k := by
    intro k
    simp only [Delivery.sets, hparse, hupdates, Option.bind_some]
  have hhandle : (handle E a d).1 = { (bindTransaction E d.now a n.info).1 with
      doc := (applyReleaseAware E d.now a.doc updates).1 } := by
    unfold handle
    simp only [hparse, htoken, hb.owns, hbound, hupdates, Bool.true_eq_false, if_false, hdoc]
  have hclaim : Entries.find? updates claimField = none := houtside _ (by decide)
  rw [hhandle]
  refine ⟨⟨?_, hb'.named, hb'.free⟩, hrel.held hnodup hclaim, fun k hk => ?_⟩
  · -- neither the token nor the activity of the account is touched
    have howns := hb.owns
    have hkeep : ∀ k, k ∉ entitlementFields → k ≠ claimField → k ≠ conflictField →
        (applyReleaseAware E d.now a.doc updates).1.get k = a.doc.get k := by
      intro k hk hc hf
      rw [hrel.get hnodup hc hf, houtside k hk]
      split <;> rfl
    unfold Account.owns at howns ⊢
    simp only
    rw [hkeep _ (by decide) (by decide) (by decide), hkeep _ (by decide) (by decide) (by decide)]
    exact howns
  · have hfield : k ≠ claimField ∧ k ≠ conflictField := by
      simp only [entitlementFields, List.mem_cons, List.not_mem_nil, or_false] at hk
      rcases hk with rfl | rfl | rfl <;> decide
    rw [hsets]
    exact hrel.get hnodup hfield.1 hfield.2

/-! ## A history -/

/-- **The last writer wins.** After a history of deliveries a field has the
value set last, or, where updates are held, the value it had. -/
theorem get_run {E : Env} {a : Account} {token original : Str} (hb : Bound a token original)
    {ds : List Delivery} (hd : ∀ d ∈ ds, entitles E token original d = true) :
    held ((handle E).run a ds).doc = held a.doc ∧
      ∀ k ∈ entitlementFields, ((handle E).run a ds).doc.get k =
        if held a.doc then a.doc.get k else (lastSet E ds k).getD (a.doc.get k) := by
  induction ds generalizing a with
  | nil =>
    refine ⟨rfl, fun k _ => ?_⟩
    split <;> rfl
  | cons d ds ih =>
    obtain ⟨hb', hheld, hget⟩ := handle_entitling hb (hd d List.mem_cons_self)
    obtain ⟨ih₁, ih₂⟩ := ih hb' fun e he => hd e (List.mem_cons_of_mem d he)
    refine ⟨ih₁.trans hheld, fun k hk => ?_⟩
    rw [Machine.run_cons, ih₂ k hk, hheld, hget k hk]
    split
    · rfl
    · -- the last of the rest, or this one
      unfold lastSet
      cases hset : d.sets E k with
      | none => rw [List.filterMap_cons_none hset]; rfl
      | some v =>
        rw [List.filterMap_cons_some hset, List.getLast?_cons]
        rfl

theorem newestSet_isSome (E : Env) (ds : List Delivery) (k : String) :
    (newestSet E ds k).isSome = (lastSet E ds k).isSome := by
  unfold newestSet lastSet
  cases hmax : (ds.filter fun d => (d.sets E k).isSome).argmax Delivery.signedAt with
  | none =>
    have hnil := List.argmax_eq_none.mp hmax
    have hnone : ds.filterMap (Delivery.sets E k) = [] := by
      rw [List.filterMap_eq_nil_iff]
      intro d hd
      simpa using List.filter_eq_nil_iff.mp hnil d hd
    rw [hnone]
    rfl
  | some m =>
    obtain ⟨hmem, hset⟩ := List.mem_filter.mp (List.argmax_mem hmax)
    obtain ⟨v, hv⟩ := Option.isSome_iff_exists.mp hset
    have hne : ds.filterMap (Delivery.sets E k) ≠ [] := by
      intro hnil
      rw [List.filterMap_eq_nil_iff.mp hnil m hmem] at hv
      cases hv
    rw [Option.bind_some, hv, List.getLast?_eq_some_getLast hne]
    rfl

/-- **Delivery order.** For an account, a binding and a history of its
notifications in any order and with any redeliveries: the entitlement is that
of the newest notifications exactly when every field was set last by a delivery
that agrees with the newest, or, where a number release holds the updates, when
the account already stood so. -/
theorem entitlement_newest_iff (E : Env) (a : Account) (token original : Str)
    (ds : List Delivery) (hb : Bound a token original)
    (hd : ∀ d ∈ ds, entitles E token original d = true) :
    Settled E ds ((handle E).run a ds).doc ↔
      if held a.doc then Settled E ds a.doc else EndsWithNewest E ds := by
  obtain ⟨-, hget⟩ := get_run hb hd
  cases hh : held a.doc with
  | true =>
    simp only [hh, if_true] at hget ⊢
    constructor
    · intro h k hk v hv
      rw [← hget k hk]
      exact h k hk v hv
    · intro h k hk v hv
      rw [hget k hk]
      exact h k hk v hv
  | false =>
    simp only [hh, Bool.false_eq_true, if_false] at hget ⊢
    constructor
    · intro h k hk
      have hsome := newestSet_isSome E ds k
      cases hnew : newestSet E ds k with
      | none =>
        rw [hnew] at hsome
        exact Option.isNone_iff_eq_none.mp (by simpa using hsome.symm)
      | some v =>
        rw [hnew] at hsome
        obtain ⟨w, hw⟩ := Option.isSome_iff_exists.mp hsome.symm
        have hv := h k hk v hnew
        rw [hget k hk, hw, Option.getD_some] at hv
        rw [hw, hv]
    · intro h k hk v hv
      rw [hget k hk, h k hk, hv]
      rfl

/-! ## A late redelivery -/

def exampleFirstJws : Str :=
  py "eyJhbGciOiJFUzI1NiJ9." ++
  py "eyJhcHBBY2NvdW50VG9rZW4iOiJ1MSIsInByb2R1Y3RJZCI6ImNvbS5rZXZpbi5jYWxsc2NyZWVuLnBl" ++
  py "cnNvbmFsLm1vbnRobHkiLCJleHBpcmVzRGF0ZSI6MjAwMDAwMH0.c2ln"

def exampleRenewalJws : Str :=
  py "eyJhbGciOiJFUzI1NiJ9." ++
  py "eyJhcHBBY2NvdW50VG9rZW4iOiJ1MSIsInByb2R1Y3RJZCI6ImNvbS5rZXZpbi5jYWxsc2NyZWVuLnBl" ++
  py "cnNvbmFsLm1vbnRobHkiLCJleHBpcmVzRGF0ZSI6NDAwMDAwMH0.c2ln"

def exampleTransaction (expiresDate : ℤ) : Dict :=
  [("appAccountToken", .text "u1"), ("productId", .text "com.kevin.callscreen.personal.monthly"),
    ("expiresDate", .int expiresDate)]

def exampleEnv : Env where
  python := ⟨id, id, id, fun _ => [], fun _ => none, fun _ => []⟩
  floatOf := fun _ => none
  decodeJws := fun s =>
    if s = exampleFirstJws then .dict (exampleTransaction 2000000)
    else if s = exampleRenewalJws then .dict (exampleTransaction 4000000)
    else .none
  conflictPayload := fun _ _ _ => .none

def exampleAccount : Account :=
  ⟨py "c1", [("subscription_uuid", .text "u1"), ("active", .bool true)], []⟩

def exampleDelivery (notificationType : String) (jws : Str) (signedDate : ℤ) (now : ℚ) :
    Delivery where
  now := .ofRat now
  payload := [("notificationType", .text notificationType), ("signedDate", .int signedDate),
    ("data", .dict [("signedTransactionInfo", .str jws)])]

def exampleRedelivered : List Delivery :=
  [exampleDelivery "SUBSCRIBED" exampleFirstJws 1000 1,
    exampleDelivery "DID_RENEW" exampleRenewalJws 1500000 1500,
    exampleDelivery "SUBSCRIBED" exampleFirstJws 1000 1600]

theorem exampleAccount_bound : Bound exampleAccount (py "u1") [] :=
  ⟨by decide, fun h => (by cases h), fun _ h => (by cases h)⟩

theorem entitlement_newest_iff_exampleRedelivered :
    Settled exampleEnv exampleRedelivered
        ((handle exampleEnv).run exampleAccount exampleRedelivered).doc ↔
      if held exampleAccount.doc then Settled exampleEnv exampleRedelivered exampleAccount.doc
      else EndsWithNewest exampleEnv exampleRedelivered :=
  entitlement_newest_iff exampleEnv exampleAccount (py "u1") [] exampleRedelivered
    exampleAccount_bound (by decide +kernel)

/-- The redelivered subscription moves the expiry back before the renewal's. -/
theorem exampleRedelivered_not_settled :
    ¬ Settled exampleEnv exampleRedelivered
      ((handle exampleEnv).run exampleAccount exampleRedelivered).doc := by
  intro h
  have hnew : (newestSet exampleEnv exampleRedelivered "subscription_expires").map Value.finite? =
      some (some (.float (.ofRat 4000))) := by decide +kernel
  have hfinal : (((handle exampleEnv).run exampleAccount exampleRedelivered).doc.get
      "subscription_expires").finite? = some (.float (.ofRat 2000)) := by decide +kernel
  obtain ⟨v, hv, hvf⟩ := Option.map_eq_some_iff.mp hnew
  have hv' := h "subscription_expires" (by decide) v hv
  rw [hv', hvf] at hfinal
  exact absurd hfinal (by decide +kernel)

end HeyKevin.L6.AppStore
