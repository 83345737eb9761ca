import Mathlib.Data.Int.ConditionallyCompleteOrder
import Mathlib.Data.List.MinMax
import HeyKevin.Core.Machine
import HeyKevin.L1Encoding.Sha256
import HeyKevin.L12Deletion.InactiveBilling
/-!
# Redelivered billing evidence

`record_inactive_notification` (app/db/contractors.py) compares a notification
with the one recorded last, and with no other.

* `recordInactive_step`: what one delivery does to the counts, to the key
  recorded last and to the renewal observation.
* `recorded_once_eq`: with every redelivery right behind its own notification,
  the deliveries that count are those of each notification once.
* `Renewal.stored_foldl`: the observation kept is the one signed last.
* `insensitive_iff`: a redelivery further behind is counted twice.
-/
namespace HeyKevin.L12

open HeyKevin.Core L1 L1.Text

/-- A notification and the time it is delivered. -/
abbrev Delivery := Notification × ℤ

def Notification.key (n : Notification) : Str × Str × Str :=
  (n.transactionId, n.notificationType, n.subtype.getD [])

variable (P : Python) (intOf : Str → Option ℤ)

def deliver : Machine (Option Dict) Delivery Outcome :=
  fun profile d => recordInactive P intOf profile d.1 d.2

/-- A notification that gets past the checks of the profile. -/
structure Addressed (data : Dict) (n : Notification) : Prop where
  uuid_nonempty : n.expectedSubscriptionUuid ≠ []
  type_nonempty : n.notificationType ≠ []
  uuid : (data.get "subscription_uuid").isStr n.expectedSubscriptionUuid = true

/-! ## Distinct notifications -/

/-- The first delivery of each notification outside `seen`; one without a transaction id is
never the same again. -/
def onceFrom (seen : List (Str × Str × Str)) : List Delivery → List Delivery
  | [] => []
  | d :: ds =>
    if d.1.transactionId ≠ [] ∧ d.1.key ∈ seen then onceFrom (d.1.key :: seen) ds
    else d :: onceFrom (d.1.key :: seen) ds

/-- Each distinct notification with a transaction id once. -/
def once (ds : List Delivery) : List Delivery := onceFrom [] ds

/-- Every redelivery directly follows a delivery of the same notification. -/
def Consecutive (ds : List Delivery) : Prop :=
  ∀ pre d post, ds = pre ++ d :: post → d.1.transactionId ≠ [] →
    d.1.key ∈ pre.map (·.1.key) → (pre.map (·.1.key)).getLast? = some d.1.key

/-- The deliveries that count, `last` being the key on record. -/
def recorded (last : Str × Str × Str) : List Delivery → List Delivery
  | [] => []
  | d :: ds =>
    if d.1.transactionId ≠ [] ∧ d.1.key = last then recorded d.1.key ds
    else d :: recorded d.1.key ds

/-- `Consecutive`, behind the deliveries `seen` of which `last` was the latest. -/
def ConsecutiveFrom (last : Str × Str × Str) (seen : List (Str × Str × Str))
    (ds : List Delivery) : Prop :=
  ∀ pre d post, ds = pre ++ d :: post → d.1.transactionId ≠ [] →
    d.1.key ∈ seen ∨ d.1.key ∈ pre.map (·.1.key) →
      (pre.map (·.1.key)).getLast?.getD last = d.1.key

theorem consecutiveFrom_cons (last : Str × Str × Str) (seen : List (Str × Str × Str))
    (d : Delivery) (ds : List Delivery) :
    ConsecutiveFrom last seen (d :: ds) ↔
      (d.1.transactionId ≠ [] → d.1.key ∈ seen → last = d.1.key) ∧
        ConsecutiveFrom d.1.key (d.1.key :: seen) ds := by
  have hlast : ∀ pre : List Delivery, ((d :: pre).map (·.1.key)).getLast?.getD last =
      (pre.map (·.1.key)).getLast?.getD d.1.key := by
    intro pre
    rw [List.map_cons, List.getLast?_cons]
    rfl
  constructor
  · intro h
    constructor
    · intro hid hseen
      exact h [] d ds rfl hid (.inl hseen)
    · intro pre e post hds hid hmem
      rw [← hlast]
      refine h (d :: pre) e post (by rw [hds]; rfl) hid ?_
      rcases hmem with hmem | hmem
      · rcases List.mem_cons.mp hmem with hkey | hkey
        · exact .inr (by rw [hkey]; exact List.mem_cons_self)
        · exact .inl hkey
      · exact .inr (List.mem_cons_of_mem _ hmem)
  · intro h pre e post hds hid hmem
    cases pre with
    | nil =>
      obtain ⟨rfl, rfl⟩ := List.cons.inj hds
      rcases hmem with hmem | hmem
      · exact h.1 hid hmem
      · cases hmem
    | cons d' pre =>
      obtain ⟨rfl, htail⟩ := List.cons.inj hds
      rw [hlast]
      refine h.2 pre e post htail hid ?_
      rcases hmem with hmem | hmem
      · exact .inl (List.mem_cons_of_mem _ hmem)
      · rcases List.mem_cons.mp hmem with hkey | hkey
        · exact .inl (by rw [hkey]; exact List.mem_cons_self)
        · exact .inr hkey

theorem recorded_onceFrom (last : Str × Str × Str) (seen : List (Str × Str × Str))
    (hlast : last ∈ seen) (ds : List Delivery) :
    recorded last (onceFrom seen ds) = onceFrom seen ds := by
  induction ds generalizing last seen with
  | nil => rfl
  | cons d ds ih =>
    rw [onceFrom]
    split
    · exact ih last _ (List.mem_cons_of_mem _ hlast)
    · rename_i hnew
      rw [recorded, if_neg, ih _ _ List.mem_cons_self]
      intro h
      exact hnew ⟨h.1, h.2 ▸ hlast⟩

theorem recorded_eq_onceFrom (last : Str × Str × Str) (seen : List (Str × Str × Str))
    (hlast : last ∈ seen) (ds : List Delivery) (h : ConsecutiveFrom last seen ds) :
    recorded last ds = onceFrom seen ds := by
  induction ds generalizing last seen with
  | nil => rfl
  | cons d ds ih =>
    obtain ⟨hhead, htail⟩ := (consecutiveFrom_cons last seen d ds).mp h
    have hiff : (d.1.transactionId ≠ [] ∧ d.1.key = last) ↔
        (d.1.transactionId ≠ [] ∧ d.1.key ∈ seen) :=
      ⟨fun hdup => ⟨hdup.1, hdup.2 ▸ hlast⟩, fun hdup => ⟨hdup.1, (hhead hdup.1 hdup.2).symm⟩⟩
    rw [recorded, onceFrom, ih _ _ List.mem_cons_self htail]
    simp only [hiff]

theorem onceFrom_length_le (last : Str × Str × Str) (seen : List (Str × Str × Str))
    (hlast : last ∈ seen) (ds : List Delivery) :
    (onceFrom seen ds).length ≤ (recorded last ds).length ∧
      ((onceFrom seen ds).length = (recorded last ds).length → ConsecutiveFrom last seen ds) := by
  induction ds generalizing last seen with
  | nil =>
    refine ⟨le_refl _, fun _ pre d post h => ?_⟩
    exact absurd h (by simp)
  | cons d ds ih =>
    obtain ⟨hle, heq⟩ := ih d.1.key (d.1.key :: seen) List.mem_cons_self
    rw [recorded, onceFrom, consecutiveFrom_cons]
    by_cases hdup : d.1.transactionId ≠ [] ∧ d.1.key = last
    · rw [if_pos hdup, if_pos ⟨hdup.1, hdup.2 ▸ hlast⟩]
      exact ⟨hle, fun h => ⟨fun _ _ => hdup.2.symm, heq h⟩⟩
    · rw [if_neg hdup]
      split
      · rw [List.length_cons]
        exact ⟨by omega, fun h => by omega⟩
      · rename_i hnew
        rw [List.length_cons, List.length_cons]
        refine ⟨by omega, fun h => ⟨fun hid hseen => absurd ⟨hid, hseen⟩ hnew, heq (by omega)⟩⟩

theorem consecutive_iff (last : Str × Str × Str) (d : Delivery) (ds : List Delivery) :
    Consecutive (d :: ds) ↔ ConsecutiveFrom d.1.key [d.1.key] ds := by
  have hfrom : Consecutive (d :: ds) ↔ ConsecutiveFrom last [] (d :: ds) := by
    constructor
    · intro h pre e post hds hid hmem
      rw [h pre e post hds hid (hmem.resolve_left (List.not_mem_nil))]
      rfl
    · intro h pre e post hds hid hmem
      have hlast := h pre e post hds hid (.inr hmem)
      cases hpre : (pre.map (·.1.key)).getLast? with
      | none =>
        rw [List.getLast?_eq_none_iff] at hpre
        rw [hpre] at hmem
        cases hmem
      | some k =>
        rw [hpre] at hlast
        exact congrArg some hlast
  rw [hfrom, consecutiveFrom_cons]
  exact ⟨fun h => h.2, fun h => ⟨fun _ hseen => absurd hseen List.not_mem_nil, h⟩⟩

theorem recorded_once_eq (last : Str × Str × Str) (ds : List Delivery) (h : Consecutive ds) :
    recorded last (once ds) = recorded last ds := by
  cases ds with
  | nil => rfl
  | cons d ds =>
    rw [once, onceFrom, if_neg (fun hseen => absurd hseen.2 List.not_mem_nil), recorded, recorded,
      recorded_onceFrom _ _ List.mem_cons_self, recorded_eq_onceFrom _ _ List.mem_cons_self _
        ((consecutive_iff last d ds).mp h)]

theorem consecutive_of_length_eq (last : Str × Str × Str) (ds : List Delivery)
    (h : (recorded last (once ds)).length = (recorded last ds).length) : Consecutive ds := by
  cases ds with
  | nil =>
    intro pre d post hds
    exact absurd hds (by simp)
  | cons d ds =>
    rw [once, onceFrom, if_neg (fun hseen => absurd hseen.2 List.not_mem_nil), recorded, recorded,
      recorded_onceFrom _ _ List.mem_cons_self] at h
    refine (consecutive_iff last d ds).mpr
      ((onceFrom_length_le d.1.key [d.1.key] List.mem_cons_self ds).2 ?_)
    split at h
    · exact h
    · rw [List.length_cons, List.length_cons] at h
      omega

/-! ## Renewal observations -/

theorem stripped_stripped (v : Value) : strip (stripped v) = stripped v := by
  unfold stripped
  split
  · exact strip_strip _
  · rfl

theorem positiveInt?_pos {v : Value} {n : ℤ} (h : positiveInt? v = some n) : 0 < n := by
  unfold positiveInt? at h
  split at h
  · split at h
    · rename_i hpos
      obtain rfl := Option.some.inj h
      exact hpos
    · cases h
  · cases h

/-- A renewal observation that the transaction can read. -/
structure Observation where
  chain : Str
  autoRenews : Bool
  signedAt : ℤ
  chain_nonempty : chain ≠ []
  chain_stripped : strip chain = chain
  signedAt_pos : 0 < signedAt

/-- mirrors app/db/contractors.py:2305-2321 -/
def observation? (event : Dict) : Option Observation :=
  match event.get "auto_renews", hsigned : positiveInt? (event.get "signed_at_ms") with
  | .bool autoRenews, some signed =>
    if h : stripped (event.get "original_transaction_id") = [] then none
    else some ⟨stripped (event.get "original_transaction_id"), autoRenews, signed, h,
      stripped_stripped _, positiveInt?_pos hsigned⟩
  | _, _ => none

theorem observation?_eq {event : Dict} {autoRenews : Bool} {signed : ℤ}
    (hauto : event.get "auto_renews" = .bool autoRenews)
    (hsigned : positiveInt? (event.get "signed_at_ms") = some signed) :
    observation? event =
      if h : stripped (event.get "original_transaction_id") = [] then none
      else some ⟨stripped (event.get "original_transaction_id"), autoRenews, signed, h,
        stripped_stripped _, positiveInt?_pos hsigned⟩ := by
  unfold observation?
  split
  · rename_i autoRenews' signed' hauto' hsigned'
    obtain rfl : autoRenews' = autoRenews := by
      rw [hauto] at hauto'
      cases hauto'
      rfl
    obtain rfl : signed' = signed := Option.some.inj (hsigned'.symm.trans hsigned)
    rfl
  · rename_i hread
    exact (hread autoRenews signed hauto hsigned).elim

theorem observation?_eq_none {event : Dict}
    (hread : ∀ autoRenews signed, event.get "auto_renews" = .bool autoRenews →
      positiveInt? (event.get "signed_at_ms") = some signed → False) :
    observation? event = none := by
  unfold observation?
  split
  · rename_i autoRenews signed hauto hsigned
    exact (hread autoRenews signed hauto hsigned).elim
  · rfl

def Notification.observation? (n : Notification) : Option Observation :=
  n.renewalObservation.bind L12.observation?

/-- The renewal fields of the stored evidence. -/
structure Renewal where
  chain : Str
  autoRenews : Value
  signedAt : Value

def renewalOf (data : Dict) : Renewal where
  chain := stripped ((priorBilling data).get "renewal_original_transaction_id")
  autoRenews := (priorBilling data).get "renewal_auto_renews"
  signedAt := (priorBilling data).get "renewal_status_signed_at_ms"

def currentChain (data : Dict) : Str :=
  stripped (data.get "subscription_original_transaction_id")

namespace Observation

def renewal (o : Observation) : Renewal := ⟨o.chain, .bool o.autoRenews, .int o.signedAt⟩

def fields (o : Observation) : Dict :=
  [("renewal_original_transaction_id", .str o.chain), ("renewal_auto_renews", .bool o.autoRenews),
    ("renewal_status_signed_at_ms", .int o.signedAt)]

/-- What is stored of the observation, but for its chain. -/
def pair (o : Observation) : Value × ℤ := (.bool o.autoRenews, o.signedAt)

end Observation

namespace Renewal

/-- No clock is on record, or one that `signed` is later than. -/
def signedAfter (before : Value) (signed : ℤ) : Bool :=
  match before with
  | .none => true
  | v => (positiveInt? v).any fun clock => decide (clock < signed)

theorem signedAfter_of_ne_none {before : Value} (h : before ≠ .none) (signed : ℤ) :
    signedAfter before signed =
      (positiveInt? before).any fun clock => decide (clock < signed) := by
  unfold signedAfter
  split
  · exact absurd rfl h
  · rfl

/-- mirrors app/db/contractors.py:2322-2358 -/
def accepts (top : Str) (r : Renewal) (o : Observation) : Bool :=
  if o.chain = r.chain then signedAfter r.signedAt o.signedAt else decide (o.chain = top)

def observe (top : Str) (r : Renewal) (o : Observation) : Renewal :=
  if r.accepts top o then o.renewal else r

end Renewal

theorem renewalToApply_eq (data : Dict) (n : Notification) :
    renewalToApply data (priorBilling data) n.renewalObservation =
      (n.observation?.filter ((renewalOf data).accepts (currentChain data))).map
        Observation.fields := by
  unfold renewalToApply Notification.observation?
  cases n.renewalObservation with
  | none => rfl
  | some event =>
    simp only [Option.bind_some]
    split
    · rename_i autoRenews signed hauto hsigned
      rw [observation?_eq hauto hsigned]
      by_cases hempty : stripped (event.get "original_transaction_id") = []
      · simp only [hempty, List.isEmpty_nil, if_true, dif_pos]
        rfl
      · have hne : (stripped (event.get "original_transaction_id")).isEmpty = false := by
          simpa using hempty
        simp only [hne, Bool.false_eq_true, if_false, hempty, dif_neg, not_false_eq_true,
          Option.filter_some, Renewal.accepts, renewalOf, currentChain]
        split
        · split
          · rename_i hnone
            simp only [hnone, Renewal.signedAfter, if_true, Option.map_some]
            rfl
          · rename_i v hv
            rw [Renewal.signedAfter_of_ne_none hv]
            split
            · rename_i before hbefore
              simp only [hbefore, Option.any_some, decide_eq_true_eq]
              split <;> rfl
            · rename_i hbefore
              simp only [hbefore, Option.any_none, Bool.false_eq_true, if_false]
              rfl
        · simp only [decide_eq_true_eq]
          split <;> rfl
    · rename_i hread
      rw [observation?_eq_none hread]
      rfl

/-! ## One delivery -/

/-- The key on record. -/
def lastKey (data : Dict) : Str × Str × Str :=
  (P.strOrEmpty ((priorBilling data).get "last_transaction_id"),
    P.strOrEmpty ((priorBilling data).get "last_type"),
    P.strOrEmpty ((priorBilling data).get "last_subtype"))

def countOf (data : Dict) : ℤ := safeInt intOf ((priorBilling data).get "count")

def chargesOf (data : Dict) : ℤ := safeInt intOf ((priorBilling data).get "charges")

@[simp] theorem strOrEmpty_str (s : Str) : P.strOrEmpty (.str s) = s := by
  cases s <;> simp [Python.strOrEmpty, Value.truthy]

theorem isDuplicate_iff (data : Dict) (n : Notification) :
    isDuplicate P (priorBilling data) n = true ↔ n.transactionId ≠ [] ∧ n.key = lastKey P data := by
  simp only [isDuplicate, Bool.and_eq_true, Bool.not_eq_true', List.isEmpty_eq_false_iff,
    beq_iff_eq, Notification.key, lastKey, Prod.mk.injEq]
  constructor
  · intro h
    exact ⟨h.1.1.1, h.1.1.2.symm, h.1.2.symm, h.2.symm⟩
  · intro h
    exact ⟨⟨⟨h.1, h.2.1.symm⟩, h.2.2.1.symm⟩, h.2.2.2.symm⟩

@[simp] theorem priorBilling_set (data billing : Dict) :
    priorBilling (Dict.set data "post_deletion_billing" (.dict billing)) = billing := by
  rw [priorBilling, Dict.get_set, if_pos rfl]

/-- What one delivery does to a profile. -/
structure Delivered (data : Dict) (n : Notification) (data' : Dict) : Prop where
  profile : ∀ f, f ≠ "post_deletion_billing" → data'.get f = data.get f
  key : lastKey P data' = n.key
  count : countOf intOf data' = countOf intOf data +
    if n.transactionId ≠ [] ∧ n.key = lastKey P data then 0 else 1
  charges : chargesOf intOf data' = chargesOf intOf data +
    if n.transactionId ≠ [] ∧ n.key = lastKey P data then 0
    else if chargedAfterDeletion data n then 1 else 0
  renewal : renewalOf data' =
    n.observation?.elim (renewalOf data) ((renewalOf data).observe (currentChain data))

def renewalFields : List String :=
  ["renewal_original_transaction_id", "renewal_auto_renews", "renewal_status_signed_at_ms"]

/-- Evidence with the renewal state that the notification leaves. -/
def withRenewal (data billing : Dict) (n : Notification) : Dict :=
  billing.update ((renewalToApply data (priorBilling data) n.renewalObservation).getD [])

theorem get_withRenewal (data billing : Dict) (n : Notification) {f : String}
    (hf : f ∉ renewalFields) : (withRenewal data billing n).get f = billing.get f := by
  simp only [renewalFields, List.mem_cons, not_or] at hf
  rw [withRenewal, renewalToApply_eq]
  cases n.observation?.filter ((renewalOf data).accepts (currentChain data)) with
  | none => rfl
  | some o =>
    simp [Observation.fields, Dict.update, Ne.symm hf.1, Ne.symm hf.2.1, Ne.symm hf.2.2.1]

theorem renewalOf_withRenewal (data billing : Dict) (n : Notification)
    (h : ∀ f ∈ renewalFields, billing.get f = (priorBilling data).get f) :
    renewalOf (Dict.set data "post_deletion_billing" (.dict (withRenewal data billing n))) =
      n.observation?.elim (renewalOf data) ((renewalOf data).observe (currentChain data)) := by
  have hsame : (⟨stripped (billing.get "renewal_original_transaction_id"),
      billing.get "renewal_auto_renews", billing.get "renewal_status_signed_at_ms"⟩ : Renewal) =
      renewalOf data := by
    rw [h _ (by simp [renewalFields]), h _ (by simp [renewalFields]),
      h _ (by simp [renewalFields])]
    rfl
  rw [withRenewal, renewalToApply_eq, renewalOf, priorBilling_set]
  cases n.observation? with
  | none => exact hsame
  | some o =>
    simp only [Option.filter_some, Option.elim_some, Renewal.observe]
    by_cases haccepts : (renewalOf data).accepts (currentChain data) o = true
    · simp only [haccepts, if_true, Option.map_some, Option.getD_some]
      simp [Observation.fields, Observation.renewal, Dict.update, stripped, o.chain_stripped]
    · simp only [haccepts, if_false, Option.map_none, Option.getD_none, Bool.false_eq_true]
      exact hsame

theorem delivered_duplicate (data : Dict) (n : Notification)
    (hdup : n.transactionId ≠ [] ∧ n.key = lastKey P data) :
    Delivered P intOf data n (Dict.set data "post_deletion_billing"
      (.dict (withRenewal data (priorBilling data) n))) where
  profile := fun f hf => by rw [Dict.get_set, if_neg hf.symm]
  key := by
    rw [hdup.2, lastKey, lastKey, priorBilling_set, get_withRenewal _ _ _ (by decide),
      get_withRenewal _ _ _ (by decide), get_withRenewal _ _ _ (by decide)]
  count := by
    rw [if_pos hdup, countOf, countOf, priorBilling_set, get_withRenewal _ _ _ (by decide),
      add_zero]
  charges := by
    rw [if_pos hdup, chargesOf, chargesOf, priorBilling_set, get_withRenewal _ _ _ (by decide),
      add_zero]
  renewal := renewalOf_withRenewal data _ n fun _ _ => rfl

theorem delivered_recorded (data : Dict) (n : Notification) (now : ℤ)
    (hnew : ¬ (n.transactionId ≠ [] ∧ n.key = lastKey P data)) :
    Delivered P intOf data n (Dict.set data "post_deletion_billing"
      (.dict (recordedBilling intOf data n now))) := by
  have hbilling : ∃ billing, recordedBilling intOf data n now = withRenewal data billing n ∧
      billing.get "count" = .int (countOf intOf data + 1) ∧
      billing.get "charges" =
        .int (chargesOf intOf data + if chargedAfterDeletion data n then 1 else 0) ∧
      billing.get "last_transaction_id" = .str n.transactionId ∧
      billing.get "last_type" = .str n.notificationType ∧
      billing.get "last_subtype" = .str (n.subtype.getD []) ∧
      ∀ f ∈ renewalFields, billing.get f = (priorBilling data).get f := by
    refine ⟨_, rfl, ?_⟩
    cases n.reboundContractorId.filter fun s => !s.isEmpty with
    | none => simp [renewalFields, countOf, chargesOf]
    | some s => simp [renewalFields, countOf, chargesOf]
  obtain ⟨billing, hrecorded, hcount, hcharges, hid, htype, hsubtype, hrenewal⟩ := hbilling
  rw [hrecorded]
  exact
    { profile := fun f hf => by rw [Dict.get_set, if_neg hf.symm]
      key := by
        rw [lastKey, priorBilling_set, get_withRenewal _ _ _ (by decide),
          get_withRenewal _ _ _ (by decide), get_withRenewal _ _ _ (by decide), hid, htype,
          hsubtype, strOrEmpty_str, strOrEmpty_str, strOrEmpty_str, Notification.key]
      count := by
        rw [if_neg hnew, countOf, priorBilling_set, get_withRenewal _ _ _ (by decide), hcount]
        rfl
      charges := by
        rw [if_neg hnew, chargesOf, priorBilling_set, get_withRenewal _ _ _ (by decide), hcharges]
        rfl
      renewal := renewalOf_withRenewal data billing n hrenewal }

theorem Delivered.of_unchanged {data data' : Dict} {n : Notification}
    (h : Delivered P intOf data n data') (hsame : priorBilling data' = priorBilling data) :
    Delivered P intOf data n data where
  profile := fun _ _ => rfl
  key := by rw [← h.key, lastKey, lastKey, hsame]
  count := by rw [← h.count, countOf, countOf, hsame]
  charges := by rw [← h.charges, chargesOf, chargesOf, hsame]
  renewal := by rw [← h.renewal, renewalOf, renewalOf, hsame]

theorem recordInactive_step (data : Dict) (d : Delivery)
    (hactive : isFalse (data.get "active") = true) (haddressed : Addressed data d.1) :
    ∃ data', (deliver P intOf (some data) d).1 = some data' ∧
      Delivered P intOf data d.1 data' := by
  unfold deliver recordInactive
  rw [if_neg (not_or.mpr ⟨haddressed.uuid_nonempty, haddressed.type_nonempty⟩)]
  simp only [hactive, haddressed.uuid, Bool.true_eq_false, if_false]
  by_cases hdup : d.1.transactionId ≠ [] ∧ d.1.key = lastKey P data
  · have hdelivered := delivered_duplicate P intOf data d.1 hdup
    rw [if_pos ((isDuplicate_iff P data d.1).mpr hdup)]
    rw [withRenewal] at hdelivered
    split
    · rename_i fields hfields
      rw [hfields] at hdelivered
      exact ⟨_, rfl, hdelivered⟩
    · rename_i hfields
      rw [hfields] at hdelivered
      exact ⟨data, rfl, hdelivered.of_unchanged P intOf (by rw [priorBilling_set]; rfl)⟩
  · rw [if_neg (mt (isDuplicate_iff P data d.1).mp hdup)]
    exact ⟨_, rfl, delivered_recorded P intOf data d.1 d.2 hdup⟩

/-! ## Runs -/

/-- The observations among the deliveries, in order. -/
def observations (ds : List Delivery) : List Observation := ds.filterMap (·.1.observation?)

/-- What a run of deliveries does to a profile. -/
structure DeliveredAll (data : Dict) (ds : List Delivery) (data' : Dict) : Prop where
  profile : ∀ f, f ≠ "post_deletion_billing" → data'.get f = data.get f
  count : countOf intOf data' = countOf intOf data + (recorded (lastKey P data) ds).length
  charges : chargesOf intOf data' = chargesOf intOf data +
    (recorded (lastKey P data) ds).countP fun d => chargedAfterDeletion data d.1
  renewal : renewalOf data' =
    (observations ds).foldl (Renewal.observe (currentChain data)) (renewalOf data)

theorem Addressed.of_same {data data' : Dict} {n : Notification} (h : Addressed data n)
    (hsame : ∀ f, f ≠ "post_deletion_billing" → data'.get f = data.get f) : Addressed data' n where
  uuid_nonempty := h.uuid_nonempty
  type_nonempty := h.type_nonempty
  uuid := by rw [hsame _ (by decide)]; exact h.uuid

theorem chargedAfterDeletion_of_same {data data' : Dict}
    (hsame : ∀ f, f ≠ "post_deletion_billing" → data'.get f = data.get f) (n : Notification) :
    chargedAfterDeletion data' n = chargedAfterDeletion data n := by
  rw [chargedAfterDeletion, chargedAfterDeletion, hsame _ (by decide)]

theorem deliver_run (data : Dict) (ds : List Delivery)
    (hactive : isFalse (data.get "active") = true) (hds : ∀ d ∈ ds, Addressed data d.1) :
    ∃ data', (deliver P intOf).run (some data) ds = some data' ∧
      DeliveredAll P intOf data ds data' := by
  induction ds generalizing data with
  | nil =>
    exact ⟨data, rfl, fun _ _ => rfl, by simp [recorded], by simp [recorded], rfl⟩
  | cons d ds ih =>
    obtain ⟨data₁, hstep, hdelivered⟩ :=
      recordInactive_step P intOf data d hactive (hds d List.mem_cons_self)
    obtain ⟨data', hrun, hall⟩ := ih data₁ (by rw [hdelivered.profile _ (by decide)]; exact hactive)
      fun e he => (hds e (List.mem_cons_of_mem _ he)).of_same hdelivered.profile
    have hcharged := chargedAfterDeletion_of_same hdelivered.profile
    have hchain : currentChain data₁ = currentChain data := by
      rw [currentChain, currentChain, hdelivered.profile _ (by decide)]
    refine ⟨data', by rw [Machine.run_cons, hstep, hrun], ?_, ?_, ?_, ?_⟩
    · intro f hf
      rw [hall.profile f hf, hdelivered.profile f hf]
    · rw [hall.count, hdelivered.count, hdelivered.key, recorded]
      split
      · rw [add_zero]
      · rw [List.length_cons]
        push_cast
        ring
    · rw [hall.charges, hdelivered.charges, hdelivered.key, recorded]
      simp only [hcharged]
      split
      · rw [add_zero]
      · rw [List.countP_cons]
        push_cast
        ring
    · rw [hall.renewal, hdelivered.renewal, hchain, observations, observations,
        List.filterMap_cons]
      cases d.1.observation? <;> rfl

/-! ## The observation signed last -/

namespace Renewal

variable {top : Str} {r : Renewal} {o : Observation} {os : List Observation}

/-- The clock on record is not one that an observation can be compared with. -/
def unreadable (r : Renewal) : Bool :=
  match r.signedAt with
  | .none => false
  | v => (positiveInt? v).isNone

def stored (r : Renewal) : Option (Value × ℤ) :=
  (positiveInt? r.signedAt).map fun signed => (r.autoRenews, signed)

theorem positiveInt?_int {n : ℤ} (h : 0 < n) : positiveInt? (.int n) = some n := if_pos h

@[simp] theorem stored_renewal (o : Observation) : stored o.renewal = some o.pair := by
  rw [stored, Observation.renewal, positiveInt?_int o.signedAt_pos]
  rfl

@[simp] theorem chain_renewal (o : Observation) : o.renewal.chain = o.chain := rfl

@[simp] theorem unreadable_renewal (o : Observation) : unreadable o.renewal = false := by
  have hclock : positiveInt? (.int o.signedAt) = some o.signedAt :=
    positiveInt?_int o.signedAt_pos
  unfold unreadable
  show (positiveInt? (.int o.signedAt)).isNone = false
  rw [hclock]
  rfl

theorem chain_observe (top : Str) (r : Renewal) (o : Observation) :
    (r.observe top o).chain = if o.chain = top then top else r.chain := by
  unfold observe accepts
  by_cases hchain : o.chain = r.chain
  · rw [if_pos hchain]
    split
    · rw [chain_renewal, hchain]
      split <;> simp_all
    · split <;> simp_all
  · rw [if_neg hchain]
    by_cases htop : o.chain = top <;> simp [htop]

theorem chain_foldl (top : Str) (r : Renewal) (os : List Observation) :
    (os.foldl (observe top) r).chain = if ∃ o ∈ os, o.chain = top then top else r.chain := by
  induction os generalizing r with
  | nil => simp
  | cons o os ih =>
    rw [List.foldl_cons, ih, chain_observe]
    by_cases ho : o.chain = top
    · simp [ho]
    · simp [ho]

theorem observe_of_unreadable (h : (r.observe top o).unreadable = true) :
    r.observe top o = r := by
  unfold observe at h ⊢
  split
  · rename_i haccepts
    rw [if_pos haccepts, unreadable_renewal] at h
    cases h
  · rfl

theorem foldl_of_unreadable (h : (os.foldl (observe top) r).unreadable = true) :
    os.foldl (observe top) r = r := by
  induction os generalizing r with
  | nil => rfl
  | cons o os ih =>
    have hrest := ih h
    rw [List.foldl_cons] at h ⊢
    rw [hrest] at h ⊢
    exact observe_of_unreadable h

theorem observe_of_same_chain (hunreadable : r.unreadable = true)
    (hchain : (r.observe top o).chain = r.chain) : r.observe top o = r := by
  unfold observe at hchain ⊢
  split
  · rename_i haccepts
    rw [if_pos haccepts, chain_renewal] at hchain
    unfold unreadable at hunreadable
    split at hunreadable
    · cases hunreadable
    · rename_i hne
      rw [accepts, if_pos hchain, signedAfter_of_ne_none hne,
        Option.isNone_iff_eq_none.mp hunreadable] at haccepts
      cases haccepts
  · rfl

theorem foldl_of_same_chain (hunreadable : r.unreadable = true)
    (hchain : (os.foldl (observe top) r).chain = r.chain) : os.foldl (observe top) r = r := by
  induction os with
  | nil => rfl
  | cons o os ih =>
    rw [List.foldl_cons] at hchain ⊢
    have hfirst : (r.observe top o).chain = r.chain := by
      rw [chain_foldl] at hchain
      split at hchain
      · rw [chain_observe, ← hchain, ite_self]
      · exact hchain
    rw [observe_of_same_chain hunreadable hfirst] at hchain ⊢
    exact ih hchain

theorem stored_of_unreadable (h : r.unreadable = true) : r.stored = none := by
  unfold unreadable at h
  split at h
  · cases h
  · rw [stored, Option.isNone_iff_eq_none.mp h]
    rfl

theorem stored_observe (hchain : (r.observe top o).chain = r.chain)
    (hread : o.chain = r.chain → r.unreadable = false) :
    (r.observe top o).stored =
      if o.chain = r.chain then
        Option.casesOn r.stored (some o.pair)
          fun c => if c.2 < o.pair.2 then some o.pair else some c
      else r.stored := by
  unfold observe accepts at hchain ⊢
  by_cases hsame : o.chain = r.chain
  · simp only [if_pos hsame]
    cases hclock : positiveInt? r.signedAt with
    | none =>
      have hnone : r.signedAt = .none := by
        have hreadable := hread hsame
        unfold unreadable at hreadable
        split at hreadable
        · assumption
        · rw [hclock] at hreadable
          cases hreadable
      have hstored : r.stored = none := by
        rw [stored, hclock]
        rfl
      rw [hnone, hstored]
      exact stored_renewal o
    | some clock =>
      have hne : r.signedAt ≠ .none := by
        intro hnone
        rw [hnone] at hclock
        cases hclock
      have hstored : r.stored = some (r.autoRenews, clock) := by
        rw [stored, hclock]
        rfl
      rw [signedAfter_of_ne_none hne, hclock, hstored]
      simp only [Option.any_some, decide_eq_true_eq]
      by_cases hlater : clock < o.signedAt
      · rw [if_pos hlater]
        exact (stored_renewal o).trans (if_pos hlater).symm
      · rw [if_neg hlater]
        exact hstored.trans (if_neg hlater).symm
  · simp only [if_neg hsame] at hchain ⊢
    by_cases htop : o.chain = top
    · rw [if_pos (decide_eq_true htop), chain_renewal] at hchain
      exact absurd hchain hsame
    · rw [if_neg (by simpa using htop)]

theorem stored_foldl (hchain : (os.foldl (observe top) r).chain = r.chain)
    (hread : (∃ o ∈ os, o.chain = r.chain) → r.unreadable = false) :
    (os.foldl (observe top) r).stored =
      (r.stored.toList ++ (os.filter fun o => decide (o.chain = r.chain)).map Observation.pair).argmax
        Prod.snd := by
  induction os using List.reverseRecOn with
  | nil => cases hr : r.stored <;> simp [hr]
  | append_singleton os o ih =>
    rw [List.foldl_append, List.foldl_cons, List.foldl_nil] at hchain ⊢
    have hbefore : (os.foldl (observe top) r).chain = r.chain := by
      rw [chain_foldl]
      split
      · rename_i hmem
        rw [chain_observe, chain_foldl, if_pos hmem, ite_self] at hchain
        exact hchain
      · rfl
    have ih := ih hbefore fun hmem => hread (by
      obtain ⟨p, hp, hpchain⟩ := hmem
      exact ⟨p, List.mem_append_left _ hp, hpchain⟩)
    rw [stored_observe (hchain.trans hbefore.symm), hbefore, ih, List.filter_append,
      List.map_append, ← List.append_assoc]
    · by_cases hsame : o.chain = r.chain
      · simp only [hsame, decide_true, List.filter_cons_of_pos, List.filter_nil, List.map_cons,
          List.map_nil, List.argmax_concat, if_true]
      · simp [hsame]
    · intro hsame
      rw [hbefore] at hsame
      by_contra hunreadable
      rw [Bool.not_eq_false] at hunreadable
      have hr := foldl_of_unreadable hunreadable
      rw [hr, hread ⟨o, List.mem_append_right _ List.mem_cons_self, hsame⟩] at hunreadable
      cases hunreadable

end Renewal

/-! ## Redelivery -/

def after (data : Dict) (ds : List Delivery) : Dict :=
  ((deliver P intOf).run (some data) ds).getD []

/-- The counts are those of each notification once, and what is stored of the recorded receipt
chain is the observation of it signed last. -/
structure Insensitive (data : Dict) (ds : List Delivery) : Prop where
  count : countOf intOf (after P intOf data ds) = countOf intOf (after P intOf data (once ds))
  charges :
    chargesOf intOf (after P intOf data ds) = chargesOf intOf (after P intOf data (once ds))
  newest : ∀ before since, ds = before ++ since →
    (renewalOf (after P intOf data ds)).chain = (renewalOf (after P intOf data before)).chain →
      (renewalOf (after P intOf data ds)).stored =
        ((renewalOf (after P intOf data before)).stored.toList ++
          ((observations since).filter fun o =>
            decide (o.chain = (renewalOf (after P intOf data before)).chain)).map
              Observation.pair).argmax Prod.snd

/-- A clock on record that is not a positive integer is in nobody's way: no observation of its
chain is delivered, or its chain is replaced. -/
def ClockUsable (data : Dict) (ds : List Delivery) : Prop :=
  (renewalOf data).unreadable = true →
    (∃ o ∈ observations ds, o.chain = (renewalOf data).chain) →
      (renewalOf data).chain ≠ currentChain data ∧
        ∃ o ∈ observations ds, o.chain = currentChain data

theorem onceFrom_sublist (seen : List (Str × Str × Str)) (ds : List Delivery) :
    (onceFrom seen ds).Sublist ds := by
  induction ds generalizing seen with
  | nil => exact .slnil
  | cons d ds ih =>
    rw [onceFrom]
    split
    · exact (ih _).cons d
    · exact (ih _).cons_cons d

theorem after_delivered {data : Dict} {ds : List Delivery}
    (hactive : isFalse (data.get "active") = true) (hds : ∀ d ∈ ds, Addressed data d.1) :
    DeliveredAll P intOf data ds (after P intOf data ds) := by
  obtain ⟨data', hrun, hall⟩ := deliver_run P intOf data ds hactive hds
  rwa [after, hrun]

theorem observations_append (before since : List Delivery) :
    observations (before ++ since) = observations before ++ observations since :=
  List.filterMap_append

theorem counts_iff {data : Dict} {ds : List Delivery}
    (hactive : isFalse (data.get "active") = true) (hds : ∀ d ∈ ds, Addressed data d.1) :
    countOf intOf (after P intOf data ds) = countOf intOf (after P intOf data (once ds)) ∧
      chargesOf intOf (after P intOf data ds) = chargesOf intOf (after P intOf data (once ds)) ↔
    Consecutive ds := by
  have hall := after_delivered P intOf hactive hds
  have honce : DeliveredAll P intOf data (once ds) (after P intOf data (once ds)) :=
    after_delivered P intOf hactive fun d hd => hds d ((onceFrom_sublist [] ds).subset hd)
  rw [hall.count, hall.charges, honce.count, honce.charges]
  constructor
  · intro h
    refine consecutive_of_length_eq (lastKey P data) ds ?_
    have hcount := h.1
    omega
  · intro h
    rw [recorded_once_eq _ ds h]
    exact ⟨rfl, rfl⟩

theorem newest_iff {data : Dict} {ds : List Delivery}
    (hactive : isFalse (data.get "active") = true) (hds : ∀ d ∈ ds, Addressed data d.1) :
    (∀ before since, ds = before ++ since →
      (renewalOf (after P intOf data ds)).chain = (renewalOf (after P intOf data before)).chain →
        (renewalOf (after P intOf data ds)).stored =
          ((renewalOf (after P intOf data before)).stored.toList ++
            ((observations since).filter fun o =>
              decide (o.chain = (renewalOf (after P intOf data before)).chain)).map
                Observation.pair).argmax Prod.snd) ↔
    ClockUsable data ds := by
  have hall := after_delivered P intOf hactive hds
  have hchain := Renewal.chain_foldl (currentChain data) (renewalOf data) (observations ds)
  rw [← hall.renewal] at hchain
  constructor
  · intro h hunreadable hmem
    by_contra hreplaced
    have hnil := h [] ds rfl
    have hstart : after P intOf data [] = data := rfl
    rw [hstart] at hnil
    have hsame : (renewalOf (after P intOf data ds)).chain = (renewalOf data).chain := by
      rw [hchain]
      split
      · rename_i htop
        by_contra hne
        exact hreplaced ⟨Ne.symm hne, htop⟩
      · rfl
    rw [hall.renewal] at hsame
    have hkept := Renewal.foldl_of_same_chain hunreadable hsame
    rw [hall.renewal, hkept, Renewal.stored_of_unreadable hunreadable] at hnil
    obtain ⟨o, ho, hochain⟩ := hmem
    have hempty := List.argmax_eq_none.mp (hnil rfl).symm
    rw [Option.toList_none, List.nil_append, List.map_eq_nil_iff, List.filter_eq_nil_iff] at hempty
    exact hempty o ho (decide_eq_true hochain)
  · intro h before since hsplit hsame
    have hbefore := after_delivered P intOf hactive fun d (hd : d ∈ before) =>
      hds d (by rw [hsplit]; exact List.mem_append_left _ hd)
    have hsince : renewalOf (after P intOf data ds) =
        (observations since).foldl (Renewal.observe (currentChain data))
          (renewalOf (after P intOf data before)) := by
      rw [hall.renewal, hbefore.renewal, hsplit, observations_append, List.foldl_append]
    rw [hsince] at hsame
    rw [hsince]
    refine Renewal.stored_foldl hsame fun hmem => ?_
    by_contra hunreadable
    rw [Bool.not_eq_false] at hunreadable
    -- nothing was let in so far, so it is the first clock that cannot be read
    have hfirst : renewalOf (after P intOf data before) = renewalOf data := by
      rw [hbefore.renewal] at hunreadable ⊢
      exact Renewal.foldl_of_unreadable hunreadable
    rw [hfirst] at hunreadable hmem hsame
    obtain ⟨o, ho, hochain⟩ := hmem
    obtain ⟨hne, htop⟩ := h hunreadable
      ⟨o, by rw [hsplit, observations_append]; exact List.mem_append_right _ ho, hochain⟩
    rw [hsince, hfirst, hsame, if_pos htop] at hchain
    exact hne hchain

/-- Redeliveries leave no trace if and only if each directly follows its own notification and
no unreadable clock is in the way. -/
theorem insensitive_iff (data : Dict) (ds : List Delivery)
    (hactive : isFalse (data.get "active") = true) (hds : ∀ d ∈ ds, Addressed data d.1) :
    Insensitive P intOf data ds ↔ Consecutive ds ∧ ClockUsable data ds := by
  rw [← counts_iff P intOf hactive hds, ← newest_iff P intOf hactive hds]
  constructor
  · intro h
    exact ⟨⟨h.count, h.charges⟩, h.newest⟩
  · intro h
    exact ⟨h.1.1, h.1.2, h.2⟩

def exampleInactive : Dict := [("active", .bool false), ("subscription_uuid", .str (py "u1"))]

def exampleRenewal (transactionId : String) : Notification :=
  ⟨py "u1", py "DID_RENEW", none, py transactionId, .none, none, none⟩

theorem exampleRenewal_addressed (transactionId : String) :
    Addressed exampleInactive (exampleRenewal transactionId) where
  uuid_nonempty := List.cons_ne_nil _ _
  type_nonempty := List.cons_ne_nil _ _
  uuid := by
    show (exampleInactive.get "subscription_uuid").isStr (py "u1") = true
    decide

/-- One renewal, delivered twice in a row. -/
theorem exampleRenewal_insensitive :
    Insensitive asciiPython (fun _ => none) exampleInactive
        [(exampleRenewal "t1", 10), (exampleRenewal "t1", 20)] ↔
      Consecutive [(exampleRenewal "t1", 10), (exampleRenewal "t1", 20)] ∧
        ClockUsable exampleInactive [(exampleRenewal "t1", 10), (exampleRenewal "t1", 20)] := by
  refine insensitive_iff asciiPython (fun _ => none) exampleInactive _ (by decide) ?_
  intro d hd
  rcases List.mem_pair.mp hd with rfl | rfl
  · exact exampleRenewal_addressed "t1"
  · exact exampleRenewal_addressed "t1"

/-- A renewal that is delivered again behind another one is counted, and charged, twice. -/
theorem exampleRenewal_counted_twice :
    ¬ Insensitive asciiPython (fun _ => none) exampleInactive
      [(exampleRenewal "t1", 10), (exampleRenewal "t2", 20), (exampleRenewal "t1", 30)] := by
  intro h
  exact absurd h.count (by decide)

end HeyKevin.L12
