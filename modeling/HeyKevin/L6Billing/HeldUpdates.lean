import HeyKevin.Core.BoundedHistory
import HeyKevin.L6Billing.DeliveryOrder
/-!
# What a held update leaves behind

`apply_release_aware_contractor_update` (app/db/contractors.py) holds an update
of a profile whose number is being released and keeps its evidence in a
conflict record, which it rebuilds from its own previous value every time
(`_release_conflict_payload`).

* `conflictPayload_deferred`, `conflictPayload_events`: what one rebuild keeps.
* `keepsEvidence_run`: a well-formed claim loses nothing over any run of
  updates that leave the claim alone.
* `keepsEvidence_iff`: a claim that is not a map does.

Line numbers are those of app/db/contractors.py.
-/
namespace HeyKevin.L6.AppStore

open HeyKevin.Core BoundedHistory Binary64 L1 L1.Text

/-! ## Restricted dictionaries -/

/-- `{field: d[field] for field in fields if field in d}` -/
def restrict (fields : List String) (d : Dict) : Dict :=
  fields.filterMap fun f => (Entries.find? d f).map fun v => (f, v)

theorem find?_restrict {fields : List String} (hfields : fields.Nodup) (d : Dict) (f : String) :
    Entries.find? (restrict fields d) f = if f ∈ fields then Entries.find? d f else none := by
  induction fields with
  | nil => rfl
  | cons g fields ih =>
    obtain ⟨hg, hrest⟩ := List.nodup_cons.mp hfields
    cases hv : Entries.find? d g with
    | none =>
      rw [restrict, List.filterMap_cons_none (by rw [hv]; rfl), ← restrict, ih hrest]
      by_cases hfg : f = g
      · subst hfg
        rw [if_neg hg, if_pos List.mem_cons_self, hv]
      · simp only [List.mem_cons, hfg, false_or]
    | some v =>
      rw [restrict, List.filterMap_cons_some (by rw [hv]; rfl), ← restrict, Entries.find?_cons,
        ih hrest]
      by_cases hfg : g = f
      · subst hfg
        rw [if_pos rfl, if_pos List.mem_cons_self, hv]
      · simp only [hfg, if_false, List.mem_cons, Ne.symm hfg, false_or]

theorem restrict_restrict {fields : List String} (hfields : fields.Nodup) (d : Dict) :
    restrict fields (restrict fields d) = restrict fields d := by
  refine List.filterMap_congr fun f hf => ?_
  rw [find?_restrict hfields, if_pos hf]

theorem keys_restrict_nodup {fields : List String} (hfields : fields.Nodup) (d : Dict) :
    (Dict.keys (restrict fields d)).Nodup := by
  have hsub : (Dict.keys (restrict fields d)).Sublist fields := by
    induction fields with
    | nil => exact .slnil
    | cons g fields ih =>
      have ih := ih (List.nodup_cons.mp hfields).2
      cases hv : Entries.find? d g with
      | none =>
        rw [restrict, List.filterMap_cons_none (by rw [hv]; rfl)]
        exact ih.cons g
      | some v =>
        rw [restrict, List.filterMap_cons_some (by rw [hv]; rfl)]
        exact ih.cons_cons g
  exact hsub.nodup hfields

theorem find?_update (d e : Dict) (k : String) (he : (Dict.keys e).Nodup) :
    Entries.find? (Dict.update d e) k = (Entries.find? e k).or (Entries.find? d k) := by
  induction e generalizing d with
  | nil => rfl
  | cons kv e ih =>
    obtain ⟨j, v⟩ := kv
    simp only [Dict.keys, Entries.keys, List.map_cons, List.nodup_cons] at he
    rw [Dict.update, Entries.update_cons, ih _ he.2, Entries.find?_cons, Entries.find?_set]
    by_cases hk : j = k
    · subst hk
      have hnone : Entries.find? e j = none := by
        have hnot := mt (Entries.mem_keys e j).mpr he.1
        simpa using hnot
      rw [hnone, if_pos rfl, if_pos rfl]
      rfl
    · rw [if_neg hk, if_neg hk]

/-! ## The conflict record -/

/-- mirrors 633-648 -/
def releaseConflictDeferredFields : List String :=
  ["active", "subscription_status", "subscription_tier", "subscription_expires",
    "subscription_original_transaction_id", "subscription_auto_renews",
    "subscription_renewal_status_signed_at_ms", "subscription_forwarded_from",
    "deleted_app_detected_at", "forwarding_last_seen_at", "last_inbound_call_at"]

/-- mirrors 654-662 -/
def releaseConflictEntitlementFields : List String :=
  ["subscription_status", "subscription_tier", "subscription_expires",
    "subscription_original_transaction_id", "subscription_auto_renews",
    "subscription_renewal_status_signed_at_ms", "subscription_forwarded_from"]

/-- `_RELEASE_CONFLICT_EVENT_LIMIT` -/
def eventLimit : ℕ := 8

theorem releaseConflictDeferredFields_nodup : releaseConflictDeferredFields.Nodup := by decide

theorem releaseConflictEntitlementFields_nodup : releaseConflictEntitlementFields.Nodup := by
  decide

def deferredPart (updates : Dict) : Dict := restrict releaseConflictDeferredFields updates

def entitlementPart (updates : Dict) : Dict := restrict releaseConflictEntitlementFields updates

theorem entitlementPart_entitlementPart (updates : Dict) :
    entitlementPart (entitlementPart updates) = entitlementPart updates :=
  restrict_restrict releaseConflictEntitlementFields_nodup updates

/-- `v if isinstance(v, (int, float)) else None` -/
def numericOrNone : Value → Value
  | .number n => .number n
  | .bool b => .bool b
  | .nonFinite f => .nonFinite f
  | _ => .none

/-- One of the `deferred_subscription_events`. -/
structure SubscriptionEvent where
  observedAt : Value
  updates : Dict
  observedAt_valid : numericOrNone observedAt = observedAt
  updates_restricted : entitlementPart updates = updates
  updates_nonempty : updates ≠ []

namespace SubscriptionEvent

def value (e : SubscriptionEvent) : Value :=
  .dict [("at", e.observedAt), ("updates", .dict e.updates)]

/-- mirrors 708-726 -/
def ofValue? : Value → Option SubscriptionEvent
  | .dict rawEvent =>
    match Dict.get rawEvent "updates" with
    | .dict rawUpdates =>
      if h : entitlementPart rawUpdates = [] then none
      else some ⟨numericOrNone (Dict.get rawEvent "at"), entitlementPart rawUpdates,
        by cases Dict.get rawEvent "at" <;> rfl, entitlementPart_entitlementPart _, h⟩
    | _ => none
  | _ => none

@[simp] theorem ofValue?_value (e : SubscriptionEvent) : ofValue? e.value = some e := by
  obtain ⟨observedAt, updates, hat, hupdates, hne⟩ := e
  simp only [ofValue?, value, Dict.get_cons, if_true, hat, hupdates, hne, dif_neg,
    not_false_eq_true, String.reduceEq, if_false]

/-- `e["updates"] == f["updates"]` -/
def same (e f : SubscriptionEvent) : Bool := (Value.dict e.updates).eq (.dict f.updates)

end SubscriptionEvent

/-- The event of an update with entitlement fields, observed at `now`. -/
def eventOf? (now : ℤ) (updates : Dict) : Option SubscriptionEvent :=
  if h : entitlementPart updates = [] then none
  else some ⟨.int now, entitlementPart updates, rfl, entitlementPart_entitlementPart _, h⟩

/-- `previous["deferred_updates"]`, where it is a map. -/
def previousDeferred (prior : Value) : Dict :=
  match prior with
  | .dict previous =>
    match Dict.get previous "deferred_updates" with
    | .dict deferred => deferred
    | _ => []
  | _ => []

def previousEvents (prior : Value) : List SubscriptionEvent :=
  match prior with
  | .dict previous =>
    match Dict.get previous "deferred_subscription_events" with
    | .list rawEvents => (lastN eventLimit rawEvents).filterMap SubscriptionEvent.ofValue?
    | _ => []
  | _ => []

def nextEvents (now : ℤ) (updates : Dict) (prior : Value) : List SubscriptionEvent :=
  (eventOf? now updates).toList.foldl (push SubscriptionEvent.same) (previousEvents prior)

/-- mirrors 668-734 -/
def releaseConflictPayload (now : ℤ) (state : Value) (updates : Dict) (prior : Value) : Value :=
  let payload : Dict :=
    [("at", .int now), ("phase", state), ("kind", .text "profile_mutation"),
      ("fields", .list (((updates.keys.mergeSort fun a b => decide (a ≤ b)).take 32).map .text))]
  let deferredUpdates := (previousDeferred prior).update (deferredPart updates)
  let payload :=
    if deferredUpdates.isEmpty then payload
    else payload.set "deferred_updates" (.dict deferredUpdates)
  let events := nextEvents now updates prior
  .dict (if events.isEmpty then payload
    else payload.set "deferred_subscription_events"
      (.list ((lastN eventLimit events).map SubscriptionEvent.value)))

/-- The update of a stored profile; one that names the claim is turned away.
mirrors 737-798 (`apply_release_aware_contractor_update`) -/
def applyUpdate (E : Env) : Machine Dict (Double × Dict) ReleaseAwareMutationResult :=
  fun doc call =>
    if call.2.has claimField then (doc, .held)
    else applyReleaseAware
      { E with conflictPayload := releaseConflictPayload (Number.floor call.1) } call.1 doc call.2

/-! ## What one rebuild keeps -/

theorem conflictPayload_deferred (now : ℤ) (state : Value) (updates : Dict) (prior : Value) :
    previousDeferred (releaseConflictPayload now state updates prior) =
      (previousDeferred prior).update (deferredPart updates) := by
  generalize hdeferred : (previousDeferred prior).update (deferredPart updates) = deferred
  simp only [releaseConflictPayload, hdeferred]
  cases deferred with
  | nil =>
    simp only [List.isEmpty_nil, if_true]
    split <;> simp [previousDeferred]
  | cons e deferred =>
    simp only [List.isEmpty_cons, Bool.false_eq_true, if_false]
    split <;> simp [previousDeferred]

/-- `record["deferred_subscription_events"]`, where it is a list. -/
def recordedEvents (record : Value) : List Value :=
  match record with
  | .dict fields =>
    match Dict.get fields "deferred_subscription_events" with
    | .list events => events
    | _ => []
  | _ => []

theorem previousEvents_eq (prior : Value) : previousEvents prior =
    (lastN eventLimit (recordedEvents prior)).filterMap SubscriptionEvent.ofValue? := by
  unfold previousEvents recordedEvents
  split
  · split
    · rfl
    · simp [lastN]
  · simp [lastN]

theorem conflictPayload_events (now : ℤ) (state : Value) (updates : Dict) (prior : Value) :
    recordedEvents (releaseConflictPayload now state updates prior) =
      (lastN eventLimit (nextEvents now updates prior)).map SubscriptionEvent.value := by
  generalize hevents : nextEvents now updates prior = events
  simp only [releaseConflictPayload, hevents]
  generalize (previousDeferred prior).update (deferredPart updates) = deferred
  cases events with
  | nil =>
    simp only [List.isEmpty_nil, if_true]
    split <;> simp [recordedEvents, lastN]
  | cons e events =>
    simp only [List.isEmpty_cons, Bool.false_eq_true, if_false]
    split <;> simp [recordedEvents]

theorem conflictPayload_previousEvents (now : ℤ) (state : Value) (updates : Dict)
    (prior : Value) : previousEvents (releaseConflictPayload now state updates prior) =
      lastN eventLimit (nextEvents now updates prior) := by
  have hlen := length_lastN_le eventLimit (nextEvents now updates prior)
  rw [previousEvents_eq, conflictPayload_events, lastN_of_le (by rw [List.length_map]; exact hlen),
    List.filterMap_map]
  have hid : SubscriptionEvent.ofValue? ∘ SubscriptionEvent.value = some :=
    funext SubscriptionEvent.ofValue?_value
  rw [hid, List.filterMap_some]

/-! ## Runs -/

variable (E : Env)

theorem applyUpdate_held {doc claim : Dict} (hclaim : doc.get claimField = .dict claim)
    (hholds : holds (claimState claim) = true) (now : Double) {updates : Dict}
    (hupdates : updates.has claimField = false) : ∃ claim', holds (claimState claim') = true ∧
      applyUpdate E doc (now, updates) = ((doc.set claimField (.dict claim')).set conflictField
        (releaseConflictPayload (Number.floor now) (claimState claim) updates
          (doc.get conflictField)), .held) := by
  have hstate : (claimState claim).isStr (py "reserved") = false ∧
      (claimState claim).isStr (py "cancelled") = false := by
    simpa [holds] using hholds
  simp only [applyUpdate, hupdates, applyReleaseAware, hclaim, hstate.1, hstate.2,
    Bool.false_eq_true, if_false]
  split
  · refine ⟨_, ?_, rfl⟩
    rw [claimState_set _ _ _ _ (by decide)]
    simp [holds]
  · exact ⟨claim, hholds, rfl⟩

def latest (f : String) (calls : List (Double × Dict)) : Option Value :=
  calls.foldl (fun before call => (Entries.find? call.2 f).or before) none

def eventsOf (calls : List (Double × Dict)) : List SubscriptionEvent :=
  calls.filterMap fun call => eventOf? (Number.floor call.1) call.2

/-- The record holds the latest value of each deferred field and the last events, adjacent
repetitions collapsed; the rest of the profile is as it was. -/
structure KeepsEvidence (doc : Dict) (calls : List (Double × Dict)) (doc' : Dict) : Prop where
  deferred : ∀ f ∈ releaseConflictDeferredFields, ∀ v, latest f calls = some v →
    Entries.find? (previousDeferred (doc'.get conflictField)) f = some v
  events : calls ≠ [] → recordedEvents (doc'.get conflictField) =
    (lastN eventLimit ((previousEvents (doc.get conflictField)).dropLast ++
      ((previousEvents (doc.get conflictField)).getLast?.toList ++ eventsOf calls).destutter
        fun e f => e.same f = false)).map SubscriptionEvent.value
  profile : ∀ f, f ≠ claimField → f ≠ conflictField → Entries.find? doc' f = Entries.find? doc f

structure Rebuilt (doc : Dict) (calls : List (Double × Dict)) (doc' : Dict) : Prop where
  claim : ∃ claim, doc'.get claimField = .dict claim ∧ holds (claimState claim) = true
  deferred : ∀ f ∈ releaseConflictDeferredFields,
    Entries.find? (previousDeferred (doc'.get conflictField)) f =
      (latest f calls).or (Entries.find? (previousDeferred (doc.get conflictField)) f)
  events : previousEvents (doc'.get conflictField) = lastN eventLimit
    ((eventsOf calls).foldl (push SubscriptionEvent.same) (previousEvents (doc.get conflictField)))
  stored : calls ≠ [] → recordedEvents (doc'.get conflictField) =
    (previousEvents (doc'.get conflictField)).map SubscriptionEvent.value
  profile : ∀ f, f ≠ claimField → f ≠ conflictField → Entries.find? doc' f = Entries.find? doc f

theorem previousEvents_length_le (prior : Value) :
    (previousEvents prior).length ≤ eventLimit := by
  rw [previousEvents_eq]
  exact (List.length_filterMap_le ..).trans (length_lastN_le ..)

theorem rebuilt_nil {doc claim : Dict} (hclaim : doc.get claimField = .dict claim)
    (hholds : holds (claimState claim) = true) : Rebuilt doc [] doc where
  claim := ⟨claim, hclaim, hholds⟩
  deferred := fun _ _ => rfl
  events := (lastN_of_le (previousEvents_length_le _)).symm
  stored := fun h => absurd rfl h
  profile := fun _ _ _ => rfl

theorem eventsOf_concat (calls : List (Double × Dict)) (call : Double × Dict) :
    eventsOf (calls ++ [call]) =
      eventsOf calls ++ (eventOf? (Number.floor call.1) call.2).toList := by
  rw [eventsOf, eventsOf, List.filterMap_append]
  cases h : eventOf? (Number.floor call.1) call.2 <;> simp [h]

theorem latest_concat (f : String) (calls : List (Double × Dict)) (call : Double × Dict) :
    latest f (calls ++ [call]) = (Entries.find? call.2 f).or (latest f calls) := by
  rw [latest, List.foldl_append]
  rfl

theorem lastN_foldl_push (h : List SubscriptionEvent) (next : Option SubscriptionEvent) :
    lastN eventLimit (next.toList.foldl (push SubscriptionEvent.same) (lastN eventLimit h)) =
      lastN eventLimit (next.toList.foldl (push SubscriptionEvent.same) h) := by
  cases next with
  | none => exact lastN_of_le (length_lastN_le ..)
  | some e => exact lastN_push SubscriptionEvent.same (by decide) h e

theorem rebuilt_step {doc doc' : Dict} {calls : List (Double × Dict)} (h : Rebuilt doc calls doc')
    (now : Double) {updates : Dict} (hupdates : updates.has claimField = false) :
    Rebuilt doc (calls ++ [(now, updates)]) (applyUpdate E doc' (now, updates)).1 := by
  obtain ⟨claim, hclaim, hholds⟩ := h.claim
  obtain ⟨claim', hholds', hstep⟩ := applyUpdate_held E hclaim hholds now hupdates
  rw [hstep]
  have hconflict : Dict.get ((Dict.set doc' claimField (.dict claim')).set conflictField
      (releaseConflictPayload (Number.floor now) (claimState claim) updates
        (doc'.get conflictField))) conflictField =
      releaseConflictPayload (Number.floor now) (claimState claim) updates
        (doc'.get conflictField) := by
    rw [Dict.get_set, if_pos rfl]
  have hevents : previousEvents (releaseConflictPayload (Number.floor now) (claimState claim)
      updates (doc'.get conflictField)) =
      lastN eventLimit ((eventsOf (calls ++ [(now, updates)])).foldl (push SubscriptionEvent.same)
        (previousEvents (doc.get conflictField))) := by
    rw [conflictPayload_previousEvents, nextEvents, h.events, eventsOf_concat,
      List.foldl_append]
    exact lastN_foldl_push _ _
  exact
    { claim := ⟨claim', by rw [Dict.get_set, if_neg (by decide), Dict.get_set, if_pos rfl],
        hholds'⟩
      deferred := by
        intro f hf
        have hpart : Entries.find? (deferredPart updates) f = Entries.find? updates f := by
          rw [deferredPart, find?_restrict releaseConflictDeferredFields_nodup, if_pos hf]
        rw [hconflict, conflictPayload_deferred,
          find?_update _ (deferredPart updates) _
            (keys_restrict_nodup releaseConflictDeferredFields_nodup updates), hpart,
          h.deferred f hf, latest_concat, Option.or_assoc]
      events := by rw [hconflict, hevents]
      stored := by
        intro _
        rw [hconflict, conflictPayload_events, conflictPayload_previousEvents]
      profile := by
        intro f hf hf'
        rw [Dict.set, Dict.set, Entries.find?_set, if_neg hf'.symm, Entries.find?_set,
          if_neg hf.symm, h.profile f hf hf'] }

theorem rebuilt_run {doc claim : Dict} (hclaim : doc.get claimField = .dict claim)
    (hholds : holds (claimState claim) = true) (calls : List (Double × Dict))
    (hcalls : ∀ c ∈ calls, c.2.has claimField = false) :
    Rebuilt doc calls ((applyUpdate E).run doc calls) := by
  induction calls using List.reverseRecOn with
  | nil => exact rebuilt_nil hclaim hholds
  | append_singleton calls c ih =>
    rw [Machine.run_append, Machine.run_cons, Machine.run_nil]
    exact rebuilt_step E (ih fun d hd => hcalls d (List.mem_append_left _ hd)) c.1
      (hcalls c (List.mem_append_right _ List.mem_cons_self))

theorem Rebuilt.keepsEvidence {doc doc' : Dict} {calls : List (Double × Dict)}
    (h : Rebuilt doc calls doc') : KeepsEvidence doc calls doc' where
  deferred := by
    intro f hf v hv
    rw [h.deferred f hf, hv]
    rfl
  events := by
    intro hcalls
    rw [h.stored hcalls, h.events, foldl_push]
  profile := h.profile

theorem keepsEvidence_run {doc claim : Dict} (hclaim : doc.get claimField = .dict claim)
    (hholds : holds (claimState claim) = true) (calls : List (Double × Dict))
    (hcalls : ∀ c ∈ calls, c.2.has claimField = false) :
    KeepsEvidence doc calls ((applyUpdate E).run doc calls) :=
  (rebuilt_run E hclaim hholds calls hcalls).keepsEvidence

/-! ## Claims that are not maps -/

theorem applyUpdate_malformed {doc : Dict} (hheld : held doc = true)
    (hclaim : ∀ claim, doc.get claimField ≠ .dict claim) (now : Double) {updates : Dict}
    (hupdates : updates.has claimField = false) :
    applyUpdate E doc (now, updates) = (doc.set conflictField
      (releaseConflictPayload (Number.floor now) (.text "malformed") updates .none), .held) := by
  simp only [applyUpdate, hupdates, Bool.false_eq_true, if_false, applyReleaseAware]
  split
  · rename_i hnone
    simp [held, hnone] at hheld
  · rename_i claim hdict
    exact absurd hdict (hclaim claim)
  · rfl

def crossing : List (Double × Dict) :=
  [(.ofRat 0, [("active", .bool true)]), (.ofRat 0, [("last_inbound_call_at", .int 5)])]

theorem not_keepsEvidence_crossing {doc : Dict} (hheld : held doc = true)
    (hclaim : ∀ claim, doc.get claimField ≠ .dict claim) :
    ¬ KeepsEvidence doc crossing ((applyUpdate E).run doc crossing) := by
  intro h
  have hkept := h.deferred "active" (by decide) (.bool true) rfl
  have hfirst := applyUpdate_malformed E hheld hclaim (.ofRat 0)
    (show Dict.has [("active", .bool true)] claimField = false by decide)
  generalize releaseConflictPayload (Number.floor (.ofRat 0)) (.text "malformed")
    [("active", .bool true)] .none = conflict at hfirst
  have hsame : Dict.get (Dict.set doc conflictField conflict) claimField = doc.get claimField := by
    rw [Dict.get_set, if_neg (by decide)]
  have hheld' : held (Dict.set doc conflictField conflict) = true := by
    rw [← hheld, held, held, hsame]
  have hsecond := applyUpdate_malformed E hheld' (fun claim => by rw [hsame]; exact hclaim claim)
    (.ofRat 0) (show Dict.has [("last_inbound_call_at", .int 5)] claimField = false by decide)
  rw [crossing, Machine.run_cons, hfirst, Machine.run_cons, hsecond, Machine.run_nil, Dict.get_set,
    if_pos rfl, conflictPayload_deferred] at hkept
  have hlost : Entries.find? ((previousDeferred .none).update
      (deferredPart [("last_inbound_call_at", .int 5)])) "active" = none := rfl
  rw [hlost] at hkept
  cases hkept

/-! ## Evidence is kept where the claim is a map -/

theorem held_dict {doc claim : Dict} (hheld : held doc = true)
    (hclaim : doc.get claimField = .dict claim) : holds (claimState claim) = true := by
  rwa [held, hclaim] at hheld

/-- Of the claims that hold updates, those that are maps keep the evidence of every
sequence of updates, whatever is on record, and the others do not. -/
theorem keepsEvidence_iff (doc : Dict) (hheld : held doc = true) :
    (∀ calls : List (Double × Dict), (∀ c ∈ calls, c.2.has claimField = false) →
      KeepsEvidence doc calls ((applyUpdate E).run doc calls)) ↔
    ∃ claim, doc.get claimField = .dict claim := by
  constructor
  · intro h
    by_contra hclaim
    exact not_keepsEvidence_crossing E hheld (not_exists.mp hclaim) (h crossing (by decide))
  · rintro ⟨claim, hclaim⟩ calls hcalls
    exact keepsEvidence_run E hclaim (held_dict hheld hclaim) calls hcalls

def exampleDeleting : Dict := [(claimField, .dict [("state", .text "deleting")])]

theorem exampleDeleting_keepsEvidence :
    (∀ calls : List (Double × Dict), (∀ c ∈ calls, c.2.has claimField = false) →
      KeepsEvidence exampleDeleting calls ((applyUpdate exampleEnv).run exampleDeleting calls)) ↔
    ∃ claim, exampleDeleting.get claimField = .dict claim :=
  keepsEvidence_iff exampleEnv exampleDeleting (by decide)

def exampleMalformed : Dict := [(claimField, .text "deleting")]

theorem exampleMalformed_loses_active : held exampleMalformed = true ∧
    ¬ KeepsEvidence exampleMalformed crossing
      ((applyUpdate exampleEnv).run exampleMalformed crossing) := by
  refine ⟨by decide, not_keepsEvidence_crossing exampleEnv (by decide) ?_⟩
  intro claim h
  cases h

end HeyKevin.L6.AppStore
