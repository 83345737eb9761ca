import HeyKevin.L1Encoding.Sha256
import HeyKevin.L9Texting.OwnerSms
/-!
# Consent follows events

One contractor, whoever calls and in whatever order: a run of `step`.

* `step_change`: what one call can do to the contractor's two documents.
* `consent_follows_events`: every dedupe key is applied at most once, the
  revision counts the applied events, the flag is the value of the last one,
  and a provider report is applied only while its message's revision stands.
-/
namespace HeyKevin.L9.Texting

open HeyKevin.Core Binary64 L1 L1.Text

variable {ν : Type} {L : Libraries ν}

abbrev LogEvent := Event Store Call Answer

/-- A field of the profile of contractor `k`. -/
def field (s : Store) (k : Str) (f : String) : Value :=
  ((Entries.find? s k).map fun doc => doc.profile.get f).getD .none

/-- The transition that an event applied to contractor `k`, if it did. -/
def applied? (k : Str) (call : Call) (answer : Answer) : Option ConsentTransition :=
  match call, answer with
  | .transition t, .transition .applied _ _ => if strip t.contractorId = k then some t else none
  | _, _ => none

/-- The transitions applied to contractor `k`, in order. -/
def applied (k : Str) (log : List LogEvent) : List ConsentTransition :=
  log.filterMap fun e => applied? k e.call e.resp

/-! ## One call -/

def ConsentTransition.profile (t : ConsentTransition) (data : Dict) (revision : ℤ) : Dict :=
  data.update
    [("owner_sms_opted_out", .bool t.optOut),
     ("owner_sms_opt_out_revision", .int revision),
     ("owner_sms_opt_out_source", .str t.source),
     ("owner_sms_opt_out_updated_at", .number (.float t.now))]

section Steps

variable {s : Store} {k : Str} {doc : Contractor}

/-- An answer that reports no change to contractor `k`. -/
def Quiet (k : Str) : Call → Answer → Prop
  | .transition t, .transition .applied _ _ => strip t.contractorId ≠ k
  | .collect c, .accepted _ => c.contractorId ≠ k
  | .verify v, .verified => v.contractorId ≠ k
  | _, _ => True

/-- What one call does to contractor `k`. -/
inductive Change (L : Libraries ν) (s : Store) (k : Str) (doc : Contractor) :
    Call → Answer → Contractor → Prop
  | quiet (call answer) (hquiet : Quiet k call answer) : Change L s k doc call answer doc
  | superseded (t : ConsentTransition) (eventId : Str) (marker : Marker) (flag revision)
      (hmine : strip t.contractorId = k)
      (hrev : t.expectedRevision ≠ none) :
      Change L s k doc (.transition t) (.transition .superseded flag revision)
        { doc with events := Entries.set doc.events eventId marker }
  | applied (t : ConsentTransition) (eventId : Str) (marker : Marker)
      (hmine : strip t.contractorId = k)
      (hid : validateAndHashDedupeKey L t.dedupeKey = some eventId)
      (hnew : Entries.find? doc.events eventId = none)
      (hrev : ∀ r, t.expectedRevision = some r → resolveOwnerSmsOptOutRevision doc.profile = r) :
      Change L s k doc (.transition t)
        (.transition .applied t.optOut (resolveOwnerSmsOptOutRevision doc.profile + 1))
        { doc with
          profile := t.profile doc.profile (resolveOwnerSmsOptOutRevision doc.profile + 1)
          events := Entries.set doc.events eventId marker }
  | collected (c : Collect) (consent : Consent) (hmine : c.contractorId = k)
      (hconsent : acceptedConsent L s c doc = .ok consent) :
      Change L s k doc (.collect c) (.accepted consent)
        { doc with
          profile := doc.profile.set "owner_sms_enabled" (.bool true)
          consent := some consent }
  | promoted (v : Verify) (consent : Consent) (hmine : v.contractorId = k)
      (haccount : v.settings.twilioAccountSid = v.accountSid ∧
        v.settings.canadaMessagingServiceSid = v.messagingServiceSid)
      (hconsent : promotedConsent L s v doc = .ok consent) :
      Change L s k doc (.verify v) .verified { doc with consent := some consent }
  | edited (e : Edit) (hmine : e.contractorId = k) :
      Change L s k doc (.edit e) .edited { doc with profile := doc.profile.update e.fields }

/-- The document is still there after the call, changed as `Change` says. -/
def Changed (L : Libraries ν) (s : Store) (k : Str) (doc : Contractor) (call : Call)
    (out : Store × Answer) : Prop :=
  ∃ doc', Entries.find? out.1 k = some doc' ∧ Change L s k doc call out.2 doc'

theorem Changed.same {call : Call} {answer : Answer} (hdoc : Entries.find? s k = some doc)
    (hquiet : Quiet k call answer) : Changed L s k doc call (s, answer) :=
  ⟨doc, hdoc, .quiet _ _ hquiet⟩

theorem Changed.write {call : Call} {answer : Answer} {j : Str} {doc₀ doc' : Contractor}
    (hdoc : Entries.find? s k = some doc) (hj : Entries.find? s j = some doc₀)
    (hother : j ≠ k → Quiet k call answer)
    (hmine : j = k → doc₀ = doc → Change L s k doc call answer doc') :
    Changed L s k doc call (Entries.set s j doc', answer) := by
  by_cases h : j = k
  · refine ⟨doc', by rw [Entries.find?_set, if_pos h], hmine h ?_⟩
    rw [h, hdoc] at hj
    exact (Option.some.inj hj).symm
  · exact ⟨doc, by rw [Entries.find?_set, if_neg h, hdoc], .quiet _ _ (hother h)⟩

theorem applyEvent_change {t : ConsentTransition} {eventId : Str} (hmine : strip t.contractorId = k)
    (hid : validateAndHashDedupeKey L t.dedupeKey = some eventId) :
    Change L s k doc (.transition t) (applyEvent t eventId doc).2 (applyEvent t eventId doc).1 := by
  unfold applyEvent
  simp only
  split
  · exact .quiet _ _ trivial
  · rename_i hnew
    split
    · rename_i hrev
      refine .superseded t eventId _ _ _ hmine fun hnone => ?_
      rw [hnone] at hrev
      cases hrev
    · rename_i hrev
      refine .applied t eventId _ hmine hid (by simpa using hnew) fun r hr => ?_
      rw [hr] at hrev
      simpa using hrev

theorem transition_changed (hdoc : Entries.find? s k = some doc) (t : ConsentTransition) :
    Changed L s k doc (.transition t) (applyOwnerSmsConsentTransition L s t) := by
  unfold applyOwnerSmsConsentTransition
  simp only
  split
  · exact .same hdoc trivial
  · split
    · exact .same hdoc trivial
    · rename_i eventId hid
      split
      · split
        · exact .same hdoc trivial
        · rename_i doc₀ hfind
          split
          · split
            · exact .same hdoc trivial
            · refine .write hdoc hfind (fun hne => ?_) fun h heq => ?_
              · unfold Quiet
                split <;> simp_all
              · subst heq
                exact applyEvent_change h hid
          · exact .same hdoc trivial
      · exact .same hdoc trivial

theorem collect_changed (hdoc : Entries.find? s k = some doc) (c : Collect) :
    Changed L s k doc (.collect c) (collectCanadaOwnerSmsConsent L s c) := by
  unfold collectCanadaOwnerSmsConsent
  split
  · exact .same hdoc trivial
  · split
    · exact .same hdoc trivial
    · rename_i doc₀ hfind
      split
      · exact .same hdoc trivial
      · rename_i consent hconsent
        refine .write hdoc hfind (fun hne => hne) fun h heq => ?_
        subst heq
        exact .collected c consent h hconsent

theorem verify_changed (hdoc : Entries.find? s k = some doc) (v : Verify) :
    Changed L s k doc (.verify v) (verifyCanadaOwnerSmsDelivery L s v) := by
  unfold verifyCanadaOwnerSmsDelivery
  split
  · rename_i hconfig
    split
    · exact .same hdoc trivial
    · rename_i doc₀ hfind
      split
      · exact .same hdoc trivial
      · rename_i consent hconsent
        refine .write hdoc hfind (fun hne => hne) fun h heq => ?_
        subst heq
        exact .promoted v consent h ⟨hconfig.2.1, hconfig.2.2.1⟩ hconsent
  · exact .same hdoc trivial

/-- **What one call can do** to a contractor. -/
theorem step_change (hdoc : Entries.find? s k = some doc) (call : Call) :
    Changed L s k doc call (step L s call) := by
  cases call with
  | transition t => exact transition_changed hdoc t
  | collect c => exact collect_changed hdoc c
  | verify v => exact verify_changed hdoc v
  | send m => exact .same hdoc trivial
  | edit e =>
    simp only [step]
    split
    · exact .same hdoc trivial
    · rename_i doc₀ hfind
      refine .write hdoc hfind (fun _ => trivial) fun h heq => ?_
      subst heq
      exact .edited e h

end Steps

/-! ## What a change keeps -/

section Changes

variable {s : Store} {k : Str} {doc doc' : Contractor} {call : Call} {answer : Answer}

theorem Change.kept (h : Change L s k doc call answer doc') (hno : applied? k call answer = none)
    {f : String} (hf : f = "owner_sms_opted_out" ∨ f = "owner_sms_opt_out_revision") :
    doc'.profile.get f = doc.profile.get f := by
  cases h with
  | quiet => rfl
  | superseded => rfl
  | applied t _ _ hmine =>
    rw [applied?, if_pos hmine] at hno
    cases hno
  | collected => rcases hf with rfl | rfl <;> simp
  | promoted => rfl
  | edited e =>
    refine Dict.get_update_of_not_mem _ _ fun hk => e.spares f hk ?_
    rcases hf with rfl | rfl <;> decide

structure Applies (L : Libraries ν) (doc doc' : Contractor) (t : ConsentTransition) : Prop where
  flag : doc'.profile.get "owner_sms_opted_out" = .bool t.optOut
  revision : doc'.profile.get "owner_sms_opt_out_revision" =
    .int (resolveOwnerSmsOptOutRevision doc.profile + 1)
  expected : ∀ r, t.expectedRevision = some r → resolveOwnerSmsOptOutRevision doc.profile = r
  marked : ∃ eventId, validateAndHashDedupeKey L t.dedupeKey = some eventId ∧
    Entries.find? doc.events eventId = none ∧ (Entries.find? doc'.events eventId).isSome = true

theorem Change.applies (h : Change L s k doc call answer doc') {t : ConsentTransition}
    (happ : applied? k call answer = some t) : Applies L doc doc' t := by
  cases h with
  | quiet _ _ hquiet =>
    unfold applied? at happ
    split at happ
    · split at happ
      · rename_i hmine
        exact absurd hmine hquiet
      · cases happ
    · cases happ
  | superseded => cases happ
  | applied u eventId marker hmine hid hnew hrev =>
    rw [applied?, if_pos hmine] at happ
    cases happ
    refine ⟨?_, ?_, hrev, eventId, hid, hnew, ?_⟩
    · simp [ConsentTransition.profile]
    · simp [ConsentTransition.profile]
    · simp [Entries.find?_set]
  | collected => cases happ
  | promoted => cases happ
  | edited => cases happ

theorem Change.marker (h : Change L s k doc call answer doc') {id : Str}
    (hid : (Entries.find? doc.events id).isSome = true) :
    (Entries.find? doc'.events id).isSome = true := by
  cases h with
  | quiet => exact hid
  | superseded _ eventId =>
    simp only [Entries.find?_set]
    split
    · rfl
    · exact hid
  | applied _ eventId =>
    simp only [Entries.find?_set]
    split
    · rfl
    · exact hid
  | collected => exact hid
  | promoted => exact hid
  | edited => exact hid

theorem Change.enabled {t : ConsentTransition} (h : Change L s k doc (.transition t) answer doc') :
    Entries.find? doc'.profile "owner_sms_enabled" =
      Entries.find? doc.profile "owner_sms_enabled" := by
  cases h with
  | quiet => rfl
  | superseded => rfl
  | applied => exact Entries.find?_update_of_not_mem _ _ (by simp [Entries.keys])

theorem resolve_of_stored {data : Dict} {n : ℤ}
    (h : data.get "owner_sms_opt_out_revision" = .int n) (hn : 0 ≤ n) :
    resolveOwnerSmsOptOutRevision data = n := by
  simp [resolveOwnerSmsOptOutRevision, h, Value.int, revision?, hn]

end Changes

/-! ## Runs -/

section Runs

variable {s : Store} {k : Str} {n : ℤ}

/-- The contractor exists and its stored revision is `n`. -/
structure Tracked (s : Store) (k : Str) (n : ℤ) (doc : Contractor) : Prop where
  present : Entries.find? s k = some doc
  stored : doc.profile.get "owner_sms_opt_out_revision" = .int n
  nonneg : 0 ≤ n

theorem Tracked.field {doc : Contractor} (h : Tracked s k n doc) (f : String) :
    field s k f = doc.profile.get f := by
  simp [Texting.field, h.present]

theorem Tracked.step {doc : Contractor} (h : Tracked s k n doc) (call : Call) :
    ∃ doc', Tracked (step L s call).1 k
        (n + (applied? k call (step L s call).2).toList.length) doc' ∧
      Change L s k doc call (step L s call).2 doc' := by
  obtain ⟨doc', hfind, hchange⟩ := step_change h.present call
  have hn := h.nonneg
  refine ⟨doc', ?_, hchange⟩
  cases happ : applied? k call (Texting.step L s call).2 with
  | none =>
    refine ⟨hfind, ?_, by simpa using hn⟩
    rw [hchange.kept happ (.inr rfl), h.stored]
    simp
  | some t =>
    refine ⟨hfind, ?_, by simp only [Option.toList_some, List.length_singleton]; omega⟩
    rw [(hchange.applies happ).revision, resolve_of_stored h.stored hn]
    rfl

theorem applied_cons (k : Str) (e : LogEvent) (log : List LogEvent) :
    applied k (e :: log) = (applied? k e.call e.resp).toList ++ applied k log := by
  unfold applied
  rw [List.filterMap_cons]
  cases applied? k e.call e.resp <;> rfl

/-- **The revision counts the applied events.** -/
theorem Tracked.run {doc : Contractor} (h : Tracked s k n doc) (calls : List Call) :
    ∃ doc', Tracked ((Texting.step L).run s calls) k
      (n + (applied k ((Texting.step L).log s calls)).length) doc' := by
  induction calls generalizing s n doc with
  | nil => exact ⟨doc, by simpa [applied] using h⟩
  | cons call calls ih =>
    obtain ⟨doc₁, h₁, -⟩ := h.step (L := L) call
    obtain ⟨doc₂, h₂⟩ := ih h₁
    refine ⟨doc₂, ?_⟩
    rw [Machine.run_cons, Machine.log_cons, applied_cons, List.length_append, Nat.cast_add,
      ← add_assoc]
    exact h₂

theorem Tracked.flag {doc : Contractor} (h : Tracked s k n doc) (calls : List Call) :
    Texting.field ((Texting.step L).run s calls) k "owner_sms_opted_out" =
      ((applied k ((Texting.step L).log s calls)).getLast?).elim
        (Texting.field s k "owner_sms_opted_out") fun t => .bool t.optOut := by
  induction calls generalizing s n doc with
  | nil => rfl
  | cons call calls ih =>
    obtain ⟨doc₁, h₁, hchange⟩ := h.step (L := L) call
    rw [Machine.run_cons, ih h₁, Machine.log_cons, applied_cons, h₁.field, h.field,
      Machine.event_call, Machine.event_resp]
    cases happ : applied? k call (Texting.step L s call).2 with
    | none => rw [hchange.kept happ (.inl rfl), Option.toList_none, List.nil_append]
    | some t =>
      rw [(hchange.applies happ).flag, Option.toList_some, List.singleton_append,
        List.getLast?_cons]
      cases (applied k ((Texting.step L).log (Texting.step L s call).1 calls)).getLast? <;> rfl

theorem Tracked.not_applied {doc : Contractor} (h : Tracked s k n doc) {id : Str}
    (hid : (Entries.find? doc.events id).isSome = true) (calls : List Call) :
    ∀ t ∈ applied k ((Texting.step L).log s calls),
      validateAndHashDedupeKey L t.dedupeKey ≠ some id := by
  induction calls generalizing s n doc with
  | nil => simp [applied]
  | cons call calls ih =>
    obtain ⟨doc₁, h₁, hchange⟩ := h.step (L := L) call
    intro t ht
    rw [Machine.log_cons, applied_cons, List.mem_append, Machine.event_call,
      Machine.event_resp] at ht
    rcases ht with ht | ht
    · intro heq
      obtain ⟨eventId, hvalid, hnone, -⟩ := (hchange.applies (Option.mem_toList.mp ht)).marked
      obtain rfl : eventId = id := Option.some.inj (hvalid.symm.trans heq)
      rw [hnone] at hid
      cases hid
    · exact ih h₁ (hchange.marker hid) t ht

/-- **A dedupe key is applied at most once.** -/
theorem Tracked.once {doc : Contractor} (h : Tracked s k n doc) (calls : List Call) :
    ((applied k ((Texting.step L).log s calls)).map fun t => strip t.dedupeKey).Nodup := by
  induction calls generalizing s n doc with
  | nil => simp [applied]
  | cons call calls ih =>
    obtain ⟨doc₁, h₁, hchange⟩ := h.step (L := L) call
    rw [Machine.log_cons, applied_cons, Machine.event_call, Machine.event_resp]
    cases happ : applied? k call (Texting.step L s call).2 with
    | none => simpa using ih h₁
    | some t =>
      obtain ⟨eventId, hvalid, -, hmarked⟩ := (hchange.applies happ).marked
      rw [Option.toList_some, List.singleton_append, List.map_cons, List.nodup_cons]
      refine ⟨fun hmem => ?_, ih h₁⟩
      obtain ⟨u, hu, heq⟩ := List.mem_map.mp hmem
      refine h₁.not_applied hmarked calls u hu ?_
      rw [← hvalid, validateAndHashDedupeKey, validateAndHashDedupeKey, heq]

theorem Tracked.sending {doc : Contractor} (h : Tracked s k n doc) {m : Send} {r : ℤ}
    (hmine : strip m.contractorId = k) (hsend : sendOwnerSms L s m = .sending r) : r = n := by
  unfold sendOwnerSms at hsend
  simp only [hmine, h.present] at hsend
  split at hsend
  · cases hsend
  · split at hsend
    · split at hsend
      · cases hsend
      · split at hsend
        · cases hsend
        · cases hsend
          exact resolve_of_stored h.stored h.nonneg
    · cases hsend

end Runs

structure FollowsEvents (L : Libraries ν) (s : Store) (k : Str) (n : ℤ) (calls : List Call) :
    Prop where
  /-- Every dedupe key changes the contractor at most once. -/
  once : ((applied k ((step L).log s calls)).map fun t => strip t.dedupeKey).Nodup
  /-- The revision is the number of applied events above where it started. -/
  revision : field ((step L).run s calls) k "owner_sms_opt_out_revision" =
    .int (n + (applied k ((step L).log s calls)).length)
  flag : field ((step L).run s calls) k "owner_sms_opted_out" =
    ((applied k ((step L).log s calls)).getLast?).elim (field s k "owner_sms_opted_out")
      fun t => .bool t.optOut
  /-- No other call changes the revision or the flag. -/
  otherwise : ∀ e ∈ (step L).log s calls, applied? k e.call e.resp = none →
    field e.post k "owner_sms_opt_out_revision" = field e.pre k "owner_sms_opt_out_revision" ∧
      field e.post k "owner_sms_opted_out" = field e.pre k "owner_sms_opted_out"
  /-- A report is applied only if nothing was since its message read the revision. -/
  reports : ∀ l₁ a l₂ f l₃ m r t, (step L).log s calls = l₁ ++ a :: l₂ ++ f :: l₃ →
    a.call = .send m → strip m.contractorId = k → a.resp = .sending r →
    applied? k f.call f.resp = some t → t.expectedRevision = some r → applied k l₂ = []
  /-- A transition never changes `owner_sms_enabled`. -/
  enabled : ∀ e ∈ (step L).log s calls, ∀ t, e.call = .transition t →
    field e.post k "owner_sms_enabled" = field e.pre k "owner_sms_enabled"

theorem Tracked.reports {s : Store} {k : Str} {n : ℤ} {doc : Contractor} (h : Tracked s k n doc)
    {calls : List Call} {l₁ l₂ l₃ : List LogEvent} {a f : LogEvent} {m : Send} {r : ℤ}
    {t : ConsentTransition} (hlog : (Texting.step L).log s calls = l₁ ++ a :: l₂ ++ f :: l₃)
    (hsend : a.call = .send m) (hmine : strip m.contractorId = k) (hresp : a.resp = .sending r)
    (happ : applied? k f.call f.resp = some t) (hexp : t.expectedRevision = some r) :
    applied k l₂ = [] := by
  rw [List.append_assoc, List.cons_append] at hlog
  obtain ⟨cs₁, call, cs₂, -, -, rfl, hrest⟩ := (Texting.step L).log_eq_append_cons hlog
  obtain ⟨cs₃, last, cs₄, -, rfl, rfl, -⟩ := (Texting.step L).log_eq_append_cons hrest.symm
  obtain ⟨doc₁, h₁⟩ := h.run (L := L) cs₁
  simp only [Machine.event_call, Machine.event_resp] at hsend hresp happ
  subst hsend
  have hread := h₁.sending hmine hresp
  obtain ⟨doc₂, h₂⟩ := h₁.run (L := L) cs₃
  obtain ⟨doc₃, -, hchange⟩ := h₂.step (L := L) last
  have hstands := (hchange.applies happ).expected r hexp
  rw [resolve_of_stored h₂.stored h₂.nonneg, hread] at hstands
  simp only [Texting.step]
  exact List.length_eq_zero_iff.mp (by omega)

/-- **Consent follows events**, from any revision, over every order of calls. -/
theorem consent_follows_events (L : Libraries ν) (s : Store) (k : Str) (n : ℤ) (doc : Contractor)
    (hdoc : Entries.find? s k = some doc)
    (hstored : doc.profile.get "owner_sms_opt_out_revision" = .int n) (hn : 0 ≤ n)
    (calls : List Call) : FollowsEvents L s k n calls := by
  have h : Tracked s k n doc := ⟨hdoc, hstored, hn⟩
  obtain ⟨doc', hrun⟩ := h.run (L := L) calls
  refine ⟨h.once calls, (hrun.field _).trans hrun.stored, h.flag calls, fun e he hno => ?_,
    fun l₁ a l₂ f l₃ m r t => h.reports, fun e he t ht => ?_⟩
  · obtain ⟨cs₁, call, cs₂, -, rfl⟩ := (step L).mem_log he
    obtain ⟨doc₁, h₁⟩ := h.run (L := L) cs₁
    obtain ⟨doc₂, h₂, hchange⟩ := h₁.step (L := L) call
    simp only [Machine.event_post, Machine.event_pre, h₁.field, h₂.field]
    exact ⟨hchange.kept hno (.inr rfl), hchange.kept hno (.inl rfl)⟩
  · obtain ⟨cs₁, call, cs₂, -, rfl⟩ := (step L).mem_log he
    obtain ⟨doc₁, h₁⟩ := h.run (L := L) cs₁
    obtain ⟨doc₂, h₂, hchange⟩ := h₁.step (L := L) call
    simp only [Machine.event_call] at ht
    subst ht
    simp only [Machine.event_post, Machine.event_pre, h₁.field, h₂.field, Dict.get,
      hchange.enabled]

def exampleLibraries : Libraries Str where
  upper := List.map fun c => if 97 ≤ c.val ∧ c.val < 123 then chr (c.val - 32) else c
  isDecimal := fun _ => false
  sha256 := Sha256.sha256
  parse := fun s _ => if s.length = 12 ∧ s.take 2 = py "+1" then some s else none
  isValidNumber := fun _ => true
  e164 := id
  regionCodeForNumber := fun s =>
    some (if s.take 5 = py "+1416" ∨ s.take 5 = py "+1647" then py "CA" else py "US")

def exampleContractor : Contractor where
  profile :=
    [("owner_phone_e164", .text "+14165551234"), ("twilio_number", .text "+16475551234"),
     ("country_code", .text "CA"), ("provisioned_country_code", .text "CA"),
     ("active", .bool true), ("number_provider", .text "twilio"), ("number_type", .text "local"),
     ("number_capabilities", .dict [("voice", .bool true), ("sms", .bool true)]),
     ("owner_sms_opted_out", .bool false), ("owner_sms_opt_out_revision", .int 0)]
  consent := none
  events := []

def exampleStart : ConsentTransition where
  contractorId := py "c1"
  optOut := false
  source := py "inbound_start"
  dedupeKey := py "inbound:SM" ++ List.replicate 32 48
  expectedOwnerPhone := py "+14165551234"
  expectedTwilioNumber := py "+16475551234"
  expectedRevision := none
  now := .ofRat 0

/-- A START that is delivered twice. -/
theorem consent_follows_events_redelivered :
    FollowsEvents exampleLibraries [(py "c1", exampleContractor)] (py "c1") 0
      [.transition exampleStart, .transition exampleStart] :=
  consent_follows_events exampleLibraries _ _ 0 exampleContractor rfl rfl le_rfl _

end HeyKevin.L9.Texting
