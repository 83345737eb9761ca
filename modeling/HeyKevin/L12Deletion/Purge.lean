import HeyKevin.Core.Machine
import HeyKevin.L1Encoding.Sha256
import HeyKevin.L12Deletion.InactiveBilling
/-!
# Erasing a deleted account

A purge (app/db/purge.py) checks the profile, deletes everything the account
stored, reads the profile again and replaces it by a tombstone: four accesses,
none in a transaction. `step` runs any number of purges on one profile, each
started by a sweep and stopped anywhere, between the transactions of App Store
notifications and the updates of whoever else edits the profile.

* `tombstone_get`, `tombstone_keys`: a tombstone keeps the billing evidence of
  the profile it is made from, and nothing outside the allowlist.
* `purge_safe_iff`: every purge overwrites a profile that is due and loses no
  evidence exactly when none overwrites with a stale copy.

Line numbers are those of app/db/purge.py.
-/
namespace HeyKevin.L12

open HeyKevin.Core Binary64 L1 L1.Text

/-! ## The purge -/

structure Settings where
  purgeEnabled : Bool
  purgeGraceDays : ℤ

/-- mirrors 51 -/
def sweepIntervalSeconds : ℤ := 6 * 3600

/-- mirrors 56-69 -/
def tombstoneFields : List String :=
  ["active", "purged_at", "deactivated_at", "deletion_requested_at", "subscription_uuid",
    "apple_user_id", "post_deletion_billing", "number_release_anomaly", "deleted_app_detected_at"]

inductive Refusal
  | notFound
  | alreadyPurged
  | notDeactivated
  | noDeletionRequest
deriving DecidableEq

/-- mirrors 101-117 -/
def refusal : Option Dict → Option Refusal
  | none => some .notFound
  | some data =>
    if (data.get "purged_at").truthy then some .alreadyPurged
    else if isFalse (data.get "active") = false then some .notDeactivated
    else if (data.get "deletion_requested_at").truthy = false then some .noDeletionRequest
    else none

def evidenceFields : List String :=
  tombstoneFields.filter fun f => f ≠ "active" ∧ f ≠ "purged_at"

/-- `if fresh.get(field) is not None: tombstone[field] = fresh[field]` -/
def keepField (fresh t : Dict) (f : String) : Dict :=
  match fresh.get f with
  | .none => t
  | v => t.set f v

/-- mirrors 188-194 -/
def tombstone (fresh : Dict) (purgedAt : ℤ) : Dict :=
  evidenceFields.foldl (keepField fresh) [("active", .bool false), ("purged_at", .int purgedAt)]

/-- Deletion was asked for before the cutoff, as the query and the sweep check it.
mirrors 219-243 (`purge_sweep`) -/
def due (s : Settings) (now : Double) (data : Dict) : Bool :=
  let cutoff :=
    (Number.float now).sub (.int (s.purgeGraceDays * 24 * 3600 - sweepIntervalSeconds))
  let requested :=
    match data.get "deletion_requested_at" with
    | .number n => decide (n.val < cutoff.val)
    | .nonFinite .negInf => true
    | _ => false
  requested && !(data.get "purged_at").truthy && isFalse (data.get "active")

inductive Phase
  | idle
  | selected
  | refused (r : Refusal)
  | deleting (data : Dict)
  | reread (data fresh : Dict)
  | purged
  | crashed

structure World where
  profile : Option Dict
  phase : ℕ → Phase

def World.start (profile : Option Dict) : World := ⟨profile, fun _ => .idle⟩

def World.move (w : World) (run : ℕ) (next : Phase) : World :=
  { w with phase := Function.update w.phase run next }

@[simp] theorem World.move_profile (w : World) (run : ℕ) (next : Phase) :
    (w.move run next).profile = w.profile := rfl

/-- `doc_ref.update(fields)` of an existing document; `none` is `DELETE_FIELD`. -/
def updateFields (data : Dict) (fields : List (String × Option Value)) : Dict :=
  fields.foldl
    (fun d e =>
      match e.2 with
      | some v => d.set e.1 v
      | none => d.pop e.1)
    data

inductive Action
  | sweep (run : ℕ) (now : Double)
  | guardRead (run : ℕ)
  /-- One deletion in the account's other documents. -/
  | deleteOther (run : ℕ)
  | reread (run : ℕ)
  | overwrite (run : ℕ) (purgedAt : ℤ)
  | crash (run : ℕ)
  | record (n : Notification) (now : ℤ)
  | update (fields : List (String × Option Value))

variable (s : Settings) (P : Python) (intOf : Str → Option ℤ)

/-- One access to the profile; the response is the document that a purge wrote.
mirrors 97-203 (`_purge_sync`) -/
def step : Machine World Action (Option Dict) := fun w action =>
  match action with
  | .sweep run now =>
    match w.phase run, w.profile with
    | .idle, some data =>
      if s.purgeEnabled && due s now data then (w.move run .selected, none) else (w, none)
    | _, _ => (w, none)
  | .guardRead run =>
    match w.phase run with
    | .selected =>
      match refusal w.profile with
      | some r => (w.move run (.refused r), none)
      | none => (w.move run (.deleting (w.profile.getD [])), none)
    | _ => (w, none)
  | .deleteOther _ => (w, none)
  | .reread run =>
    match w.phase run with
    | .deleting data =>
      -- `(fresh_snap.to_dict() if fresh_snap.exists else None) or data`
      match w.profile.filter fun fresh => !fresh.isEmpty with
      | some fresh => (w.move run (.reread data fresh), none)
      | none => (w.move run (.reread data data), none)
    | _ => (w, none)
  | .overwrite run purgedAt =>
    match w.phase run with
    | .reread _ fresh =>
      let t := tombstone fresh purgedAt
      ({ w.move run .purged with profile := some t }, some t)
    | _ => (w, none)
  | .crash run => (w.move run .crashed, none)
  | .record n now => ({ w with profile := (recordInactive P intOf w.profile n now).1 }, none)
  | .update fields => ({ w with profile := w.profile.map (updateFields · fields) }, none)

/-! ## What is claimed -/

abbrev LogEvent := Event World Action (Option Dict)

def Purgeable (data : Dict) : Prop :=
  isFalse (data.get "active") = true ∧ (data.get "deletion_requested_at").truthy = true ∧
    (data.get "purged_at").truthy = false

/-- A purge that wrote the profile found it purgeable and left the evidence in it, in a document
with tombstone fields only. -/
def Safe (e : LogEvent) : Prop :=
  ∀ t, e.resp = some t → e.post.profile = some t ∧ (∀ k ∈ Entries.keys t, k ∈ tombstoneFields) ∧
    ∃ stored, e.pre.profile = some stored ∧ Purgeable stored ∧
      ∀ f ∈ evidenceFields, stored.get f ≠ .none → t.get f = stored.get f

/-! ## The condition -/

def standing (data : Dict) : Bool × Bool × Bool :=
  (isFalse (data.get "active"), (data.get "deletion_requested_at").truthy,
    (data.get "purged_at").truthy)

/-- The profile has since changed: its standing since the guard read it, or a value in a field of
evidence since it was read again. -/
def Stale (w : World) (run : ℕ) : Prop :=
  ∃ data fresh, w.phase run = .reread data fresh ∧
    (w.profile.map standing ≠ some (standing data) ∨
      ∃ stored, w.profile = some stored ∧
        ∃ f ∈ evidenceFields, stored.get f ≠ .none ∧ fresh.get f ≠ stored.get f)

/-! ## Tombstones -/

theorem keepField_get_ne (fresh t : Dict) {f g : String} (h : f ≠ g) :
    (keepField fresh t f).get g = t.get g := by
  unfold keepField
  split
  · rfl
  · rw [Dict.get_set, if_neg h]

theorem keepField_get_self {fresh t : Dict} {f : String}
    (h : t.get f = .none ∨ t.get f = fresh.get f) : (keepField fresh t f).get f = fresh.get f := by
  unfold keepField
  split
  · rename_i hnone
    rcases h with h | h
    · rw [h, hnone]
    · exact h
  · rw [Dict.get_set, if_pos rfl]

theorem foldl_keepField_get {fresh : Dict} (fields : List String) {t : Dict} {g : String}
    (h : t.get g = fresh.get g) : (fields.foldl (keepField fresh) t).get g = fresh.get g := by
  induction fields generalizing t with
  | nil => exact h
  | cons f fields ih =>
    refine ih ?_
    by_cases hfg : f = g
    · exact hfg ▸ keepField_get_self (.inr (hfg ▸ h))
    · rwa [keepField_get_ne fresh t hfg]

theorem foldl_keepField_get_of_mem {fresh : Dict} {fields : List String} {t : Dict} {g : String}
    (hmem : g ∈ fields) (h : t.get g = .none) :
    (fields.foldl (keepField fresh) t).get g = fresh.get g := by
  induction fields generalizing t with
  | nil => cases hmem
  | cons f fields ih =>
    rw [List.foldl_cons]
    by_cases hfg : f = g
    · exact foldl_keepField_get fields (hfg ▸ keepField_get_self (.inl (hfg ▸ h)))
    · refine ih ?_ (by rwa [keepField_get_ne fresh t hfg])
      exact (List.mem_cons.mp hmem).resolve_left (Ne.symm hfg)

theorem tombstone_get (fresh : Dict) (purgedAt : ℤ) {f : String} (hf : f ∈ evidenceFields) :
    (tombstone fresh purgedAt).get f = fresh.get f := by
  have hne : f ≠ "active" ∧ f ≠ "purged_at" := of_decide_eq_true (List.mem_filter.mp hf).2
  refine foldl_keepField_get_of_mem hf ?_
  rw [Dict.get_cons, if_neg hne.1.symm, Dict.get_cons, if_neg hne.2.symm, Dict.get_nil]

theorem keys_keepField {fresh t : Dict} {f k : String}
    (h : k ∈ Entries.keys (keepField fresh t f)) : k = f ∨ k ∈ Entries.keys t := by
  unfold keepField at h
  split at h
  · exact .inr h
  · rw [Entries.mem_keys, Entries.find?_set] at h
    split at h
    · rename_i hf
      exact .inl hf.symm
    · exact .inr ((Entries.mem_keys t k).mpr h)

theorem tombstone_keys (fresh : Dict) (purgedAt : ℤ) :
    ∀ k ∈ Entries.keys (tombstone fresh purgedAt), k ∈ tombstoneFields := by
  have hfold : ∀ (fields : List String) (t : Dict), (∀ f ∈ fields, f ∈ tombstoneFields) →
      (∀ k ∈ Entries.keys t, k ∈ tombstoneFields) →
      ∀ k ∈ Entries.keys (fields.foldl (keepField fresh) t), k ∈ tombstoneFields := by
    intro fields
    induction fields with
    | nil => exact fun t _ ht => ht
    | cons f fields ih =>
      intro t hfields ht
      refine ih _ (fun g hg => hfields g (List.mem_cons_of_mem f hg)) fun k hk => ?_
      rcases keys_keepField hk with rfl | hk
      · exact hfields k List.mem_cons_self
      · exact ht k hk
  refine hfold _ _ (fun f hf => List.mem_of_mem_filter hf) fun k hk => ?_
  simp only [Entries.keys, List.map_cons, List.map_nil, List.mem_cons, List.not_mem_nil,
    or_false] at hk
  rcases hk with rfl | rfl <;> decide

/-! ## Every run -/

theorem refusal_eq_none {profile : Option Dict} (h : refusal profile = none) :
    ∃ data, profile = some data ∧ Purgeable data := by
  cases profile with
  | none => cases h
  | some data =>
    simp only [refusal] at h
    split at h
    · cases h
    · rename_i hpurged
      split at h
      · cases h
      · rename_i hactive
        split at h
        · cases h
        · rename_i hrequested
          exact ⟨data, rfl, by simpa using hactive, by simpa using hrequested, by simpa using hpurged⟩

/-- A notification leaves the standing of a profile alone: no purge that passed its guard is
stopped, or made wrong, by more than the evidence it brings. -/
theorem standing_recordInactive (P : Python) (intOf : Str → Option ℤ) (profile : Option Dict)
    (n : Notification) (now : ℤ) :
    ((recordInactive P intOf profile n now).1).map standing = profile.map standing := by
  cases profile with
  | none =>
    unfold recordInactive
    split <;> rfl
  | some data =>
    obtain ⟨data', hdata', hother⟩ := recordInactive_profile P intOf data n now
    rw [hdata', Option.map_some, Option.map_some, standing, standing, hother _ (by decide),
      hother _ (by decide), hother _ (by decide)]

theorem purgeable_iff (data : Dict) : Purgeable data ↔ standing data = (true, true, false) := by
  simp only [Purgeable, standing, Prod.mk.injEq]

def Guarded (w : World) : Prop :=
  ∀ run data, (w.phase run = .deleting data ∨ ∃ fresh, w.phase run = .reread data fresh) →
    Purgeable data

theorem Guarded.move {w : World} (h : Guarded w) (run : ℕ) {next : Phase}
    (hnext : ∀ data, (next = .deleting data ∨ ∃ fresh, next = .reread data fresh) →
      Purgeable data) : Guarded (w.move run next) := by
  intro other data hphase
  by_cases heq : other = run
  · subst heq
    simp only [World.move, Function.update_self] at hphase
    exact hnext data hphase
  · simp only [World.move, Function.update_of_ne heq] at hphase
    exact h other data hphase

variable {s P intOf}

theorem Guarded.step {w : World} (h : Guarded w) (action : Action) :
    Guarded (step s P intOf w action).1 := by
  cases action with
  | sweep run now =>
    unfold L12.step
    dsimp only
    split
    · split
      · exact h.move run (by rintro data (h | ⟨_, h⟩) <;> cases h)
      · exact h
    · exact h
  | guardRead run =>
    unfold L12.step
    dsimp only
    split
    · split
      · exact h.move run (by rintro data (h | ⟨_, h⟩) <;> cases h)
      · rename_i hnone
        obtain ⟨stored, hstored, hpurgeable⟩ := refusal_eq_none hnone
        refine h.move run ?_
        rintro data (hdata | ⟨_, hdata⟩)
        · cases hdata
          rwa [hstored]
        · cases hdata
    · exact h
  | deleteOther run => exact h
  | reread run =>
    unfold L12.step
    dsimp only
    split
    · rename_i data hphase
      have hdata := h run data (.inl hphase)
      split
      · exact h.move run (by rintro _ (h | ⟨_, h⟩) <;> cases h; exact hdata)
      · exact h.move run (by rintro _ (h | ⟨_, h⟩) <;> cases h; exact hdata)
    · exact h
  | overwrite run purgedAt =>
    unfold L12.step
    dsimp only
    split
    · exact h.move run (by rintro data (h | ⟨_, h⟩) <;> cases h)
    · exact h
  | crash run => exact h.move run (by rintro data (h | ⟨_, h⟩) <;> cases h)
  | record n now => exact h
  | update fields => exact h

theorem safe_iff {w : World} (h : Guarded w) (action : Action) :
    Safe ((step s P intOf).event w action) ↔
      ∀ run purgedAt, action = .overwrite run purgedAt → ¬ Stale w run := by
  constructor
  · rintro hsafe run purgedAt rfl ⟨data, fresh, hphase, hstale⟩
    have hresp : (step s P intOf w (.overwrite run purgedAt)).2 =
        some (tombstone fresh purgedAt) := by
      simp only [step, hphase]
    obtain ⟨-, -, stored, hstored, hpurgeable, hkept⟩ := hsafe _ hresp
    have hdata := (purgeable_iff data).mp (h run data (.inr ⟨fresh, hphase⟩))
    rcases hstale with hstale | ⟨stored', hstored', f, hf, hsome, hne⟩
    · apply hstale
      rw [show w.profile = some stored from hstored, Option.map_some, hdata,
        (purgeable_iff stored).mp hpurgeable]
    · obtain rfl : stored = stored' := Option.some.inj (hstored.symm.trans hstored')
      exact hne ((tombstone_get fresh purgedAt hf).symm.trans (hkept f hf hsome))
  · intro hcond t hresp
    cases action with
    | overwrite run purgedAt =>
      cases hphase : w.phase run with
      | reread data fresh =>
        have hevent : step s P intOf w (.overwrite run purgedAt) =
            ({ w.move run .purged with profile := some (tombstone fresh purgedAt) },
              some (tombstone fresh purgedAt)) := by
          simp only [step, hphase]
        simp only [Machine.event_resp, hevent, Option.some.injEq] at hresp
        subst hresp
        have hfresh : ¬ Stale w run := hcond run purgedAt rfl
        have hstanding : w.profile.map standing = some (standing data) :=
          not_not.mp fun hne => hfresh ⟨data, fresh, hphase, .inl hne⟩
        obtain ⟨stored, hstored, hsame⟩ := Option.map_eq_some_iff.mp hstanding
        have hdata := (purgeable_iff data).mp (h run data (.inr ⟨fresh, hphase⟩))
        refine ⟨by rw [Machine.event_post, hevent], tombstone_keys fresh purgedAt, stored, hstored,
          (purgeable_iff stored).mpr (hsame.trans hdata), fun f hf hsome => ?_⟩
        rw [tombstone_get fresh purgedAt hf]
        exact not_not.mp fun hne =>
          hfresh ⟨data, fresh, hphase, .inr ⟨stored, hstored, f, hf, hsome, hne⟩⟩
      | _ => simp [step, hphase] at hresp
    | _ =>
      simp only [Machine.event_resp, step] at hresp
      repeat' split at hresp
      all_goals cases hresp

/-- In every run, the purges are safe exactly when none overwrites with a stale copy. -/
theorem purge_safe_iff (s : Settings) (P : Python) (intOf : Str → Option ℤ)
    (profile : Option Dict) (actions : List Action) :
    (∀ e ∈ (step s P intOf).log (World.start profile) actions, Safe e) ↔
      ∀ e ∈ (step s P intOf).log (World.start profile) actions, ∀ run purgedAt,
        e.call = .overwrite run purgedAt → ¬ Stale e.pre run := by
  have hstart : Guarded (World.start profile) := by
    rintro run data (h | ⟨_, h⟩) <;> cases h
  refine forall₂_congr fun e he => ?_
  have hguarded := ((step s P intOf).log_pre hstart (fun w action h => h.step action) he).1
  obtain ⟨_, action, _, -, rfl⟩ := (step s P intOf).mem_log he
  exact safe_iff hguarded action

def exampleSettings : Settings := ⟨true, 30⟩

def exampleProfile : Dict :=
  [("active", .bool false), ("deletion_requested_at", .int 100), ("subscription_uuid", .text "u"),
    ("post_deletion_billing", .dict [("count", .int 1), ("charges", .int 0)])]

def exampleCharge : Notification where
  expectedSubscriptionUuid := py "u"
  notificationType := py "DID_RENEW"
  subtype := none
  transactionId := py "t2"
  purchaseDateMs := .none
  reboundContractorId := none
  renewalObservation := none

def exampleActions : List Action :=
  [.sweep 0 (.ofRat 3000000), .guardRead 0, .reread 0, .record exampleCharge 3000001,
    .overwrite 0 3000002]

theorem due_exampleProfile : due exampleSettings (.ofRat 3000000) exampleProfile = true := by
  have hnow : rnd 3000000 = 3000000 := rnd_natCast (n := 3000000) (by decide)
  have hgrace : rnd 2570400 = 2570400 := rnd_natCast (n := 2570400) (by decide)
  have hcutoff : rnd 429600 = 429600 := rnd_natCast (n := 429600) (by decide)
  have hcut : ((Number.float (.ofRat 3000000)).sub (.int 2570400)).val = 429600 := by
    simp only [Number.sub, Number.toFloat, Number.val, Double.ofRat_val, hnow, Int.cast_ofNat,
      hgrace]
    norm_num [hcutoff]
  have hdue : due exampleSettings (.ofRat 3000000) exampleProfile =
      decide (((100 : ℤ) : ℚ) < ((Number.float (.ofRat 3000000)).sub (.int 2570400)).val) := by
    simp [due, exampleSettings, sweepIntervalSeconds, exampleProfile, Value.int, Value.truthy,
      isFalse, Number.val]
  rw [hdue, hcut]
  norm_num

/-- A charge that was recorded is not in the tombstone. -/
theorem charge_lost :
    ¬ ∀ (profile : Option Dict) (actions : List Action),
      ∀ e ∈ (step exampleSettings asciiPython fun _ => none).log (World.start profile) actions,
        Safe e := by
  intro h
  let m := step exampleSettings asciiPython fun _ => none
  let w := ((World.start (some exampleProfile)).move 0 .selected)
  have hsweep : (m (World.start (some exampleProfile)) (.sweep 0 (.ofRat 3000000))).1 = w := by
    simp only [m, step, World.start, due_exampleProfile]
    rfl
  have hsafe := h (some exampleProfile) exampleActions
    (m.event (m.run w [.guardRead 0, .reread 0, .record exampleCharge 3000001])
      (.overwrite 0 3000002)) (by
        simp only [exampleActions, Machine.log_cons, hsweep, m]
        simp)
  obtain ⟨-, -, stored, hstored, -, hkept⟩ := hsafe _ rfl
  obtain rfl : stored = _ := (Option.some.inj hstored).symm
  have hbilling := hkept "post_deletion_billing" (by decide) (by simp)
  have hcount : ∀ a b : Dict, a.get "post_deletion_billing" = b.get "post_deletion_billing" →
      safeInt (fun _ => none) ((priorBilling a).get "count") =
        safeInt (fun _ => none) ((priorBilling b).get "count") := by
    intro a b hab
    unfold priorBilling
    rw [hab]
  have hlost := hcount _ _ hbilling
  revert hlost
  decide

end HeyKevin.L12
