import HeyKevin.Core.Fallible
import HeyKevin.L1Encoding.Python
import Mathlib.Data.Fintype.Basic
import Mathlib.Tactic.Linarith
/-!
# The google_calendar fields of a contractor

mirrors the key sets and the field readers of
app/services/integration_tokens.py (44-87, 507-591) and
`_extract_snapshot_server_time`
(app/services/integration_token_mutations.py:191-222).

A contractor document is read here through the fields that the token
operations name, `google_calendar_` plus the name below in snake case. A
record maps each to what is stored under it, `none` for an absent field. A
transaction body ends in one `transaction.update`: a patch, which says of each
field whether it is kept, deleted (`DELETE_FIELD`) or set.
-/
namespace HeyKevin.L7.Tokens

open HeyKevin.Core Binary64 L1 L1.Text L1.Datetime

/-- The eight keys that an operation intent and a reauthorization attempt share,
each after `operation_intent_` or `reauthorization_attempt_`. -/
inductive ClaimKey
  | id | kind | phase | expiresAt | acquiredAt | generation | lifecycleEpoch
  | credentialsFingerprint
deriving DecidableEq

/-- `LEGACY_CLAIM_BASE_KEYS` -/
inductive LegacyKey
  | refreshClaimId | refreshClaimPhase | refreshClaimExpiresAt | refreshClaimGeneration
  | refreshPhase | refreshLeaseExpiresAt | refreshInProgress
  | tokenQuarantine | tokenQuarantineReason | unknownOutcomeClaimId
deriving DecidableEq

instance : Fintype ClaimKey where
  elems := {.id, .kind, .phase, .expiresAt, .acquiredAt, .generation, .lifecycleEpoch,
    .credentialsFingerprint}
  complete k := by cases k <;> decide

instance : Fintype LegacyKey where
  elems := {.refreshClaimId, .refreshClaimPhase, .refreshClaimExpiresAt, .refreshClaimGeneration,
    .refreshPhase, .refreshLeaseExpiresAt, .refreshInProgress,
    .tokenQuarantine, .tokenQuarantineReason, .unknownOutcomeClaimId}
  complete k := by cases k <;> decide

/-- The fields of the document that the operations read or write. All but
`active` carry the provider's prefix. `OPERATION_INTENT_BASE_KEYS` are the
`intent` keys and `boundOperationId`, `QUARANTINE_BASE_KEYS` the last two. -/
inductive Field
  | active
  | connected | generation | lifecycleEpoch
  | accessToken | refreshToken | tokenExpiresAt | expiresAt
  | connectedAt | firstConnectedAt | tokenRefreshedAt | disconnectedAt
  | tokenEnvelopeRequired | scope
  | intent (k : ClaimKey)
  | boundOperationId
  | legacy (k : LegacyKey)
  | attempt (k : ClaimKey)
  | refreshOutcomeUnknown | reauthorizationRequired
deriving DecidableEq

abbrev Record := Field → Option Value

/-! ## Patches -/

inductive Update
  | keep
  | delete
  | set (v : Value)

abbrev Patch := Field → Update

namespace Record

/-- `data.get(k)` -/
def get (r : Record) (f : Field) : Value := (r f).getD .none

/-- `transaction.update(ref, patch)` -/
def update (r : Record) (p : Patch) : Record := fun f =>
  match p f with
  | .keep => r f
  | .delete => none
  | .set v => some v

theorem update_keep {r : Record} {p : Patch} {f : Field} (h : p f = .keep) :
    r.update p f = r f := by
  rw [update, h]

theorem update_delete {r : Record} {p : Patch} {f : Field} (h : p f = .delete) :
    r.update p f = none := by
  rw [update, h]

theorem update_set {r : Record} {p : Patch} {f : Field} {v : Value} (h : p f = .set v) :
    r.update p f = some v := by
  rw [update, h]

theorem get_of_some {r : Record} {f : Field} {v : Value} (h : r f = some v) : r.get f = v := by
  rw [get, h]; rfl

theorem get_eq_iff {r : Record} {f : Field} {v : Value} (hv : v ≠ .none) :
    r.get f = v ↔ r f = some v := by
  unfold get
  cases r f with
  | none => simpa using hv.symm
  | some w => simp

@[simp] theorem get_eq_str {r : Record} {f : Field} {s : Str} :
    r.get f = .str s ↔ r f = some (.str s) := get_eq_iff (by simp)

@[simp] theorem get_eq_text {r : Record} {f : Field} {s : String} :
    r.get f = .text s ↔ r f = some (.text s) := get_eq_iff (by simp [Value.text])

@[simp] theorem get_eq_number {r : Record} {f : Field} {n : Number} :
    r.get f = .number n ↔ r f = some (.number n) := get_eq_iff (by simp)

@[simp] theorem get_eq_int {r : Record} {f : Field} {z : ℤ} :
    r.get f = .int z ↔ r f = some (.int z) := get_eq_iff (by simp [Value.int])

@[simp] theorem get_eq_bool {r : Record} {f : Field} {b : Bool} :
    r.get f = .bool b ↔ r f = some (.bool b) := get_eq_iff (by simp)

def HasIntent (r : Record) : Prop :=
  (∃ k, (r (.intent k)).isSome) ∨ (r .boundOperationId).isSome
def HasLegacy (r : Record) : Prop := ∃ k, (r (.legacy k)).isSome
def HasAttempt (r : Record) : Prop := ∃ k, (r (.attempt k)).isSome

instance (r : Record) : Decidable r.HasIntent := inferInstanceAs (Decidable (_ ∨ _))
instance (r : Record) : Decidable r.HasLegacy := inferInstanceAs (Decidable (∃ _, _))
instance (r : Record) : Decidable r.HasAttempt := inferInstanceAs (Decidable (∃ _, _))

theorem not_hasIntent {r : Record} :
    ¬ r.HasIntent ↔ (∀ k, r (.intent k) = none) ∧ r .boundOperationId = none := by
  simp [HasIntent]

theorem not_hasLegacy {r : Record} : ¬ r.HasLegacy ↔ ∀ k, r (.legacy k) = none := by
  simp [HasLegacy]

theorem not_hasAttempt {r : Record} : ¬ r.HasAttempt ↔ ∀ k, r (.attempt k) = none := by
  simp [HasAttempt]

end Record

/-! ## Readers of a stored value -/

def maxKeyVersion : ℤ := 2147483647

/-- `type(v) is str` -/
def str? : Value → Option Str
  | .str s => some s
  | _ => none

/-- `type(v) is bool` -/
def bool? : Value → Option Bool
  | .bool b => some b
  | _ => none

/-- An exact `int` in `0..MAX_KEY_VERSION`. -/
def counter? : Value → Option ℤ
  | .number (.int z) => if 0 ≤ z ∧ z ≤ maxKeyVersion then some z else none
  | _ => none

/-- An exact finite `float` above zero. -/
def positiveFloat? : Value → Option Double
  | .number (.float d) => if 0 < d.val then some d else none
  | _ => none

def IsCounter (z : ℤ) : Prop := 0 ≤ z ∧ z ≤ maxKeyVersion

instance (z : ℤ) : Decidable (IsCounter z) := inferInstanceAs (Decidable (_ ∧ _))

@[simp] theorem str?_eq_some {v : Value} {s : Str} : str? v = some s ↔ v = .str s := by
  cases v <;> simp [str?]

@[simp] theorem bool?_eq_some {v : Value} {b : Bool} : bool? v = some b ↔ v = .bool b := by
  cases v <;> simp [bool?]

@[simp] theorem counter?_eq_some {v : Value} {z : ℤ} :
    counter? v = some z ↔ v = .int z ∧ IsCounter z := by
  unfold counter? Value.int IsCounter
  split
  · rename_i y
    split
    · rename_i h
      simp only [Option.some.injEq, Value.number.injEq, Number.int.injEq]
      exact ⟨fun e => ⟨e, e ▸ h⟩, fun e => e.1⟩
    · rename_i h
      simp only [reduceCtorEq, Value.number.injEq, Number.int.injEq, false_iff]
      rintro ⟨rfl, hz⟩
      exact h hz
  · rename_i hne
    simp only [reduceCtorEq, false_iff]
    exact fun e => hne z e.1

@[simp] theorem positiveFloat?_eq_some {v : Value} {d : Double} :
    positiveFloat? v = some d ↔ v = .number (.float d) ∧ 0 < d.val := by
  unfold positiveFloat?
  split
  · rename_i e
    split
    · rename_i h
      simp only [Option.some.injEq, Value.number.injEq, Number.float.injEq]
      exact ⟨fun x => ⟨x, x ▸ h⟩, fun x => x.1⟩
    · rename_i h
      simp only [reduceCtorEq, Value.number.injEq, Number.float.injEq, false_iff]
      rintro ⟨rfl, hd⟩
      exact h hd
  · rename_i hne
    simp only [reduceCtorEq, false_iff]
    exact fun x => hne d x.1

/-! ## The lifecycle triple -/

/-- What `parse_durable_lifecycle_counters` reads of a valid triple. -/
structure Lifecycle where
  generation : ℤ
  epoch : ℤ
  present : Bool
deriving DecidableEq

/-- mirrors app/services/integration_tokens.py:547-591
(`parse_durable_lifecycle_counters`) -/
def parseDurableLifecycleCounters (r : Record) : Except String Lifecycle :=
  match r .connected, r .generation, r .lifecycleEpoch with
  | none, none, none => .ok ⟨0, 0, false⟩
  | some c, some g, some e => do
    let _ ← require (bool? c) "Malformed connected field: must be exact bool"
    let g ← require (counter? g)
      "Malformed generation field: must be exact non-negative bounded int"
    let e ← require (counter? e)
      "Malformed lifecycle epoch field: must be exact non-negative bounded int"
    pure ⟨g, e, true⟩
  | _, _, _ => .error "Invalid partial lifecycle metadata"

/-- The stored triple is complete and `l` is what it says. -/
structure Triple (r : Record) (l : Lifecycle) : Prop where
  present : l.present = true
  connected : ∃ c, r .connected = some (.bool c)
  generation : r .generation = some (.int l.generation)
  isCounter_generation : IsCounter l.generation
  epoch : r .lifecycleEpoch = some (.int l.epoch)
  isCounter_epoch : IsCounter l.epoch

structure NoTriple (r : Record) (l : Lifecycle) : Prop where
  eq : l = ⟨0, 0, false⟩
  connected : r .connected = none
  generation : r .generation = none
  epoch : r .lifecycleEpoch = none

theorem parseDurableLifecycleCounters_eq_ok {r : Record} {l : Lifecycle} :
    parseDurableLifecycleCounters r = .ok l ↔ NoTriple r l ∨ Triple r l := by
  unfold parseDurableLifecycleCounters
  constructor
  · intro h
    split at h
    · rename_i hc hg he
      simp only [Except.ok.injEq] at h
      exact .inl ⟨h.symm, hc, hg, he⟩
    · rename_i c g e hc hg he
      simp only [bind_eq_ok, require_eq_ok, bool?_eq_some, counter?_eq_some, pure_eq_ok,
        Except.ok.injEq] at h
      obtain ⟨b, rfl, g, ⟨rfl, hgc⟩, e, ⟨rfl, hec⟩, rfl⟩ := h
      exact .inr ⟨rfl, ⟨b, hc⟩, hg, hgc, he, hec⟩
    · cases h
  · rintro (h | h)
    · rw [h.connected, h.generation, h.epoch, h.eq]
    · obtain ⟨c, hc⟩ := h.connected
      rw [hc, h.generation, h.epoch]
      simp only [bind_eq_ok, require_eq_ok, bool?_eq_some, counter?_eq_some, pure_eq_ok,
        Except.ok.injEq]
      obtain ⟨g, e, p⟩ := l
      obtain rfl : p = true := h.present
      exact ⟨c, rfl, g, ⟨rfl, h.isCounter_generation⟩, e, ⟨rfl, h.isCounter_epoch⟩, rfl⟩

def LifecycleValid (r : Record) : Prop := ∃ l, parseDurableLifecycleCounters r = .ok l

theorem parseDurableLifecycleCounters_congr {r s : Record} (hc : s .connected = r .connected)
    (hg : s .generation = r .generation) (he : s .lifecycleEpoch = r .lifecycleEpoch) :
    parseDurableLifecycleCounters s = parseDurableLifecycleCounters r := by
  unfold parseDurableLifecycleCounters
  rw [hc, hg, he]

/-! ## Errors, clock readings and durations -/

inductive Error
  | casConflict (m : String)
  | lease (m : String)
  | envelope (m : String)
  | config (m : String)
  | decryption (m : String)
  | aborted (m : String)
  | value (m : String)
deriving DecidableEq

/-- `str(exc)` -/
def Error.message : Error → String
  | .casConflict m | .lease m | .envelope m | .config m | .decryption m | .aborted m | .value m => m

def unixEpoch : ℤ := 719162 * 86400000000

/-- mirrors app/services/integration_token_mutations.py:191-222
(`_extract_snapshot_server_time`) -/
def serverTime (readTime : DateTime) : Except Error Double := do
  ensure readTime.offset.isSome (.envelope "Snapshot read_time is naive (missing timezone)")
  let ts := Double.ofRat ((readTime.instant - unixEpoch : ℤ) / 1000000)
  ensure (0 < ts.val) (.envelope "Non-finite or non-positive server read_time")
  pure ts

theorem serverTime_pos {t : DateTime} {now : Double} (h : serverTime t = .ok now) :
    0 < now.val := by
  simp only [serverTime, bind_eq_ok, ensure_eq_ok, exists_unit, pure_eq_ok, Except.ok.injEq] at h
  obtain ⟨-, hp, rfl⟩ := h
  exact hp

/-- An `int` or a `float`, a duration in seconds. -/
inductive Seconds
  | number (n : Number)
  | nonFinite (f : NonFinite)
deriving DecidableEq

/-- `now + float(seconds)` -/
def Seconds.after (now : Double) : Seconds → Value
  | .number n => .number (.float (.ofRat (now.val + n.toFloat.val)))
  | .nonFinite f => .nonFinite f

theorem le_after {now : Double} {n : Number} (hnow : 0 < now.val) (hn : 0 ≤ n.toFloat.val) :
    now.val ≤ (Double.ofRat (now.val + n.toFloat.val)).val :=
  Double.le_rnd hnow (by linarith)

end HeyKevin.L7.Tokens
