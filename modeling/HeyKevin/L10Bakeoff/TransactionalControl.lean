import HeyKevin.L10Bakeoff.ReservationLedger
/-!
# Execution control over one transactional store

`TransactionalExecutionControlStore`
(app/services/voice_bakeoff_transactional_control_seam.py). A reservation is a
record of scalars under its reference; a nonce, an approval id and a binding
epoch are records that name a reservation.

`TransactionPort` is not in the repository. An operation reads and writes one
view of the store and may abort; how a port ends it is an `Outcome` of the call.
The version of a replaced record is the port's (`nextVersion`).

Line numbers are those of app/services/voice_bakeoff_transactional_control_seam.py.
-/
namespace HeyKevin.L10.Control

open HeyKevin.Core L1 L1.Text

/-! ## Keys -/

inductive StoreNamespace
  | trustPin
  | consumedNonce
  | consumedApproval
  | bindingEpoch
  | controlReservation
deriving DecidableEq

def StoreNamespace.value : StoreNamespace → Str
  | trustPin => py "trust_pin"
  | consumedNonce => py "consumed_nonce"
  | consumedApproval => py "consumed_approval"
  | bindingEpoch => py "binding_epoch"
  | controlReservation => py "control_reservation"

/-- mirrors 108-111
(`TransactionScope.key`) -/
def scopeKey (scope : Digest) (ns : StoreNamespace) (identifier : Str) : Str :=
  scope.val ++ py ":" ++ ns.value ++ py ":" ++ identifier

def colon : CodePoint := 58

theorem append_colon_inj {a b s t : Str} (ha : colon ∉ a) (hb : colon ∉ b)
    (h : a ++ colon :: s = b ++ colon :: t) : a = b ∧ s = t := by
  have key : ∀ x : Str, colon ∉ x → ∀ u, (x ++ colon :: u).takeWhile (· ≠ colon) = x := by
    intro x hx u
    rw [List.takeWhile_append_of_pos]
    · simp
    · intro c hc
      simp only [ne_eq, decide_not, Bool.not_eq_true', decide_eq_false_iff_not]
      rintro rfl
      exact hx hc
  have h' := congrArg (List.takeWhile (· ≠ colon)) h
  rw [key a ha, key b hb] at h'
  subst h'
  exact ⟨rfl, (List.cons.inj (List.append_cancel_left h)).2⟩

theorem StoreNamespace.colon_not_mem (ns : StoreNamespace) : colon ∉ ns.value := by
  cases ns <;> decide

theorem StoreNamespace.value_inj {a b : StoreNamespace} (h : a.value = b.value) : a = b := by
  revert h
  cases a <;> cases b <;> decide

theorem scopeKey_inj {scope : Digest} {ns ns' : StoreNamespace} {i i' : Str} :
    scopeKey scope ns i = scopeKey scope ns' i' ↔ ns = ns' ∧ i = i' := by
  constructor
  · intro h
    simp only [scopeKey, List.append_assoc] at h
    have h' := List.append_cancel_left (List.append_cancel_left h)
    obtain ⟨hns, hi⟩ := append_colon_inj ns.colon_not_mem ns'.colon_not_mem h'
    exact ⟨StoreNamespace.value_inj hns, hi⟩
  · rintro ⟨rfl, rfl⟩
    rfl

/-- `f"\x7bbinding_digest\x7d:\x7bepoch\x7d"` -/
def bindingIdentifier (bindingDigest : Digest) (epoch : ℤ) : Str :=
  bindingDigest.val ++ py ":" ++ decimal epoch

theorem Digest.colon_not_mem (d : Digest) : colon ∉ d.val := by
  intro hmem
  have h := d.property
  simp only [Python.isDigest, Bool.and_eq_true, List.all_eq_true] at h
  have hcolon := h.2 colon hmem
  revert hcolon
  decide

theorem bindingIdentifier_inj {d d' : Digest} {e e' : ℤ} :
    bindingIdentifier d e = bindingIdentifier d' e' ↔ d = d' ∧ e = e' := by
  constructor
  · intro h
    simp only [bindingIdentifier, List.append_assoc] at h
    obtain ⟨hd, he⟩ := append_colon_inj d.colon_not_mem d'.colon_not_mem h
    exact ⟨Subtype.ext hd, decimal_injective he⟩
  · rintro ⟨rfl, rfl⟩
    rfl

/-! ## Records -/

inductive Scalar
  | str (s : Str)
  | int (z : ℤ)
  | bool (b : Bool)
  | none
deriving DecidableEq

/-- mirrors 115-150 -/
structure StoredRecord where
  version : ℤ
  fields : Entries String Scalar
deriving DecidableEq

def ControlState.value : ControlState → Str
  | pendingPreauth => py "pending_preauth"
  | active => py "active"
  | revoked => py "revoked"
  | expired => py "expired"

/-- `ControlState(value)` -/
def ControlState.ofValue (v : Str) : Option ControlState :=
  [pendingPreauth, active, revoked, expired].find? fun s => s.value = v

def RevocationReason.value : RevocationReason → Str
  | activationFailed => py "activation_failed"
  | controlFinalizationFailed => py "control_finalization_failed"
  | controlConfirmationFailed => py "control_confirmation_failed"
  | teardown => py "teardown"

/-- `RevocationReason(value)` -/
def RevocationReason.ofValue (v : Str) : Option RevocationReason :=
  [activationFailed, controlFinalizationFailed, controlConfirmationFailed, teardown].find?
    fun r => r.value = v

namespace Scalar

def ofOption {α : Type} (f : α → Scalar) : Option α → Scalar
  | some a => f a
  | Option.none => none

def ref? : Scalar → Option Str
  | str s => if isRef s then some s else Option.none
  | _ => Option.none

def digest? : Scalar → Option Digest
  | str s => if h : Python.isDigest s = true then some ⟨s, h⟩ else Option.none
  | _ => Option.none

/-- `_is_exact_int(value, minimum=1)` -/
def positive? : Scalar → Option ℤ
  | int z => if 1 ≤ z then some z else Option.none
  | _ => Option.none

def state? : Scalar → Option ControlState
  | str s => ControlState.ofValue s
  | _ => Option.none

def reason? : Scalar → Option RevocationReason
  | str s => RevocationReason.ofValue s
  | _ => Option.none

/-- A field that may be `None`. -/
def optional {α : Type} (f : Scalar → Option α) : Scalar → Option (Option α)
  | none => some Option.none
  | v => (f v).map some

theorem ref?_str {s : Str} (h : isRef s = true) : (str s).ref? = some s := if_pos h

@[simp] theorem digest?_str (d : Digest) : (str d.val).digest? = some d := dif_pos d.property

theorem positive?_int {z : ℤ} (h : 1 ≤ z) : (int z).positive? = some z := if_pos h

@[simp] theorem state?_str (s : ControlState) : (str s.value).state? = some s := by
  cases s <;> decide

theorem optional_ofOption {α : Type} {f : Scalar → Option α} {g : α → Scalar} {a : Option α}
    (hg : ∀ x ∈ a, g x ≠ none) (h : ∀ x ∈ a, f (g x) = some x) :
    optional f (ofOption g a) = some a := by
  cases a with
  | none => rfl
  | some x =>
    have hx := h x rfl
    have hne := hg x rfl
    simp only [ofOption]
    cases hv : g x with
    | none => exact absurd hv hne
    | str | int | bool => simp only [optional, ← hv, hx, Option.map_some]

end Scalar

/-- The names of the fields of a reservation, in order. -/
def reservationFields : List String :=
  ["acknowledgement_digest", "activated_at_ms", "activation_deadline_ms", "approval_id_digest",
    "binding_digest", "control_ref", "control_version", "epoch", "expires_at_ms",
    "grant_id_digest", "nonce_digest", "preauth_ref", "receipt_digest", "revocation_reason",
    "state", "token_digest"]

namespace ControlRecord

/-- mirrors 394-418 -/
def record (r : ControlRecord) : StoredRecord where
  version := 1
  fields :=
    [("acknowledgement_digest", .ofOption (.str ·.val) r.acknowledgementDigest),
      ("activated_at_ms", .ofOption .int r.activatedAtMs),
      ("activation_deadline_ms", .int r.activationDeadlineMs),
      ("approval_id_digest", .str r.approvalIdDigest.val),
      ("binding_digest", .str r.bindingDigest.val),
      ("control_ref", .str r.controlRef),
      ("control_version", .int r.version),
      ("epoch", .int r.epoch),
      ("expires_at_ms", .int r.expiresAtMs),
      ("grant_id_digest", .str r.grantIdDigest.val),
      ("nonce_digest", .str r.nonceDigest.val),
      ("preauth_ref", .ofOption .str r.preauthRef),
      ("receipt_digest", .str r.receiptDigest.val),
      ("revocation_reason", .ofOption (fun reason => .str reason.value) r.revocationReason),
      ("state", .str r.state.value),
      ("token_digest", .ofOption (.str ·.val) r.tokenDigest)]

/-- mirrors 421-466 -/
def fromRecord (record : StoredRecord) : Option ControlRecord := do
  let get := fun k => (record.fields.find? k).getD Scalar.none
  guard ((∀ k ∈ record.fields.keys, k ∈ reservationFields) ∧
    ∀ k ∈ reservationFields, k ∈ record.fields.keys)
  let controlRef ← (get "control_ref").ref?
  let version ← (get "control_version").positive?
  let state ← (get "state").state?
  let bindingDigest ← (get "binding_digest").digest?
  let approvalIdDigest ← (get "approval_id_digest").digest?
  let nonceDigest ← (get "nonce_digest").digest?
  let epoch ← (get "epoch").positive?
  let activationDeadlineMs ← (get "activation_deadline_ms").positive?
  let expiresAtMs ← (get "expires_at_ms").positive?
  guard (activationDeadlineMs ≤ expiresAtMs)
  let grantIdDigest ← (get "grant_id_digest").digest?
  let receiptDigest ← (get "receipt_digest").digest?
  let acknowledgementDigest ← Scalar.optional Scalar.digest? (get "acknowledgement_digest")
  let preauthRef ← Scalar.optional Scalar.ref? (get "preauth_ref")
  let tokenDigest ← Scalar.optional Scalar.digest? (get "token_digest")
  let activatedAtMs ← Scalar.optional Scalar.positive? (get "activated_at_ms")
  let revocationReason ← Scalar.optional Scalar.reason? (get "revocation_reason")
  return ⟨controlRef, version, state, bindingDigest, approvalIdDigest, nonceDigest, epoch,
    activationDeadlineMs, expiresAtMs, grantIdDigest, receiptDigest, acknowledgementDigest,
    preauthRef, tokenDigest, activatedAtMs, revocationReason⟩

theorem optional_digest (d : Option Digest) :
    Scalar.optional Scalar.digest? (.ofOption (.str ·.val) d) = some d :=
  Scalar.optional_ofOption nofun fun x _ => Scalar.digest?_str x

theorem fromRecord_record {r : ControlRecord} (h : r.Valid) (v : ℤ) :
    fromRecord ⟨v, r.record.fields⟩ = some r := by
  have hreason : Scalar.optional Scalar.reason? (.ofOption (fun reason => .str reason.value)
      r.revocationReason) = some r.revocationReason :=
    Scalar.optional_ofOption nofun fun x _ => by cases x <;> decide
  have hpreauth : Scalar.optional Scalar.ref? (.ofOption .str r.preauthRef) = some r.preauthRef :=
    Scalar.optional_ofOption nofun fun x hx => Scalar.ref?_str (h.preauthRef x hx)
  have hactivated : Scalar.optional Scalar.positive? (.ofOption .int r.activatedAtMs) =
      some r.activatedAtMs :=
    Scalar.optional_ofOption nofun fun x hx => Scalar.positive?_int (h.activatedAtMs x hx)
  simp [fromRecord, record, Entries.find?_cons, Entries.keys, reservationFields,
    Scalar.ref?_str h.controlRef, Scalar.positive?_int h.version, Scalar.positive?_int h.epoch,
    Scalar.positive?_int h.activationDeadlineMs, Scalar.positive?_int h.expiresAtMs,
    h.deadline, optional_digest, hreason, hpreauth, hactivated]

end ControlRecord

/-! ## The store -/

abbrev Store := Entries Str StoredRecord

/-- `view.create`, where a record in the way aborts the transaction. -/
def Store.create (s : Store) (key : Str) (record : StoredRecord) : Option Store :=
  if (s.find? key).isSome then none else some (s.set key record)

theorem Store.create_of_none {s : Store} {key : Str} (h : s.find? key = none)
    (record : StoredRecord) : s.create key record = some (s.set key record) := by
  rw [Store.create, h]
  rfl

theorem Store.create_of_isSome {s : Store} {key : Str} (h : (s.find? key).isSome = true)
    (record : StoredRecord) : s.create key record = none :=
  if_pos h

/-- mirrors 486-489 -/
def indexRecord (controlRef : Str) : StoredRecord := ⟨1, [("control_ref", .str controlRef)]⟩

/-- mirrors 492-497
(`_index_control_ref`) -/
def indexControlRef (record : StoredRecord) : Option Str := do
  guard ((∀ k ∈ record.fields.keys, k = "control_ref") ∧ "control_ref" ∈ record.fields.keys)
  ((record.fields.find? "control_ref").getD Scalar.none).ref?

theorem indexControlRef_indexRecord {ref : Str} (h : isRef ref = true) (v : ℤ) :
    indexControlRef ⟨v, (indexRecord ref).fields⟩ = some ref := by
  simp [indexControlRef, indexRecord, Entries.keys, Entries.find?_cons, Scalar.ref?_str h]

section

variable (A : Authorities) (scope : Digest) (nextVersion : ℤ → ℤ)

/-- `view.replace`, where a version other than the expected one aborts the transaction. -/
def Store.replace (s : Store) (key : Str) (expectedVersion : ℤ) (record : StoredRecord) :
    Option Store := do
  let current ← s.find? key
  guard (current.version = expectedVersion)
  return s.set key { record with version := nextVersion current.version }

def nonceKey (nonceDigest : Digest) : Str := scopeKey scope .consumedNonce nonceDigest.val

def approvalKey (approvalIdDigest : Digest) : Str :=
  scopeKey scope .consumedApproval approvalIdDigest.val

def bindingKey (bindingDigest : Digest) (epoch : ℤ) : Str :=
  scopeKey scope .bindingEpoch (bindingIdentifier bindingDigest epoch)

def reservationKey (controlRef : Str) : Str := scopeKey scope .controlReservation controlRef

/-- The outer `none` aborts.
mirrors 559-570 -/
def Store.loadReservation (s : Store) (controlRef : Str) :
    Option (Option (StoredRecord × ControlRecord)) :=
  match s.find? (reservationKey scope controlRef) with
  | none => some none
  | some record => do
    let reservation ← ControlRecord.fromRecord record
    guard (reservation.controlRef = controlRef)
    return some (record, reservation)

/-- mirrors 572-583
(`_replace_reservation`) -/
def Store.replaceReservation (s : Store) (record : StoredRecord) (reservation : ControlRecord) :
    Option Store :=
  s.replace nextVersion (reservationKey scope reservation.controlRef) record.version
    reservation.record

/-- `if reservation != prior`: the expiry of a reservation is written down when it is seen. -/
def Store.writeExpiry (s : Store) (record : StoredRecord) (prior reservation : ControlRecord) :
    Option Store :=
  if reservation ≠ prior then s.replaceReservation scope nextVersion record reservation
  else some s

def Store.createReservation (s : Store) (reservation : ControlRecord) : Option Store := do
  let index := indexRecord reservation.controlRef
  let s ← s.create (nonceKey scope reservation.nonceDigest) index
  let s ← s.create (approvalKey scope reservation.approvalIdDigest) index
  s.create (reservationKey scope reservation.controlRef) reservation.record

/-- mirrors 699-735 (`operation` of
`admit`) -/
def Store.admitOperation (s : Store) (approval : VerifiedApproval) (nowMs ttlMs : ℤ)
    (draw : Draw) : Option (Store × Option AdmissionBundle) :=
  let reservation := newRecord A approval nowMs ttlMs draw
  let bundle := newBundle A approval nowMs ttlMs draw
  let key := bindingKey scope approval.bindingDigest approval.epoch
  let index := indexRecord reservation.controlRef
  if (s.find? (nonceKey scope approval.nonceDigest)).isSome ∨
      (s.find? (approvalKey scope approval.approvalIdDigest)).isSome then some (s, none)
  else
    match s.find? key with
    | some priorBinding => do
      let priorRef ← indexControlRef priorBinding
      let loaded ← s.loadReservation scope priorRef
      let (priorRecord, prior) ← loaded
      guard (prior.bindingDigest = approval.bindingDigest ∧ prior.epoch = approval.epoch)
      let terminal := prior.expired nowMs
      if terminal.isLive then some (s, none)
      else
        let s ← s.writeExpiry scope nextVersion priorRecord prior terminal
        let s ← s.replace nextVersion key priorBinding.version index
        let s ← s.createReservation scope reservation
        return (s, some bundle)
    | none => do
      let s ← s.create key index
      let s ← s.createReservation scope reservation
      return (s, some bundle)

/-- mirrors 751-786 (`operation` of
`finalize`) -/
def Store.finalizeOperation (s : Store) (ack : PreAuthActivationAcknowledgement) (nowMs : ℤ) :
    Option (Store × Option ControlActivationProof) := do
  match ← s.loadReservation scope ack.controlRef.val with
  | none => return (s, none)
  | some (record, prior) =>
    let reservation := prior.expired nowMs
    let s ← s.writeExpiry scope nextVersion record prior reservation
    if reservation.state = .active then
      return (s, if acknowledgementMatches A reservation ack then
        reservation.activatedAtMs.map (activationProof A reservation ack) else none)
    else if acknowledges A reservation ack nowMs then
      let active := reservation.activate ack (A.acknowledgementDigest ack) nowMs
      let s ← s.replaceReservation scope nextVersion record active
      return (s, some (activationProof A active ack nowMs))
    else return (s, none)

/-- mirrors 811-824 (`operation` of
`authorizes_session`) -/
def Store.authorizesOperation (s : Store) (controlRef preauthRef bindingDigest tokenDigest : Str)
    (nowMs : ℤ) : Option (Store × Bool) := do
  match ← s.loadReservation scope controlRef with
  | none => return (s, false)
  | some (record, prior) =>
    let reservation := prior.expired nowMs
    let s ← s.writeExpiry scope nextVersion record prior reservation
    return (s, reservation.authorizes preauthRef bindingDigest tokenDigest)

/-- mirrors 840-855 (`operation` of
`revoke`) -/
def Store.revokeOperation (s : Store) (controlRef : Str) (reason : RevocationReason)
    (nowMs : ℤ) : Option (Store × Bool) := do
  match ← s.loadReservation scope controlRef with
  | none => return (s, false)
  | some (record, prior) =>
    let reservation := prior.expired nowMs
    if reservation.state = .revoked then return (s, true)
    else
      let s ← s.replaceReservation scope nextVersion record (reservation.revoke reason)
      return (s, true)

/-- One callback over the store as it stands: the arguments that every call checks first, then the
operation. `none` aborts.
mirrors 634-857 -/
def Store.operation (s : Store) (call : ControlCall) : Option (Store × Answer) :=
  match call with
  | .admitApproval approval nowMs ttlMs draw =>
    if mayAdmit A approval nowMs ttlMs ∧ 1 ≤ nowMs then
      (s.admitOperation A scope nextVersion approval nowMs ttlMs draw).map
        (Prod.map id .bundle)
    else some (s, call.refusal)
  | .finalize ack nowMs =>
    if 1 ≤ nowMs ∧ A.verifyAcknowledgement ack then
      (s.finalizeOperation A scope nextVersion ack nowMs).map (Prod.map id .proof)
    else some (s, call.refusal)
  | .authorizesSession controlRef preauthRef bindingDigest tokenDigest nowMs =>
    if isRef controlRef ∧ isRef preauthRef ∧ Python.isDigest bindingDigest ∧
        Python.isDigest tokenDigest ∧ 1 ≤ nowMs then
      (s.authorizesOperation scope nextVersion controlRef preauthRef bindingDigest tokenDigest
        nowMs).map (Prod.map id .bool)
    else some (s, call.refusal)
  | .revoke controlRef reason nowMs =>
    if isRef controlRef ∧ 1 ≤ nowMs then
      (s.revokeOperation scope nextVersion controlRef reason nowMs).map (Prod.map id .bool)
    else some (s, call.refusal)

/-- How the port ends one call: nothing was written, the last run of the callback was written and
answered, or it was written and its answer was lost. -/
inductive Outcome
  | failed
  | committed
  | lost
deriving DecidableEq

/-- mirrors 217-224 (`_committed`) -/
def transactional : Machine Store (ControlCall × Outcome) Answer := fun s (call, outcome) =>
  match outcome with
  | .failed => (s, call.refusal)
  | .committed => (s.operation A scope nextVersion call).getD (s, call.refusal)
  | .lost => (((s.operation A scope nextVersion call).getD (s, call.refusal)).1, call.refusal)

/-! ## What the store says -/

structure Encodes (m : MemoryStore) (s : Store) : Prop where
  nonces : ∀ d, (s.find? (nonceKey scope d)).isSome = true ↔ d ∈ m.consumedNonces
  approvals : ∀ d, (s.find? (approvalKey scope d)).isSome = true ↔ d ∈ m.consumedApprovalIds
  bindings : ∀ b e, (s.find? (bindingKey scope b e)).map indexControlRef =
    (m.bindingEpochs.find? (b, e)).map some
  records : ∀ ref, (s.find? (reservationKey scope ref)).map ControlRecord.fromRecord =
    (m.records.find? ref).map some

@[simp] theorem nonceKey_inj {d d' : Digest} :
    nonceKey scope d = nonceKey scope d' ↔ d = d' := by
  simp [nonceKey, scopeKey_inj, Subtype.ext_iff]

@[simp] theorem approvalKey_inj {d d' : Digest} :
    approvalKey scope d = approvalKey scope d' ↔ d = d' := by
  simp [approvalKey, scopeKey_inj, Subtype.ext_iff]

@[simp] theorem bindingKey_inj {b b' : Digest} {e e' : ℤ} :
    bindingKey scope b e = bindingKey scope b' e' ↔ b = b' ∧ e = e' := by
  simp [bindingKey, scopeKey_inj, bindingIdentifier_inj]

@[simp] theorem reservationKey_inj {ref ref' : Str} :
    reservationKey scope ref = reservationKey scope ref' ↔ ref = ref' := by
  simp [reservationKey, scopeKey_inj]

namespace Encodes

variable {scope} {m : MemoryStore} {s : Store}

theorem empty : Encodes scope .empty [] where
  nonces := by simp [MemoryStore.empty]
  approvals := by simp [MemoryStore.empty]
  bindings := by simp [MemoryStore.empty]
  records := by simp [MemoryStore.empty]

theorem consumeNonce (h : Encodes scope m s) (d : Digest) (r : StoredRecord) :
    Encodes scope { m with consumedNonces := d :: m.consumedNonces }
      (s.set (nonceKey scope d) r) where
  nonces := by
    intro d'
    rw [Entries.find?_set, List.mem_cons, ← h.nonces]
    by_cases hd : d = d'
    · simp [hd]
    · simp [hd, Ne.symm hd]
  approvals := by
    intro d'
    rw [Entries.find?_set, if_neg (by simp [nonceKey, approvalKey, scopeKey_inj])]
    exact h.approvals d'
  bindings := by
    intro b e
    rw [Entries.find?_set, if_neg (by simp [nonceKey, bindingKey, scopeKey_inj])]
    exact h.bindings b e
  records := by
    intro ref
    rw [Entries.find?_set, if_neg (by simp [nonceKey, reservationKey, scopeKey_inj])]
    exact h.records ref

theorem consumeApproval (h : Encodes scope m s) (d : Digest) (r : StoredRecord) :
    Encodes scope { m with consumedApprovalIds := d :: m.consumedApprovalIds }
      (s.set (approvalKey scope d) r) where
  nonces := by
    intro d'
    rw [Entries.find?_set, if_neg (by simp [nonceKey, approvalKey, scopeKey_inj])]
    exact h.nonces d'
  approvals := by
    intro d'
    rw [Entries.find?_set, List.mem_cons, ← h.approvals]
    by_cases hd : d = d'
    · simp [hd]
    · simp [hd, Ne.symm hd]
  bindings := by
    intro b e
    rw [Entries.find?_set, if_neg (by simp [approvalKey, bindingKey, scopeKey_inj])]
    exact h.bindings b e
  records := by
    intro ref
    rw [Entries.find?_set, if_neg (by simp [approvalKey, reservationKey, scopeKey_inj])]
    exact h.records ref

theorem setOwner (h : Encodes scope m s) (b : Digest) (e : ℤ) {ref : Str}
    (href : isRef ref = true) (v : ℤ) :
    Encodes scope { m with bindingEpochs := m.bindingEpochs.set (b, e) ref }
      (s.set (bindingKey scope b e) ⟨v, (indexRecord ref).fields⟩) where
  nonces := by
    intro d
    rw [Entries.find?_set, if_neg (by simp [nonceKey, bindingKey, scopeKey_inj])]
    exact h.nonces d
  approvals := by
    intro d
    rw [Entries.find?_set, if_neg (by simp [approvalKey, bindingKey, scopeKey_inj])]
    exact h.approvals d
  bindings := by
    intro b' e'
    simp only [Entries.find?_set, bindingKey_inj, Prod.mk.injEq]
    split
    · simp only [Option.map_some, indexControlRef_indexRecord href]
    · exact h.bindings b' e'
  records := by
    intro ref'
    rw [Entries.find?_set, if_neg (by simp [bindingKey, reservationKey, scopeKey_inj])]
    exact h.records ref'

theorem setRecord (h : Encodes scope m s) {r : ControlRecord} (hr : r.Valid) (v : ℤ) :
    Encodes scope (m.setRecord r)
      (s.set (reservationKey scope r.controlRef) ⟨v, r.record.fields⟩) where
  nonces := by
    intro d
    rw [Entries.find?_set, if_neg (by simp [nonceKey, reservationKey, scopeKey_inj])]
    exact h.nonces d
  approvals := by
    intro d
    rw [Entries.find?_set, if_neg (by simp [approvalKey, reservationKey, scopeKey_inj])]
    exact h.approvals d
  bindings := by
    intro b e
    rw [Entries.find?_set, if_neg (by simp [bindingKey, reservationKey, scopeKey_inj])]
    exact h.bindings b e
  records := by
    intro ref
    simp only [Entries.find?_set, reservationKey_inj, MemoryStore.find?_setRecord]
    split
    · simp only [Option.map_some, ControlRecord.fromRecord_record hr]
    · exact h.records ref

theorem congr {m' : MemoryStore} (h : Encodes scope m s)
    (hn : m'.consumedNonces = m.consumedNonces)
    (ha : m'.consumedApprovalIds = m.consumedApprovalIds)
    (hb : m'.bindingEpochs = m.bindingEpochs)
    (hr : ∀ ref, m'.records.find? ref = m.records.find? ref) : Encodes scope m' s where
  nonces := fun d => hn ▸ h.nonces d
  approvals := fun d => ha ▸ h.approvals d
  bindings := fun b e => hb ▸ h.bindings b e
  records := fun ref => (hr ref).symm ▸ h.records ref

theorem setRecord_self (h : Encodes scope m s) {r : ControlRecord}
    (hr : m.records.find? r.controlRef = some r) : Encodes scope (m.setRecord r) s := by
  refine h.congr rfl rfl rfl fun ref => ?_
  rw [MemoryStore.find?_setRecord]
  split
  · rename_i href
    rw [← href, hr]
  · rfl

theorem loadReservation_none (h : Encodes scope m s) {ref : Str}
    (hr : m.records.find? ref = none) : s.loadReservation scope ref = some none := by
  have hrec := h.records ref
  rw [hr, Option.map_none, Option.map_eq_none_iff] at hrec
  simp only [Store.loadReservation, hrec]

theorem loadReservation_some (h : Encodes scope m s) (hk : m.Keyed) {ref : Str}
    {r : ControlRecord} (hr : m.records.find? ref = some r) :
    ∃ record, s.find? (reservationKey scope ref) = some record ∧
      s.loadReservation scope ref = some (some (record, r)) := by
  have hrec := h.records ref
  rw [hr, Option.map_some, Option.map_eq_some_iff] at hrec
  obtain ⟨record, hfind, hread⟩ := hrec
  refine ⟨record, hfind, ?_⟩
  simp [Store.loadReservation, hfind, hread, hk ref r hr]

theorem replaceReservation (h : Encodes scope m s) {r : ControlRecord} {record : StoredRecord}
    (hfind : s.find? (reservationKey scope r.controlRef) = some record) (hr : r.Valid) :
    ∃ s', s.replaceReservation scope nextVersion record r = some s' ∧
      Encodes scope (m.setRecord r) s' ∧
      ∀ b e, s'.find? (bindingKey scope b e) = s.find? (bindingKey scope b e) := by
  refine ⟨s.set (reservationKey scope r.controlRef)
    ⟨nextVersion record.version, r.record.fields⟩, ?_, h.setRecord hr _, fun b e => ?_⟩
  · simp [Store.replaceReservation, Store.replace, hfind]
  · rw [Entries.find?_set, if_neg (by simp [bindingKey, reservationKey, scopeKey_inj])]

theorem writeExpiry (h : Encodes scope m s) {r : ControlRecord} {record : StoredRecord}
    (hr : m.records.find? r.controlRef = some r)
    (hfind : s.find? (reservationKey scope r.controlRef) = some record) (hv : r.Valid) (t : ℤ) :
    ∃ s', s.writeExpiry scope nextVersion record r (r.expired t) = some s' ∧
      Encodes scope (m.setRecord (r.expired t)) s' ∧ (r.expired t = r → s' = s) ∧
      ∀ b e, s'.find? (bindingKey scope b e) = s.find? (bindingKey scope b e) := by
  by_cases hexp : r.expired t = r
  · refine ⟨s, by simp [Store.writeExpiry, hexp], ?_, fun _ => rfl, fun _ _ => rfl⟩
    rw [hexp]
    exact h.setRecord_self hr
  · have hfind' : s.find? (reservationKey scope (r.expired t).controlRef) = some record := by
      rwa [ControlRecord.expired_controlRef]
    obtain ⟨s', hs', henc, hother⟩ := h.replaceReservation nextVersion hfind' (hv.expired t)
    exact ⟨s', by rw [Store.writeExpiry, if_pos hexp, hs'], henc, fun he => absurd he hexp,
      hother⟩

theorem isNone_nonceKey (h : Encodes scope m s) {d : Digest} (hd : d ∉ m.consumedNonces) :
    s.find? (nonceKey scope d) = none := by
  rwa [← Option.not_isSome_iff_eq_none, h.nonces]

theorem isNone_approvalKey (h : Encodes scope m s) {d : Digest}
    (hd : d ∉ m.consumedApprovalIds) : s.find? (approvalKey scope d) = none := by
  rwa [← Option.not_isSome_iff_eq_none, h.approvals]

theorem find?_reservationKey (h : Encodes scope m s) (ref : Str) :
    (s.find? (reservationKey scope ref)).isSome = (m.records.find? ref).isSome := by
  have hrec := congrArg Option.isSome (h.records ref)
  rwa [Option.isSome_map, Option.isSome_map] at hrec

theorem createReservation (h : Encodes scope m s) {r : ControlRecord} (hv : r.Valid)
    (hn : r.nonceDigest ∉ m.consumedNonces) (ha : r.approvalIdDigest ∉ m.consumedApprovalIds) :
    (m.records.find? r.controlRef = none → ∃ s', s.createReservation scope r = some s' ∧
      Encodes scope { m with
        consumedNonces := r.nonceDigest :: m.consumedNonces
        consumedApprovalIds := r.approvalIdDigest :: m.consumedApprovalIds
        records := m.records.set r.controlRef r } s') ∧
    ((m.records.find? r.controlRef).isSome → s.createReservation scope r = none) := by
  have h₁ := h.consumeNonce r.nonceDigest (indexRecord r.controlRef)
  have h₂ := h₁.consumeApproval r.approvalIdDigest (indexRecord r.controlRef)
  have hcreate₁ := Store.create_of_none (h.isNone_nonceKey hn) (indexRecord r.controlRef)
  have hcreate₂ := Store.create_of_none (h₁.isNone_approvalKey ha) (indexRecord r.controlRef)
  simp only [Store.createReservation, hcreate₁, hcreate₂, Option.bind_eq_bind, Option.bind_some]
  constructor
  · intro hnone
    have hkey := h₂.find?_reservationKey r.controlRef
    rw [hnone, Option.isSome_none, Option.isSome_eq_false_iff, Option.isNone_iff_eq_none] at hkey
    exact ⟨_, Store.create_of_none hkey r.record, h₂.setRecord hv _⟩
  · intro hsome
    exact Store.create_of_isSome ((h₂.find?_reservationKey _).trans hsome) r.record

theorem finalizeOperation (h : Encodes scope m s) (hk : m.Keyed)
    {ack : PreAuthActivationAcknowledgement} {r : ControlRecord}
    (hr : m.records.find? ack.controlRef.val = some r) (hv : r.Valid) {nowMs : ℤ}
    (hnow : 1 ≤ nowMs) :
    ∃ s', s.finalizeOperation A scope nextVersion ack nowMs =
        some (s', (finalizeRecord A (r.expired nowMs) ack nowMs).2) ∧
      Encodes scope (m.setRecord (finalizeRecord A (r.expired nowMs) ack nowMs).1) s' := by
  obtain ⟨record, hfind, hload⟩ := h.loadReservation_some hk hr
  have href := hk _ _ hr
  rw [← href] at hr hfind
  obtain ⟨s₁, hs₁, henc, hsame, -⟩ := h.writeExpiry nextVersion hr hfind hv nowMs
  simp only [Store.finalizeOperation, hload, hs₁, Option.bind_eq_bind, Option.bind_some,
    finalizeRecord]
  split
  · exact ⟨s₁, rfl, henc⟩
  split
  · rename_i hack
    have hunexpired : r.expired nowMs = r := by
      rcases r.expired_cases nowMs with he | ⟨-, he⟩
      · exact he
      · rw [he] at hack
        simp [acknowledges] at hack
    rw [hunexpired, hsame hunexpired]
    obtain ⟨s₂, hs₂, henc₂, -⟩ := h.replaceReservation nextVersion (r := r.activate ack
      (A.acknowledgementDigest ack) nowMs) hfind (hv.activate ack _ hnow)
    exact ⟨s₂, by rw [hs₂]; rfl, henc₂⟩
  · exact ⟨s₁, rfl, henc⟩

theorem authorizesOperation (h : Encodes scope m s) (hk : m.Keyed) {controlRef : Str}
    {r : ControlRecord} (hr : m.records.find? controlRef = some r) (hv : r.Valid)
    (preauthRef bindingDigest tokenDigest : Str) (nowMs : ℤ) :
    ∃ s', s.authorizesOperation scope nextVersion controlRef preauthRef bindingDigest tokenDigest
        nowMs = some (s', (r.expired nowMs).authorizes preauthRef bindingDigest tokenDigest) ∧
      Encodes scope (m.setRecord (r.expired nowMs)) s' := by
  obtain ⟨record, hfind, hload⟩ := h.loadReservation_some hk hr
  have href := hk _ _ hr
  rw [← href] at hr hfind
  obtain ⟨s₁, hs₁, henc, -⟩ := h.writeExpiry nextVersion hr hfind hv nowMs
  simp only [Store.authorizesOperation, hload, hs₁, Option.bind_eq_bind, Option.bind_some]
  exact ⟨s₁, rfl, henc⟩

theorem revokeOperation (h : Encodes scope m s) (hk : m.Keyed) {controlRef : Str}
    {r : ControlRecord} (hr : m.records.find? controlRef = some r) (hv : r.Valid)
    (reason : RevocationReason) (nowMs : ℤ) :
    ∃ s', s.revokeOperation scope nextVersion controlRef reason nowMs = some (s', true) ∧
      Encodes scope (m.setRecord (if (r.expired nowMs).state = .revoked then r.expired nowMs
        else (r.expired nowMs).revoke reason)) s' := by
  obtain ⟨record, hfind, hload⟩ := h.loadReservation_some hk hr
  have href := hk _ _ hr
  rw [← href] at hr hfind
  simp only [Store.revokeOperation, hload, Option.bind_eq_bind, Option.bind_some]
  split
  · rename_i hrevoked
    have hsame : r.expired nowMs = r := by
      rcases r.expired_cases nowMs with he | ⟨-, he⟩
      · exact he
      · rw [he] at hrevoked
        cases hrevoked
    exact ⟨s, rfl, hsame.symm ▸ h.setRecord_self hr⟩
  · have hfind' : s.find? (reservationKey scope ((r.expired nowMs).revoke reason).controlRef) =
        some record := by
      simpa [ControlRecord.revoke] using hfind
    obtain ⟨s₁, hs₁, henc, -⟩ :=
      h.replaceReservation nextVersion hfind' ((hv.expired nowMs).revoke reason)
    exact ⟨s₁, by rw [hs₁]; rfl, henc⟩

theorem replaceOwner (h : Encodes scope m s) {b : Digest} {e : ℤ} {record : StoredRecord}
    (hfind : s.find? (bindingKey scope b e) = some record) {ref : Str} (href : isRef ref = true) :
    ∃ s', s.replace nextVersion (bindingKey scope b e) record.version (indexRecord ref) = some s' ∧
      Encodes scope { m with bindingEpochs := m.bindingEpochs.set (b, e) ref } s' := by
  refine ⟨s.set (bindingKey scope b e) ⟨nextVersion record.version, (indexRecord ref).fields⟩, ?_,
    h.setOwner b e href _⟩
  simp [Store.replace, hfind]

/-- The end of an admission, once its binding epoch is its own: `s` is the store before, `s₁` the
one with the binding epoch written, and an abort leaves `s`. -/
theorem endAdmission {n : MemoryStore} {s₁ : Store} {r : ControlRecord}
    (h : Encodes scope m s) (h₁ : Encodes scope { n with
      bindingEpochs := n.bindingEpochs.set (r.bindingDigest, r.epoch) r.controlRef } s₁)
    (hv : r.Valid) (hn : r.nonceDigest ∉ n.consumedNonces)
    (ha : r.approvalIdDigest ∉ n.consumedApprovalIds)
    (hsome : (n.records.find? r.controlRef).isSome = (m.records.find? r.controlRef).isSome)
    (bundle : AdmissionBundle) :
    ∃ s' b, (s₁.createReservation scope r >>= fun s => some (s, some bundle)).getD (s, none) =
        (s', b) ∧
      (if (m.records.find? r.controlRef).isSome = true then (m, Answer.bundle none)
        else (n.reserve r, .bundle (some bundle))).2 = .bundle b ∧
      Encodes scope (if (m.records.find? r.controlRef).isSome = true then (m, Answer.bundle none)
        else (n.reserve r, .bundle (some bundle))).1 s' := by
  obtain ⟨hnew, hold⟩ := h₁.createReservation hv hn ha
  split
  · rename_i hexists
    rw [hold (hsome.trans hexists)]
    exact ⟨s, none, rfl, rfl, h⟩
  · rename_i hexists
    have hnone : n.records.find? r.controlRef = none := by
      rw [← Option.not_isSome_iff_eq_none, hsome]
      exact hexists
    obtain ⟨s', hs', henc⟩ := hnew hnone
    rw [hs']
    exact ⟨s', some bundle, rfl, rfl, henc⟩

theorem admitOperation (h : Encodes scope m s) (hi : m.Inv) {approval : VerifiedApproval}
    {nowMs ttlMs : ℤ} (draw : Draw) (hnow : 1 ≤ nowMs)
    (hmay : mayAdmit A approval nowMs ttlMs = true) :
    ∃ s' b, (s.admitOperation A scope nextVersion approval nowMs ttlMs draw).getD (s, none) =
        (s', b) ∧
      (ledger A m (.admitApproval approval nowMs ttlMs draw)).2 = .bundle b ∧
      Encodes scope (ledger A m (.admitApproval approval nowMs ttlMs draw)).1 s' := by
  set r := newRecord A approval nowMs ttlMs draw with hr
  have hrv : r.Valid := ControlRecord.newRecord_valid A hnow hmay draw
  rw [ledger_admit_eq A hnow hmay]
  unfold Store.admitOperation
  simp only [← hr]
  by_cases hspent : approval.nonceDigest ∈ m.consumedNonces ∨
      approval.approvalIdDigest ∈ m.consumedApprovalIds
  · rw [if_pos (by rwa [h.nonces, h.approvals]),
      if_pos (by simpa [MemoryStore.hasSpent] using .inl hspent)]
    exact ⟨s, none, rfl, rfl, h⟩
  rw [if_neg (by rwa [h.nonces, h.approvals])]
  have hcond : m.hasSpent (.admitApproval approval nowMs ttlMs draw) =
      (m.records.find? r.controlRef).isSome := by
    rw [not_or] at hspent
    simp [MemoryStore.hasSpent, hspent, hr, newRecord]
  rw [not_or] at hspent
  rw [hcond]
  have hbinding := h.bindings approval.bindingDigest approval.epoch
  cases hown : m.bindingEpochs.find? (approval.bindingDigest, approval.epoch) with
  | none =>
    rw [hown, Option.map_none, Option.map_eq_none_iff] at hbinding
    have hheld : m.isHeld (approval.bindingDigest, approval.epoch) nowMs = false := by
      simp [MemoryStore.isHeld, hown]
    have hexp : m.expireOwner (approval.bindingDigest, approval.epoch) nowMs = m := by
      simp [MemoryStore.expireOwner, hown]
    rw [hbinding, hheld, hexp]
    simp only [Store.create_of_none hbinding, Option.bind_eq_bind, Option.bind_some,
      Bool.false_eq_true, if_false]
    exact h.endAdmission (h.setOwner _ _ hrv.controlRef 1) hrv hspent.1 hspent.2 rfl _
  | some owner =>
    rw [hown, Option.map_some, Option.map_eq_some_iff] at hbinding
    obtain ⟨priorBinding, hfind, hindex⟩ := hbinding
    obtain ⟨prior, hprior, hb, he⟩ := hi.owner hown
    have hpv := hi.valid owner prior hprior
    obtain ⟨priorRecord, hfindPrior, hload⟩ := h.loadReservation_some hi.ref hprior
    have hheld : m.isHeld (approval.bindingDigest, approval.epoch) nowMs =
        (prior.expired nowMs).isLive := by
      simp [MemoryStore.isHeld, hown, hprior]
    have hexp : m.expireOwner (approval.bindingDigest, approval.epoch) nowMs =
        m.setRecord (prior.expired nowMs) := by
      simp [MemoryStore.expireOwner, hown, hprior]
    have href := hi.ref _ _ hprior
    rw [← href] at hprior hfindPrior
    rw [hfind, hheld, hexp]
    simp only [hindex, hload, hb, he, and_self, guard_true, Option.bind_eq_bind, Option.bind_some]
    rw [show (pure () : Option Unit) = some () from rfl, Option.bind_some]
    by_cases hlive : (prior.expired nowMs).isLive = true
    · have hsame : prior.expired nowMs = prior := by
        rcases prior.expired_cases nowMs with hx | ⟨-, hx⟩
        · exact hx
        · rw [hx] at hlive
          cases hlive
      simp only [hlive, if_true]
      rw [hsame]
      split
      · exact ⟨s, none, rfl, rfl, h⟩
      · exact ⟨s, none, rfl, rfl, h.setRecord_self hprior⟩
    · simp only [hlive]
      obtain ⟨s₁, hs₁, henc₁, -, hother⟩ := h.writeExpiry nextVersion hprior hfindPrior hpv nowMs
      rw [← hother] at hfind
      obtain ⟨s₂, hs₂, henc₂⟩ := henc₁.replaceOwner nextVersion hfind hrv.controlRef
      rw [hs₁, Option.bind_some, hs₂, Option.bind_some]
      refine h.endAdmission (n := m.setRecord (prior.expired nowMs)) henc₂ hrv hspent.1 hspent.2 ?_ _
      rw [MemoryStore.find?_setRecord, ControlRecord.expired_controlRef]
      split
      · rename_i heq
        rw [← heq, hprior]
        rfl
      · rfl

theorem operation (h : Encodes scope m s) (hi : m.Inv) (call : ControlCall) :
    ∃ s', (s.operation A scope nextVersion call).getD (s, call.refusal) =
        (s', (ledger A m call).2) ∧
      Encodes scope (ledger A m call).1 s' := by
  have hrefused : call.nowMs < 1 ∨ call.isWellFormed = false ∨ m.hasSpent call = true →
      ledger A m call = (m, call.refusal) := fun hguard => if_pos hguard
  cases call with
  | admitApproval approval nowMs ttlMs draw =>
    by_cases hargs : mayAdmit A approval nowMs ttlMs = true ∧ 1 ≤ nowMs
    · obtain ⟨s', b, hop, hans, henc⟩ :=
        h.admitOperation A nextVersion hi draw hargs.2 hargs.1
      refine ⟨s', ?_, henc⟩
      simp only [Store.operation, if_pos hargs, hans]
      cases hres : s.admitOperation A scope nextVersion approval nowMs ttlMs draw with
      | none | some =>
        rw [hres] at hop
        cases hop
        rfl
    · simp only [Store.operation, if_neg hargs, ledger_admit_refused A hargs]
      exact ⟨s, rfl, h⟩
  | finalize ack nowMs =>
    by_cases hargs : 1 ≤ nowMs ∧ A.verifyAcknowledgement ack = true
    · have hled : ledger A m (.finalize ack nowMs) = memory A m (.finalize ack nowMs) :=
        if_neg (by simp [ControlCall.nowMs, ControlCall.isWellFormed, MemoryStore.hasSpent, hargs.1])
      have hverified := hargs.2
      simp only [Store.operation]
      rw [if_pos hargs, hled]
      simp only [memory, MemoryStore.finalize, hverified, Bool.not_true, Bool.false_eq_true,
        if_false]
      cases hr : m.records.find? ack.controlRef.val with
      | none =>
        simp only [Store.finalizeOperation, h.loadReservation_none hr]
        exact ⟨s, rfl, h⟩
      | some r =>
        obtain ⟨s', hop, henc⟩ :=
          h.finalizeOperation A nextVersion hi.ref hr (hi.valid _ _ hr) hargs.1
        rw [hop]
        exact ⟨s', rfl, henc⟩
    · have hled : ledger A m (.finalize ack nowMs) = (m, .proof none) := by
        unfold ledger
        split
        · rfl
        rename_i hguard
        have hverify : A.verifyAcknowledgement ack = false := by
          by_contra hv
          simp only [ControlCall.nowMs, not_or, not_lt] at hguard
          exact hargs ⟨hguard.1, by simpa using hv⟩
        simp [memory, MemoryStore.finalize, hverify]
      simp only [Store.operation, if_neg hargs, hled]
      exact ⟨s, rfl, h⟩
  | authorizesSession controlRef preauthRef bindingDigest tokenDigest nowMs =>
    by_cases hargs : isRef controlRef = true ∧ isRef preauthRef = true ∧
        Python.isDigest bindingDigest = true ∧ Python.isDigest tokenDigest = true ∧ 1 ≤ nowMs
    · have hled : ledger A m (.authorizesSession controlRef preauthRef bindingDigest tokenDigest
          nowMs) = memory A m (.authorizesSession controlRef preauthRef bindingDigest tokenDigest
          nowMs) :=
        if_neg (by simp [ControlCall.nowMs, ControlCall.isWellFormed, MemoryStore.hasSpent, hargs])
      simp only [Store.operation, if_pos hargs, hled, memory, MemoryStore.authorizesSession]
      cases hr : m.records.find? controlRef with
      | none =>
        simp only [Store.authorizesOperation, h.loadReservation_none hr]
        exact ⟨s, rfl, h⟩
      | some r =>
        obtain ⟨s', hop, henc⟩ := h.authorizesOperation nextVersion hi.ref hr (hi.valid _ _ hr)
          preauthRef bindingDigest tokenDigest nowMs
        rw [hop]
        exact ⟨s', rfl, henc⟩
    · rw [hrefused]
      · simp only [Store.operation, if_neg hargs]
        exact ⟨s, rfl, h⟩
      · by_contra hguard
        simp only [ControlCall.nowMs, ControlCall.isWellFormed, not_or, not_lt,
          Bool.not_eq_false, Bool.and_eq_true] at hguard
        obtain ⟨hnow, ⟨⟨⟨h₁, h₂⟩, h₃⟩, h₄⟩, -⟩ := hguard
        exact hargs ⟨h₁, h₂, h₃, h₄, hnow⟩
  | revoke controlRef reason nowMs =>
    by_cases hargs : isRef controlRef = true ∧ 1 ≤ nowMs
    · have hled : ledger A m (.revoke controlRef reason nowMs) =
          memory A m (.revoke controlRef reason nowMs) :=
        if_neg (by simp [ControlCall.nowMs, ControlCall.isWellFormed, MemoryStore.hasSpent, hargs])
      simp only [Store.operation, if_pos hargs, hled, memory, MemoryStore.revoke]
      cases hr : m.records.find? controlRef with
      | none =>
        simp only [Store.revokeOperation, h.loadReservation_none hr]
        exact ⟨s, rfl, h⟩
      | some r =>
        obtain ⟨s', hop, henc⟩ :=
          h.revokeOperation nextVersion hi.ref hr (hi.valid _ _ hr) reason nowMs
        rw [hop]
        by_cases hrevoked : (r.expired nowMs).state = .revoked
        · rw [if_pos hrevoked] at henc
          simp only [if_pos hrevoked]
          exact ⟨s', rfl, henc⟩
        · rw [if_neg hrevoked] at henc
          simp only [if_neg hrevoked]
          exact ⟨s', rfl, henc⟩
    · rw [hrefused]
      · simp only [Store.operation, if_neg hargs]
        exact ⟨s, rfl, h⟩
      · by_contra hguard
        simp only [ControlCall.nowMs, ControlCall.isWellFormed, not_or, not_lt,
          Bool.not_eq_false] at hguard
        exact hargs ⟨hguard.2.1, hguard.1⟩

end Encodes

end

end HeyKevin.L10.Control
