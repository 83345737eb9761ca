import HeyKevin.L7Tokens.LifecycleAudit
import HeyKevin.Core.Machine
/-!
# The token transactions

mirrors the bodies of the google_calendar transactions of
app/services/integration_token_mutations.py: acquire (943-1141), transition to
started (1206-1336), persist (2400-2606) and connect (4149-4501), each with the
checks before its transaction, and OAuth state consumption (4709-4972). The
disconnect and its two follow-ups are in `Disconnect`.

A body either raises, and the transaction commits nothing, or ends in one
update of the record. The server's reading, the random claim id, the vault and
the OAuth state document that a body finds belong to the call.

**Left out.** The contractor document is there and is the one of `contractorId`:
a call on another document leaves this one alone. The postread verifications,
which read and do not write.

Line numbers are those of app/services/integration_token_mutations.py.
-/
namespace HeyKevin.L7.Tokens

open HeyKevin.Core Binary64 L1 L1.Text L1.Datetime

/-- `secrets.token_hex(16)` -/
structure HexToken where
  text : Str
  length : text.length = 32
  hex : text.all Python.isLowerHex = true

/-- `_CANONICAL_STATE_REGEX` of integration_token_mutations.py:
`^[A-Za-z0-9_-]{16,256}$` -/
def IsPassedId (s : Str) : Prop := 16 ≤ s.length ∧ s.length ≤ 256 ∧ s.all isIdChar = true

instance (s : Str) : Decidable (IsPassedId s) := inferInstanceAs (Decidable (_ ∧ _))

theorem HexToken.isStoredId (t : HexToken) : IsStoredId t.text := by
  refine ⟨by rw [t.length]; decide, by rw [t.length]; decide, ?_⟩
  have h := t.hex
  rw [List.all_eq_true] at h ⊢
  intro c hc
  have := h c hc
  simp only [Python.isLowerHex, Bool.or_eq_true, Bool.and_eq_true, decide_eq_true_eq] at this
  simp only [isIdChar, Bool.or_eq_true, Bool.and_eq_true, decide_eq_true_eq, beq_iff_eq]
  omega

def isNone : Value → Bool
  | .none => true
  | _ => false

/-- `v is None or v is False` -/
def isClear : Value → Bool
  | .none | .bool false => true
  | _ => false

/-- `d_data.get("active") is True` -/
def Record.IsActive (r : Record) : Prop := bool? (r.get .active) = some true

instance (r : Record) : Decidable r.IsActive := inferInstanceAs (Decidable (_ = _))

/-- `observed is not None and not _exact_raw_credential_equal(stored, observed)` is the error. -/
def MatchesObserved (stored observed : Value) : Prop :=
  isNone observed = true ∨ exactRawCredentialEqual stored observed = true

instance (stored observed : Value) : Decidable (MatchesObserved stored observed) :=
  inferInstanceAs (Decidable (_ ∨ _))

/-- The claim fields of the fields named by `key`. -/
def claimPatch (key : Field → Option ClaimKey) (id : Str) (kind : Kind) (phase : Phase)
    (acquiredAt : Double) (expiresAt : Value) (l : Lifecycle) (fp : Str) (rest : Patch) : Patch :=
  fun f =>
    match key f with
    | some .id => .set (.str id)
    | some .kind => .set (.text kind.text)
    | some .phase => .set (.text phase.text)
    | some .acquiredAt => .set (.number (.float acquiredAt))
    | some .expiresAt => .set expiresAt
    | some .generation => .set (.int l.generation)
    | some .lifecycleEpoch => .set (.int l.epoch)
    | some .credentialsFingerprint => .set (.str fp)
    | none => rest f

def intentKey? : Field → Option ClaimKey
  | .intent k => some k
  | _ => none

def attemptKey? : Field → Option ClaimKey
  | .attempt k => some k
  | _ => none

/-- `OPERATION_INTENT_BASE_KEYS | LEGACY_CLAIM_BASE_KEYS` deleted, the
quarantine pair set. -/
def quarantinePatch : Patch
  | .intent _ | .boundOperationId | .legacy _ => .delete
  | .refreshOutcomeUnknown | .reauthorizationRequired => .set (.bool true)
  | _ => .keep

/-! ## Acquire -/

/-- The arguments of `acquire_provider_operation_intent_cas`. -/
structure Acquire where
  kind : Kind
  boundOperationId : Option Str
  observedGeneration : Option ℤ
  observedLifecycleEpoch : Option ℤ
  observedAccessRaw : Value
  observedRefreshRaw : Value
  leaseDuration : Seconds
  claimId : HexToken
  readTime : DateTime

/-- mirrors 977-1018, the checks of
the arguments; returns the lease -/
def Acquire.validate (a : Acquire) : Except Error Number := do
  ensure (a.kind ≠ .reconnect) (.envelope "Invalid operation intent kind: reconnect")
  ensure (a.boundOperationId.isSome → a.kind = .business) (.envelope
    "bound_operation_id is valid ONLY for provider=google_calendar and kind=business")
  ensure (∀ b ∈ a.boundOperationId, IsDigest b)
    (.envelope "Invalid bound_operation_id: must be 64 lowercase hex characters")
  ensure (∀ g ∈ a.observedGeneration, IsCounter g) (.envelope "Invalid observed_generation")
  ensure (∀ e ∈ a.observedLifecycleEpoch, IsCounter e)
    (.envelope "Invalid observed_lifecycle_epoch")
  match a.leaseDuration with
  | .number n => do
    ensure (1 ≤ n.toFloat.val ∧ n.toFloat.val ≤ 3600)
      (.envelope "Invalid lease_duration: must be a finite float between 1.0 and 3600.0")
    pure n
  | .nonFinite _ =>
    .error
      (.envelope "Invalid lease_duration: must be a finite float between 1.0 and 3600.0")

/-- A business or a refresh intent needs a connected provider, or a legacy
record that holds both tokens. -/
def checkConnected (r : Record) : Kind → Except Error Unit
  | .business | .refresh =>
    match r .connected with
    | some v => ensure (bool? v = some true) (.casConflict "Provider is not connected")
    | none =>
      ensure (isNone (r.get .accessToken) = false ∧ isNone (r.get .refreshToken) = false)
        (.casConflict "Provider is not connected (missing legacy credentials)")
  | _ => .ok ()

/-- The fields of a reservation. The bound id and the paired refresh fields are
written when the call has them and are otherwise left as they are. -/
def acquirePatch (a : Acquire) (now : Double) (expiresAt : Value) (l : Lifecycle) (fp : Str) :
    Patch :=
  claimPatch intentKey? a.claimId.text a.kind .reserved now expiresAt l fp fun
    | .boundOperationId =>
      match a.boundOperationId with
      | some b => .set (.str b)
      | none => .keep
    | .legacy k =>
      if a.kind = .refresh then
        match k with
        | .refreshClaimId => .set (.str a.claimId.text)
        | .refreshClaimPhase => .set (.text Phase.reserved.text)
        | .refreshClaimExpiresAt => .set expiresAt
        | .refreshClaimGeneration => .set (.int l.generation)
        | _ => .keep
      else .keep
    | _ => .keep

/-- mirrors 1034-1141
(`acquire_provider_operation_intent_cas._acquire_txn`). The flag says that the
record went into quarantine instead. -/
def acquireTxn (a : Acquire) (lease : Number) (r : Record) : Except Error (Record × Bool) := do
  ensure r.IsActive (.casConflict "Contractor document is not active")
  let now ← serverTime a.readTime
  ensure (isClear (r.get .reauthorizationRequired) = true)
    (.casConflict "Provider is quarantined for reauthorization")
  ensure (isClear (r.get .refreshOutcomeUnknown) = true)
    (.casConflict "Provider is quarantined due to unknown refresh outcome")
  checkConnected r a.kind
  let l ← (parseDurableLifecycleCounters r).mapError fun m =>
    Error.casConflict ("Invalid lifecycle metadata on contractor document: " ++ m)
  ensure (Agrees a.observedGeneration l.generation) (.casConflict "Generation conflict")
  ensure (Agrees a.observedLifecycleEpoch l.epoch) (.casConflict "Lifecycle epoch conflict")
  ensure (MatchesObserved (r.get .accessToken) a.observedAccessRaw)
    (.casConflict "Stored access token credential mismatch")
  ensure (MatchesObserved (r.get .refreshToken) a.observedRefreshRaw)
    (.casConflict "Stored refresh token credential mismatch")
  let fp ← r.fingerprint.mapError fun _ =>
    Error.casConflict "Failed to compute credentials fingerprint"
  let expiresAt := Seconds.after now (.number lease)
  match parseProviderOperationIntent r with
  | .error _ =>
    .error (.casConflict "Malformed existing refresh claim record / operation intent")
  | .ok .quarantined =>
    .error (.casConflict "Provider is quarantined for reauthorization / unknown outcome")
  | .ok (.valid c) => do
    ensure (¬ (c.boundOperationId.isSome ∧ c.phase ≠ .reserved))
      (.lease "Provider operation intent actively held by bound operation")
    ensure (¬ now.val < c.expiresAt.val)
      (.lease "Provider operation intent actively held by another process")
    if c.phase = .providerRequestStarted then pure (r.update quarantinePatch, true)
    else pure (r.update (acquirePatch a now expiresAt l fp), false)
  | .ok _ => pure (r.update (acquirePatch a now expiresAt l fp), false)

def acquire (a : Acquire) (r : Record) : Except Error (Record × Bool) := do
  let lease ← a.validate
  acquireTxn a lease r

/-! ## Transition to started -/

/-- The arguments of `transition_provider_operation_intent_to_started_cas`. -/
structure Transition where
  claimId : Str
  kind : Option Kind
  boundOperationId : Option Str
  observedGeneration : Option ℤ
  observedLifecycleEpoch : Option ℤ
  observedAccessRaw : Value
  observedRefreshRaw : Value
  leaseDuration : Seconds
  readTime : DateTime

def startedPatch (r : Record) (expiresAt : Value) : Patch
  | .intent .phase => .set (.text Phase.providerRequestStarted.text)
  | .intent .expiresAt => .set expiresAt
  | .legacy .refreshClaimPhase =>
    if (r (.legacy .refreshClaimId)).isSome then .set (.text Phase.providerRequestStarted.text)
    else .keep
  | .legacy .refreshClaimExpiresAt =>
    if (r (.legacy .refreshClaimId)).isSome then .set expiresAt else .keep
  | _ => .keep

/-- The claim was taken at the counters and the credentials that are stored. A
legacy claim carries no fingerprint. -/
def Claim.StillAt (c : Claim) (l : Lifecycle) (fp : Str) : Prop :=
  (c.generation = l.generation ∧ c.lifecycleEpoch = l.epoch) ∧
    (c.isLegacy = false → c.credentialsFingerprint = some fp)

instance (c : Claim) (l : Lifecycle) (fp : Str) : Decidable (c.StillAt l fp) :=
  inferInstanceAs (Decidable (_ ∧ _))

/-- mirrors 1269-1336
(`transition_provider_operation_intent_to_started_cas._transition_txn`) -/
def transitionTxn (t : Transition) (r : Record) : Except Error Record := do
  ensure r.IsActive (.casConflict "Contractor document is not active")
  let l ← (parseDurableLifecycleCounters r).mapError fun _ =>
    Error.casConflict "Invalid lifecycle metadata on contractor document"
  ensure (Agrees t.observedGeneration l.generation) (.casConflict "Generation conflict")
  ensure (Agrees t.observedLifecycleEpoch l.epoch) (.casConflict "Lifecycle epoch conflict")
  ensure (MatchesObserved (r.get .accessToken) t.observedAccessRaw)
    (.casConflict "Stored access token credential mismatch")
  ensure (MatchesObserved (r.get .refreshToken) t.observedRefreshRaw)
    (.casConflict "Stored refresh token credential mismatch")
  let now ← serverTime t.readTime
  match parseProviderOperationIntent r with
  | .ok (.valid c) => do
    ensure (c.id = t.claimId)
      (.lease "Provider operation intent claim ID mismatch on transition to started")
    ensure (c.phase = .reserved)
      (.lease "Provider operation intent is in invalid phase for transition to started")
    ensure (Agrees t.kind c.kind) (.lease "Provider operation intent kind mismatch")
    ensure (∀ b ∈ t.boundOperationId, c.boundOperationId = some b)
      (.lease "Provider operation intent bound operation ID mismatch on transition to started")
    ensure (c.generation = l.generation ∧ c.lifecycleEpoch = l.epoch)
      (.lease "Provider operation intent generation/epoch mismatch")
    let fp ← r.fingerprint
    ensure (c.StillAt l fp)
      (.lease "Provider operation intent credentials fingerprint mismatch")
    ensure (now.val < c.expiresAt.val)
      (.lease "Provider operation intent expired before transition to started phase")
    pure (r.update (startedPatch r (t.leaseDuration.after now)))
  | _ => .error (.lease "Provider operation intent not valid on transition")

def transition (t : Transition) (r : Record) : Except Error Record := do
  ensure (IsPassedId t.claimId) (.envelope "Invalid claim_id")
  ensure (∀ b ∈ t.boundOperationId, IsDigest b)
    (.envelope "Invalid bound_operation_id: must be 64 lowercase hex characters")
  transitionTxn t r

/-! ## Persist -/

/-- The arguments of `persist_refreshed_tokens_cas`; `extraScope` is its only
admissible extra update. -/
structure Persist where
  newAccessToken : Value
  newRefreshToken : Value
  observedGeneration : ℤ
  observedLifecycleEpoch : ℤ
  observedAccessRaw : Value
  observedRefreshRaw : Value
  claimId : Str
  expiresAt : Option Seconds
  expiresIn : Option Seconds
  extraScope : Option Value
  vault : Vault
  readTime : DateTime

/-- `extra_updates` may hold a calendar scope and nothing else. -/
def CheckedScope (v : Option Value) : Prop := ∀ w ∈ v, ∃ s ∈ str? w, IsCalendarScope s

instance (v : Option Value) : Decidable (CheckedScope v) :=
  inferInstanceAs (Decidable (∀ w ∈ v, ∃ s ∈ str? w, IsCalendarScope s))

/-- Every key of `get_provider_operation_intent_keys`, quarantine included. -/
def deleteClaims (rest : Patch) : Patch
  | .intent _ | .boundOperationId | .legacy _ | .attempt _
  | .refreshOutcomeUnknown | .reauthorizationRequired => .delete
  | f => rest f

def setOrDelete : Option Double → Update
  | some d => .set (.number (.float d))
  | none => .delete

def Record.HasFloor (r : Record) : Prop :=
  r .tokenEnvelopeRequired = none ∨ (bool? (r.get .tokenEnvelopeRequired)).isSome

instance (r : Record) : Decidable r.HasFloor := inferInstanceAs (Decidable (_ ∨ _))

def persistPatch (p : Persist) (r : Record) (now : Double) (format : WriteFormat)
    (access refresh : Value) (expiry : Option Double) : Patch :=
  deleteClaims fun
    | .accessToken => .set access
    | .refreshToken => .set refresh
    | .generation => .set (.int (p.observedGeneration + 1))
    | .connected => .set (.bool true)
    | .tokenRefreshedAt => .set (.number (.float now))
    | .tokenEnvelopeRequired =>
      if format = .envelope ∨ bool? (r.get .tokenEnvelopeRequired) = some true then
        .set (.bool true)
      else if bool? (r.get .tokenEnvelopeRequired) = some false then .set (.bool false)
      else .keep
    | .tokenExpiresAt => setOrDelete expiry
    | .scope =>
      match p.extraScope with
      | some v => .set v
      | none => .keep
    | _ => .keep

/-- mirrors 2468-2606
(`persist_refreshed_tokens_cas._refresh_txn`) -/
def persistTxn (p : Persist) (access refresh : Str) (r : Record) : Except Error Record := do
  ensure r.IsActive (.casConflict "Contractor document is not active")
  let now ← serverTime p.readTime
  let l ← (parseDurableLifecycleCounters r).mapError fun m =>
    Error.casConflict ("Invalid lifecycle metadata: " ++ m)
  ensure (l.generation = p.observedGeneration) (.casConflict "Generation conflict")
  ensure (l.epoch = p.observedLifecycleEpoch) (.casConflict "Lifecycle epoch conflict")
  ensure (exactRawCredentialEqual (r.get .accessToken) p.observedAccessRaw = true)
    (.casConflict "Stored access token credential mismatch")
  ensure (exactRawCredentialEqual (r.get .refreshToken) p.observedRefreshRaw = true)
    (.casConflict "Stored refresh token credential mismatch")
  match parseProviderOperationIntent r with
  | .ok (.valid c) => do
    ensure (c.id = p.claimId) (.casConflict "Refresh lease claim ID mismatch on commit")
    ensure (c.kind = .refresh) (.casConflict "Refresh lease kind mismatch on commit")
    ensure (c.phase = .providerRequestStarted)
      (.casConflict "Refresh lease was not in provider_request_started phase on commit")
    ensure (now.val < c.expiresAt.val)
      (.casConflict "Refresh lease expired or invalid on commit")
    ensure (c.generation = l.generation ∧ c.lifecycleEpoch = l.epoch)
      (.casConflict "Refresh lease generation/epoch mismatch on commit")
    let fp ← r.fingerprint
    ensure (c.StillAt l fp)
      (.casConflict "Refresh lease credentials fingerprint mismatch on commit")
    ensure r.HasFloor (.casConflict "Malformed token_envelope_required flag on document")
    let (format, access, refresh) ← sealPair p.vault r access refresh
    let expiry ← calculatedExpiry now p.expiresIn p.expiresAt
    pure (r.update (persistPatch p r now format access refresh expiry))
  | _ => .error (.casConflict "Missing or invalid operation intent/claim record on commit")

def persist (p : Persist) (r : Record) : Except Error Record := do
  let access ← validateTokenString "access_token" p.newAccessToken
  let refresh ← validateTokenString "refresh_token" p.newRefreshToken
  ensure (IsPassedId p.claimId) (.envelope "Invalid claim_id")
  ensure (IsCounter p.observedGeneration) (.envelope "Invalid observed_generation")
  ensure (IsCounter p.observedLifecycleEpoch) (.envelope "Invalid observed_lifecycle_epoch")
  ensure (p.observedGeneration + 1 ≤ maxKeyVersion) (.envelope "Generation overflow")
  ensure (CheckedScope p.extraScope) (.envelope "Invalid value for google_calendar_scope")
  persistTxn p access refresh r

/-! ## Connect -/

/-- The arguments of `connect_provider_cas`. -/
structure Connect where
  accessToken : Value
  refreshToken : Value
  observedGeneration : Option ℤ
  observedLifecycleEpoch : Option ℤ
  observedAccessRaw : Value
  observedRefreshRaw : Value
  claimId : Option Str
  expiresAt : Option Seconds
  expiresIn : Option Seconds
  scope : Option Value
  extraScope : Option Value
  actor : Str
  vault : Vault
  readTime : DateTime

/-- `d_data.get(first_connected_at) or d_data.get(connected_at) or server_now` -/
def firstConnectedAt (r : Record) (now : Double) : Value :=
  if (r.get .firstConnectedAt).truthy then r.get .firstConnectedAt
  else if (r.get .connectedAt).truthy then r.get .connectedAt
  else .number (.float now)

def connectPatch (c : Connect) (r : Record) (now : Double) (l : Lifecycle) (format : WriteFormat)
    (access refresh : Value) (expiry : Option Double) : Patch :=
  deleteClaims fun
    | .connected => .set (.bool true)
    | .generation => .set (.int (l.generation + 1))
    | .lifecycleEpoch => .set (.int (l.epoch + 1))
    | .connectedAt => .set (.number (.float now))
    | .firstConnectedAt => .set (firstConnectedAt r now)
    | .disconnectedAt | .tokenRefreshedAt => .delete
    | .accessToken => .set access
    | .refreshToken => .set refresh
    | .tokenExpiresAt => setOrDelete expiry
    | .tokenEnvelopeRequired => if format = .envelope then .set (.bool true) else .keep
    | .scope => .set (c.scope.getD (.text canonicalGoogleCalendarScope))
    | _ => .keep

def checkConnectClaim (c : Connect) (now : Double) (l : Lifecycle) (r : Record) :
    IntentStatus → Except Error Unit
  | .quarantinedReauthorizing a => do
    let id ← require c.claimId (.casConflict
      "Quarantined provider record requires explicit claim_id for reauthorization")
    ensure (a.id = id) (.casConflict "Reauthorization attempt claim_id mismatch")
    ensure (a.phase = .providerRequestStarted)
      (.casConflict "Reauthorization attempt in invalid phase (must be provider_request_started)")
    ensure (a.kind = .reconnect) (.casConflict "Reauthorization attempt kind mismatch")
    ensure (now.val < a.expiresAt.val) (.casConflict "Reauthorization attempt expired")
    ensure (a.generation = l.generation ∧ a.lifecycleEpoch = l.epoch)
      (.casConflict "Reauthorization attempt generation/epoch mismatch")
    let fp ← r.fingerprint
    ensure (a.credentialsFingerprint = some fp)
      (.casConflict "Reauthorization attempt credentials fingerprint mismatch")
  | .quarantined => .error (.casConflict
      "Quarantined provider record requires active started reauthorization attempt")
  | .valid a => do
    let id ← require c.claimId
      (.casConflict "Claimless connect rejected while operation intent is held")
    ensure (a.id = id) (.casConflict "Connect operation intent ID mismatch on commit")
    ensure (a.phase = .providerRequestStarted)
      (.casConflict "Connect operation intent in invalid phase on commit")
    ensure (a.kind = .connect ∨ a.kind = .reconnect)
      (.casConflict "Connect operation intent kind mismatch")
    ensure (now.val < a.expiresAt.val)
      (.casConflict "Connect operation intent expired on commit")
    ensure (a.generation = l.generation ∧ a.lifecycleEpoch = l.epoch)
      (.casConflict "Connect operation intent generation/epoch mismatch")
    let fp ← r.fingerprint
    ensure (a.StillAt l fp)
      (.casConflict "Connect operation intent credentials fingerprint mismatch")
  | .absent => ensure (c.claimId = none) (.casConflict
      "Claimed connect provided but no operation intent is held on contractor document")

/-- `"reconnected" if (current_gen > 0 or has_existing_credentials) else "connected"` -/
def connectAction (r : Record) (l : Lifecycle) : String :=
  if 0 < l.generation ∨ isNone (r.get .accessToken) = false ∧ isNone (r.get .refreshToken) = false
  then "reconnected" else "connected"

/-- mirrors 4268-4501
(`connect_provider_cas._connect_txn`): the record, and the audit document with
its id -/
def connectTxn (contractorId : Str) (c : Connect) (access refresh : Str) (r : Record)
    (audits : Str → Option Dict) : Except Error (Record × Str × Dict) := do
  ensure r.IsActive (.casConflict "Contractor document is not active")
  let now ← serverTime c.readTime
  let l ← (parseDurableLifecycleCounters r).mapError fun _ =>
    Error.casConflict "Invalid lifecycle metadata on contractor document"
  ensure (Agrees c.observedGeneration l.generation) (.casConflict "Generation conflict")
  ensure (c.observedGeneration.isSome →
      exactRawCredentialEqual (r.get .accessToken) c.observedAccessRaw = true)
    (.casConflict "Stored access token credential mismatch")
  ensure (c.observedGeneration.isSome →
      exactRawCredentialEqual (r.get .refreshToken) c.observedRefreshRaw = true)
    (.casConflict "Stored refresh token credential mismatch")
  ensure (Agrees c.observedLifecycleEpoch l.epoch) (.casConflict "Lifecycle epoch conflict")
  let st ← (parseProviderOperationIntent r).mapError fun m =>
    Error.casConflict ("Malformed operation intent or quarantine state: " ++ m)
  checkConnectClaim c now l r st
  ensure (l.generation + 1 ≤ maxKeyVersion) (.envelope "Generation overflow")
  ensure (l.epoch + 1 ≤ maxKeyVersion) (.envelope "Lifecycle epoch overflow")
  let action := connectAction r l
  let auditId := formatAuditDocId contractorId .googleCalendar (l.generation + 1) action
  let audit := buildConnectAuditEvent contractorId (l.generation + 1) (l.epoch + 1) c.actor
    (py action) now
  ensure (audits auditId).isNone
    (.casConflict "Deterministic connect audit document already exists for new generation")
  ensure r.HasFloor (.casConflict "Malformed token_envelope_required flag on document")
  let (format, access, refresh) ← sealPair c.vault r access refresh
  let expiry ← calculatedExpiry now c.expiresIn c.expiresAt
  pure (r.update (connectPatch c r now l format access refresh expiry), auditId, audit)

def connect (contractorId : Str) (c : Connect) (r : Record) (audits : Str → Option Dict) :
    Except Error (Record × Str × Dict) := do
  let access ← validateTokenString "access_token" c.accessToken
  let refresh ← validateTokenString "refresh_token" c.refreshToken
  ensure (∀ id ∈ c.claimId, IsPassedId id) (.envelope "Invalid claim_id")
  ensure (∀ g ∈ c.observedGeneration, IsCounter g) (.envelope "Invalid observed_generation")
  ensure (∀ e ∈ c.observedLifecycleEpoch, IsCounter e)
    (.envelope "Invalid observed_lifecycle_epoch")
  ensure (CheckedScope c.scope) (.envelope "Invalid google_calendar_scope")
  ensure (CheckedScope c.extraScope) (.envelope "Invalid value for google_calendar_scope")
  connectTxn contractorId c access refresh r audits

/-! ## OAuth state consumption -/

/-- The state document that `consume_oauth_state` finds, and the random claim id
it would mint. -/
structure Consume where
  stateDoc : Option Dict
  claimId : HexToken
  readTime : DateTime

/-- The outcomes of the transaction; all but `notFound` delete the state. -/
inductive ConsumeStatus
  | notFound | malformed | invalidExpiration | expired | invalidContractor | lifecycleMismatch
  | valid
deriving DecidableEq

def oauthStateKeys : List String :=
  ["contractor_id", "provider", "lifecycle_epoch", "generation", "credentials_fingerprint",
    "created_at", "expires_at"]

structure OAuthState where
  generation : ℤ
  lifecycleEpoch : ℤ
  credentialsFingerprint : Str

/-- mirrors 4732-4818, the checks of
the state document up to its expiry; returns the server's reading with it -/
def readOAuthState (d : Dict) (readTime : DateTime) :
    Except ConsumeStatus (OAuthState × Double) := do
  ensure ((d.get "provider").isStr (py "google_calendar") = true) .malformed
  ensure (d.keysAre oauthStateKeys = true) .malformed
  let epoch ← require (counter? (d.get "lifecycle_epoch")) .malformed
  let gen ← require (counter? (d.get "generation")) .malformed
  let fp ← require (str? (d.get "credentials_fingerprint")) .malformed
  ensure (IsDigest fp) .malformed
  let createdAt ← require (positiveFloat? (d.get "created_at")) .malformed
  let exp ← require (positiveFloat? (d.get "expires_at")) .invalidExpiration
  ensure (createdAt.val < exp.val ∧ (Double.ofRat (exp.val - createdAt.val)).val ≤ 605) .malformed
  let now ← (serverTime readTime).mapError fun _ => ConsumeStatus.malformed
  ensure (now.val < exp.val) .expired
  pure (⟨gen, epoch, fp⟩, now)

inductive ConsumeEffect
  | quarantine
  | reserveAttempt
  | reserveIntent
deriving DecidableEq

/-- What the status of the record allows: an active claim blocks, an expired
reservation is taken over, an expired started claim becomes a quarantine. -/
def statusEffect (now : Double) : IntentStatus → Except ConsumeStatus ConsumeEffect
  | .quarantinedReauthorizing a => do
    ensure (¬ (a.phase = .providerRequestStarted ∧ now.val < a.expiresAt.val)) .lifecycleMismatch
    pure .reserveAttempt
  | .quarantined => .ok .reserveAttempt
  | .valid c => do
    ensure (¬ (c.boundOperationId.isSome ∧ c.phase ≠ .reserved)) .lifecycleMismatch
    ensure (¬ now.val < c.expiresAt.val) .lifecycleMismatch
    pure (if c.phase = .providerRequestStarted then .quarantine else .reserveIntent)
  | .absent => .ok .reserveIntent

/-- mirrors 4828-4911, the checks of
the contractor. The flags of a quarantine that the parser accepts are both true. -/
def consumeEffect (s : OAuthState) (now : Double) (r : Record) :
    Except ConsumeStatus (ConsumeEffect × Lifecycle × Str) := do
  ensure r.IsActive .invalidContractor
  let l ← (parseDurableLifecycleCounters r).mapError fun _ => ConsumeStatus.lifecycleMismatch
  ensure (l.epoch = s.lifecycleEpoch ∧ l.generation = s.generation) .lifecycleMismatch
  let fp ← r.fingerprint.mapError fun _ => ConsumeStatus.lifecycleMismatch
  ensure (fp = s.credentialsFingerprint) .lifecycleMismatch
  let st ← (parseProviderOperationIntent r).mapError fun _ => ConsumeStatus.lifecycleMismatch
  let effect ← statusEffect now st
  ensure (effect = .quarantine ∨ r.HasFloor) .malformed
  pure (effect, l, fp)

def leaseDurationSeconds : Number := .int 60

def consumePatch (claimId : Str) (now : Double) (l : Lifecycle) (fp : Str) : ConsumeEffect → Patch
  | .quarantine => fun
    | .intent _ | .boundOperationId | .legacy _ | .attempt _ => .delete
    | .refreshOutcomeUnknown | .reauthorizationRequired => .set (.bool true)
    | _ => .keep
  | .reserveAttempt =>
    claimPatch attemptKey? claimId .reconnect .reserved now
      (Seconds.after now (.number leaseDurationSeconds)) l fp fun
        | .intent _ | .boundOperationId | .legacy _ => .delete
        | .refreshOutcomeUnknown | .reauthorizationRequired => .set (.bool true)
        | _ => .keep
  | .reserveIntent =>
    claimPatch intentKey? claimId .connect .reserved now
      (Seconds.after now (.number leaseDurationSeconds)) l fp fun
        | .attempt _ => .delete
        | _ => .keep

def consumeDecision (contractorId : Str) (c : Consume) (r : Record) :
    Except ConsumeStatus (ConsumeEffect × Lifecycle × Str × Double) := do
  let d ← require c.stateDoc .notFound
  let (s, now) ← readOAuthState d c.readTime
  ensure ((d.get "contractor_id").isStr contractorId = true) .invalidContractor
  let (effect, l, fp) ← consumeEffect s now r
  pure (effect, l, fp, now)

/-- mirrors 4709-4972
(`consume_oauth_state._consume_txn`) -/
def consume (contractorId : Str) (c : Consume) (r : Record) : Record × ConsumeStatus :=
  match consumeDecision contractorId c r with
  | .error st => (r, st)
  | .ok (effect, l, fp, now) =>
    (r.update (consumePatch c.claimId.text now l fp effect),
      if effect = .quarantine then .lifecycleMismatch else .valid)

end HeyKevin.L7.Tokens
