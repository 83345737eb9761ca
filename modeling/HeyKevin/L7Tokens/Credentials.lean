import HeyKevin.L7Tokens.OperationIntent
import HeyKevin.L1Encoding.Json
/-!
# Stored credentials

mirrors the reader side of app/services/integration_tokens.py: token strings,
envelopes, the fingerprint of a credential pair, the write format, the
calendar scope; and the tombstone and revocation readers of
app/services/integration_token_mutations.py:2659-2834.

The settings, AES-GCM and its random nonces are not in the repository. They
enter as a `Vault`, one per call, so nothing here depends on what they do.

Line numbers without a file are those of app/services/integration_tokens.py.
-/
namespace HeyKevin.L7.Tokens

open HeyKevin.Core Binary64 L1 L1.Text L1.Datetime
open HeyKevin.L1.Json (quotedAscii)

/-! ## Token strings -/

def isControl (c : CodePoint) : Bool := c.val < 32 || (127 ≤ c.val && c.val ≤ 159)

/-- mirrors 656-705
with `allow_none` false -/
def validateTokenString (name : String) (v : Value) : Except Error Str :=
  match v with
  | .none => .error (.envelope (name ++ " is required"))
  | .str s => do
    ensure (s ≠ []) (.envelope ("Invalid " ++ name ++ ": token cannot be empty"))
    ensure (strip s = s)
      (.envelope ("Invalid " ++ name ++ ": token contains leading or trailing whitespace"))
    ensure (s.any isControl = false)
      (.envelope ("Invalid " ++ name ++ ": token contains disallowed control characters"))
    let bs ← require (encodeUtf8 s)
      (.envelope ("Invalid " ++ name ++ ": token cannot be encoded as UTF-8"))
    ensure (1 ≤ bs.length ∧ bs.length ≤ 16384)
      (.envelope ("Invalid " ++ name ++ ": byte length outside range 1..16384"))
    pure s
  | _ => .error (.envelope ("Invalid " ++ name ++ ": must be an exact str"))

/-! ## Envelopes -/

def sextet (c : CodePoint) : Option ℕ :=
  if 65 ≤ c.val ∧ c.val < 91 then some (c.val - 65)
  else if 97 ≤ c.val ∧ c.val < 123 then some (c.val - 71)
  else if 48 ≤ c.val ∧ c.val < 58 then some (c.val + 4)
  else if c.val = 43 then some 62
  else if c.val = 47 then some 63
  else none

/-- How many bytes a canonical base64 text decodes to; `none` where
`b64decode(raw, validate=True)` fails or does not encode back to `raw`. -/
def base64Length : Str → Option ℕ
  | [] => some 0
  | [a, b, c, d] => do
    let _ ← sextet a
    let y ← sextet b
    if d.val = 61 then
      if c.val = 61 then if y % 16 = 0 then some 1 else none
      else do
        let z ← sextet c
        if z % 4 = 0 then some 2 else none
    else do
      let _ ← sextet c
      let _ ← sextet d
      some 3
  | a :: b :: c :: d :: rest => do
    let _ ← sextet a
    let _ ← sextet b
    let _ ← sextet c
    let _ ← sextet d
    let n ← base64Length rest
    some (n + 3)
  | _ => none

structure Envelope where
  keyVersion : ℤ
  nonce : Str
  ciphertext : Str
deriving DecidableEq

def algorithm : String := "AES-256-GCM"

/-- mirrors 598-625
(`_validate_canonical_base64`) -/
def validateCanonicalBase64 (name : String) (raw : Value) (lo hi : ℕ) : Except Error Str := do
  let s ← require (str? raw) (Error.envelope (name ++ " must be an exact base64 str"))
  ensure (s ≠ []) (.envelope (name ++ " cannot be empty"))
  let n ← require (base64Length s) (Error.envelope ("Invalid base64 encoding in " ++ name))
  ensure (lo ≤ n ∧ n ≤ hi) (.envelope (name ++ " length outside valid range"))
  pure s

/-- mirrors 1206-1241
(`validate_envelope_structure`) -/
def validateEnvelopeStructure (d : Dict) : Except Error Envelope := do
  ensure (d.keysAre ["schema_version", "key_version", "algorithm", "nonce", "ciphertext"] = true)
    (.envelope "Envelope keys must exactly match")
  ensure (counter? (d.get "schema_version") = some 1)
    (.envelope "Unsupported envelope schema_version: expected 1")
  let kv ← require (counter? (d.get "key_version"))
    (Error.envelope "Envelope key_version must be an exact int in range 1..2147483647")
  ensure (1 ≤ kv)
    (.envelope "Envelope key_version must be an exact int in range 1..2147483647")
  ensure ((d.get "algorithm").isStr (py algorithm) = true)
    (.envelope "Unsupported envelope algorithm: expected 'AES-256-GCM'")
  let nonce ← validateCanonicalBase64 "Envelope nonce" (d.get "nonce") 12 12
  let ciphertext ← validateCanonicalBase64 "Envelope ciphertext" (d.get "ciphertext") 17 16400
  pure ⟨kv, nonce, ciphertext⟩

structure Vault where
  /-- The versions of the configured keyring. -/
  keyring : Except Error (List ℤ)
  /-- `get_configured_active_key_version()` -/
  activeKeyVersion : Except Error (Option ℤ)
  encryptedWritesEnabled : Bool
  /-- `AESGCM(key).decrypt` under this contractor's data for a token kind, read as
  UTF-8; `none` where it raises. -/
  decrypt : String → Envelope → Option Str
  /-- `encrypt_integration_token`, with a nonce of its own. -/
  encrypt : String → Str → Except Error Dict

/-- mirrors 986-1088
(`decrypt_integration_token`) on an envelope -/
def decryptIntegrationToken (vault : Vault) (kind : String) (d : Dict) : Except Error Str := do
  let e ← validateEnvelopeStructure d
  let keyring ← vault.keyring
  ensure (e.keyVersion ∈ keyring)
    (.decryption "Key version required by envelope is not present in configured keyring")
  let s ← require (vault.decrypt kind e)
    (Error.decryption
      "AEAD decryption/authentication failed (corrupted ciphertext, altered AAD, or wrong key)")
  validateTokenString "decrypted_token" (.str s)

/-! ## Credential pairs -/

/-- The values that `_exact_raw_credential_equal` accepts inside a map. -/
def exactScalarEqual : Value → Value → Bool
  | .bool a, .bool b => a == b
  | .str a, .str b => a == b
  | .number (.int a), .number (.int b) => a == b
  | .number (.float a), .number (.float b) => a == b
  | _, _ => false

/-- mirrors 732-763
(`_exact_raw_credential_equal`) -/
def exactRawCredentialEqual : Value → Value → Bool
  | .none, .none => true
  | .str a, .str b => a == b
  | .dict a, .dict b =>
    Dict.keysAre a (Dict.keys b) &&
      (Dict.keys a).all fun k => exactScalarEqual (Dict.get a k) (Dict.get b k)
  | _, _ => false

def Envelope.json (e : Envelope) : Str :=
  py "\x7b\"algorithm\":" ++ quotedAscii (py algorithm) ++
    py ",\"ciphertext\":" ++ quotedAscii e.ciphertext ++
    py ",\"key_version\":" ++ decimal e.keyVersion ++
    py ",\"nonce\":" ++ quotedAscii e.nonce ++
    py ",\"schema_version\":1\x7d"

/-- The SHA-256 of the canonical JSON of a pair. The text is ASCII, so it
always encodes. -/
def digestPair (access refresh : Str) : Str :=
  Sha256.sha256 ((encodeUtf8 (py "\x7b\"access\":" ++ access ++ py ",\"refresh\":" ++ refresh ++
    py "\x7d")).getD [])

/-- mirrors 1307-1334
(`compute_raw_credentials_fingerprint`) -/
def computeRawCredentialsFingerprint (access refresh : Value) : Except Error Str :=
  match access, refresh with
  | .none, .none => .ok (digestPair (py "null") (py "null"))
  | .str _, .str _ => do
    let a ← validateTokenString "access_token" access
    let b ← validateTokenString "refresh_token" refresh
    pure (digestPair (quotedAscii a) (quotedAscii b))
  | .dict a, .dict b => do
    let a ← validateEnvelopeStructure a
    let b ← validateEnvelopeStructure b
    pure (digestPair a.json b.json)
  | _, _ => .error (.envelope "Invalid or mixed raw credentials representation")

theorem isDigest_fingerprint {a b : Value} {fp : Str}
    (h : computeRawCredentialsFingerprint a b = .ok fp) : IsDigest fp := by
  have hd : ∀ x y, IsDigest (digestPair x y) := fun x y => Sha256.isDigest_sha256 _
  unfold computeRawCredentialsFingerprint at h
  split at h
  · cases h
    exact hd _ _
  · simp only [bind_eq_ok, pure_eq_ok, Except.ok.injEq] at h
    obtain ⟨_, -, _, -, rfl⟩ := h
    exact hd _ _
  · simp only [bind_eq_ok, pure_eq_ok, Except.ok.injEq] at h
    obtain ⟨_, -, _, -, rfl⟩ := h
    exact hd _ _
  · cases h

def Record.fingerprint (r : Record) : Except Error Str :=
  computeRawCredentialsFingerprint (r.get .accessToken) (r.get .refreshToken)

/-! ## The write format -/

inductive WriteFormat
  | plaintext
  | envelope
deriving DecidableEq

def ensureActiveKey (keyring : List ℤ) (active : Option ℤ) (m : String) : Except Error Unit :=
  ensure (keyring ≠ [] ∧ ∃ v ∈ active, v ∈ keyring) (.config m)

/-- mirrors 1381-1520 -/
def determineWriteFormat (vault : Vault) (access refresh envelopeRequired : Value) :
    Except Error WriteFormat := do
  match envelopeRequired with
  | .none | .bool _ => pure ()
  | _ => .error (.envelope "envelope_required must be an exact bool")
  let active ← vault.activeKeyVersion
  match access, refresh with
  | .dict a, .dict b => do
    let keyring ← vault.keyring
    ensure (keyring ≠ []) (.config "Keyring is empty or unconfigured for envelope decryption")
    let _ ← decryptIntegrationToken vault "access" a
    let _ ← decryptIntegrationToken vault "refresh" b
    ensureActiveKey keyring active "Active key version not present in keyring for envelope write"
    pure .envelope
  | .dict _, _ | _, .dict _ =>
    .error (.envelope ("One-sided or mixed envelope representation: " ++
      "both access and refresh tokens must be valid envelopes"))
  | .none, .none =>
    match envelopeRequired, vault.encryptedWritesEnabled with
    | .bool true, _ => do
      let keyring ← vault.keyring
      ensureActiveKey keyring active "Encryption configuration invalid for required envelope writes"
      pure .envelope
    | _, true => do
      let keyring ← vault.keyring
      ensureActiveKey keyring active "Encryption configuration invalid for encrypted writes"
      pure .envelope
    | _, false => pure .plaintext
  | .str _, .str _ =>
    match envelopeRequired with
    | .bool true => .error (.envelope ("Conflicted credential downgrade attempt: " ++
        "provider requires encrypted envelope representation"))
    | _ => do
      let _ ← validateTokenString "google_calendar_access_token" access
      let _ ← validateTokenString "google_calendar_refresh_token" refresh
      if vault.encryptedWritesEnabled then do
        let keyring ← vault.keyring
        ensureActiveKey keyring active "Encryption configuration invalid for encrypted writes"
        pure .envelope
      else pure .plaintext
  | _, _ => .error (.envelope
      "Invalid, one-sided, or mixed stored credentials representation")

/-- The two values to store for a new pair of tokens, in the format that the
policy picks for the record. A refusal of the policy is a conflict. -/
def sealPair (vault : Vault) (r : Record) (access refresh : Str) :
    Except Error (WriteFormat × Value × Value) := do
  let format ← (determineWriteFormat vault (r.get .accessToken) (r.get .refreshToken)
    (r.get .tokenEnvelopeRequired)).mapError fun e =>
      Error.casConflict ("Write format policy failed under CAS: " ++ e.message)
  match format with
  | .envelope => do
    let a ← vault.encrypt "access" access
    let b ← vault.encrypt "refresh" refresh
    pure (.envelope, .dict a, .dict b)
  | .plaintext => pure (.plaintext, .str access, .str refresh)

/-! ## Durations and scopes -/

/-- mirrors 708-729 (`validate_token_expires_in`,
`validate_token_expires_at`); `none` is Python's `None` -/
def validateBetween (m : String) (lo hi : ℚ) : Option Seconds → Except Error (Option Double)
  | none => .ok none
  | some (.nonFinite _) => .error (.envelope m)
  | some (.number n) => do
    ensure (lo ≤ n.toFloat.val ∧ n.toFloat.val ≤ hi) (.envelope m)
    pure (some n.toFloat)

def validateTokenExpiresIn : Option Seconds → Except Error (Option Double) :=
  validateBetween "Invalid expires_in duration" 1 31536000

def validateTokenExpiresAt : Option Seconds → Except Error (Option Double) :=
  validateBetween "Invalid expires_at timestamp" 1 2147483647000

/-- The expiry that a persist or a connect stores: `expires_in` counts from the
server's clock and wins over `expires_at`. -/
def calculatedExpiry (now : Double) (expiresIn expiresAt : Option Seconds) :
    Except Error (Option Double) :=
  match expiresIn with
  | some s => do
    let d ← validateTokenExpiresIn (some s)
    pure (d.map fun d => .ofRat (now.val + d.val))
  | none => validateTokenExpiresAt expiresAt

def eventsScope : String := "https://www.googleapis.com/auth/calendar.events"
def freebusyScope : String := "https://www.googleapis.com/auth/calendar.freebusy"

def canonicalGoogleCalendarScope : String := eventsScope ++ " " ++ freebusyScope

/-- mirrors 1256-1304
(`validate_and_normalize_google_calendar_scope`) with `allow_none` false; the
normal form is the text itself -/
def IsCalendarScope (s : Str) : Prop :=
  (∀ t ∈ s.splitOn space, t ≠ [] ∧ t.all (fun c => 33 ≤ c.val && c.val ≤ 126) = true) ∧
    py eventsScope ∈ s.splitOn space ∧ py freebusyScope ∈ s.splitOn space

instance (s : Str) : Decidable (IsCalendarScope s) := inferInstanceAs (Decidable (_ ∧ _))

/-! ## Tombstones and revocation -/

/-- mirrors app/services/integration_token_mutations.py:2694-2755
(`is_durable_provider_tombstone`) -/
def IsDurableProviderTombstone (r : Record) : Prop :=
  bool? (r.get .connected) = some false ∧
  (counter? (r.get .generation)).isSome ∧
  (counter? (r.get .lifecycleEpoch)).isSome ∧
  (positiveFloat? (r.get .disconnectedAt)).isSome ∧
  (r .tokenEnvelopeRequired = none ∨ (bool? (r.get .tokenEnvelopeRequired)).isSome) ∧
  (∀ f ∈ [Field.accessToken, .refreshToken, .tokenExpiresAt, .expiresAt, .connectedAt,
    .firstConnectedAt, .tokenRefreshedAt, .refreshOutcomeUnknown, .reauthorizationRequired,
    .scope], (r f).isNone) ∧
  ¬ r.HasIntent ∧ ¬ r.HasLegacy ∧ ¬ r.HasAttempt

instance (r : Record) : Decidable (IsDurableProviderTombstone r) :=
  inferInstanceAs (Decidable (_ ∧ _))

/-- mirrors app/services/integration_token_mutations.py:2758-2834
(`extract_revocation_access_token`) -/
def extractRevocationAccessToken (vault : Vault) (r : Record) (generation : ℤ) : Option Str :=
  if counter? (r.get .generation) ≠ some generation then none
  else if (r .tokenEnvelopeRequired).isSome ∧ (bool? (r.get .tokenEnvelopeRequired)).isNone then
    none
  else match r.get .accessToken, r.get .refreshToken with
    | .str a, .str b =>
      if bool? (r.get .tokenEnvelopeRequired) = some true then none
      else match validateTokenString "access_token" (.str a),
          validateTokenString "refresh_token" (.str b) with
        | .ok a, .ok _ => some a
        | _, _ => none
    | .dict a, .dict b =>
      match decryptIntegrationToken vault "access" a, decryptIntegrationToken vault "refresh" b with
      | .ok a, .ok _ => some a
      | _, _ => none
    | _, _ => none

end HeyKevin.L7.Tokens
