import HeyKevin.L7Tokens.Credentials
import HeyKevin.L1Encoding.Base64
import HeyKevin.L1Encoding.Utf8
/-!
# Encrypting a token

mirrors app/services/integration_tokens.py: keyrings, the authenticated data
and the two directions of an envelope. AES-256-GCM is a parameter, and a
nonce is drawn by the caller of the model.

* `computeAad_inj`: the authenticated data determines contractor, provider,
  token kind and key version.
* `envelope_bound`: an envelope opens in its own context under every keyring
  that keeps its key, and nowhere else.

Line numbers are those of app/services/integration_tokens.py.
-/
namespace HeyKevin.L7.TokenCipher

open HeyKevin.Core L1 L1.Text
open HeyKevin.L1.Base64 (b64encode b64decode)
open HeyKevin.L7.Tokens (Error validateTokenString str? counter? maxKeyVersion)

abbrev Bytes := List Byte

/-! ## Checks -/

/-- mirrors 582-607 -/
def validateCanonicalBase64 (raw : Value) (name : String) (expectedLen : Option ℕ)
    (range : Option (ℕ × ℕ)) : Except Error Bytes := do
  let s ← require (str? raw) (Error.envelope (name ++ " must be an exact base64 str"))
  ensure (s ≠ []) (.envelope (name ++ " cannot be empty"))
  let decoded ← require (b64decode s) (Error.envelope ("Invalid base64 encoding in " ++ name))
  ensure (b64encode decoded = s) (.envelope ("Non-canonical base64 encoding in " ++ name))
  ensure (∀ n ∈ expectedLen, decoded.length = n)
    (.envelope (name ++ " must decode to exactly " ++ toString (expectedLen.getD 0) ++ " bytes"))
  ensure (∀ r ∈ range, r.1 ≤ decoded.length ∧ decoded.length ≤ r.2)
    (.envelope (name ++ " length " ++ toString decoded.length ++ " outside valid range " ++
      toString (range.getD (0, 0)).1 ++ ".." ++ toString (range.getD (0, 0)).2))
  pure decoded

/-- An exact `int` in 1..2147483647. -/
def version? (v : Value) : Option ℤ := (counter? v).filter (1 ≤ ·)

/-- `_CANONICAL_VERSION_REGEX.fullmatch` -/
def isCanonicalVersion : Str → Bool
  | [] => false
  | c :: s => 49 ≤ c.val && c.val < 58 && s.all fun d => 48 ≤ d.val && d.val < 58

/-- `int(s)` of ASCII digits -/
def intOf (s : Str) : ℤ := s.foldl (fun n d => n * 10 + (d.val - 48 : ℤ)) 0

/-! ## Keyrings -/

abbrev Keyring := Entries ℤ Bytes

/-- The loop of `_validate_keyring_dict`. -/
def validateKeys (seen : List Bytes) : Keyring → Except Error Unit
  | [] => .ok ()
  | (k, v) :: keyring => do
    ensure (1 ≤ k ∧ k ≤ maxKeyVersion)
      (.config "Keyring version key must be an exact int in range 1..2147483647")
    ensure (v.length = 32) (.config "Keyring key value must be exact bytes of length 32")
    ensure (v ∉ seen)
      (.config "Duplicate key material across different key versions in keyring")
    validateKeys (v :: seen) keyring

/-- mirrors 746-764 -/
def validateKeyringDict (keyring : Keyring) : Except Error Unit := validateKeys [] keyring

/-- What `json.loads` reads: an object with its pairs in order, whose values count only where
they are strings, or anything else. -/
inductive Document
  | object (pairs : List (Str × Option Str))
  | other

/-- One entry of the loop of `parse_keyring`. -/
def parseKey (keyring : Keyring) (pair : Str × Option Str) : Except Error Keyring := do
  ensure (isCanonicalVersion pair.1 = true) (.config
    "Keyring key must be a canonical positive integer string with no leading zeroes")
  let k := intOf pair.1
  ensure (1 ≤ k ∧ k ≤ maxKeyVersion)
    (.config "Keyring version key must be in range 1..2147483647")
  ensure (keyring.find? k = none) (.config "Duplicate key version in keyring")
  let v ← require (pair.2.filter (· ≠ []))
    (Error.config "Keyring key value must be a non-empty base64 string")
  let key ← (validateCanonicalBase64 (.str v) "Keyring key material" (some 32) none).mapError
    fun e => .config e.message
  pure (keyring.set k key)

/-- mirrors 767-818 -/
def parseKeyring (loads : Str → Option Document) (rawJson : Value) : Except Error Keyring := do
  let raw ← require ((str? rawJson).filter fun s => strip s ≠ [])
    (Error.config "Raw keyring JSON must be a non-empty str")
  let parsed ← require (loads raw) (Error.config "Keyring JSON failed to parse")
  match parsed with
  | .other => .error (.config "Keyring JSON must be a non-empty object")
  | .object pairs => do
    ensure ((pairs.map Prod.fst).Nodup) (.config "Duplicate key in keyring JSON")
    ensure (pairs ≠ []) (.config "Keyring JSON must be a non-empty object")
    let keyring ← pairs.foldlM parseKey []
    validateKeyringDict keyring
    pure keyring

/-- mirrors 821-846 -/
def parseActiveKeyVersion : Value → Except Error (Option ℤ)
  | .none => .ok none
  | .bool _ => .error (.config "Active key version must not be a boolean")
  | .number (.int z) => do
    ensure (1 ≤ z ∧ z ≤ maxKeyVersion)
      (.config "Active key version int must be in range 1..2147483647")
    pure (some z)
  | .str [] => .ok none
  | .str s => do
    ensure (isCanonicalVersion s = true) (.config
      "Active key version string must be canonical positive integer with no leading zeroes")
    ensure (1 ≤ intOf s ∧ intOf s ≤ maxKeyVersion)
      (.config "Active key version string must be in range 1..2147483647")
    pure (some (intOf s))
  | _ => .error (.config "Active key version must be an int or str")

/-- The two settings, and `json.loads`. -/
structure Settings where
  encryptionKeys : Value
  activeKeyVersion : Value
  loads : Str → Option Document

/-- mirrors 901-908 -/
def getConfiguredKeyring (settings : Settings) : Except Error Keyring :=
  match settings.encryptionKeys with
  | .none => .ok []
  | .str s => if strip s = [] then .ok [] else parseKeyring settings.loads (.str s)
  | raw => parseKeyring settings.loads raw

def effectiveKeyring (settings : Settings) (keyring : Option Keyring) : Except Error Keyring :=
  match keyring with
  | none => getConfiguredKeyring settings
  | some keyring => do
    validateKeyringDict keyring
    pure keyring

/-! ## Authenticated data -/

structure Context where
  contractorId : Value
  provider : Value
  tokenKind : Value

def validProviders : List Str := [py "google_calendar", py "jobber"]

def validTokenKinds : List Str := [py "access", py "refresh"]

def oneOf (v : Value) (allowed : List Str) : Option Str := (str? v).filter (· ∈ allowed)

def schemaVersion : ℤ := 1

def algorithm : Str := py "AES-256-GCM"

/-- The object that `compute_aad` dumps. -/
def aadJson (contractorId provider tokenKind : Str) (keyVersion : ℤ) : Json :=
  .obj [("algorithm", .str algorithm), ("contractor_id", .str contractorId),
    ("key_version", .int keyVersion), ("provider", .str provider),
    ("schema_version", .int schemaVersion), ("token_kind", .str tokenKind)]

/-- mirrors 849-891; its last step cannot
raise, as every text in the object encodes. -/
def computeAad (context : Context) (schema keyVersion alg : Value) : Except Error Bytes := do
  let cid ← validateTokenString "contractor_id" context.contractorId
  ensure (∀ bs ∈ encodeUtf8 cid, bs.length ≤ 1500)
    (.envelope "contractor_id exceeds maximum byte length")
  let provider ← require (oneOf context.provider validProviders)
    (Error.envelope "Invalid provider: must be one of ['google_calendar', 'jobber']")
  let kind ← require (oneOf context.tokenKind validTokenKinds)
    (Error.envelope "Invalid token_kind: must be one of ['access', 'refresh']")
  ensure (counter? schema = some schemaVersion)
    (.envelope "schema_version must be exact int 1")
  let version ← require (version? keyVersion)
    (Error.envelope "key_version must be an exact int in range 1..2147483647")
  ensure (alg.isStr algorithm = true) (.envelope "algorithm must be exact str 'AES-256-GCM'")
  require (encodeUtf8 (aadJson cid provider kind version).dumps)
    (.value "surrogates not allowed")

/-! ## The cipher -/

/-- One call of the cipher's `encrypt`. -/
structure Sealing where
  key : Bytes
  nonce : Bytes
  aad : Bytes
  plaintext : Bytes
deriving DecidableEq

/-- `AESGCM(key).encrypt(nonce, plaintext, aad)` and `AESGCM(key).decrypt(nonce, ciphertext, aad)`,
which raises or returns the plaintext. -/
structure Aead where
  encrypt : Sealing → Bytes
  decrypt : (key nonce ciphertext aad : Bytes) → Option Bytes

/-- What AES-256-GCM promises where `made` are the encryptions that were ever made: decryption
succeeds exactly on what they produced, and the tag has 16 bytes. -/
structure Aead.Authentic (A : Aead) (made : List Sealing) : Prop where
  opens : ∀ key nonce ciphertext aad plaintext,
    A.decrypt key nonce ciphertext aad = some plaintext ↔
      ⟨key, nonce, aad, plaintext⟩ ∈ made ∧
        ciphertext = A.encrypt ⟨key, nonce, aad, plaintext⟩
  length : ∀ x, (A.encrypt x).length = x.plaintext.length + 16

structure Aead.Fresh (A : Aead) (made : List Sealing) : Prop where
  nonce : ∀ x ∈ made, ∀ y ∈ made, x.nonce = y.nonce → x = y
  ciphertext : ∀ x ∈ made, ∀ y ∈ made, A.encrypt x = A.encrypt y → x = y

/-! ## Envelopes -/

/-- `secrets.token_bytes(12)` -/
abbrev Nonce := {bs : Bytes // bs.length = 12}

structure EncryptCall where
  token : Value
  context : Context
  keyring : Option Keyring
  activeKeyVersion : Value
  activeVersion : Value
  settings : Settings
  nonce : Nonce

def effectiveActiveVersion (c : EncryptCall) : Except Error (Option ℤ) :=
  let effective := if c.activeKeyVersion matches .none then c.activeVersion else c.activeKeyVersion
  parseActiveKeyVersion (if effective matches .none then c.settings.activeKeyVersion else effective)

def envelope (A : Aead) (version : ℤ) (x : Sealing) : Dict :=
  [("schema_version", .int schemaVersion), ("key_version", .int version),
    ("algorithm", .str algorithm), ("nonce", .str (b64encode x.nonce)),
    ("ciphertext", .str (b64encode (A.encrypt x)))]

/-- The envelope, with what the cipher was called with.
mirrors 933-990 -/
def encryptIntegrationToken (A : Aead) (c : EncryptCall) : Except Error (Dict × Sealing) := do
  let token ← validateTokenString "token" c.token
  let keyring ← effectiveKeyring c.settings c.keyring
  ensure (keyring ≠ []) (.config "Keyring is empty; cannot encrypt token")
  let active ← effectiveActiveVersion c
  let version ← require active
    (Error.config "No active key version configured for integration token encryption")
  let key ← require (keyring.find? version) (Error.config
    ("Active key version " ++ toString version ++ " not found in configured keyring"))
  let aad ← computeAad c.context (.int schemaVersion) (.int version) (.str algorithm)
  let plaintext ← require (encodeUtf8 token) (Error.value "surrogates not allowed")
  let x : Sealing := ⟨key, c.nonce.val, aad, plaintext⟩
  pure (envelope A version x, x)

def envelopeKeys : List String :=
  ["schema_version", "key_version", "algorithm", "nonce", "ciphertext"]

/-- mirrors 993-1089 -/
def decryptIntegrationToken (A : Aead) (settings : Settings) (keyring : Option Keyring)
    (context : Context) : Value → Except Error Str
  | .str [] => .ok []
  | .str s => validateTokenString "legacy_token" (.str s)
  | .dict d => do
    ensure (Dict.keysAre d envelopeKeys = true) (.envelope
      "Envelope keys must exactly match ['algorithm', 'ciphertext', 'key_version', 'nonce', 'schema_version']")
    let sv := Dict.get d "schema_version"
    ensure (counter? sv = some schemaVersion)
      (.envelope "Unsupported envelope schema_version: expected 1")
    let kv ← require (version? (Dict.get d "key_version"))
      (Error.envelope "Envelope key_version must be an exact int in range 1..2147483647")
    let alg := Dict.get d "algorithm"
    ensure (alg.isStr algorithm = true)
      (.envelope "Unsupported envelope algorithm: expected 'AES-256-GCM'")
    let nonce ← validateCanonicalBase64 (Dict.get d "nonce") "Envelope nonce" (some 12) none
    let ciphertext ← validateCanonicalBase64 (Dict.get d "ciphertext") "Envelope ciphertext" none
      (some (17, 16400))
    let keyring ← effectiveKeyring settings keyring
    let key ← require (keyring.find? kv) (Error.decryption
      ("Key version " ++ toString kv ++
        " required by envelope is not present in configured keyring"))
    let aad ← computeAad context sv (.int kv) alg
    let plaintext ← require (A.decrypt key nonce ciphertext aad) (Error.decryption
      "AEAD decryption/authentication failed (corrupted ciphertext, altered AAD, or wrong key)")
    ensure (1 ≤ plaintext.length ∧ plaintext.length ≤ 16384)
      (.decryption "Decrypted plaintext length outside range 1..16384")
    let token ← require (decodeUtf8 plaintext)
      (Error.decryption "Decrypted token is not valid UTF-8")
    validateTokenString "decrypted_token" (.str token)
  | _ => .error (.envelope "Envelope must be an exact dict or plaintext string")

/-! ## What the checks accept -/

theorem b64encode_ne_nil {bs : Bytes} (h : bs ≠ []) : b64encode bs ≠ [] := by
  intro hnil
  exact h (Base64.b64encode_injective hnil)

theorem validateCanonicalBase64_eq_ok {raw : Value} {name : String} {expectedLen : Option ℕ}
    {range : Option (ℕ × ℕ)} {bs : Bytes} :
    validateCanonicalBase64 raw name expectedLen range = .ok bs ↔
      raw = .str (b64encode bs) ∧ bs ≠ [] ∧ (∀ n ∈ expectedLen, bs.length = n) ∧
        ∀ r ∈ range, r.1 ≤ bs.length ∧ bs.length ≤ r.2 := by
  simp only [validateCanonicalBase64, bind_eq_ok, ensure_eq_ok, require_eq_ok, pure_eq_ok,
    exists_unit, Tokens.str?_eq_some, Except.ok.injEq]
  constructor
  · rintro ⟨s, rfl, hs, decoded, -, henc, hlen, hrange, rfl⟩
    refine ⟨by rw [henc], ?_, hlen, hrange⟩
    rintro rfl
    exact hs henc.symm
  · rintro ⟨rfl, hne, hlen, hrange⟩
    exact ⟨_, rfl, b64encode_ne_nil hne, bs, Base64.b64decode_b64encode bs, rfl, hlen, hrange, rfl⟩

theorem oneOf_eq_some {v : Value} {allowed : List Str} {s : Str} :
    oneOf v allowed = some s ↔ v = .str s ∧ s ∈ allowed := by
  simp only [oneOf, Option.filter_eq_some_iff, Tokens.str?_eq_some, decide_eq_true_eq]

theorem version?_eq_some {v : Value} {z : ℤ} :
    version? v = some z ↔ v = .int z ∧ 1 ≤ z ∧ z ≤ maxKeyVersion := by
  simp only [version?, Option.filter_eq_some_iff, Tokens.counter?_eq_some, Tokens.IsCounter,
    decide_eq_true_eq]
  constructor
  · rintro ⟨⟨h, -, hmax⟩, h1⟩
    exact ⟨h, h1, hmax⟩
  · rintro ⟨h, h1, hmax⟩
    exact ⟨⟨h, by omega, hmax⟩, h1⟩

def IsToken (s : Str) : Prop :=
  s ≠ [] ∧ strip s = s ∧ s.any Tokens.isControl = false ∧
    ∃ bs, encodeUtf8 s = some bs ∧ 1 ≤ bs.length ∧ bs.length ≤ 16384

theorem validateTokenString_eq_ok {name : String} {v : Value} {s : Str} :
    validateTokenString name v = .ok s ↔ v = .str s ∧ IsToken s := by
  cases v with
  | str t =>
    simp only [validateTokenString, bind_eq_ok, ensure_eq_ok, require_eq_ok, pure_eq_ok,
      exists_unit, Except.ok.injEq, Value.str.injEq, IsToken]
    constructor
    · rintro ⟨h1, h2, h3, bs, h4, h5, rfl⟩
      exact ⟨rfl, h1, h2, h3, bs, h4, h5⟩
    · rintro ⟨rfl, h1, h2, h3, bs, h4, h5⟩
      exact ⟨h1, h2, h3, bs, h4, h5, rfl⟩
  | _ => simp [validateTokenString]

theorem computeAad_spec {context : Context} {schema keyVersion alg : Value} {aad : Bytes}
    (h : computeAad context schema keyVersion alg = .ok aad) :
    ∃ cid provider kind version, context = ⟨.str cid, .str provider, .str kind⟩ ∧
      (keyVersion = .int version ∧ 1 ≤ version ∧ version ≤ maxKeyVersion) ∧
      encodeUtf8 (aadJson cid provider kind version).dumps = some aad := by
  simp only [computeAad, bind_eq_ok, ensure_eq_ok, require_eq_ok, exists_unit,
    validateTokenString_eq_ok, oneOf_eq_some, version?_eq_some] at h
  obtain ⟨cid, ⟨hcid, -⟩, -, provider, ⟨hprovider, -⟩, kind, ⟨hkind, -⟩, -, version,
    hversion, -, haad⟩ := h
  refine ⟨cid, provider, kind, version, ?_, hversion, haad⟩
  rw [← hcid, ← hprovider, ← hkind]

theorem decimal_comma_inj {a b : ℤ} {s t : Str}
    (h : decimal a ++ (py "," ++ s) = decimal b ++ (py "," ++ t)) : a = b ∧ s = t := by
  have hcomma : isNumeral 44 = false := by decide
  obtain ⟨hab, hrest⟩ := decimal_append_inj (c := 44) (d := 44) hcomma hcomma h
  exact ⟨hab, (List.cons.inj hrest).2⟩

theorem aadJson_inj {cid provider kind cid' provider' kind' : Str} {v v' : ℤ}
    (h : (aadJson cid provider kind v).dumps = (aadJson cid' provider' kind' v').dumps) :
    cid = cid' ∧ provider = provider' ∧ kind = kind' ∧ v = v' := by
  simp only [aadJson, Json.dumps, Json.entries, List.append_assoc] at h
  iterate 7 replace h := List.append_cancel_left h
  obtain ⟨hcid, h⟩ := Json.quoted_append_inj h
  iterate 3 replace h := List.append_cancel_left h
  obtain ⟨hv, h⟩ := decimal_comma_inj h
  iterate 2 replace h := List.append_cancel_left h
  obtain ⟨hprovider, h⟩ := Json.quoted_append_inj h
  iterate 7 replace h := List.append_cancel_left h
  exact ⟨hcid, hprovider, (Json.quoted_append_inj h).1, hv⟩

theorem computeAad_inj {context context' : Context} {schema schema' kv kv' alg alg' : Value}
    {aad : Bytes} (h : computeAad context schema kv alg = .ok aad)
    (h' : computeAad context' schema' kv' alg' = .ok aad) : context = context' ∧ kv = kv' := by
  obtain ⟨cid, provider, kind, version, rfl, ⟨rfl, -⟩, he⟩ := computeAad_spec h
  obtain ⟨cid', provider', kind', version', rfl, ⟨rfl, -⟩, he'⟩ := computeAad_spec h'
  obtain ⟨rfl, rfl, rfl, rfl⟩ := aadJson_inj (encodeUtf8_inj he he')
  exact ⟨rfl, rfl⟩

/-! ## Opening an envelope -/

structure Opens (A : Aead) (settings : Settings) (keyring : Option Keyring) (context : Context)
    (d : Dict) (token : Str) (kv : ℤ) (key nonce ciphertext aad plaintext : Bytes) : Prop where
  hkeys : Dict.keysAre d envelopeKeys = true
  hschema : counter? (d.get "schema_version") = some schemaVersion
  hversion : version? (d.get "key_version") = some kv
  halgorithm : (d.get "algorithm").isStr algorithm = true
  hnonce : validateCanonicalBase64 (d.get "nonce") "Envelope nonce" (some 12) none = .ok nonce
  hciphertext : validateCanonicalBase64 (d.get "ciphertext") "Envelope ciphertext" none
    (some (17, 16400)) = .ok ciphertext
  hkey : ∃ kr, effectiveKeyring settings keyring = .ok kr ∧ kr.find? kv = some key
  haad : computeAad context (d.get "schema_version") (.int kv) (d.get "algorithm") = .ok aad
  hdecrypt : A.decrypt key nonce ciphertext aad = some plaintext
  hbounds : 1 ≤ plaintext.length ∧ plaintext.length ≤ 16384
  hdecode : decodeUtf8 plaintext = some token
  htoken : IsToken token

theorem decrypt_eq_ok {A : Aead} {settings : Settings} {keyring : Option Keyring}
    {context : Context} {d : Dict} {token : Str} :
    decryptIntegrationToken A settings keyring context (.dict d) = .ok token ↔
      ∃ kv key nonce ciphertext aad plaintext, Opens A settings keyring context d token kv key
        nonce ciphertext aad plaintext := by
  simp only [decryptIntegrationToken, bind_eq_ok, ensure_eq_ok, require_eq_ok, exists_unit,
    validateTokenString_eq_ok, Value.str.injEq]
  constructor
  · rintro ⟨hkeys, hschema, kv, hkv, halg, nonce, hnonce, ciphertext, hct, kr, hkr, key, hkey, aad,
      haad, plaintext, hdec, hbounds, t, ht, rfl, htoken⟩
    exact ⟨kv, key, nonce, ciphertext, aad, plaintext, hkeys, hschema, hkv, halg, hnonce, hct,
      ⟨kr, hkr, hkey⟩, haad, hdec, hbounds, ht, htoken⟩
  · rintro ⟨kv, key, nonce, ciphertext, aad, plaintext, h⟩
    obtain ⟨kr, hkr, hkey⟩ := h.hkey
    exact ⟨h.hkeys, h.hschema, kv, h.hversion, h.halgorithm, nonce, h.hnonce, ciphertext, h.hciphertext,
      kr, hkr, key, hkey, aad, h.haad, plaintext, h.hdecrypt, h.hbounds, token, h.hdecode, rfl, h.htoken⟩

structure Sealed (A : Aead) (c : EncryptCall) (d : Dict) (x : Sealing) (token : Str) (version : ℤ) :
    Prop where
  htoken : c.token = .str token
  hvalid : IsToken token
  hplaintext : encodeUtf8 token = some x.plaintext
  hversion : 1 ≤ version ∧ version ≤ maxKeyVersion
  hnonce : x.nonce = c.nonce.val
  haad : computeAad c.context (.int schemaVersion) (.int version) (.str algorithm) = .ok x.aad
  henvelope : d = envelope A version x

theorem encrypt_spec {A : Aead} {c : EncryptCall} {d : Dict} {x : Sealing}
    (h : encryptIntegrationToken A c = .ok (d, x)) : ∃ token version, Sealed A c d x token version := by
  simp only [encryptIntegrationToken, bind_eq_ok, ensure_eq_ok, require_eq_ok, exists_unit,
    validateTokenString_eq_ok, pure_eq_ok, Except.ok.injEq, Prod.mk.injEq] at h
  obtain ⟨token, ⟨htoken, hvalid⟩, kr, -, -, active, -, version, -, key, -, aad, haad, plaintext,
    hplain, rfl, rfl⟩ := h
  obtain ⟨-, -, -, v, -, ⟨hv, hrange⟩, -⟩ := computeAad_spec haad
  cases hv
  exact ⟨token, version, htoken, hvalid, hplain, hrange, rfl, haad, rfl⟩

/-! ## The envelope's fields -/

section Fields

variable (A : Aead) (version : ℤ) (x : Sealing)

@[simp] theorem envelope_keys : (envelope A version x).keysAre envelopeKeys = true := by
  simp [envelope, envelopeKeys, Dict.keysAre, Entries.keys]
@[simp] theorem envelope_schema : (envelope A version x).get "schema_version" =
    .int schemaVersion := by simp [envelope]
@[simp] theorem envelope_version : (envelope A version x).get "key_version" = .int version := by
  simp [envelope]
@[simp] theorem envelope_algorithm : (envelope A version x).get "algorithm" = .str algorithm := by
  simp [envelope]
@[simp] theorem envelope_nonce : (envelope A version x).get "nonce" =
    .str (b64encode x.nonce) := by simp [envelope]
@[simp] theorem envelope_ciphertext : (envelope A version x).get "ciphertext" =
    .str (b64encode (A.encrypt x)) := by simp [envelope]

end Fields

section Bound

variable {A : Aead} {made : List Sealing} {c : EncryptCall} {d : Dict} {x : Sealing} {token : Str}
  {version : ℤ}

theorem Sealed.opens (hA : A.Authentic made) (hx : x ∈ made)
    (h : Sealed A c d x token version) {settings : Settings} {keyring : Option Keyring}
    {kr : Keyring} (hkr : effectiveKeyring settings keyring = .ok kr)
    (hkey : kr.find? version = some x.key) :
    decryptIntegrationToken A settings keyring c.context (.dict d) = .ok token := by
  obtain ⟨bs, hbs, hpos, hmax⟩ := h.hvalid.2.2.2
  rw [h.hplaintext] at hbs
  cases hbs
  have hlen := hA.length x
  have hnonce : x.nonce.length = 12 := by
    rw [h.hnonce]
    exact c.nonce.property
  have hopens : A.decrypt x.key x.nonce (A.encrypt x) x.aad = some x.plaintext :=
    (hA.opens ..).mpr ⟨hx, rfl⟩
  refine decrypt_eq_ok.mpr ⟨version, x.key, x.nonce, A.encrypt x, x.aad, x.plaintext, ?_⟩
  rw [h.henvelope]
  exact {
    hkeys := envelope_keys A version x
    hschema := by rw [envelope_schema]; rfl
    hversion := by rw [envelope_version]; exact version?_eq_some.mpr ⟨rfl, h.hversion⟩
    halgorithm := by rw [envelope_algorithm]; exact (Value.isStr_iff _ _).mpr rfl
    hnonce := by
      rw [envelope_nonce, validateCanonicalBase64_eq_ok]
      refine ⟨rfl, ?_, by simpa using hnonce, by simp⟩
      rintro hnil
      rw [hnil] at hnonce
      cases hnonce
    hciphertext := by
      rw [envelope_ciphertext, validateCanonicalBase64_eq_ok]
      refine ⟨rfl, ?_, by simp, ?_⟩
      · rintro hnil
        rw [hnil] at hlen
        simp at hlen
      · simp only [Option.mem_some, forall_eq', hlen]
        omega
    hkey := ⟨kr, hkr, hkey⟩
    haad := by rw [envelope_schema, envelope_algorithm]; exact h.haad
    hdecrypt := hopens
    hbounds := ⟨hpos, hmax⟩
    hdecode := decodeUtf8_encodeUtf8 h.hplaintext
    htoken := h.hvalid }

theorem Sealed.unique (hA : A.Authentic made) (hfresh : A.Fresh made) (hx : x ∈ made)
    (h : Sealed A c d x token version) {settings : Settings} {keyring : Option Keyring}
    {context : Context} {d' : Dict} {token' : Str}
    (hshare : d'.get "nonce" = d.get "nonce" ∨ d'.get "ciphertext" = d.get "ciphertext")
    (hopen : decryptIntegrationToken A settings keyring context (.dict d') = .ok token') :
    context = c.context ∧ ∀ k ∈ ["key_version", "nonce", "ciphertext"], d'.get k = d.get k := by
  obtain ⟨kv, key, nonce, ciphertext, aad, plaintext, ho⟩ := decrypt_eq_ok.mp hopen
  obtain ⟨hmade, hct⟩ := (hA.opens ..).mp ho.hdecrypt
  have hn := (validateCanonicalBase64_eq_ok.mp ho.hnonce).1
  have hc := (validateCanonicalBase64_eq_ok.mp ho.hciphertext).1
  have hv := (version?_eq_some.mp ho.hversion).1
  rw [h.henvelope, envelope_nonce, envelope_ciphertext, hn, hc] at hshare
  -- the nonce alone and the ciphertext alone determine what the cipher was called with
  have heq : (⟨key, nonce, aad, plaintext⟩ : Sealing) = x := by
    rcases hshare with hshare | hshare <;> rw [Value.str.injEq] at hshare
    · exact hfresh.nonce _ hmade x hx (Base64.b64encode_injective hshare)
    · have hsame := Base64.b64encode_injective hshare
      rw [hct] at hsame
      exact hfresh.ciphertext _ hmade x hx hsame
  subst heq
  obtain ⟨hcontext, hversion⟩ := computeAad_inj ho.haad h.haad
  refine ⟨hcontext, ?_⟩
  simp only [List.forall_mem_cons, List.not_mem_nil, false_imp_iff, implies_true, and_true]
  rw [h.henvelope, envelope_version, envelope_nonce, envelope_ciphertext, hn, hc, hv, hversion, hct]
  exact ⟨rfl, rfl, rfl⟩

end Bound

/-- **Bound to its context.** An envelope made by `encrypt_integration_token` opens in its own
context under every keyring that maps the recorded version to the same key, and gives the token
back; in any other context, or with its key version, nonce or ciphertext replaced by a different
value, it opens under no keyring at all. -/
theorem envelope_bound {A : Aead} {made : List Sealing} (hA : A.Authentic made)
    (hfresh : A.Fresh made) {c : EncryptCall} {d : Dict} {x : Sealing} (hx : x ∈ made)
    (h : encryptIntegrationToken A c = .ok (d, x)) :
    (∃ token version, c.token = .str token ∧ d.get "key_version" = .int version ∧
      ∀ settings keyring kr, effectiveKeyring settings keyring = .ok kr →
        kr.find? version = some x.key →
        decryptIntegrationToken A settings keyring c.context (.dict d) = .ok token) ∧
    (∀ context ≠ c.context, ∀ settings keyring token,
      decryptIntegrationToken A settings keyring context (.dict d) ≠ .ok token) ∧
    ∀ k ∈ ["key_version", "nonce", "ciphertext"], ∀ v ≠ d.get k, ∀ settings keyring token,
      decryptIntegrationToken A settings keyring c.context (.dict (d.set k v)) ≠ .ok token := by
  obtain ⟨token, version, hs⟩ := encrypt_spec h
  refine ⟨⟨token, version, hs.htoken, ?_, fun settings keyring kr hkr hkey =>
    hs.opens hA hx hkr hkey⟩, ?_, ?_⟩
  · rw [hs.henvelope, envelope_version]
  · intro context hne settings keyring token' hopen
    exact hne (hs.unique hA hfresh hx (.inl rfl) hopen).1
  · intro k hk v hv settings keyring token' hopen
    have hshare : (Dict.get (Entries.set d k v) "nonce") = d.get "nonce" ∨
        (Dict.get (Entries.set d k v) "ciphertext") = d.get "ciphertext" := by
      rw [Dict.get_set, Dict.get_set]
      by_cases hnonce : k = "nonce"
      · subst hnonce
        exact .inr (if_neg (by decide))
      · exact .inl (if_neg hnonce)
    have hsame := (hs.unique hA hfresh hx hshare hopen).2 k hk
    rw [Dict.get_set, if_pos rfl] at hsame
    exact hv hsame

def exampleAad : Bytes :=
  (encodeUtf8 (aadJson (py "c") (py "jobber") (py "access") 1).dumps).getD []

def exampleSealing : Sealing where
  key := List.replicate 32 0
  nonce := List.replicate 12 0
  aad := exampleAad
  plaintext := [116]

def exampleCiphertext : Bytes :=
  [186, 159, 114, 127, 216, 53, 230, 207, 174, 198, 148, 205, 2, 190, 51, 223, 144]

def exampleAead : Aead where
  encrypt x := if x = exampleSealing then exampleCiphertext else x.plaintext ++ List.replicate 16 0
  decrypt key nonce ciphertext aad :=
    if ⟨key, nonce, aad, [116]⟩ = exampleSealing ∧ ciphertext = exampleCiphertext then some [116]
    else none

theorem exampleAead_authentic : exampleAead.Authentic [exampleSealing] where
  opens key nonce ciphertext aad plaintext := by
    simp only [exampleAead, Option.ite_none_right_eq_some, Option.some.injEq, List.mem_singleton]
    constructor
    · rintro ⟨⟨hx, hct⟩, rfl⟩
      exact ⟨hx, by rw [if_pos hx, hct]⟩
    · rintro ⟨hx, hct⟩
      rw [if_pos hx] at hct
      have hplain : plaintext = [116] := congrArg Sealing.plaintext hx
      subst hplain
      exact ⟨⟨hx, hct⟩, rfl⟩
  length x := by
    simp only [exampleAead]
    split
    · rename_i hx
      subst hx
      rfl
    · simp

theorem exampleAead_fresh : exampleAead.Fresh [exampleSealing] where
  nonce _ hx _ hy _ := (List.mem_singleton.mp hx).trans (List.mem_singleton.mp hy).symm
  ciphertext _ hx _ hy _ := (List.mem_singleton.mp hx).trans (List.mem_singleton.mp hy).symm

def exampleCall : EncryptCall where
  token := .text "t"
  context := ⟨.text "c", .text "jobber", .text "access"⟩
  keyring := some [(1, List.replicate 32 0)]
  activeKeyVersion := .int 1
  activeVersion := .none
  settings := ⟨.none, .none, fun _ => none⟩
  nonce := ⟨List.replicate 12 0, rfl⟩

theorem exampleCall_ok : encryptIntegrationToken exampleAead exampleCall =
    .ok (envelope exampleAead 1 exampleSealing, exampleSealing) := by
  have htoken : validateTokenString "token" exampleCall.token = .ok (py "t") := by decide
  have hkeyring : effectiveKeyring exampleCall.settings exampleCall.keyring =
      .ok [(1, List.replicate 32 0)] := by
    decide
  have hversion : effectiveActiveVersion exampleCall = .ok (some 1) := by decide
  have haad : computeAad exampleCall.context (.int schemaVersion) (.int 1) (.str algorithm) =
      .ok exampleAad := by
    decide +kernel
  have hplain : encodeUtf8 (py "t") = some [116] := by decide +kernel
  simp only [encryptIntegrationToken, htoken, hkeyring, hversion, ok_bind, require, ensure, haad,
    hplain, Entries.find?]
  rfl

/-- It opens after a rotation, and not under the other token kind. -/
theorem envelope_bound_exampleCall :
    decryptIntegrationToken exampleAead ⟨.none, .none, fun _ => none⟩
      (some [(2, List.replicate 32 1), (1, List.replicate 32 0)]) exampleCall.context
      (.dict (envelope exampleAead 1 exampleSealing)) = .ok (py "t") ∧
    ∀ settings keyring token, decryptIntegrationToken exampleAead settings keyring
      ⟨.text "c", .text "jobber", .text "refresh"⟩
      (.dict (envelope exampleAead 1 exampleSealing)) ≠ .ok token := by
  have hbound := envelope_bound exampleAead_authentic exampleAead_fresh (List.mem_singleton.mpr rfl)
    exampleCall_ok
  obtain ⟨⟨token, version, htoken, hversion, hopen⟩, hcontext, -⟩ := hbound
  rw [envelope_version] at hversion
  cases hversion
  cases htoken
  refine ⟨hopen _ _ [(2, List.replicate 32 1), (1, List.replicate 32 0)] (by decide)
    (by decide), hcontext _ ?_⟩
  intro h
  have hkind := congrArg Context.tokenKind h
  simp [exampleCall, Value.text] at hkind

end HeyKevin.L7.TokenCipher
