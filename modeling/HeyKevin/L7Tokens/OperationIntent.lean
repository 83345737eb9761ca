import HeyKevin.L7Tokens.Record
import HeyKevin.L1Encoding.Sha256
/-!
# The parser of operation intents

mirrors `_parse_provider_reauthorization_attempt` and
`_parse_provider_operation_intent` for google_calendar
(app/services/integration_tokens.py:230-504).

A record that the parser rejects is malformed; every operation refuses it. The
others hold nothing, one claim (a canonical intent, or a bare refresh claim of
an older release), or the quarantine pair with at most one reauthorization
attempt.

* `parseClaim_eq_ok`: the eight fields that a canonical intent and an attempt
  share hold exactly the claim that is read off them.
* `parse_eq_ok`: each status as a statement about the fields.

Line numbers are those of app/services/integration_tokens.py.
-/
namespace HeyKevin.L7.Tokens

open HeyKevin.Core Binary64 L1 L1.Text L1.Datetime

/-- `VALID_INTENT_KINDS` -/
inductive Kind
  | business | refresh | connect | reconnect
deriving DecidableEq

/-- `VALID_INTENT_PHASES` -/
inductive Phase
  | reserved | providerRequestStarted | providerOutcomeUncertain
deriving DecidableEq

def Kind.text : Kind → String
  | business => "business"
  | refresh => "refresh"
  | connect => "connect"
  | reconnect => "reconnect"

def Phase.text : Phase → String
  | reserved => "reserved"
  | providerRequestStarted => "provider_request_started"
  | providerOutcomeUncertain => "provider_outcome_uncertain"

def Kind.value (k : Kind) : Value := .text k.text
def Phase.value (p : Phase) : Value := .text p.text

theorem Kind.text_injective : Function.Injective Kind.text := by
  intro a b h
  cases a <;> cases b <;> first | rfl | exact absurd h (by decide)

theorem Phase.text_injective : Function.Injective Phase.text := by
  intro a b h
  cases a <;> cases b <;> first | rfl | exact absurd h (by decide)

def spelled? {α : Type} (text : α → String) (xs : List α) (v : Value) : Option α :=
  xs.find? fun a => v.isStr (py (text a))

theorem spelled?_eq_some {α : Type} {text : α → String} (hinj : Function.Injective text)
    {xs : List α} {v : Value} {a : α} :
    spelled? text xs v = some a ↔ v = .text (text a) ∧ a ∈ xs := by
  unfold spelled?
  induction xs with
  | nil => simp
  | cons b xs ih =>
    rw [List.find?_cons]
    by_cases hb : v = .text (text b)
    · subst hb
      simp only [Value.isStr_text, decide_true, Option.some.injEq, List.mem_cons]
      constructor
      · rintro rfl
        exact ⟨rfl, .inl rfl⟩
      · intro h
        exact hinj (by simpa [Value.text] using h.1)
    · have hf : v.isStr (py (text b)) = false := by
        rw [Bool.eq_false_iff]
        exact fun h => hb ((Value.isStr_iff _ _).mp h)
      simp only [hf, ih, List.mem_cons]
      constructor
      · exact fun h => ⟨h.1, .inr h.2⟩
      · rintro ⟨hv, rfl | ha⟩
        · exact absurd hv hb
        · exact ⟨hv, ha⟩

/-- `_CANONICAL_STATE_REGEX` of integration_tokens.py: `^[0-9a-zA-Z_-]{1,128}\Z` -/
def isIdChar (c : CodePoint) : Bool :=
  (48 ≤ c.val && c.val < 58) || (65 ≤ c.val && c.val < 91) || (97 ≤ c.val && c.val < 123) ||
    c.val == 95 || c.val == 45

def IsStoredId (s : Str) : Prop := 1 ≤ s.length ∧ s.length ≤ 128 ∧ s.all isIdChar = true

instance (s : Str) : Decidable (IsStoredId s) := inferInstanceAs (Decidable (_ ∧ _))

/-- `re.fullmatch(r"^[0-9a-f]{64}$", s)` -/
def IsDigest (s : Str) : Prop := Python.isDigest s = true

instance (s : Str) : Decidable (IsDigest s) := inferInstanceAs (Decidable (_ = _))

structure Claim where
  id : Str
  kind : Kind
  phase : Phase
  expiresAt : Double
  acquiredAt : Double
  generation : ℤ
  lifecycleEpoch : ℤ
  credentialsFingerprint : Option Str
  boundOperationId : Option Str
  isLegacy : Bool
deriving DecidableEq

inductive IntentStatus
  | absent
  | valid (c : Claim)
  | quarantined
  | quarantinedReauthorizing (c : Claim)
deriving DecidableEq

structure Labels where
  stem : String
  expiresNote : String
  acquiredNote : String

def intentLabels : Labels :=
  ⟨"operation_intent", ": must be finite positive float",
    ": must be finite positive float <= expires_at"⟩

def attemptLabels : Labels := ⟨"reauthorization_attempt", "", ""⟩

def parseClaim (key : ClaimKey → Field) (l : Labels) (kinds : List Kind) (phases : List Phase)
    (r : Record) : Except String Claim := do
  let id ← require (str? (r.get (key .id))) ("Invalid " ++ l.stem ++ "_id")
  ensure (IsStoredId id) ("Invalid " ++ l.stem ++ "_id")
  let kind ← require (spelled? Kind.text kinds (r.get (key .kind))) ("Invalid " ++ l.stem ++ "_kind")
  let phase ← require (spelled? Phase.text phases (r.get (key .phase)))
    ("Invalid " ++ l.stem ++ "_phase")
  let expiresAt ← require (positiveFloat? (r.get (key .expiresAt)))
    ("Invalid " ++ l.stem ++ "_expires_at" ++ l.expiresNote)
  let acquiredAt ← require (positiveFloat? (r.get (key .acquiredAt)))
    ("Invalid " ++ l.stem ++ "_acquired_at" ++ l.acquiredNote)
  ensure (acquiredAt.val ≤ expiresAt.val) ("Invalid " ++ l.stem ++ "_acquired_at" ++ l.acquiredNote)
  let generation ← require (counter? (r.get (key .generation)))
    ("Invalid " ++ l.stem ++ "_generation")
  let lifecycleEpoch ← require (counter? (r.get (key .lifecycleEpoch)))
    ("Invalid " ++ l.stem ++ "_lifecycle_epoch")
  let fingerprint ← require (str? (r.get (key .credentialsFingerprint)))
    ("Invalid " ++ l.stem ++ "_credentials_fingerprint")
  ensure (IsDigest fingerprint) ("Invalid " ++ l.stem ++ "_credentials_fingerprint")
  pure ⟨id, kind, phase, expiresAt, acquiredAt, generation, lifecycleEpoch, some fingerprint,
    none, false⟩

/-- mirrors 230-286
(`_parse_provider_reauthorization_attempt`) on a record with attempt keys -/
def parseProviderReauthorizationAttempt (r : Record) : Except String Claim := do
  ensure (∀ k, (r (.attempt k)).isSome) "Incomplete reauthorization attempt schema"
  parseClaim .attempt attemptLabels [.reconnect] [.reserved, .providerRequestStarted] r

/-- mirrors 311-343, the quarantine keys -/
def parseQuarantine (r : Record) : Except String IntentStatus := do
  let outcome ← require (r .refreshOutcomeUnknown)
    "Partial quarantine fields: both outcome_unknown and reauthorization_required must be present"
  let reauth ← require (r .reauthorizationRequired)
    "Partial quarantine fields: both outcome_unknown and reauthorization_required must be present"
  let outcome ← require (bool? outcome) "Quarantine fields must be exact built-in booleans"
  let reauth ← require (bool? reauth) "Quarantine fields must be exact built-in booleans"
  ensure (outcome = true ∧ reauth = true) "Quarantine boolean fields must both be exact True"
  ensure (¬ r.HasLegacy) "Quarantine fields cannot coexist with legacy claim fields"
  ensure (¬ r.HasIntent) "Ordinary intent kinds cannot coexist with quarantine"
  if r.HasAttempt then
    match parseProviderReauthorizationAttempt r with
    | .ok c => .ok (.quarantinedReauthorizing c)
    | .error _ => .error "Malformed reauthorization attempt under quarantine"
  else .ok .quarantined

def parseBoundOperationId (r : Record) (kind : Kind) : Except String (Option Str) :=
  match r .boundOperationId with
  | none => .ok none
  | some v => do
    ensure (kind = .business)
      "Bound operation ID is permitted ONLY for google_calendar business intents"
    let b ← require (str? v)
      "Invalid operation_intent_bound_operation_id: must be 64 lowercase hex characters"
    ensure (IsDigest b)
      "Invalid operation_intent_bound_operation_id: must be 64 lowercase hex characters"
    pure (some b)

def checkAliases (r : Record) (c : Claim) : Except String Unit :=
  if r.HasLegacy then do
    ensure (c.boundOperationId = none ∧ c.phase ≠ .providerOutcomeUncertain)
      "Legacy refresh claim fields cannot coexist with bound or uncertain intent"
    ensure ((r (.legacy .refreshClaimId)).isSome ∧ (r (.legacy .refreshClaimPhase)).isSome ∧
        (r (.legacy .refreshClaimExpiresAt)).isSome ∧ (r (.legacy .refreshClaimGeneration)).isSome)
      "Incomplete paired legacy refresh claim fields"
    ensure (c.kind = .refresh) "Legacy refresh claim fields present on non-refresh intent"
    ensure ((r.get (.legacy .refreshClaimId)).isStr c.id = true)
      "Legacy refresh claim id mismatch or non-str"
    ensure ((r.get (.legacy .refreshClaimPhase)).isStr (py c.phase.text) = true)
      "Legacy refresh claim phase mismatch or non-str"
    ensure (positiveFloat? (r.get (.legacy .refreshClaimExpiresAt)) = some c.expiresAt)
      "Legacy refresh claim expires_at mismatch or non-float"
    ensure (counter? (r.get (.legacy .refreshClaimGeneration)) = some c.generation)
      "Legacy refresh claim generation mismatch or non-int"
  else .ok ()

/-- mirrors 369-461, the canonical schema.
Disallowed intent keys do not arise: the nine keys are all allowed. -/
def parseCanonicalIntent (r : Record) : Except String IntentStatus := do
  ensure (∀ k, (r (.intent k)).isSome) "Missing required canonical intent fields"
  let c ← parseClaim .intent intentLabels [.business, .refresh, .connect, .reconnect]
    [.reserved, .providerRequestStarted, .providerOutcomeUncertain] r
  let bound ← parseBoundOperationId r c.kind
  ensure (c.phase = .providerOutcomeUncertain → c.kind = .business ∧ bound ≠ none)
    ("provider_outcome_uncertain phase is valid ONLY for google_calendar business intents " ++
      "with a bound operation id")
  let c := { c with boundOperationId := bound }
  checkAliases r c
  pure (.valid c)

/-- mirrors 463-502, a bare refresh claim -/
def parseLegacyClaim (r : Record) : Except String IntentStatus := do
  ensure (((r (.legacy .refreshClaimId)).isSome ∧ (r (.legacy .refreshClaimPhase)).isSome ∧
      (r (.legacy .refreshClaimExpiresAt)).isSome ∧ (r (.legacy .refreshClaimGeneration)).isSome) ∧
      ¬ r.HasIntent)
    "Incomplete or mixed legacy refresh claim schema"
  let id ← require (str? (r.get (.legacy .refreshClaimId))) "Invalid legacy refresh_claim_id"
  ensure (IsStoredId id) "Invalid legacy refresh_claim_id"
  let phase ← require (spelled? Phase.text [.reserved, .providerRequestStarted]
    (r.get (.legacy .refreshClaimPhase))) "Invalid legacy refresh_claim_phase"
  let expiresAt ← require (positiveFloat? (r.get (.legacy .refreshClaimExpiresAt)))
    "Invalid legacy refresh_claim_expires_at"
  let generation ← require (counter? (r.get (.legacy .refreshClaimGeneration)))
    "Invalid legacy refresh_claim_generation"
  pure (.valid ⟨id, .refresh, phase, expiresAt, .ofRat (expiresAt.val - 60), generation, 0, none,
    none, true⟩)

def LegacyKey.isClaim : LegacyKey → Bool
  | .refreshClaimId | .refreshClaimPhase | .refreshClaimExpiresAt | .refreshClaimGeneration => true
  | _ => false

/-- mirrors 289-504
(`_parse_provider_operation_intent`); an error is the malformed status -/
def parseProviderOperationIntent (r : Record) : Except String IntentStatus :=
  if (r .refreshOutcomeUnknown).isSome ∨ (r .reauthorizationRequired).isSome then parseQuarantine r
  else if r.HasAttempt then
    .error "Reauthorization attempt fields present without quarantine"
  else if ¬ r.HasIntent ∧ ¬ r.HasLegacy then .ok .absent
  else do
    ensure (∀ k : LegacyKey, (r (.legacy k)).isSome → k.isClaim = true)
      "Disallowed legacy intent keys present"
    if (r (.intent .id)).isSome then parseCanonicalIntent r
    else if r.HasLegacy then parseLegacyClaim r
    else .error "Partial intent fields present"

/-! ## What each status says about the fields -/

/-- The eight fields under `key` hold `c`. -/
structure ClaimAt (key : ClaimKey → Field) (kinds : List Kind) (phases : List Phase)
    (r : Record) (c : Claim) : Prop where
  id : r (key .id) = some (.str c.id)
  isStoredId : IsStoredId c.id
  kind : r (key .kind) = some (.text c.kind.text)
  kind_mem : c.kind ∈ kinds
  phase : r (key .phase) = some (.text c.phase.text)
  phase_mem : c.phase ∈ phases
  expiresAt : r (key .expiresAt) = some (.number (.float c.expiresAt))
  acquiredAt : r (key .acquiredAt) = some (.number (.float c.acquiredAt))
  acquiredAt_pos : 0 < c.acquiredAt.val
  acquiredAt_le : c.acquiredAt.val ≤ c.expiresAt.val
  generation : r (key .generation) = some (.int c.generation)
  isCounter_generation : IsCounter c.generation
  lifecycleEpoch : r (key .lifecycleEpoch) = some (.int c.lifecycleEpoch)
  isCounter_lifecycleEpoch : IsCounter c.lifecycleEpoch
  fingerprint : ∃ fp, c.credentialsFingerprint = some fp ∧ IsDigest fp ∧
    r (key .credentialsFingerprint) = some (.str fp)

theorem ClaimAt.isSome {key : ClaimKey → Field} {kinds : List Kind} {phases : List Phase}
    {r : Record} {c : Claim} (h : ClaimAt key kinds phases r c) (k : ClaimKey) :
    (r (key k)).isSome := by
  obtain ⟨fp, -, -, hfp⟩ := h.fingerprint
  cases k
  · rw [h.id]; rfl
  · rw [h.kind]; rfl
  · rw [h.phase]; rfl
  · rw [h.expiresAt]; rfl
  · rw [h.acquiredAt]; rfl
  · rw [h.generation]; rfl
  · rw [h.lifecycleEpoch]; rfl
  · rw [hfp]; rfl

theorem parseClaim_eq_ok {key : ClaimKey → Field} {l : Labels} {kinds : List Kind}
    {phases : List Phase} {r : Record} {c : Claim} :
    parseClaim key l kinds phases r = .ok c ↔
      ClaimAt key kinds phases r c ∧ c.boundOperationId = none ∧ c.isLegacy = false := by
  simp only [parseClaim, bind_eq_ok, require_eq_ok, ensure_eq_ok, exists_unit, pure_eq_ok,
    Except.ok.injEq, str?_eq_some, spelled?_eq_some Kind.text_injective,
    spelled?_eq_some Phase.text_injective, positiveFloat?_eq_some, counter?_eq_some,
    Record.get_eq_str, Record.get_eq_text, Record.get_eq_number, Record.get_eq_int]
  constructor
  · rintro ⟨id, hid, hidOk, kind, ⟨hk, hkm⟩, phase, ⟨hp, hpm⟩, exp, ⟨he, hep⟩, acq, ⟨ha, hap⟩,
      hle, gen, ⟨hg, hgc⟩, epoch, ⟨hl, hlc⟩, fp, hfp, hfpOk, rfl⟩
    exact ⟨⟨hid, hidOk, hk, hkm, hp, hpm, he, ha, hap, hle, hg, hgc, hl, hlc, fp, rfl, hfpOk, hfp⟩,
      rfl, rfl⟩
  · rintro ⟨h, hb, hl⟩
    obtain ⟨fp, hc, hfpOk, hfp⟩ := h.fingerprint
    refine ⟨c.id, h.id, h.isStoredId, c.kind, ⟨h.kind, h.kind_mem⟩, c.phase,
      ⟨h.phase, h.phase_mem⟩, c.expiresAt,
      ⟨h.expiresAt, h.acquiredAt_pos.trans_le h.acquiredAt_le⟩, c.acquiredAt,
      ⟨h.acquiredAt, h.acquiredAt_pos⟩, h.acquiredAt_le, c.generation,
      ⟨h.generation, h.isCounter_generation⟩, c.lifecycleEpoch,
      ⟨h.lifecycleEpoch, h.isCounter_lifecycleEpoch⟩, fp, hfp, hfpOk, ?_⟩
    rw [← hc, ← hb, ← hl]

inductive BoundAt (r : Record) (kind : Kind) : Option Str → Prop
  | absent (h : r .boundOperationId = none) : BoundAt r kind none
  | present (b : Str) (h : r .boundOperationId = some (.str b)) (digest : IsDigest b)
      (business : kind = .business) : BoundAt r kind (some b)

theorem BoundAt.stored {r : Record} {kind : Kind} {b : Option Str} (h : BoundAt r kind b) :
    (r .boundOperationId = none ∧ b = none) ∨
      ∃ s, r .boundOperationId = some (.str s) ∧ IsDigest s ∧ kind = .business ∧ b = some s := by
  cases h with
  | absent h => exact .inl ⟨h, rfl⟩
  | present s h hd hk => exact .inr ⟨s, h, hd, hk, rfl⟩

theorem parseBoundOperationId_eq_ok {r : Record} {kind : Kind} {b : Option Str} :
    parseBoundOperationId r kind = .ok b ↔ BoundAt r kind b := by
  unfold parseBoundOperationId
  constructor
  · intro h
    split at h
    · rename_i hn
      cases h
      exact .absent hn
    · rename_i v hv
      simp only [bind_eq_ok, ensure_eq_ok, exists_unit, require_eq_ok, str?_eq_some, pure_eq_ok,
        Except.ok.injEq] at h
      obtain ⟨hk, s, rfl, hd, rfl⟩ := h
      exact .present s hv hd hk
  · intro h
    cases h with
    | absent h => rw [h]
    | present b h hd hk =>
      rw [h]
      simp [hk, hd]

/-- The paired refresh claim fields repeat the refresh intent `c`. -/
structure Aliases (r : Record) (c : Claim) : Prop where
  unbound : c.boundOperationId = none
  certain : c.phase ≠ .providerOutcomeUncertain
  kind : c.kind = .refresh
  id : r (.legacy .refreshClaimId) = some (.str c.id)
  phase : r (.legacy .refreshClaimPhase) = some (.text c.phase.text)
  expiresAt : r (.legacy .refreshClaimExpiresAt) = some (.number (.float c.expiresAt))
  expiresAt_pos : 0 < c.expiresAt.val
  generation : r (.legacy .refreshClaimGeneration) = some (.int c.generation)
  isCounter_generation : IsCounter c.generation

theorem Aliases.hasLegacy {r : Record} {c : Claim} (h : Aliases r c) : r.HasLegacy :=
  ⟨.refreshClaimId, by rw [h.id]; rfl⟩

theorem checkAliases_eq_ok {r : Record} {c : Claim} {u : Unit} :
    checkAliases r c = .ok u ↔ ¬ r.HasLegacy ∨ Aliases r c := by
  unfold checkAliases
  split
  · rename_i hl
    simp only [bind_eq_ok, ensure_eq_ok, exists_unit, Value.isStr_iff, positiveFloat?_eq_some,
      counter?_eq_some, Record.get_eq_str, Record.get_eq_number, Record.get_eq_int, hl,
      not_true_eq_false, false_or]
    constructor
    · rintro ⟨⟨hb, hu⟩, -, hk, hid, hp, ⟨he, hep⟩, hg, hgc⟩
      exact ⟨hb, hu, hk, hid, hp, he, hep, hg, hgc⟩
    · intro h
      refine ⟨⟨h.unbound, h.certain⟩, ⟨?_, ?_, ?_, ?_⟩, h.kind, h.id, h.phase,
        ⟨h.expiresAt, h.expiresAt_pos⟩, h.generation, h.isCounter_generation⟩
      · rw [h.id]; rfl
      · rw [h.phase]; rfl
      · rw [h.expiresAt]; rfl
      · rw [h.generation]; rfl
  · rename_i hl
    simp [hl]

/-- `c` is stored in the canonical schema. -/
structure Canonical (r : Record) (c : Claim) : Prop where
  claim : ClaimAt .intent [.business, .refresh, .connect, .reconnect]
    [.reserved, .providerRequestStarted, .providerOutcomeUncertain] r c
  bound : BoundAt r c.kind c.boundOperationId
  uncertain : c.phase = .providerOutcomeUncertain → c.kind = .business ∧ c.boundOperationId ≠ none
  aliases : ¬ r.HasLegacy ∨ Aliases r c
  isLegacy : c.isLegacy = false

theorem parseCanonicalIntent_eq_ok {r : Record} {st : IntentStatus} :
    parseCanonicalIntent r = .ok st ↔ ∃ c, st = .valid c ∧ Canonical r c := by
  simp only [parseCanonicalIntent, bind_eq_ok, ensure_eq_ok, exists_unit, pure_eq_ok,
    Except.ok.injEq, parseClaim_eq_ok, parseBoundOperationId_eq_ok, checkAliases_eq_ok]
  constructor
  · rintro ⟨-, c, ⟨hc, -, hl⟩, b, hb, hu, ha, rfl⟩
    exact ⟨_, rfl, ⟨hc.id, hc.isStoredId, hc.kind, hc.kind_mem, hc.phase, hc.phase_mem,
      hc.expiresAt, hc.acquiredAt, hc.acquiredAt_pos, hc.acquiredAt_le, hc.generation,
      hc.isCounter_generation, hc.lifecycleEpoch, hc.isCounter_lifecycleEpoch, hc.fingerprint⟩,
      hb, hu, ha, hl⟩
  · rintro ⟨c, rfl, h⟩
    have hc := h.claim
    refine ⟨fun k => hc.isSome k, { c with boundOperationId := none }, ⟨⟨hc.id, hc.isStoredId,
      hc.kind, hc.kind_mem, hc.phase, hc.phase_mem, hc.expiresAt, hc.acquiredAt, hc.acquiredAt_pos,
      hc.acquiredAt_le, hc.generation, hc.isCounter_generation, hc.lifecycleEpoch,
      hc.isCounter_lifecycleEpoch, hc.fingerprint⟩, rfl, h.isLegacy⟩, c.boundOperationId, h.bound,
      h.uncertain, h.aliases, rfl⟩

/-- `c` is a bare refresh claim. -/
structure Bare (r : Record) (c : Claim) : Prop where
  id : r (.legacy .refreshClaimId) = some (.str c.id)
  isStoredId : IsStoredId c.id
  kind : c.kind = .refresh
  phase : r (.legacy .refreshClaimPhase) = some (.text c.phase.text)
  phase_mem : c.phase ∈ [Phase.reserved, .providerRequestStarted]
  expiresAt : r (.legacy .refreshClaimExpiresAt) = some (.number (.float c.expiresAt))
  expiresAt_pos : 0 < c.expiresAt.val
  acquiredAt : c.acquiredAt = .ofRat (c.expiresAt.val - 60)
  generation : r (.legacy .refreshClaimGeneration) = some (.int c.generation)
  isCounter_generation : IsCounter c.generation
  lifecycleEpoch : c.lifecycleEpoch = 0
  fingerprint : c.credentialsFingerprint = none
  unbound : c.boundOperationId = none
  isLegacy : c.isLegacy = true
  noIntent : ¬ r.HasIntent

theorem parseLegacyClaim_eq_ok {r : Record} {st : IntentStatus} :
    parseLegacyClaim r = .ok st ↔ ∃ c, st = .valid c ∧ Bare r c := by
  simp only [parseLegacyClaim, bind_eq_ok, ensure_eq_ok, exists_unit, require_eq_ok, pure_eq_ok,
    Except.ok.injEq, str?_eq_some, spelled?_eq_some Phase.text_injective, positiveFloat?_eq_some,
    counter?_eq_some, Record.get_eq_str, Record.get_eq_text, Record.get_eq_number,
    Record.get_eq_int]
  constructor
  · rintro ⟨⟨-, hn⟩, id, hid, hidOk, phase, ⟨hp, hpm⟩, exp, ⟨he, hep⟩, gen, ⟨hg, hgc⟩, rfl⟩
    exact ⟨_, rfl, hid, hidOk, rfl, hp, hpm, he, hep, rfl, hg, hgc, rfl, rfl, rfl, rfl, hn⟩
  · rintro ⟨c, rfl, h⟩
    refine ⟨⟨⟨?_, ?_, ?_, ?_⟩, h.noIntent⟩, c.id, h.id, h.isStoredId, c.phase,
      ⟨h.phase, h.phase_mem⟩, c.expiresAt, ⟨h.expiresAt, h.expiresAt_pos⟩, c.generation,
      ⟨h.generation, h.isCounter_generation⟩, ?_⟩
    · rw [h.id]; rfl
    · rw [h.phase]; rfl
    · rw [h.expiresAt]; rfl
    · rw [h.generation]; rfl
    · obtain ⟨id, k, p, e, a, g, l, f, b, lg⟩ := c
      obtain rfl : k = .refresh := h.kind
      obtain rfl : a = .ofRat (e.val - 60) := h.acquiredAt
      obtain rfl : l = 0 := h.lifecycleEpoch
      obtain rfl : f = none := h.fingerprint
      obtain rfl : b = none := h.unbound
      obtain rfl : lg = true := h.isLegacy
      rfl

structure Unquarantined (r : Record) : Prop where
  outcome : r .refreshOutcomeUnknown = none
  reauth : r .reauthorizationRequired = none

structure Quarantine (r : Record) : Prop where
  outcome : r .refreshOutcomeUnknown = some (.bool true)
  reauth : r .reauthorizationRequired = some (.bool true)
  noIntent : ¬ r.HasIntent
  noLegacy : ¬ r.HasLegacy

structure Vacant (r : Record) : Prop where
  unquarantined : Unquarantined r
  noIntent : ¬ r.HasIntent
  noLegacy : ¬ r.HasLegacy
  noAttempt : ¬ r.HasAttempt

/-- A record that holds the claim `c`. -/
structure Held (r : Record) (c : Claim) : Prop where
  unquarantined : Unquarantined r
  noAttempt : ¬ r.HasAttempt
  legacy : ∀ k : LegacyKey, (r (.legacy k)).isSome → k.isClaim = true
  claim : Canonical r c ∨ Bare r c

/-- A record in quarantine with the reauthorization attempt `c`. -/
structure Reauthorizing (r : Record) (c : Claim) : Prop where
  quarantine : Quarantine r
  attempt : ClaimAt .attempt [.reconnect] [.reserved, .providerRequestStarted] r c
  unbound : c.boundOperationId = none
  isLegacy : c.isLegacy = false

theorem Canonical.hasIntent {r : Record} {c : Claim} (h : Canonical r c) : r.HasIntent :=
  .inl ⟨.id, h.claim.isSome .id⟩

theorem Bare.hasLegacy {r : Record} {c : Claim} (h : Bare r c) : r.HasLegacy :=
  ⟨.refreshClaimId, by rw [h.id]; rfl⟩

theorem parseQuarantine_eq_ok {r : Record} {st : IntentStatus} :
    parseQuarantine r = .ok st ↔ Quarantine r ∧
      ((¬ r.HasAttempt ∧ st = .quarantined) ∨
        ∃ c, st = .quarantinedReauthorizing c ∧ Reauthorizing r c) := by
  simp only [parseQuarantine, bind_eq_ok, require_eq_ok, ensure_eq_ok, exists_unit, bool?_eq_some]
  constructor
  · rintro ⟨o, ho, q, hq, ob, rfl, qb, rfl, ⟨rfl, rfl⟩, hl, hi, h⟩
    have hQ : Quarantine r := ⟨ho, hq, hi, hl⟩
    refine ⟨hQ, ?_⟩
    split at h
    · split at h
      · rename_i c hc
        simp only [parseProviderReauthorizationAttempt, bind_eq_ok, ensure_eq_ok, exists_unit,
          parseClaim_eq_ok] at hc
        cases h
        exact .inr ⟨c, rfl, hQ, hc.2.1, hc.2.2.1, hc.2.2.2⟩
      · cases h
    · rename_i ha
      cases h
      exact .inl ⟨ha, rfl⟩
  · rintro ⟨hQ, h⟩
    refine ⟨_, hQ.outcome, _, hQ.reauth, true, rfl, true, rfl, ⟨rfl, rfl⟩, hQ.noLegacy,
      hQ.noIntent, ?_⟩
    rcases h with ⟨ha, rfl⟩ | ⟨c, rfl, h⟩
    · rw [if_neg ha]
    · have hp : parseProviderReauthorizationAttempt r = .ok c := by
        simp only [parseProviderReauthorizationAttempt, bind_eq_ok, ensure_eq_ok, exists_unit,
          parseClaim_eq_ok]
        exact ⟨fun k => h.attempt.isSome k, h.attempt, h.unbound, h.isLegacy⟩
      rw [if_pos ⟨.id, h.attempt.isSome .id⟩, hp]

inductive Reads (r : Record) : IntentStatus → Prop
  | absent (h : Vacant r) : Reads r .absent
  | valid (c : Claim) (h : Held r c) : Reads r (.valid c)
  | quarantined (h : Quarantine r) (ha : ¬ r.HasAttempt) : Reads r .quarantined
  | reauthorizing (c : Claim) (h : Reauthorizing r c) : Reads r (.quarantinedReauthorizing c)

theorem parse_eq_ok {r : Record} {st : IntentStatus} :
    parseProviderOperationIntent r = .ok st ↔ Reads r st := by
  unfold parseProviderOperationIntent
  constructor
  · intro h
    split at h
    · obtain ⟨hQ, ⟨ha, rfl⟩ | ⟨c, rfl, hc⟩⟩ := parseQuarantine_eq_ok.mp h
      · exact .quarantined hQ ha
      · exact .reauthorizing c hc
    rename_i hq
    have hU : Unquarantined r := by
      simp only [not_or, Option.not_isSome_iff_eq_none] at hq
      exact ⟨hq.1, hq.2⟩
    split at h
    · cases h
    rename_i ha
    split at h
    · rename_i hn
      cases h
      exact .absent ⟨hU, hn.1, hn.2, ha⟩
    simp only [bind_eq_ok, ensure_eq_ok, exists_unit] at h
    obtain ⟨hk, h⟩ := h
    split at h
    · obtain ⟨c, rfl, hc⟩ := parseCanonicalIntent_eq_ok.mp h
      exact .valid c ⟨hU, ha, hk, .inl hc⟩
    · split at h
      · obtain ⟨c, rfl, hc⟩ := parseLegacyClaim_eq_ok.mp h
        exact .valid c ⟨hU, ha, hk, .inr hc⟩
      · cases h
  · intro h
    cases h with
    | absent h =>
      rw [if_neg (by simp [h.unquarantined.outcome, h.unquarantined.reauth]), if_neg h.noAttempt,
        if_pos ⟨h.noIntent, h.noLegacy⟩]
    | valid c h =>
      rw [if_neg (by simp [h.unquarantined.outcome, h.unquarantined.reauth]), if_neg h.noAttempt]
      rcases h.claim with hc | hc
      · rw [if_neg (fun hn => hn.1 hc.hasIntent)]
        simp only [bind_eq_ok, ensure_eq_ok, exists_unit]
        refine ⟨h.legacy, ?_⟩
        rw [if_pos (hc.claim.isSome .id)]
        exact parseCanonicalIntent_eq_ok.mpr ⟨c, rfl, hc⟩
      · rw [if_neg (fun hn => hn.2 hc.hasLegacy)]
        simp only [bind_eq_ok, ensure_eq_ok, exists_unit]
        refine ⟨h.legacy, ?_⟩
        have hid : r (.intent .id) = none := (Record.not_hasIntent.mp hc.noIntent).1 .id
        rw [if_neg (by rw [hid]; simp), if_pos hc.hasLegacy]
        exact parseLegacyClaim_eq_ok.mpr ⟨c, rfl, hc⟩
    | quarantined h ha =>
      rw [if_pos (.inl (by rw [h.outcome]; rfl))]
      exact parseQuarantine_eq_ok.mpr ⟨h, .inl ⟨ha, rfl⟩⟩
    | reauthorizing c h =>
      rw [if_pos (.inl (by rw [h.quarantine.outcome]; rfl))]
      exact parseQuarantine_eq_ok.mpr ⟨h.quarantine, .inr ⟨c, rfl, h⟩⟩

end HeyKevin.L7.Tokens
