import HeyKevin.Core.Fallible
import HeyKevin.L1Encoding.Json
import HeyKevin.L1Encoding.Python
/-!
# Normal forms of the service-request commands

`app/services/service_request.py:700-848`. Every command brings its arguments
to a normal form before it looks at the aggregate, and every constructor
checks that what it is given is in normal form already.

* `normalizeServiceLabel_idem`, `normalizeServices_canonical`: what a command
  normalized, a constructor accepts. This rests on the laws of NFKC.
* `canonicalServices_iff`: the constructor's check, field by field.

Arguments have their types here; the `TypeError`s of the `isinstance` checks
have no counterpart.

Line numbers are those of app/services/service_request.py.
-/
namespace HeyKevin.L2

open HeyKevin.Core L1 L1.Text L1.Datetime

inductive Err
  | valueError (message : String)
  | unicodeEncode
  | validation (message : String)
  | concurrency (expected_revision actual_revision : ℤ)
  | idempotencyConflict (message : String)
  | transition (message : String)
  | typeError (message : String)
  | overflow
  | repositoryConflict (message : String)
  | providerBindingRequired (message : String)
deriving DecidableEq, Repr

def SERVICE_REQUEST_SCHEMA_VERSION : ℤ := 1
def MAX_SERVICE_LABEL_LENGTH : ℕ := 120
def MAX_SERVICE_COUNT : ℕ := 20
def MAX_REQUEST_ID_LENGTH : ℕ := 160
def MAX_IDEMPOTENCY_KEY_LENGTH : ℕ := 200

inductive Status
  | OPEN
  | CANCELLED
deriving DecidableEq, Repr

def Status.value : Status → String
  | OPEN => "open"
  | CANCELLED => "cancelled"

inductive Operation
  | CREATE
  | CANCEL
  | RESCHEDULE
  | ADD_SERVICE
deriving DecidableEq, Repr

def Operation.value : Operation → String
  | CREATE => "create"
  | CANCEL => "cancel"
  | RESCHEDULE => "reschedule"
  | ADD_SERVICE => "add_service"

variable (P : Python)

/-! ## Service labels -/

/-- mirrors 700-715 -/
def normalizeServiceLabel (value : Str) : Except Err Str := do
  let normalized := P.nfkc value
  ensure (normalized.any isCc = false)
    (.validation "service label cannot contain control characters")
  let normalized := joinSpace (split normalized)
  ensure (normalized ≠ []) (.validation "service label must not be empty")
  ensure (normalized.length ≤ MAX_SERVICE_LABEL_LENGTH)
    (.validation s!"service label exceeds {MAX_SERVICE_LABEL_LENGTH} characters")
  return normalized

/-- mirrors 718-731 (`_normalize_services`), for
values that are strings and for stored ones. -/
def normalizeServicesWith {α : Type} (normalize : α → Except Err Str) (values : List α) :
    Except Err (List Str) := do
  ensure (values ≠ []) (.validation "at least one service is required")
  ensure (values.length ≤ MAX_SERVICE_COUNT)
    (.validation s!"a service request may contain at most {MAX_SERVICE_COUNT} services")
  let normalized ← values.mapM normalize
  ensure (normalized.map P.casefold).Nodup (.validation "service labels must be unique")
  return normalized

def normalizeServices (values : List Str) : Except Err (List Str) :=
  normalizeServicesWith P (normalizeServiceLabel P) values

/-- mirrors 740-744 -/
def validateCanonicalServices (values : List Str) : Except Err Unit := do
  let normalized ← normalizeServices P values
  ensure (normalized = values) (.validation "services must contain canonical labels")

structure CanonicalServices (values : List Str) : Prop where
  nonempty : values ≠ []
  bounded : values.length ≤ MAX_SERVICE_COUNT
  canonical : ∀ v ∈ values, normalizeServiceLabel P v = .ok v
  unique : (values.map P.casefold).Nodup

theorem canonicalServices_iff (values : List Str) :
    validateCanonicalServices P values = .ok () ↔ CanonicalServices P values := by
  simp only [validateCanonicalServices, normalizeServices, normalizeServicesWith, bind_eq_ok,
    ensure_eq_ok, exists_unit, pure_eq_ok, Except.ok.injEq]
  constructor
  · rintro ⟨_, ⟨hne, hlen, ns, hmap, hnodup, rfl⟩, rfl⟩
    exact ⟨hne, hlen, mapM_eq_self.mp hmap, hnodup⟩
  · rintro ⟨hne, hlen, hcan, hnodup⟩
    exact ⟨values, ⟨hne, hlen, values, mapM_eq_self.mpr hcan, hnodup, rfl⟩, rfl⟩

variable {P}

theorem normalizeServicesWith_of_canonical {values : List Str} (h : CanonicalServices P values)
    {α : Type} {normalize : α → Except Err Str} {g : Str → α}
    (hg : ∀ s, normalize (g s) = normalizeServiceLabel P s) :
    normalizeServicesWith P normalize (values.map g) = .ok values := by
  simp only [normalizeServicesWith, bind_eq_ok, ensure_eq_ok, exists_unit, pure_eq_ok,
    Except.ok.injEq]
  refine ⟨by simpa using h.nonempty, by simpa using h.bounded, values, ?_, h.unique, rfl⟩
  rw [List.mapM_map, show normalize ∘ g = normalizeServiceLabel P from funext hg]
  exact mapM_eq_self.mpr h.canonical

theorem nfkc_joinSpace (laws : P.NfkcLaws) {ws : List Str} (hne : ws ≠ [])
    (h : ∀ w ∈ ws, P.nfkc w = w) : P.nfkc (joinSpace ws) = joinSpace ws := by
  induction ws with
  | nil => exact absurd rfl hne
  | cons w ws ih =>
    cases ws with
    | nil => exact h w (by simp)
    | cons v ws =>
      exact laws.space_closed w _ (h w (by simp))
        (ih (by simp) fun x hx => h x (List.mem_cons_of_mem _ hx))

theorem mem_joinSpace {ws : List Str} {c : CodePoint} (h : c ∈ joinSpace ws) :
    c = space ∨ ∃ w ∈ ws, c ∈ w := by
  induction ws with
  | nil => cases h
  | cons w ws ih =>
    cases ws with
    | nil => exact .inr ⟨w, by simp, h⟩
    | cons v ws =>
      rcases List.mem_append.mp h with h | h
      · exact .inr ⟨w, by simp, h⟩
      rcases List.mem_cons.mp h with h | h
      · exact .inl h
      · rcases ih h with h | ⟨x, hx, hc⟩
        · exact .inl h
        · exact .inr ⟨x, List.mem_cons_of_mem _ hx, hc⟩

theorem normalizeServiceLabel_idem (laws : P.NfkcLaws) {v n : Str}
    (h : normalizeServiceLabel P v = .ok n) : normalizeServiceLabel P n = .ok n := by
  simp only [normalizeServiceLabel, bind_eq_ok, ensure_eq_ok, exists_unit, pure_eq_ok,
    Except.ok.injEq] at h
  obtain ⟨hcc, hne, hlen, rfl⟩ := h
  have hword : ∀ w ∈ split (P.nfkc v), IsWord w := fun w hw => isWord_of_mem_split hw
  have hws : split (P.nfkc v) ≠ [] := by
    intro h0
    exact hne (by rw [h0]; rfl)
  have hfix : P.nfkc (joinSpace (split (P.nfkc v))) = joinSpace (split (P.nfkc v)) :=
    nfkc_joinSpace laws hws fun w hw =>
      laws.infix_closed _ w (laws.idem v) (infix_of_mem_split hw)
  simp only [normalizeServiceLabel, bind_eq_ok, ensure_eq_ok, exists_unit, pure_eq_ok, hfix,
    split_joinSpace _ hword]
  refine ⟨List.any_eq_false.mpr fun c hc => ?_, hne, hlen, trivial⟩
  rcases mem_joinSpace hc with rfl | ⟨w, hw, hcw⟩
  · decide
  · exact List.any_eq_false.mp hcc c ((infix_of_mem_split hw).subset hcw)

theorem normalizeServices_canonical (laws : P.NfkcLaws) {vs ns : List Str}
    (h : normalizeServices P vs = .ok ns) : CanonicalServices P ns := by
  simp only [normalizeServices, normalizeServicesWith, bind_eq_ok, ensure_eq_ok, exists_unit,
    pure_eq_ok, Except.ok.injEq] at h
  obtain ⟨hne, hlen, ms, hmap, hnodup, rfl⟩ := h
  have hl := mapM_length hmap
  refine ⟨?_, by omega, ?_, hnodup⟩
  · rintro rfl
    exact hne (List.length_eq_zero_iff.mp hl.symm)
  · intro m hm
    obtain ⟨v, -, hv⟩ := exists_of_mem_mapM hmap hm
    exact normalizeServiceLabel_idem laws hv

/-! ## Identifiers and revisions -/

/-- mirrors 813-821 -/
def validateIdentifier (value : Str) (field_name : String) (max_length : ℕ) : Except Err Unit := do
  ensure (value ≠ [] ∧ value = strip value)
    (.validation s!"{field_name} must be non-empty and trimmed")
  ensure (value.length ≤ max_length) (.validation s!"{field_name} exceeds {max_length} characters")
  ensure (value.any isCc = false)
    (.validation s!"{field_name} cannot contain control characters")

/-- mirrors 805-810 -/
def normalizeIdentifier (value : Str) (field_name : String) (max_length : ℕ) : Except Err Str := do
  let normalized := strip value
  validateIdentifier normalized field_name max_length
  return normalized

theorem normalizeIdentifier_eq_ok {value n : Str} {field_name : String} {max_length : ℕ} :
    normalizeIdentifier value field_name max_length = .ok n ↔
      n = strip value ∧ validateIdentifier n field_name max_length = .ok () := by
  simp only [normalizeIdentifier, bind_eq_ok, pure_eq_ok, Except.ok.injEq, exists_unit]
  constructor
  · rintro ⟨h, rfl⟩
    exact ⟨rfl, h⟩
  · rintro ⟨rfl, h⟩
    exact ⟨h, rfl⟩

theorem strip_of_validateIdentifier {value : Str} {field_name : String} {max_length : ℕ}
    (h : validateIdentifier value field_name max_length = .ok ()) : strip value = value := by
  simp only [validateIdentifier, bind_eq_ok, ensure_eq_ok, exists_unit] at h
  exact h.1.2.symm

theorem normalizeIdentifier_of_valid {value : Str} {field_name : String} {max_length : ℕ}
    (h : validateIdentifier value field_name max_length = .ok ()) :
    normalizeIdentifier value field_name max_length = .ok value :=
  normalizeIdentifier_eq_ok.mpr ⟨(strip_of_validateIdentifier h).symm, h⟩

/-- mirrors 828-833 -/
def validateRevision (value : ℤ) (field_name : String) (minimum : ℤ) : Except Err ℤ := do
  ensure (minimum ≤ value) (.validation s!"{field_name} must be at least {minimum}")
  return value

/-- mirrors 824-825 -/
def normalizeExpectedRevision (value : ℤ) : Except Err ℤ :=
  validateRevision value "expected_revision" 0

@[simp] theorem validateRevision_eq_ok {value n minimum : ℤ} {field_name : String} :
    validateRevision value field_name minimum = .ok n ↔ minimum ≤ value ∧ value = n := by
  simp [validateRevision]

@[simp] theorem normalizeExpectedRevision_eq_ok {value n : ℤ} :
    normalizeExpectedRevision value = .ok n ↔ 0 ≤ value ∧ value = n := validateRevision_eq_ok

/-! ## Timestamps -/

/-- mirrors 763-777 -/
def normalizeUtc (value : DateTime) (field_name : String) : Except Err DateTime := do
  ensure (value.offset.isSome) (.validation s!"{field_name} must be timezone-aware")
  require value.astimezoneUtc (.validation s!"{field_name} is outside the supported range")

/-- mirrors 780-783 -/
def validateCanonicalUtc (value : DateTime) (field_name : String) : Except Err Unit := do
  let normalized ← normalizeUtc value field_name
  ensure (normalized.instant = value.instant ∧ value.offset = some 0)
    (.validation s!"{field_name} must be normalized to UTC")

/-- mirrors 747-752 -/
def normalizeSchedule (start stop : DateTime) : Except Err (DateTime × DateTime) := do
  let normalized_start ← normalizeUtc start "scheduled_start"
  let normalized_end ← normalizeUtc stop "scheduled_end"
  ensure (normalized_start.instant < normalized_end.instant)
    (.validation "scheduled_end must be after scheduled_start")
  return (normalized_start, normalized_end)

/-- mirrors 755-759 -/
def validateCanonicalSchedule (start stop : DateTime) : Except Err Unit := do
  validateCanonicalUtc start "scheduled_start"
  validateCanonicalUtc stop "scheduled_end"
  ensure (start.instant < stop.instant) (.validation "scheduled_end must be after scheduled_start")

/-- mirrors 786-788 -/
def serializeDatetime (value : DateTime) : Except Err Str := do
  validateCanonicalUtc value "datetime"
  return zuluText value

theorem normalizeUtc_eq_ok {value t : DateTime} {field_name : String} :
    normalizeUtc value field_name = .ok t ↔
      value.offset.isSome ∧ value.astimezoneUtc = some t := by
  simp only [normalizeUtc, bind_eq_ok, ensure_eq_ok, exists_unit, require_eq_ok]

theorem normalizeUtc_isUtc {value t : DateTime} {field_name : String}
    (h : normalizeUtc value field_name = .ok t) : t.IsUtc ∧ t.instant = value.instant :=
  DateTime.astimezoneUtc_eq_some (normalizeUtc_eq_ok.mp h).2

@[simp] theorem normalizeUtc_of_isUtc {value : DateTime} (h : value.IsUtc) (field_name : String) :
    normalizeUtc value field_name = .ok value :=
  normalizeUtc_eq_ok.mpr ⟨by rw [show value.offset = some 0 from h]; rfl, h.astimezoneUtc⟩

@[simp] theorem validateCanonicalUtc_eq_ok {value : DateTime} {field_name : String} {u : Unit} :
    validateCanonicalUtc value field_name = .ok u ↔ value.IsUtc := by
  simp only [validateCanonicalUtc, bind_eq_ok, ensure_eq_ok]
  constructor
  · rintro ⟨_, -, -, h⟩
    exact h
  · intro h
    exact ⟨value, normalizeUtc_of_isUtc h _, rfl, h⟩

theorem validateCanonicalSchedule_eq_ok {start stop : DateTime} {u : Unit} :
    validateCanonicalSchedule start stop = .ok u ↔
      start.IsUtc ∧ stop.IsUtc ∧ start.instant < stop.instant := by
  simp only [validateCanonicalSchedule, bind_eq_ok, validateCanonicalUtc_eq_ok, exists_unit,
    ensure_eq_ok]

theorem normalizeSchedule_eq_ok {start stop s e : DateTime}
    (h : normalizeSchedule start stop = .ok (s, e)) :
    normalizeUtc start "scheduled_start" = .ok s ∧ normalizeUtc stop "scheduled_end" = .ok e ∧
      s.instant < e.instant := by
  simp only [normalizeSchedule, bind_eq_ok, ensure_eq_ok, exists_unit, pure_eq_ok,
    Except.ok.injEq, Prod.mk.injEq] at h
  obtain ⟨s', hs, e', he, hlt, rfl, rfl⟩ := h
  exact ⟨hs, he, hlt⟩

theorem normalizeSchedule_of_canonical {start stop : DateTime}
    (h : validateCanonicalSchedule start stop = .ok ()) :
    normalizeSchedule start stop = .ok (start, stop) := by
  obtain ⟨hs, he, hlt⟩ := validateCanonicalSchedule_eq_ok.mp h
  simp only [normalizeSchedule, normalizeUtc_of_isUtc hs, normalizeUtc_of_isUtc he, ok_bind,
    ensure_of _ hlt, pure_eq_ok]

theorem canonical_of_normalizeSchedule {start stop s e : DateTime}
    (h : normalizeSchedule start stop = .ok (s, e)) : validateCanonicalSchedule s e = .ok () := by
  obtain ⟨hs, he, hlt⟩ := normalizeSchedule_eq_ok h
  exact validateCanonicalSchedule_eq_ok.mpr
    ⟨(normalizeUtc_isUtc hs).1, (normalizeUtc_isUtc he).1, hlt⟩

theorem serializeDatetime_of_isUtc {value : DateTime} (h : value.IsUtc) :
    serializeDatetime value = .ok (zuluText value) :=
  bind_of_ok (a := ()) _ (validateCanonicalUtc_eq_ok.mpr h)

/-! ## Fingerprints -/

variable (P)

/-- `hashlib.sha256(text.encode()).hexdigest()` -/
def hashText (text : Str) : Except Err Str := do
  let material ← require (encodeUtf8 text) .unicodeEncode
  return P.sha256 material

def commandText (operation : Operation) (expected_revision : ℤ) (payload : Json) : Str :=
  Json.dumps (.obj [("expected_revision", .int expected_revision),
    ("operation", .str (py operation.value)), ("payload", payload)])

/-- mirrors 836-848 -/
def commandFingerprint (operation : Operation) (expected_revision : ℤ) (payload : Json) :
    Except Err Str :=
  hashText P (commandText operation expected_revision payload)

variable {P}

theorem hashText_eq_ok {text h : Str} :
    hashText P text = .ok h ↔ ∃ bs, encodeUtf8 text = some bs ∧ P.sha256 bs = h := by
  simp only [hashText, bind_eq_ok, require_eq_ok, pure_eq_ok, Except.ok.injEq]

theorem exists_hashText {text : Str} : (∃ h, hashText P text = .ok h) ↔ Encodable text := by
  rw [← encodeUtf8_isSome_iff, Option.isSome_iff_exists]
  simp [hashText_eq_ok]

theorem commandText_eq (operation : Operation) (expected_revision : ℤ) (payload : Json) :
    ∃ rest, commandText operation expected_revision payload =
      py "\x7b\"expected_revision\":" ++ (decimal expected_revision ++ 44 :: rest) := by
  have hkey : Json.quoted (py "expected_revision") = py "\"expected_revision\"" := by decide
  have hopen : py "\x7b\"expected_revision\":" =
      py "\x7b" ++ (py "\"expected_revision\"" ++ py ":") := by decide
  have hcomma : py "," = [44] := by decide
  simp only [commandText, Json.dumps, Json.entries, List.append_assoc, hkey, hopen, hcomma,
    List.cons_append, List.nil_append]
  exact ⟨_, rfl⟩

theorem revision_of_commandText {operation operation' : Operation} {n m : ℤ}
    {payload payload' : Json} (h : commandText operation n payload =
      commandText operation' m payload') : n = m := by
  obtain ⟨r, hr⟩ := commandText_eq operation n payload
  obtain ⟨r', hr'⟩ := commandText_eq operation' m payload'
  rw [hr, hr'] at h
  exact (decimal_append_inj (by decide) (by decide) (List.append_cancel_left h)).1

end HeyKevin.L2
