import HeyKevin.Core.Fallible
import HeyKevin.L1Encoding.Text
import Mathlib.Data.List.Infix
/-!
# Safe text

The normalizers of app/services/receptionist_state.py: a text is stripped,
bounded, and refused where it has a control character or what looks like a
full phone number.

The phone pattern is `(?<!\d)\+?\d[\d .()/\-]{7,}\d(?!\d)`. It is searched by
trying it at every position; `endsAt` decides it after its first digit.

* `normalizeSafeText_idem`: what a normalizer returns, it accepts unchanged.
* `fullPhone_iff_nineDigits`: in a text whose digits stand among letters only,
  the pattern is a run of nine digits.
* `fullPhone_append`: a label in front of a text neither hides nor makes one.

Line numbers are those of app/services/receptionist_state.py.
-/
namespace HeyKevin.L5.Intake

open HeyKevin.Core L1.Text

/-- The Unicode tables of the interpreter: `\d`, `str.isdigit` and `str.isalnum` of a character. -/
structure Tables where
  isDecimal : CodePoint → Bool
  isDigit : CodePoint → Bool
  isAlnum : CodePoint → Bool

structure Tables.Ascii (T : Tables) : Prop where
  decimal : ∀ c : CodePoint, c.val < 128 → T.isDecimal c = decide (48 ≤ c.val ∧ c.val < 58)
  alnum : ∀ c : CodePoint, 97 ≤ c.val ∧ c.val < 123 → T.isAlnum c = true

variable (T : Tables)

/-! ## The phone pattern -/

/-- `[\d .()/\-]` -/
def inPhone (c : CodePoint) : Bool :=
  T.isDecimal c || c.val == 0x20 || c.val == 0x2e || c.val == 0x28 || c.val == 0x29 ||
    c.val == 0x2f || c.val == 0x2d

def digitAhead : Str → Bool
  | [] => false
  | c :: _ => T.isDecimal c

/-- `[\d .()/\-]{7,}\d(?!\d)` after so many characters of the class. -/
def endsAt (count : ℕ) : Str → Bool
  | [] => false
  | c :: s => (decide (7 ≤ count) && T.isDecimal c && !digitAhead T s) ||
      (inPhone T c && endsAt (count + 1) s)

/-- `\d[\d .()/\-]{7,}\d(?!\d)` -/
def phoneBody : Str → Bool
  | [] => false
  | c :: s => T.isDecimal c && endsAt T 0 s

/-- `\+?` and the rest of the pattern, here -/
def phoneHere : Str → Bool
  | [] => false
  | c :: s => phoneBody T (c :: s) || (c.val == 0x2b && phoneBody T s)

def searchFrom (afterDigit : Bool) : Str → Bool
  | [] => false
  | c :: s => (!afterDigit && phoneHere T (c :: s)) || searchFrom (T.isDecimal c) s

/-- `_FULL_PHONE_PATTERN.search(s)` -/
def fullPhone (s : Str) : Bool := searchFrom T false s

/-! ## Normalizers -/

/-- mirrors 323-333, of a string -/
def normalizeSafeText (fieldName : String) (maxLength : ℕ) (value : Str) : Except String Str :=
  let normalized := strip value
  if maxLength < normalized.length then .error (fieldName ++ " exceeds its maximum length")
  else if normalized.any fun c => c.val < 32 then
    .error (fieldName ++ " contains control characters")
  else if fullPhone T normalized then .error (fieldName ++ " cannot contain a full phone number")
  else .ok normalized

/-- mirrors 336-347 -/
def normalizeSafeTextCollection (fieldName : String) (maxLength : ℕ) (values : List Str) :
    Except String (List Str) :=
  values.mapM (normalizeSafeText T fieldName maxLength)

/-- mirrors 298-307 -/
def normalizeLanguageCode (value : Str) : Except String Str := do
  let code ← normalizeSafeText T "language" 35 value
  if code = [] ∨ 35 < code.length ∨
      (code.splitOn 0x2d).any (fun part => part.isEmpty || decide (8 < part.length) ||
        !part.all T.isAlnum) = true then
    .error "language must be a bounded language tag"
  else .ok code

/-- mirrors 350-356 -/
def normalizePhoneLastFour (fieldName : String) (value : Str) : Except String Str :=
  let normalized := strip value
  if normalized.length ≠ 4 ∨ normalized.all T.isDigit = false then
    .error (fieldName ++ " must contain exactly four digits")
  else .ok normalized

/-- mirrors 359-362 -/
def normalizePhoneLastFourOrEmpty (fieldName : String) (value : Str) : Except String Str :=
  if value = [] then .ok [] else normalizePhoneLastFour T fieldName value

/-! ## Stripping -/

theorem strip_of_ends {c : CodePoint} {s : Str} (hfirst : isSpace c = false)
    (hlast : isSpace ((c :: s).getLast (List.cons_ne_nil c s)) = false) :
    strip (c :: s) = c :: s := by
  rw [strip, List.dropWhile_cons_of_neg (by rw [hfirst]; exact Bool.false_ne_true),
    List.rdropWhile_eq_self_iff]
  intro _
  rw [hlast]
  exact Bool.false_ne_true

theorem getLast_of_strip {s : Str} (h : strip s = s) (hne : s ≠ []) :
    isSpace (s.getLast hne) = false := by
  have hstrip : strip s ≠ [] := by rwa [h]
  have hlast := List.rdropWhile_last_not isSpace (s.dropWhile isSpace) hstrip
  have hsame : (strip s).getLast hstrip = s.getLast hne := by simp only [h]
  rw [← hsame]
  exact Bool.eq_false_iff.mpr hlast

/-! ## What the normalizers return -/

section

variable {T} {fieldName : String} {maxLength : ℕ} {value r : Str}

theorem normalizeSafeText_eq_ok :
    normalizeSafeText T fieldName maxLength value = .ok r ↔
      r = strip value ∧ (strip value).length ≤ maxLength ∧
        (∀ c ∈ strip value, 32 ≤ c.val) ∧ fullPhone T (strip value) = false := by
  unfold normalizeSafeText
  simp only
  split
  · rename_i hlong
    exact iff_of_false (fun h => by cases h) fun h => absurd h.2.1 (not_le.mpr hlong)
  split
  · rename_i hcontrol
    obtain ⟨c, hc, hlow⟩ := List.any_eq_true.mp hcontrol
    exact iff_of_false (fun h => by cases h) fun h =>
      absurd (h.2.2.1 c hc) (not_le.mpr (of_decide_eq_true hlow))
  split
  · rename_i hphone
    exact iff_of_false (fun h => by cases h) fun h => by rw [hphone] at h; cases h.2.2.2
  · rename_i hlong hcontrol hphone
    rw [Except.ok.injEq]
    refine ⟨fun h => ⟨h.symm, not_lt.mp hlong, fun c hc => ?_, Bool.eq_false_iff.mpr hphone⟩,
      fun h => h.1.symm⟩
    by_contra hlow
    exact hcontrol (List.any_eq_true.mpr ⟨c, hc, decide_eq_true (not_le.mp hlow)⟩)

theorem normalizeSafeText_idem (h : normalizeSafeText T fieldName maxLength value = .ok r) :
    normalizeSafeText T fieldName maxLength r = .ok r := by
  obtain ⟨rfl, hrest⟩ := normalizeSafeText_eq_ok.mp h
  rw [normalizeSafeText_eq_ok, strip_strip]
  exact ⟨rfl, hrest⟩

theorem normalizeLanguageCode_idem (h : normalizeLanguageCode T value = .ok r) :
    normalizeLanguageCode T r = .ok r ∧ r ≠ [] ∧ strip r = r := by
  unfold normalizeLanguageCode at h
  obtain ⟨code, hcode, h⟩ := bind_eq_ok.mp h
  split at h
  · cases h
  · rename_i hbounded
    obtain rfl := Except.ok.inj h
    have hstrip := (normalizeSafeText_eq_ok.mp (normalizeSafeText_idem hcode)).1.symm
    refine ⟨?_, fun hnil => hbounded (.inl hnil), hstrip⟩
    rw [normalizeLanguageCode, normalizeSafeText_idem hcode]
    exact if_neg hbounded

theorem normalizePhoneLastFour_idem (h : normalizePhoneLastFour T fieldName value = .ok r) :
    ∀ name, normalizePhoneLastFour T name r = .ok r := by
  intro name
  unfold normalizePhoneLastFour at h ⊢
  simp only at h ⊢
  split at h
  · cases h
  · rename_i hdigits
    obtain rfl := Except.ok.inj h
    rw [strip_strip, if_neg hdigits]

theorem normalizePhoneLastFour_ne_nil (h : normalizePhoneLastFour T fieldName value = .ok r) :
    r ≠ [] := by
  unfold normalizePhoneLastFour at h
  simp only at h
  split at h
  · cases h
  · rename_i hdigits
    obtain rfl := Except.ok.inj h
    intro hnil
    rw [hnil] at hdigits
    exact hdigits (.inl (by decide))

end

/-! ## Labels, and texts without digits -/

section

variable {T} {s : Str}

def Tables.Plain (T : Tables) (c : CodePoint) : Prop := T.isDecimal c = false ∧ c.val ≠ 0x2b

theorem phoneHere_of_plain {c : CodePoint} (hc : T.Plain c) : phoneHere T (c :: s) = false := by
  obtain ⟨hdecimal, hplus⟩ := hc
  simp only [phoneHere, phoneBody, hdecimal, Bool.false_and, Bool.false_or,
    Bool.and_eq_false_iff, beq_eq_false_iff_ne]
  exact .inl hplus

theorem fullPhone_append {label : Str} (hlabel : ∀ c ∈ label, T.Plain c) :
    fullPhone T (label ++ s) = fullPhone T s := by
  unfold fullPhone
  induction label with
  | nil => rfl
  | cons c label ih =>
    have hc := hlabel c List.mem_cons_self
    rw [List.cons_append, searchFrom, phoneHere_of_plain hc, Bool.and_false, Bool.false_or, hc.1]
    exact ih fun d hd => hlabel d (List.mem_cons_of_mem _ hd)

theorem fullPhone_of_plain (h : ∀ c ∈ s, T.Plain c) : fullPhone T s = false := by
  rw [← List.append_nil s, fullPhone_append h]
  rfl

/-! ## Runs of nine digits -/

def leading (T : Tables) : Str → ℕ
  | [] => 0
  | c :: s => if T.isDecimal c = true then leading T s + 1 else 0

def Tables.Sparse (T : Tables) (s : Str) : Prop :=
  ∀ c ∈ s, (inPhone T c = true → T.isDecimal c = true) ∧ c.val ≠ 0x2b

theorem endsAt_iff (h : T.Sparse s) (count : ℕ) :
    endsAt T count s = true ↔ 1 ≤ leading T s ∧ 8 ≤ count + leading T s := by
  induction s generalizing count with
  | nil => simp [endsAt, leading]
  | cons c s ih =>
    have ih := ih (fun d hd => h d (List.mem_cons_of_mem _ hd)) (count + 1)
    obtain ⟨hclass, -⟩ := h c List.mem_cons_self
    rw [endsAt, Bool.or_eq_true, Bool.and_eq_true, Bool.and_eq_true, Bool.and_eq_true, ih,
      decide_eq_true_eq, leading]
    cases hdecimal : T.isDecimal c with
    | false =>
      have hno : inPhone T c ≠ true := fun hin => by
        rw [hclass hin] at hdecimal
        cases hdecimal
      simp [hno]
    | true =>
      have hin : inPhone T c = true := by simp [inPhone, hdecimal]
      have hahead : (!digitAhead T s) = true ↔ leading T s = 0 := by
        cases s with
        | nil => simp [digitAhead, leading]
        | cons d s => cases hd : T.isDecimal d <;> simp [digitAhead, leading, hd]
      rw [hahead, hin]
      simp only [and_true, true_and, if_true]
      omega

theorem phoneHere_iff (h : T.Sparse s) : phoneHere T s = true ↔ 9 ≤ leading T s := by
  cases s with
  | nil => simp [phoneHere, leading]
  | cons c s =>
    have hrest : T.Sparse s := fun d hd => h d (List.mem_cons_of_mem _ hd)
    have hplus : (c.val == 0x2b) = false := by simpa using (h c List.mem_cons_self).2
    rw [phoneHere, hplus, Bool.false_and, Bool.or_false, phoneBody, Bool.and_eq_true,
      endsAt_iff hrest, leading]
    cases T.isDecimal c with
    | false => simp
    | true =>
      simp only [true_and, if_true]
      omega

/-- The search finds a position where nine digits start, after no digit; a longer run before it
has one too. -/
theorem searchFrom_iff (h : T.Sparse s) (afterDigit : Bool) :
    (searchFrom T afterDigit s = true ∨ afterDigit = true ∧ 9 ≤ leading T s) ↔
      ∃ t, t <:+ s ∧ 9 ≤ leading T t := by
  induction s generalizing afterDigit with
  | nil =>
    simp only [searchFrom, leading, List.suffix_nil]
    constructor
    · rintro (h | ⟨-, h⟩)
      · cases h
      · omega
    · rintro ⟨t, rfl, ht⟩
      exact absurd ht (by simp [leading])
  | cons c s ih =>
    have ih := ih (fun d hd => h d (List.mem_cons_of_mem _ hd)) (T.isDecimal c)
    have hhere := phoneHere_iff h
    have hsplit : (∃ t, t <:+ c :: s ∧ 9 ≤ leading T t) ↔
        9 ≤ leading T (c :: s) ∨ ∃ t, t <:+ s ∧ 9 ≤ leading T t := by
      constructor
      · rintro ⟨t, ht, hlead⟩
        rcases List.suffix_cons_iff.mp ht with rfl | ht
        · exact .inl hlead
        · exact .inr ⟨t, ht, hlead⟩
      · rintro (hlead | ⟨t, ht, hlead⟩)
        · exact ⟨_, List.suffix_rfl, hlead⟩
        · exact ⟨t, ht.trans (List.suffix_cons _ _), hlead⟩
    have hlonger : T.isDecimal c = true ∧ 9 ≤ leading T s → 9 ≤ leading T (c :: s) := by
      rintro ⟨hc, hlead⟩
      rw [leading, if_pos hc]
      omega
    rw [hsplit, ← ih, searchFrom, Bool.or_eq_true, Bool.and_eq_true, hhere]
    have hfound : 9 ≤ leading T (c :: s) → ((!afterDigit) = true ∧ 9 ≤ leading T (c :: s) ∨
        searchFrom T (T.isDecimal c) s = true) ∨ afterDigit = true ∧ 9 ≤ leading T (c :: s) := by
      intro hlead
      cases afterDigit with
      | false => exact .inl (.inl ⟨rfl, hlead⟩)
      | true => exact .inr ⟨rfl, hlead⟩
    constructor
    · rintro ((⟨-, hlead⟩ | hlater) | ⟨-, hlead⟩)
      · exact .inl hlead
      · exact .inr (.inl hlater)
      · exact .inl hlead
    · rintro (hlead | hlater | hlead)
      · exact hfound hlead
      · exact .inl (.inr hlater)
      · exact hfound (hlonger hlead)

theorem fullPhone_iff_leading (h : T.Sparse s) :
    fullPhone T s = true ↔ ∃ t, t <:+ s ∧ 9 ≤ leading T t := by
  rw [← searchFrom_iff h false, fullPhone]
  simp

theorem leading_spec (s : Str) (n : ℕ) :
    n ≤ leading T s ↔ ∃ run, run <+: s ∧ run.length = n ∧ ∀ c ∈ run, T.isDecimal c = true := by
  induction s generalizing n with
  | nil =>
    rw [leading, Nat.le_zero]
    constructor
    · rintro rfl
      exact ⟨[], List.nil_prefix, rfl, List.forall_mem_nil _⟩
    · rintro ⟨run, hrun, rfl, -⟩
      rw [List.prefix_nil.mp hrun, List.length_nil]
  | cons c s ih =>
    cases n with
    | zero =>
      exact iff_of_true (Nat.zero_le _) ⟨[], List.nil_prefix, rfl, List.forall_mem_nil _⟩
    | succ n =>
      rw [leading]
      split
      · rename_i hc
        rw [Nat.succ_le_succ_iff, ih]
        constructor
        · rintro ⟨run, hrun, rfl, hdigits⟩
          exact ⟨c :: run, (List.prefix_cons_inj c).mpr hrun, rfl,
            List.forall_mem_cons.mpr ⟨hc, hdigits⟩⟩
        · rintro ⟨run, hrun, hlength, hdigits⟩
          cases run with
          | nil => cases hlength
          | cons d run =>
            obtain ⟨rfl, hrest⟩ := List.cons_prefix_cons.mp hrun
            exact ⟨run, hrest, Nat.succ.inj hlength, (List.forall_mem_cons.mp hdigits).2⟩
      · rename_i hc
        refine iff_of_false (Nat.not_succ_le_zero n) ?_
        rintro ⟨run, hrun, hlength, hdigits⟩
        cases run with
        | nil => cases hlength
        | cons d run =>
          obtain ⟨rfl, -⟩ := List.cons_prefix_cons.mp hrun
          exact hc (List.forall_mem_cons.mp hdigits).1

/-- **In a text whose digits stand among letters only**, the pattern is a run of nine digits. -/
theorem fullPhone_iff_nineDigits (h : T.Sparse s) :
    fullPhone T s = true ↔ ∃ run, run <:+: s ∧ run.length = 9 ∧ ∀ c ∈ run, T.isDecimal c = true := by
  rw [fullPhone_iff_leading h]
  constructor
  · rintro ⟨t, ht, hlead⟩
    obtain ⟨run, hrun, hdigits⟩ := (leading_spec t 9).mp hlead
    exact ⟨run, hrun.isInfix.trans ht.isInfix, hdigits⟩
  · rintro ⟨run, ⟨before, after, rfl⟩, hdigits⟩
    refine ⟨run ++ after, ⟨before, (List.append_assoc ..).symm⟩, ?_⟩
    exact (leading_spec _ 9).mpr ⟨run, List.prefix_append _ _, hdigits⟩

end

end HeyKevin.L5.Intake
