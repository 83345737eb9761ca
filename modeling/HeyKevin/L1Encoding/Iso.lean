import HeyKevin.L1Encoding.Python
/-!
# Reading timestamps back

`datetime.fromisoformat`. A text in the form that `zuluText` writes is read
here, field by field; the other forms of ISO 8601 that it also accepts are
taken from the interpreter.

* `ymd2ord_ord2ymd`: the two calendar conversions of `datetime` are inverse.
* `fromisoformat_zuluText`: a UTC value is read back from its own text.
-/
namespace HeyKevin.L1.Datetime

open L1.Text

/-! ## The calendar, backwards -/

/-- mirrors CPython `datetime._is_leap` -/
def isLeap (year : ℕ) : Bool := year % 4 = 0 ∧ (year % 100 ≠ 0 ∨ year % 400 = 0)

/-- mirrors CPython `datetime._days_before_year` -/
def daysBeforeYear (year : ℕ) : ℕ :=
  let y := year - 1
  y * 365 + y / 4 - y / 100 + y / 400

/-- mirrors CPython `datetime._days_before_month` -/
def daysBeforeMonth (leap : Bool) (month : ℕ) : ℕ :=
  daysBeforeMonthTable.getD month 0 + (if month > 2 ∧ leap then 1 else 0)

/-- mirrors CPython `datetime._days_in_month` -/
def daysInMonth (leap : Bool) (month : ℕ) : ℕ :=
  daysInMonthTable.getD month 0 + (if month = 2 ∧ leap then 1 else 0)

/-- mirrors CPython `datetime._ymd2ord` -/
def ymd2ord (year month day : ℕ) : ℕ :=
  daysBeforeYear year + daysBeforeMonth (isLeap year) month + day

/-- mirrors CPython `datetime._check_date_fields` -/
def IsDate (year month day : ℕ) : Prop :=
  1 ≤ year ∧ year ≤ 9999 ∧ 1 ≤ month ∧ month ≤ 12 ∧ 1 ≤ day ∧
    day ≤ daysInMonth (isLeap year) month

instance (year month day : ℕ) : Decidable (IsDate year month day) :=
  inferInstanceAs (Decidable (_ ∧ _))

theorem daysInMonth_le : ∀ leap : Bool, ∀ month ≤ 12, daysInMonth leap month ≤ 31 := by decide

theorem monthDay_spec : ∀ leap : Bool, ∀ n < (if leap then 366 else 365),
    1 ≤ (monthDay leap n).1 ∧ (monthDay leap n).1 ≤ 12 ∧ 1 ≤ (monthDay leap n).2 ∧
      (monthDay leap n).2 ≤ daysInMonth leap (monthDay leap n).1 ∧
      daysBeforeMonth leap (monthDay leap n).1 + (monthDay leap n).2 = n + 1 := by
  decide +kernel

theorem cycle_split (n : ℕ) : ∃ n400 n100 n4 n1 r, n = n400 * 146097 + n100 * 36524 + n4 * 1461 +
    n1 * 365 + r ∧ n400 = n / 146097 ∧ n100 = n % 146097 / 36524 ∧
    n4 = n % 146097 % 36524 / 1461 ∧ n1 = n % 146097 % 36524 % 1461 / 365 ∧
    r = n % 146097 % 36524 % 1461 % 365 ∧ r < 365 ∧ n4 ≤ 24 ∧
    (n100 ≤ 3 ∨ n100 = 4 ∧ n4 = 0 ∧ n1 = 0 ∧ r = 0) ∧
    (n1 ≤ 3 ∨ n1 = 4 ∧ r = 0 ∧ n4 ≤ 23) := by
  refine ⟨_, _, _, _, _, ?_, rfl, rfl, rfl, rfl, rfl, ?_, ?_, ?_, ?_⟩ <;> omega

section Cycle
variable {n400 n100 n4 n1 : ℕ} (h100 : n100 ≤ 3) (h4 : n4 ≤ 24) (h1 : n1 ≤ 3)
include h100 h4 h1

theorem daysBeforeYear_cycle : daysBeforeYear (n400 * 400 + 1 + n100 * 100 + n4 * 4 + n1) =
    n400 * 146097 + n100 * 36524 + n4 * 1461 + n1 * 365 := by
  have hy : n400 * 400 + 1 + n100 * 100 + n4 * 4 + n1 - 1 =
      n400 * 400 + n100 * 100 + n4 * 4 + n1 := by omega
  have e4 : (n400 * 400 + n100 * 100 + n4 * 4 + n1) / 4 = n400 * 100 + n100 * 25 + n4 := by omega
  have e100 : (n400 * 400 + n100 * 100 + n4 * 4 + n1) / 100 = n400 * 4 + n100 := by omega
  have e400 : (n400 * 400 + n100 * 100 + n4 * 4 + n1) / 400 = n400 := by omega
  simp only [daysBeforeYear, hy, e4, e100, e400]
  omega

theorem isLeap_cycle : isLeap (n400 * 400 + 1 + n100 * 100 + n4 * 4 + n1) =
    decide (n1 = 3 ∧ (n4 ≠ 24 ∨ n100 = 3)) := by
  simp only [isLeap, decide_eq_decide]
  omega

variable (n400) in
theorem ymd2ord_cycle {r : ℕ} (hy : n400 * 400 + 1 + n100 * 100 + n4 * 4 + n1 ≤ 9999)
    (hr : r < if n1 = 3 ∧ (n4 ≠ 24 ∨ n100 = 3) then 366 else 365) :
    let year := n400 * 400 + 1 + n100 * 100 + n4 * 4 + n1
    let date := monthDay (decide (n1 = 3 ∧ (n4 ≠ 24 ∨ n100 = 3))) r
    IsDate year date.1 date.2 ∧ ymd2ord year date.1 date.2 =
      n400 * 146097 + n100 * 36524 + n4 * 1461 + n1 * 365 + r + 1 := by
  have hspec := monthDay_spec (decide (n1 = 3 ∧ (n4 ≠ 24 ∨ n100 = 3))) r (by simpa using hr)
  simp only [IsDate, ymd2ord, isLeap_cycle h100 h4 h1, daysBeforeYear_cycle h100 h4 h1]
  generalize monthDay (decide (n1 = 3 ∧ (n4 ≠ 24 ∨ n100 = 3))) r = date at hspec
  obtain ⟨hm1, hm2, hd1, hd2, hsum⟩ := hspec
  exact ⟨⟨by omega, hy, hm1, hm2, hd1, hd2⟩, by omega⟩

end Cycle

/-- **Ordinals and dates correspond.** -/
theorem ymd2ord_ord2ymd {ord : ℕ} (h1 : 1 ≤ ord) (h2 : ord ≤ 3652059) :
    let date := ord2ymd ord
    IsDate date.1 date.2.1 date.2.2 ∧ ymd2ord date.1 date.2.1 date.2.2 = ord := by
  obtain ⟨n400, n100, n4, n1, r, hn, e400, e100, e4, e1, er, hr, h4, h100, hn1⟩ :=
    cycle_split (ord - 1)
  have hlast : monthDay true 365 = (12, 31) := by decide
  simp only [ord2ymd, ← e400, ← e100, ← e4, ← e1, ← er]
  clear e400 e100 e4 e1 er
  rcases h100 with h100 | ⟨rfl, rfl, rfl, rfl⟩
  · rcases hn1 with hn1 | ⟨rfl, rfl, h23⟩
    · -- an ordinary day
      rw [if_neg (by omega)]
      have h := ymd2ord_cycle n400 h100 h4 hn1 (r := r) (by omega) (by split <;> omega)
      simp only at h ⊢
      exact ⟨h.1, by rw [h.2]; omega⟩
    · -- the last day of a leap year
      rw [if_pos (.inl rfl)]
      have h := ymd2ord_cycle n400 h100 h4 (le_refl 3) (r := 365) (by omega)
        (by rw [if_pos (by omega)]; decide)
      rw [show decide (3 = 3 ∧ (n4 ≠ 24 ∨ n100 = 3)) = true by simp; omega, hlast] at h
      simp only at h
      rw [show n400 * 400 + 1 + n100 * 100 + n4 * 4 + 4 - 1 =
        n400 * 400 + 1 + n100 * 100 + n4 * 4 + 3 by omega]
      exact ⟨h.1, by rw [h.2]; omega⟩
  · -- the last day of a cycle
    rw [if_pos (.inr rfl)]
    have h := ymd2ord_cycle n400 (le_refl 3) (le_refl 24) (le_refl 3) (r := 365)
      (by omega) (by decide)
    rw [show decide (3 = 3 ∧ (24 ≠ 24 ∨ 3 = 3)) = true by decide, hlast] at h
    simp only at h
    rw [show n400 * 400 + 1 + 4 * 100 + 0 * 4 + 0 - 1 = n400 * 400 + 1 + 3 * 100 + 24 * 4 + 3 by
      omega]
    exact ⟨h.1, by rw [h.2]; omega⟩

/-! ## Scanning -/

/-- `k` decimal digits. -/
def readDigits : ℕ → ℕ → Str → Option (ℕ × Str)
  | 0, acc, s => some (acc, s)
  | k + 1, acc, c :: s =>
    if 48 ≤ c.val ∧ c.val < 58 then readDigits k (acc * 10 + (c.val - 48)) s else none
  | _ + 1, _, [] => none

def expect (t : String) (s : Str) : Option Str :=
  if py t <+: s then some (s.drop (py t).length) else none

theorem readDigits_padded (k acc n : ℕ) (s : Str) :
    readDigits k acc (padded k n ++ s) = some (acc * 10 ^ k + n % 10 ^ k, s) := by
  induction k generalizing acc with
  | zero => simp [readDigits, padded, Nat.mod_one]
  | succ k ih =>
    have hlt : n / 10 ^ k % 10 < 10 := Nat.mod_lt _ (by decide)
    have hval := digit_val hlt
    rw [padded, List.cons_append, readDigits, if_pos (by omega), ih, hval]
    have hmod : n % (10 ^ k * 10) = n % 10 ^ k + 10 ^ k * (n / 10 ^ k % 10) := Nat.mod_mul
    simp only [Option.some.injEq, Prod.mk.injEq, and_true, Nat.add_sub_cancel_left, pow_succ, hmod]
    ring

theorem readDigits_bind {β : Type} {k n : ℕ} (h : n < 10 ^ k) (s : Str)
    (f : ℕ × Str → Option β) : (readDigits k 0 (padded k n ++ s) >>= f) = f (n, s) := by
  rw [readDigits_padded, Nat.mod_eq_of_lt h, Nat.zero_mul, Nat.zero_add]
  rfl

theorem expect_bind {β : Type} (t : String) (s : Str) (f : Str → Option β) :
    (expect t (py t ++ s) >>= f) = f s := by
  simp [expect]

/-- `YYYY-MM-DDTHH:MM:SS.ffffffZ` -/
def readZulu (s : Str) : Option DateTime := do
  let (year, s) ← readDigits 4 0 s
  let s ← expect "-" s
  let (month, s) ← readDigits 2 0 s
  let s ← expect "-" s
  let (day, s) ← readDigits 2 0 s
  let s ← expect "T" s
  let (hour, s) ← readDigits 2 0 s
  let s ← expect ":" s
  let (minute, s) ← readDigits 2 0 s
  let s ← expect ":" s
  let (second, s) ← readDigits 2 0 s
  let s ← expect "." s
  let (micro, s) ← readDigits 6 0 s
  let s ← expect "Z" s
  if IsDate year month day ∧ hour < 24 ∧ minute < 60 ∧ second < 60 ∧ s = [] then
    DateTime.ofInstant ((ymd2ord year month day - 1) * 86400000000 + hour * 3600000000 +
      minute * 60000000 + second * 1000000 + micro : ℕ)
  else none

theorem readZulu_fields {year month day hour minute second micro : ℕ} (hdate : IsDate year month day)
    (hhour : hour < 24) (hminute : minute < 60) (hsecond : second < 60) (hmicro : micro < 10 ^ 6) :
    readZulu (padded 4 year ++ (py "-" ++ (padded 2 month ++ (py "-" ++ (padded 2 day ++ (py "T" ++
      (padded 2 hour ++ (py ":" ++ (padded 2 minute ++ (py ":" ++ (padded 2 second ++ (py "." ++
        (padded 6 micro ++ py "Z"))))))))))))) =
      DateTime.ofInstant ((ymd2ord year month day - 1) * 86400000000 + hour * 3600000000 +
        minute * 60000000 + second * 1000000 + micro : ℕ) := by
  have hday : day < 10 ^ 2 := by
    have := daysInMonth_le (isLeap year) month hdate.2.2.2.1
    have := hdate.2.2.2.2.2
    omega
  have hyear : year < 10 ^ 4 := by
    have := hdate.2.1
    omega
  have hmonth : month < 10 ^ 2 := by
    have := hdate.2.2.2.1
    omega
  have hend : py "Z" = py "Z" ++ [] := by decide
  rw [hend]
  refine (readDigits_bind hyear _ _).trans ?_
  refine (expect_bind "-" _ _).trans ?_
  refine (readDigits_bind hmonth _ _).trans ?_
  refine (expect_bind "-" _ _).trans ?_
  refine (readDigits_bind hday _ _).trans ?_
  refine (expect_bind "T" _ _).trans ?_
  refine (readDigits_bind (show hour < 10 ^ 2 by omega) _ _).trans ?_
  refine (expect_bind ":" _ _).trans ?_
  refine (readDigits_bind (show minute < 10 ^ 2 by omega) _ _).trans ?_
  refine (expect_bind ":" _ _).trans ?_
  refine (readDigits_bind (show second < 10 ^ 2 by omega) _ _).trans ?_
  refine (expect_bind "." _ _).trans ?_
  refine (readDigits_bind hmicro _ _).trans ?_
  refine (expect_bind "Z" _ _).trans ?_
  exact if_pos ⟨hdate, hhour, hminute, hsecond, rfl⟩

theorem readZulu_zuluText {t : DateTime} (h : t.IsUtc) : readZulu (zuluText t) = some t := by
  have hrange := t.inRange
  unfold limit at hrange
  have hdate := @ymd2ord_ord2ymd (t.micros / 86400000000 + 1) (by omega) (by omega)
  have htext : zuluText t = dateText (t.micros / 86400000000 + 1) ++ py "T" ++
      timeText (t.micros % 86400000000) ++ py "Z" := rfl
  rw [htext]
  generalize hday : t.micros / 86400000000 = day at *
  generalize htime : t.micros % 86400000000 = time
  have hlt : time < 86400000000 := by omega
  simp only [dateText, timeText, List.append_assoc]
  generalize ord2ymd (day + 1) = date at hdate
  rw [readZulu_fields hdate.1 (by omega) (by omega) (by omega) (by omega), hdate.2,
    ← h.astimezoneUtc, DateTime.astimezoneUtc, h.instant_eq]
  congr 1
  omega

/-- `datetime.fromisoformat(s)`; `none` is its `ValueError`. -/
def fromisoformat (P : Python) (s : Str) : Option DateTime :=
  match readZulu s with
  | some t => some t
  | none => P.otherIsoformat s

/-- **A UTC value is read back from its text.** -/
@[simp] theorem fromisoformat_zuluText {P : Python} {t : DateTime} (h : t.IsUtc) :
    fromisoformat P (zuluText t) = some t := by
  rw [fromisoformat, readZulu_zuluText h]

end HeyKevin.L1.Datetime
