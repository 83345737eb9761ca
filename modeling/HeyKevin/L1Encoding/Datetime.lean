import HeyKevin.L1Encoding.Text
import Mathlib.Tactic.Common
/-!
# Aware datetimes

A `datetime` is a wall-clock reading in microseconds since
0001-01-01T00:00:00, inside the range of the type, and its `utcoffset()`
(`none` for a naive value). Readings whose offset depends on `fold` are left
out: the program rejects them, because such a value never compares equal to
its own UTC form.

`serialize` is the program's canonical text of a UTC value,
`isoformat(timespec="microseconds")` with `+00:00` replaced by `Z`; the
calendar is CPython's `_ord2ymd`.
-/
namespace HeyKevin.L1.Datetime

open L1.Text

/-- One past `datetime.max`: 9999 years of microseconds. -/
def limit : ℕ := 3652059 * 86400000000

/-- A timestamp that no `datetime` holds cannot be built. -/
structure DateTime where
  micros : ℕ
  inRange : micros < limit
  offset : Option ℤ
deriving DecidableEq

namespace DateTime

def instant (t : DateTime) : ℤ := t.micros - t.offset.getD 0

def ofInstant (i : ℤ) : Option DateTime :=
  if h : 0 ≤ i ∧ i < limit then some ⟨i.toNat, by omega, some 0⟩ else none

/-- `t.astimezone(UTC)`; `none` is its `OverflowError`. -/
def astimezoneUtc (t : DateTime) : Option DateTime := ofInstant t.instant

/-- `t + timedelta(...)`; `none` is its `OverflowError`. -/
def add (t : DateTime) (delta : ℤ) : Option DateTime :=
  if h : 0 ≤ t.micros + delta ∧ t.micros + delta < limit then
    some ⟨(t.micros + delta).toNat, by omega, t.offset⟩
  else none

/-- So many minutes after `datetime.min`, in UTC. -/
def ofMinutes (n : ℕ) : DateTime := ⟨n * 60000000 % limit, Nat.mod_lt _ (by decide), some 0⟩

def IsUtc (t : DateTime) : Prop := t.offset = some 0

instance (t : DateTime) : Decidable t.IsUtc := inferInstanceAs (Decidable (_ = _))

theorem ofInstant_eq_some {i : ℤ} {t : DateTime} (h : ofInstant i = some t) :
    t.IsUtc ∧ t.instant = i := by
  unfold ofInstant at h
  split at h
  · cases h
    refine ⟨rfl, ?_⟩
    simp only [instant, Option.getD_some]
    omega
  · cases h

theorem IsUtc.instant_eq {t : DateTime} (h : t.IsUtc) : t.instant = t.micros := by
  simp [instant, show t.offset = some 0 from h]

theorem IsUtc.ext {t u : DateTime} (ht : t.IsUtc) (hu : u.IsUtc) (h : t.instant = u.instant) :
    t = u := by
  rw [ht.instant_eq, hu.instant_eq] at h
  obtain ⟨m, _, o⟩ := t
  obtain ⟨m', _, o'⟩ := u
  simp only [IsUtc] at ht hu h
  subst ht hu
  obtain rfl : m = m' := by omega
  rfl

theorem astimezoneUtc_eq_some {t u : DateTime} (h : t.astimezoneUtc = some u) :
    u.IsUtc ∧ u.instant = t.instant := ofInstant_eq_some h

@[simp] theorem IsUtc.astimezoneUtc {t : DateTime} (h : t.IsUtc) : t.astimezoneUtc = some t := by
  have hi := h.instant_eq
  have hr := t.inRange
  unfold DateTime.astimezoneUtc ofInstant
  rw [dif_pos (by omega)]
  refine congrArg some (IsUtc.ext rfl h ?_)
  simp only [instant, Option.getD_some] at hi ⊢
  omega

theorem add_eq_some {t u : DateTime} {d : ℤ} (h : t.add d = some u) :
    u.offset = t.offset ∧ u.instant = t.instant + d := by
  unfold add at h
  split at h
  · cases h
    refine ⟨rfl, ?_⟩
    simp only [instant]
    omega
  · cases h

end DateTime

/-- `datetime` values with a `utcoffset()`; Python orders them by the instant they denote. -/
abbrev Aware := { t : DateTime // t.offset.isSome = true }

def Aware.instant (t : Aware) : ℤ := t.val.instant

/-! ## The calendar -/

/-- mirrors CPython `datetime._DAYS_BEFORE_MONTH` -/
def daysBeforeMonthTable : List ℕ := [0, 0, 31, 59, 90, 120, 151, 181, 212, 243, 273, 304, 334]

def daysInMonthTable : List ℕ := [0, 31, 28, 31, 30, 31, 30, 31, 31, 30, 31, 30, 31]

/-- Month and day of the zero-based day `n` of a year.
mirrors the second half of CPython `datetime._ord2ymd` -/
def monthDay (leap : Bool) (n : ℕ) : ℕ × ℕ :=
  let month := (n + 50) / 32
  let preceding := daysBeforeMonthTable.getD month 0 + (if month > 2 ∧ leap then 1 else 0)
  if preceding > n then
    let month' := month - 1
    let inMonth := daysInMonthTable.getD month' 0 + (if month' = 2 ∧ leap then 1 else 0)
    (month', n - (preceding - inMonth) + 1)
  else (month, n - preceding + 1)

/-- Year, month and day of the proleptic ordinal `ord`, 1 for 0001-01-01.
mirrors CPython `datetime._ord2ymd` -/
def ord2ymd (ord : ℕ) : ℕ × ℕ × ℕ :=
  let n := ord - 1
  let n400 := n / 146097
  let n := n % 146097
  let n100 := n / 36524
  let n := n % 36524
  let n4 := n / 1461
  let n := n % 1461
  let n1 := n / 365
  let n := n % 365
  let year := n400 * 400 + 1 + n100 * 100 + n4 * 4 + n1
  if n1 = 4 ∨ n100 = 4 then (year - 1, 12, 31)
  else
    let leap := n1 = 3 ∧ (n4 ≠ 24 ∨ n100 = 3)
    (year, monthDay leap n)

/-! ## Text -/

/-- `n` as `k` zero-padded digits. -/
def padded : ℕ → ℕ → Str
  | 0, _ => []
  | k + 1, n => digit (n / 10 ^ k % 10) :: padded k n

def dateText (ord : ℕ) : Str :=
  let (y, m, d) := ord2ymd ord
  padded 4 y ++ py "-" ++ padded 2 m ++ py "-" ++ padded 2 d

def timeText (micros : ℕ) : Str :=
  padded 2 (micros / 3600000000) ++ py ":" ++ padded 2 (micros / 60000000 % 60) ++ py ":" ++
    padded 2 (micros / 1000000 % 60) ++ py "." ++ padded 6 (micros % 1000000)

def secondsText (micros : ℕ) : Str :=
  padded 2 (micros / 1000000 % 60) ++
    if micros % 1000000 = 0 then [] else py "." ++ padded 6 (micros % 1000000)

def hoursMinutesText (micros : ℕ) : Str :=
  padded 2 (micros / 3600000000) ++ py ":" ++ padded 2 (micros / 60000000 % 60)

/-- mirrors CPython `datetime._format_offset` -/
def offsetText (offset : ℤ) : Str :=
  let micros := offset.natAbs
  (if offset < 0 then py "-" else py "+") ++ hoursMinutesText micros ++
    if micros % 60000000 = 0 then [] else py ":" ++ secondsText micros

/-- `t.isoformat()` -/
def isoformat (t : DateTime) : Str :=
  dateText (t.micros / 86400000000 + 1) ++ py "T" ++ hoursMinutesText (t.micros % 86400000000) ++
    py ":" ++ secondsText (t.micros % 86400000000) ++ (t.offset.map offsetText).getD []

/-- `t.isoformat(timespec="microseconds").replace("+00:00", "Z")` of a UTC value.
mirrors app/services/service_request.py:765-767 -/
def zuluText (t : DateTime) : Str :=
  dateText (t.micros / 86400000000 + 1) ++ py "T" ++ timeText (t.micros % 86400000000) ++ py "Z"

example : zuluText ⟨63071999999999999, by decide, some 0⟩ = py "1999-09-03T23:59:59.999999Z" := by
  decide

end HeyKevin.L1.Datetime
