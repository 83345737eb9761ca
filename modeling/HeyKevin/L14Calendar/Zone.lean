import HeyKevin.L1Encoding.IsoFormat
/-!
# Time zones

What Python's `tzinfo` says of a wall clock reading and of an instant. A zone
may change its offset at any time and in any direction: readings can be
missing or occur twice, and `fold` tells two such readings apart.

* `astimezone_instant`: conversion keeps the instant.
* `Zone.transition`: a zone that changes its offset once.
-/
namespace HeyKevin.L14

open L1 L1.Datetime

/-- A `ZoneInfo`: readings in microseconds since 0001-01-01, second occurrences with `fold`. -/
structure Zone where
  /-- `datetime.utcoffset()` of a reading -/
  utcoffset : ℤ → Bool → ℤ
  /-- `ZoneInfo.fromutc`: the reading at an instant, and its `fold` -/
  fromutc : ℤ → ℤ × Bool
  utcoffset_valid : ∀ wall fold, (utcoffset wall fold).natAbs < day
  fromutc_valid : ∀ i, (fromutc i).1 - utcoffset (fromutc i).1 (fromutc i).2 = i

namespace Zone

variable (z : Zone)

/-- `t.replace(tzinfo=z)`, and `datetime.combine(..., tzinfo=z)` -/
def replaceTzinfo (t : DateTime) : DateTime :=
  ⟨t.micros, t.inRange, some (z.utcoffset t.micros false)⟩

/-- The reading at an instant; `none` where it leaves the range. -/
def ofInstant (i : ℤ) : Option DateTime :=
  if h : 0 ≤ (z.fromutc i).1 ∧ (z.fromutc i).1 < limit then
    some ⟨(z.fromutc i).1.toNat, by omega, some (z.utcoffset (z.fromutc i).1 (z.fromutc i).2)⟩
  else none

/-- `t.astimezone(z)` of an aware value; `none` is its `OverflowError`, of which there are two. -/
def astimezone (t : DateTime) : Option DateTime :=
  t.astimezoneUtc.bind fun u => z.ofInstant u.instant

@[simp] theorem replaceTzinfo_micros (t : DateTime) : (z.replaceTzinfo t).micros = t.micros := rfl

@[simp] theorem replaceTzinfo_offset (t : DateTime) :
    (z.replaceTzinfo t).offset = some (z.utcoffset t.micros false) := rfl

theorem replaceTzinfo_offsetValid (t : DateTime) : (z.replaceTzinfo t).OffsetValid := by
  intro o ho
  obtain rfl := Option.some.inj ho
  exact z.utcoffset_valid _ _

variable {z}

theorem ofInstant_eq_some {i : ℤ} {t : DateTime} (h : z.ofInstant i = some t) :
    t.instant = i ∧ t.OffsetValid ∧ t.offset.isSome = true := by
  unfold ofInstant at h
  split at h
  · rename_i hrange
    obtain rfl := Option.some.inj h
    refine ⟨?_, ?_, rfl⟩
    · have hvalid := z.fromutc_valid i
      simp only [DateTime.instant, Option.getD_some]
      omega
    · intro o ho
      obtain rfl := Option.some.inj ho
      exact z.utcoffset_valid _ _
  · cases h

theorem ofInstant_micros {i : ℤ} {t : DateTime} (h : z.ofInstant i = some t) :
    (t.micros : ℤ) = (z.fromutc i).1 := by
  unfold ofInstant at h
  split at h
  · obtain rfl := Option.some.inj h
    simp only
    omega
  · cases h

theorem astimezone_eq_some {t u : DateTime} (h : z.astimezone t = some u) :
    u.instant = t.instant ∧ u.OffsetValid ∧ u.offset.isSome = true := by
  obtain ⟨v, hv, hu⟩ := Option.bind_eq_some_iff.mp h
  have hinstant := (DateTime.astimezoneUtc_eq_some hv).2
  obtain ⟨hsame, hvalid, hsome⟩ := ofInstant_eq_some hu
  exact ⟨hsame.trans hinstant, hvalid, hsome⟩

theorem astimezone_congr {t u : DateTime} (h : t.instant = u.instant) :
    z.astimezone t = z.astimezone u := by
  unfold astimezone DateTime.astimezoneUtc
  rw [h]

/-! ## Concrete zones -/

def fixed (offset : ℤ) (h : offset.natAbs < day) : Zone where
  utcoffset := fun _ _ => offset
  fromutc := fun i => (i + offset, false)
  utcoffset_valid := fun _ _ => h
  fromutc_valid := fun i => by omega

/-- A zone that changes its offset at one instant, as `zoneinfo` reads it: in a gap the first
offset counts, and a repeated reading has the second one under `fold`. -/
def transition (change before after : ℤ) (hbefore : before.natAbs < day) (hafter : after.natAbs < day) :
    Zone where
  utcoffset := fun wall fold =>
    if wall < change + (if fold then min before after else max before after) then before else after
  fromutc := fun i =>
    if i < change then (i + before, false)
    else (i + after, decide (after < before ∧ i < change + (before - after)))
  utcoffset_valid := fun wall fold => by split_ifs <;> assumption
  fromutc_valid := by
    intro i
    by_cases hi : i < change
    · have hreading : i + before < change + max before after := by omega
      simp only [if_pos hi, Bool.false_eq_true, if_false, if_pos hreading]
      omega
    · simp only [if_neg hi]
      by_cases hfold : after < before ∧ i < change + (before - after)
      · have hreading : ¬ i + after < change + min before after := by omega
        simp only [decide_eq_true hfold, if_true, if_neg hreading]
        omega
      · have hreading : ¬ i + after < change + max before after := by omega
        simp only [decide_eq_false hfold, Bool.false_eq_true, if_false, if_neg hreading]
        omega

end Zone

end HeyKevin.L14
