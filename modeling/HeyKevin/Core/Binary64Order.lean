import HeyKevin.Core.Binary64
/-!
# The order of doubles

Rounding never turns an order around, and where a result is a double nothing
is rounded: in particular when a natural number is taken from a larger double
below 2^53.

* `rnd_mono`: rounding is monotone.
* `rnd_sub_natCast`: that subtraction is exact.
-/
namespace HeyKevin.Core.Binary64

theorem roundHalfEven_mono {x y : ℚ} (h : x ≤ y) : roundHalfEven x ≤ roundHalfEven y := by
  rcases (Int.floor_le_floor h).lt_or_eq with hlt | heq
  · have hx : roundHalfEven x ≤ ⌊x⌋ + 1 := by
      rcases roundHalfEven_cases x with hx | hx <;> omega
    have hy : ⌊y⌋ ≤ roundHalfEven y := by
      rcases roundHalfEven_cases y with hy | hy <;> omega
    omega
  · unfold roundHalfEven
    rw [heq]
    generalize ⌊y⌋ = f
    rcases lt_trichotomy (x - f) (1 / 2) with hx | hx | hx
    · rw [if_pos hx]
      split_ifs <;> omega
    · rcases (show 1 / 2 ≤ y - f by linarith).eq_or_lt with hy | hy
      · rw [hx, ← hy]
      · rw [if_neg (not_lt.mpr hy.le), if_pos hy]
        split_ifs <;> omega
    · have hy : 1 / 2 < y - f := by linarith
      rw [if_neg (not_lt.mpr hx.le), if_pos hx, if_neg (not_lt.mpr hy.le), if_pos hy]

/-- Rounding is monotone. -/
theorem rnd_mono {q r : ℚ} (h : q ≤ r) : rnd q ≤ rnd r := by
  rcases le_or_gt (rnd q) r with hle | hlt
  · exact (Double.ofRat q).le_rnd_of_le hle
  -- `r` lies between `q` and its rounding, so both have one weight
  have hq : q ≠ 0 := by
    rintro rfl
    rw [rnd_zero] at hlt
    exact absurd h (not_le.mpr hlt)
  obtain ⟨h1, h2⟩ := log_bounds hq
  obtain ⟨h3, h4⟩ := abs_rnd_bounds hq
  have hulp : ulp r = ulp q := by
    rcases hq.lt_or_gt with hneg | hpos
    · have hrnd := rnd_nonpos hneg.le
      have hr : r < 0 := hlt.trans_le hrnd
      refine ulp_eq_of_bounds hr.ne ?_ ?_
      · rw [abs_of_nonpos hrnd] at h3
        rw [abs_of_neg hr]
        linarith
      · rw [abs_of_neg hneg] at h2 ⊢
        rw [abs_of_neg hr]
        linarith
    · have hr : 0 < r := hpos.trans_le h
      refine ulp_eq_of_bounds hr.ne' ?_ ?_
      · rw [abs_of_pos hpos] at h1 ⊢
        rw [abs_of_pos hr]
        exact h1.trans h
      · rw [abs_of_nonneg (rnd_nonneg hpos.le)] at h4
        rw [abs_of_pos hr]
        exact hlt.trans_le h4
  have hu := ulp_pos q
  have hround : roundHalfEven (q / ulp q) ≤ roundHalfEven (r / ulp q) :=
    roundHalfEven_mono (div_le_div_of_nonneg_right h hu.le)
  rw [rnd, rnd, hulp]
  exact mul_le_mul_of_nonneg_right (by exact_mod_cast hround) hu.le

theorem rnd_neg_of_neg {q : ℚ} (h : q < 0) : rnd q < 0 := by
  refine (rnd_nonpos h.le).lt_of_ne fun hzero => ?_
  have hbound := (abs_rnd_bounds h.ne).1
  rw [hzero, abs_zero] at hbound
  exact absurd hbound (not_le.mpr (two_zpow_pos _))

/-- A multiple of a weight no larger than its own is a double. -/
theorem rnd_of_mul_two_zpow {q : ℚ} {n e : ℤ} (hq : q = n * 2 ^ e)
    (hlog : Int.log 2 |q| - 52 ≤ e) : rnd q = q := by
  obtain ⟨k, hk⟩ := Int.eq_ofNat_of_zero_le (show 0 ≤ e - (Int.log 2 |q| - 52) by omega)
  refine rnd_of_mul_ulp (n := n * 2 ^ k) ?_
  have hpow : (2 : ℚ) ^ e = 2 ^ k * ulp q := by
    rw [ulp, ← zpow_natCast, ← zpow_add₀ (by norm_num), ← hk]
    congr 1
    ring
  calc q = n * 2 ^ e := hq
    _ = n * (2 ^ k * ulp q) := by rw [hpow]
    _ = ((n * 2 ^ k : ℤ) : ℚ) * ulp q := by push_cast; ring

/-- A natural number below it is taken from a double below 2^53 exactly. -/
theorem rnd_sub_natCast {s : Double} {w : ℕ} (hs : s.val < 2 ^ 53) (hw : (w : ℚ) ≤ s.val) :
    rnd (s.val - w) = s.val - w := by
  rcases hw.lt_or_eq with hlt | heq
  swap
  · rw [heq, sub_self, rnd_zero]
  have hspos : 0 < s.val := lt_of_le_of_lt (Nat.cast_nonneg w) hlt
  have hlog : Int.log 2 s.val < 53 :=
    (Int.lt_zpow_iff_log_lt (by decide) hspos).mp (by exact_mod_cast hs)
  obtain ⟨k, hk⟩ := Int.eq_ofNat_of_zero_le (show 0 ≤ 52 - Int.log 2 s.val by omega)
  have hulp : ulp s.val = 2 ^ (Int.log 2 s.val - 52) := by rw [ulp, abs_of_pos hspos]
  have hone : ((2 ^ k : ℤ) : ℚ) * ulp s.val = 1 := by
    rw [hulp, show Int.log 2 s.val - 52 = -(k : ℤ) by omega]
    push_cast
    rw [← zpow_natCast, ← zpow_add₀ (by norm_num)]
    simp
  have hself : s.val = roundHalfEven (s.val / ulp s.val) * ulp s.val := by
    have hdouble := s.isDouble
    rw [rnd] at hdouble
    exact hdouble.symm
  have hdiff : s.val - w =
      ((roundHalfEven (s.val / ulp s.val) - w * 2 ^ k : ℤ) : ℚ) * 2 ^ (Int.log 2 s.val - 52) := by
    rw [← hulp, Int.cast_sub, Int.cast_mul, sub_mul, ← hself, mul_assoc, hone, mul_one,
      Int.cast_natCast]
  refine rnd_of_mul_two_zpow hdiff ?_
  have hpos : 0 < s.val - w := sub_pos.mpr hlt
  have hle : s.val - w ≤ s.val := sub_le_self _ (Nat.cast_nonneg w)
  have hmono : Int.log 2 (s.val - w) ≤ Int.log 2 s.val := Int.log_mono_right hpos hle
  rw [abs_of_pos hpos]
  omega

theorem Double.val_injective : Function.Injective Double.val := by
  rintro ⟨q, _⟩ ⟨_, _⟩ rfl
  rfl

instance : LinearOrder Double := LinearOrder.lift' Double.val Double.val_injective

theorem Double.le_def {a b : Double} : a ≤ b ↔ a.val ≤ b.val := Iff.rfl

theorem Double.lt_def {a b : Double} : a < b ↔ a.val < b.val := Iff.rfl

theorem Double.ofRat_le_ofRat {q r : ℚ} (h : q ≤ r) : Double.ofRat q ≤ Double.ofRat r := rnd_mono h

end HeyKevin.Core.Binary64
