import Mathlib.Data.Int.Log
import Mathlib.Data.Rat.Floor
import Mathlib.Tactic.Linarith
import Mathlib.Tactic.FieldSimp
import Mathlib.Tactic.Ring
/-!
# Rounding to binary64

`rnd q` is the double nearest to the rational `q`, ties to even: 53
significant bits and an unbounded exponent. Overflow to infinity and the
loss of precision of subnormals are left out; neither touches a comparison
of clock readings.

* `Double`: a rational that is its own rounding, so a value that no double
  represents cannot be built.
* `rnd_rnd`: a rounded result is a double.
* `intCast_le_rnd`: an integer up to 2^53 that is below a rational is below
  its rounding. This is what a floor after a float division needs, and it
  stops at 2^53.
-/
namespace HeyKevin.Core.Binary64

/-- The integer nearest to `x`, ties to even. -/
def roundHalfEven (x : ℚ) : ℤ :=
  if x - ⌊x⌋ < 1 / 2 then ⌊x⌋
  else if 1 / 2 < x - ⌊x⌋ then ⌊x⌋ + 1
  else if ⌊x⌋ % 2 = 0 then ⌊x⌋ else ⌊x⌋ + 1

/-- The weight of the last of the 53 significant bits of `q`. -/
def ulp (q : ℚ) : ℚ := 2 ^ (Int.log 2 |q| - 52)

def rnd (q : ℚ) : ℚ := roundHalfEven (q / ulp q) * ulp q

theorem roundHalfEven_cases (x : ℚ) : roundHalfEven x = ⌊x⌋ ∨ roundHalfEven x = ⌊x⌋ + 1 := by
  unfold roundHalfEven
  split
  · exact .inl rfl
  split
  · exact .inr rfl
  split
  · exact .inl rfl
  · exact .inr rfl

@[simp] theorem roundHalfEven_intCast (n : ℤ) : roundHalfEven n = n := by
  unfold roundHalfEven
  rw [if_pos (by simp), Int.floor_intCast]

theorem le_roundHalfEven {n : ℤ} {x : ℚ} (h : (n : ℚ) ≤ x) : n ≤ roundHalfEven x := by
  have hf : n ≤ ⌊x⌋ := Int.le_floor.mpr h
  rcases roundHalfEven_cases x with h | h <;> omega

theorem roundHalfEven_le {n : ℤ} {x : ℚ} (h : x ≤ n) : roundHalfEven x ≤ n := by
  have hf : ⌊x⌋ ≤ n := by
    have := Int.floor_le x
    exact_mod_cast this.trans h
  rcases eq_or_lt_of_le hf with he | hlt
  · have hx : x = (⌊x⌋ : ℚ) := le_antisymm (by rw [he]; exact h) (Int.floor_le x)
    rw [hx, roundHalfEven_intCast]
    exact hf
  · rcases roundHalfEven_cases x with h | h <;> omega

theorem two_zpow_pos (e : ℤ) : (0 : ℚ) < 2 ^ e := zpow_pos (by norm_num) e

theorem ulp_pos (q : ℚ) : 0 < ulp q := two_zpow_pos _

@[simp] theorem rnd_zero : rnd 0 = 0 := by simp [rnd, roundHalfEven]

theorem mul_ulp_le_rnd {q : ℚ} {n : ℤ} (h : n * ulp q ≤ q) : n * ulp q ≤ rnd q := by
  have hu := ulp_pos q
  have : n ≤ roundHalfEven (q / ulp q) := le_roundHalfEven ((le_div_iff₀ hu).mpr h)
  unfold rnd
  have : (n : ℚ) ≤ roundHalfEven (q / ulp q) := by exact_mod_cast this
  exact mul_le_mul_of_nonneg_right this hu.le

theorem rnd_le_mul_ulp {q : ℚ} {n : ℤ} (h : q ≤ n * ulp q) : rnd q ≤ n * ulp q := by
  have hu := ulp_pos q
  have : roundHalfEven (q / ulp q) ≤ n := roundHalfEven_le ((div_le_iff₀ hu).mpr h)
  unfold rnd
  have : (roundHalfEven (q / ulp q) : ℚ) ≤ n := by exact_mod_cast this
  exact mul_le_mul_of_nonneg_right this hu.le

theorem rnd_nonneg {q : ℚ} (h : 0 ≤ q) : 0 ≤ rnd q := by
  have := mul_ulp_le_rnd (q := q) (n := 0) (by simpa using h)
  simpa using this

theorem rnd_nonpos {q : ℚ} (h : q ≤ 0) : rnd q ≤ 0 := by
  have := rnd_le_mul_ulp (q := q) (n := 0) (by simpa using h)
  simpa using this

theorem rnd_of_mul_ulp {q : ℚ} {n : ℤ} (h : q = n * ulp q) : rnd q = q := by
  refine le_antisymm ?_ ?_
  · calc rnd q ≤ n * ulp q := rnd_le_mul_ulp h.le
      _ = q := h.symm
  · calc q = n * ulp q := h
      _ ≤ rnd q := mul_ulp_le_rnd h.ge

theorem log_bounds {q : ℚ} (hq : q ≠ 0) :
    (2 : ℚ) ^ Int.log 2 |q| ≤ |q| ∧ |q| < 2 ^ (Int.log 2 |q| + 1) :=
  ⟨by exact_mod_cast Int.zpow_log_le_self (b := 2) (by decide) (abs_pos.mpr hq),
    by exact_mod_cast Int.lt_zpow_succ_log_self (b := 2) (by decide) |q|⟩

theorem ulp_mul_two_pow (q : ℚ) (k : ℤ) : ulp q * 2 ^ k = 2 ^ (Int.log 2 |q| - 52 + k) := by
  rw [ulp, ← zpow_add₀ (by norm_num)]

/-- Two numbers of one binade have one weight. -/
theorem ulp_eq_of_bounds {q r : ℚ} (hr : r ≠ 0) (h1 : (2 : ℚ) ^ Int.log 2 |q| ≤ |r|)
    (h2 : |r| < 2 ^ (Int.log 2 |q| + 1)) : ulp r = ulp q := by
  have hr' : 0 < |r| := abs_pos.mpr hr
  have hle : Int.log 2 |q| ≤ Int.log 2 |r| :=
    (Int.zpow_le_iff_le_log (by decide) hr').mp (by exact_mod_cast h1)
  have hlt : Int.log 2 |r| < Int.log 2 |q| + 1 :=
    (Int.lt_zpow_iff_log_lt (by decide) hr').mp (by exact_mod_cast h2)
  rw [ulp, ulp, show Int.log 2 |r| = Int.log 2 |q| by omega]

theorem abs_rnd_bounds {q : ℚ} (hq : q ≠ 0) :
    (2 : ℚ) ^ Int.log 2 |q| ≤ |rnd q| ∧ |rnd q| ≤ 2 ^ (Int.log 2 |q| + 1) := by
  obtain ⟨h1, h2⟩ := log_bounds hq
  have e1 : ((2 ^ 52 : ℤ) : ℚ) * ulp q = 2 ^ Int.log 2 |q| := by
    have := ulp_mul_two_pow q 52
    rw [sub_add_cancel] at this
    rw [← this]; push_cast; ring
  have e2 : ((2 ^ 53 : ℤ) : ℚ) * ulp q = 2 ^ (Int.log 2 |q| + 1) := by
    have := ulp_mul_two_pow q 53
    rw [show Int.log 2 |q| - 52 + 53 = Int.log 2 |q| + 1 by ring] at this
    rw [← this]; push_cast; ring
  rcases le_total 0 q with hs | hs
  · rw [abs_of_nonneg hs] at h1 h2 ⊢
    rw [abs_of_nonneg hs] at e1 e2
    have l1 := mul_ulp_le_rnd (q := q) (n := 2 ^ 52) (by rw [e1]; exact h1)
    have l2 := rnd_le_mul_ulp (q := q) (n := 2 ^ 53) (by rw [e2]; exact h2.le)
    have : 0 ≤ rnd q := (two_zpow_pos _).le.trans (e1 ▸ l1)
    rw [abs_of_nonneg this]
    exact ⟨e1 ▸ l1, e2 ▸ l2⟩
  · rw [abs_of_nonpos hs] at h1 h2 ⊢
    rw [abs_of_nonpos hs] at e1 e2
    have l1 := rnd_le_mul_ulp (q := q) (n := -2 ^ 52) (by
      rw [show ((-2 ^ 52 : ℤ) : ℚ) * ulp q = -(((2 ^ 52 : ℤ) : ℚ) * ulp q) by push_cast; ring, e1]
      linarith)
    have l2 := mul_ulp_le_rnd (q := q) (n := -2 ^ 53) (by
      rw [show ((-2 ^ 53 : ℤ) : ℚ) * ulp q = -(((2 ^ 53 : ℤ) : ℚ) * ulp q) by push_cast; ring, e2]
      linarith)
    rw [show ((-2 ^ 52 : ℤ) : ℚ) * ulp q = -(((2 ^ 52 : ℤ) : ℚ) * ulp q) by push_cast; ring, e1] at l1
    rw [show ((-2 ^ 53 : ℤ) : ℚ) * ulp q = -(((2 ^ 53 : ℤ) : ℚ) * ulp q) by push_cast; ring, e2] at l2
    have hp := two_zpow_pos (Int.log 2 (-q))
    have hp' := two_zpow_pos (Int.log 2 (-q) + 1)
    rw [abs_of_nonpos (by linarith)]
    exact ⟨by linarith, by linarith⟩

/-- Rounding is idempotent: its results are doubles. -/
theorem rnd_rnd (q : ℚ) : rnd (rnd q) = rnd q := by
  by_cases hq : q = 0
  · rw [hq, rnd_zero, rnd_zero]
  obtain ⟨h1, h2⟩ := abs_rnd_bounds hq
  have hr : rnd q ≠ 0 := by
    intro h
    rw [h, abs_zero] at h1
    exact absurd h1 (not_le.mpr (two_zpow_pos _))
  rcases h2.lt_or_eq with hlt | heq
  · exact rnd_of_mul_ulp (n := roundHalfEven (q / ulp q)) (by
      rw [ulp_eq_of_bounds hr h1 hlt]; rfl)
  · -- the rounding carried into the next binade, where it is a power of two
    have hu : ulp (rnd q) = 2 ^ (Int.log 2 |q| + 1 - 52) := by
      rw [ulp, heq]
      congr 2
      exact_mod_cast Int.log_zpow (R := ℚ) (b := 2) (by decide) (Int.log 2 |q| + 1)
    have hm : |rnd q| = ((2 ^ 52 : ℤ) : ℚ) * ulp (rnd q) := by
      have : ((2 ^ 52 : ℤ) : ℚ) = 2 ^ (52 : ℤ) := by norm_num
      rw [heq, hu, this, ← zpow_add₀ (by norm_num), add_sub_cancel]
    rcases abs_choice (rnd q) with ha | ha
    · exact rnd_of_mul_ulp (n := 2 ^ 52) (by rw [← hm]; exact ha.symm)
    · refine rnd_of_mul_ulp (n := -2 ^ 52) ?_
      have : rnd q = -|rnd q| := by rw [ha, neg_neg]
      rw [show ((-2 ^ 52 : ℤ) : ℚ) * ulp (rnd q) = -(((2 ^ 52 : ℤ) : ℚ) * ulp (rnd q)) by
        push_cast; ring, ← hm]
      exact this

theorem intCast_le_rnd {n : ℤ} {q : ℚ} (hn : n ≤ 2 ^ 53) (hn0 : 0 ≤ n) (h : (n : ℚ) ≤ q) :
    (n : ℚ) ≤ rnd q := by
  rcases hn0.lt_or_eq with hpos | rfl
  swap
  · rcases (show (0 : ℚ) ≤ q by exact_mod_cast h).lt_or_eq with hq | rfl
    · exact_mod_cast rnd_nonneg hq.le
    · simp
  have hq0 : 0 < q := lt_of_lt_of_le (by exact_mod_cast hpos) h
  obtain ⟨h1, h2⟩ := log_bounds hq0.ne'
  rw [abs_of_pos hq0] at h1 h2
  by_cases he : Int.log 2 q ≤ 52
  · -- the weight is at most one, so every integer is a multiple of it
    obtain ⟨k, hk⟩ := Int.eq_ofNat_of_zero_le (show 0 ≤ 52 - Int.log 2 q by omega)
    have hu : ((2 ^ k : ℤ) : ℚ) * ulp q = 1 := by
      rw [ulp, abs_of_pos hq0, show Int.log 2 q - 52 = -(k : ℤ) by omega]
      push_cast
      rw [← zpow_natCast, ← zpow_add₀ (by norm_num)]
      simp
    have hm : ((n * 2 ^ k : ℤ) : ℚ) * ulp q = n := by
      push_cast at hu ⊢
      rw [mul_assoc, hu, mul_one]
    have := mul_ulp_le_rnd (q := q) (n := n * 2 ^ k) (by rw [hm]; exact h)
    rwa [hm] at this
  · have hb := (abs_rnd_bounds hq0.ne').1
    rw [abs_of_pos hq0] at hb
    have h0 : 0 ≤ rnd q := rnd_nonneg hq0.le
    rw [abs_of_nonneg h0] at hb
    calc (n : ℚ) ≤ 2 ^ (53 : ℤ) := by exact_mod_cast hn
      _ ≤ 2 ^ Int.log 2 q := zpow_le_zpow_right₀ (by norm_num) (by omega)
      _ ≤ rnd q := hb

/-- A natural number below 2^53 is a double. -/
theorem rnd_natCast {n : ℕ} (hn : n < 2 ^ 53) : rnd n = n := by
  rcases n.eq_zero_or_pos with rfl | hpos
  · simp
  have hq : (0 : ℚ) < n := by exact_mod_cast hpos
  have hlog : Int.log 2 (n : ℚ) ≤ 52 := by
    have : Int.log 2 (n : ℚ) < 53 :=
      (Int.lt_zpow_iff_log_lt (by decide) hq).mp (by exact_mod_cast hn)
    omega
  obtain ⟨k, hk⟩ := Int.eq_ofNat_of_zero_le (show 0 ≤ 52 - Int.log 2 (n : ℚ) by omega)
  refine rnd_of_mul_ulp (n := n * 2 ^ k) ?_
  rw [ulp, abs_of_pos hq, show Int.log 2 (n : ℚ) - 52 = -(k : ℤ) by omega]
  push_cast
  rw [mul_assoc, ← zpow_natCast, ← zpow_add₀ (by norm_num), add_neg_cancel, zpow_zero, mul_one]

/-- A finite double: a rational that rounding leaves alone. -/
structure Double where
  val : ℚ
  isDouble : rnd val = val
deriving DecidableEq

/-- The double nearest to `q`. -/
def Double.ofRat (q : ℚ) : Double := ⟨rnd q, rnd_rnd q⟩

@[simp] theorem Double.ofRat_val (q : ℚ) : (Double.ofRat q).val = rnd q := rfl

theorem Double.le_rnd {d : Double} {q : ℚ} (hd : 0 < d.val) (h : d.val ≤ q) : d.val ≤ rnd q := by
  have hq : 0 < q := hd.trans_le h
  have hlog : Int.log 2 d.val ≤ Int.log 2 q := Int.log_mono_right hd h
  rcases hlog.lt_or_eq with hlt | heq
  · have hb := (abs_rnd_bounds hq.ne').1
    have h0 : 0 ≤ rnd q := rnd_nonneg hq.le
    rw [abs_of_pos hq, abs_of_nonneg h0] at hb
    have hub := (log_bounds hd.ne').2
    rw [abs_of_pos hd] at hub
    calc d.val ≤ 2 ^ (Int.log 2 d.val + 1) := hub.le
      _ ≤ 2 ^ Int.log 2 q := zpow_le_zpow_right₀ (by norm_num) (by omega)
      _ ≤ rnd q := hb
  · -- one binade: `d` is a multiple of the weight of `q`
    have hu : ulp d.val = ulp q := by
      rw [ulp, ulp, abs_of_pos hd, abs_of_pos hq, heq]
    have hm : d.val = roundHalfEven (d.val / ulp d.val) * ulp q := by
      have := d.isDouble
      rw [rnd, hu] at this
      rw [hu]
      exact this.symm
    rw [hm]
    exact mul_ulp_le_rnd (by rw [← hm]; exact h)

/-- A double below `q` is below its rounding. -/
theorem Double.le_rnd_of_le {d : Double} {q : ℚ} (h : d.val ≤ q) : d.val ≤ rnd q := by
  rcases lt_or_ge 0 d.val with hpos | hneg
  · exact d.le_rnd hpos h
  rcases le_or_gt 0 q with hq | hq
  · exact hneg.trans (rnd_nonneg hq)
  have hd : d.val < 0 := h.trans_lt hq
  have habs : |q| ≤ |d.val| := by
    rw [abs_of_neg hq, abs_of_neg hd]
    exact neg_le_neg h
  have hlog : Int.log 2 |q| ≤ Int.log 2 |d.val| := Int.log_mono_right (abs_pos.mpr hq.ne) habs
  rcases hlog.lt_or_eq with hlt | heq
  · have hb := (abs_rnd_bounds hq.ne).2
    have hub := (log_bounds hd.ne).1
    have : |rnd q| ≤ |d.val| :=
      calc |rnd q| ≤ 2 ^ (Int.log 2 |q| + 1) := hb
        _ ≤ 2 ^ Int.log 2 |d.val| := zpow_le_zpow_right₀ (by norm_num) (by omega)
        _ ≤ |d.val| := hub
    rw [abs_of_neg hd] at this
    linarith [neg_abs_le (rnd q)]
  · -- one binade: `d` is a multiple of the weight of `q`
    have hu : ulp d.val = ulp q := by rw [ulp, ulp, heq]
    have hm : d.val = roundHalfEven (d.val / ulp d.val) * ulp q := by
      have := d.isDouble
      rw [rnd, hu] at this
      rw [hu]
      exact this.symm
    rw [hm]
    exact mul_ulp_le_rnd (by rw [← hm]; exact h)

end HeyKevin.Core.Binary64
