import Aimbots.Library.Numerals
import Mathlib.Analysis.SpecialFunctions.Pow.Real
import Mathlib.Analysis.SpecialFunctions.Sqrt
import Mathlib.Tactic.FieldSimp
import Mathlib.Tactic.LinearCombination
import Mathlib.Tactic.Linarith

/-!
# When a distance is covered

Three ways to invert a distance that grows with time: the cube root, for a distance that grows with
the third power; the root of a quadratic equation, for one that is covered with a constant
acceleration; and the quadratic polynomial through three points, for one that is known at the middle
and at the end of a time.  The last is no inverse, but between its ends it is between 0 and the time
if the middle is not too far off.
-/

namespace Aimbots.MonotoneInverse

open scoped Numerals

/-! ### The cube root -/

/-- The real cube root. -/
noncomputable def cbrt (x : ℝ) : ℝ :=
  if 0 ≤ x then x ^ (1 / 3 : ℝ) else -(-x) ^ (1 / 3 : ℝ)

theorem rpow_third_pow {x : ℝ} (h : 0 ≤ x) : (x ^ (1 / 3 : ℝ)) ^ 3 = x := by
  rw [← Real.rpow_natCast, ← Real.rpow_mul h]
  norm_num

theorem cbrt_pow (x : ℝ) : cbrt x ^ 3 = x := by
  unfold cbrt
  split_ifs with h
  · exact rpow_third_pow h
  · rw [Odd.neg_pow (by decide), rpow_third_pow (by linarith)]
    ring

theorem cbrt_lt_iff {x y : ℝ} : cbrt x < y ↔ x < y ^ 3 := by
  have hodd : Odd 3 := by decide
  rw [← hodd.pow_lt_pow, cbrt_pow]

theorem cbrt_nonpos {x : ℝ} (h : x ≤ 0) : cbrt x ≤ 0 := by
  by_contra! hpos
  have hcube := pow_pos hpos 3
  rw [cbrt_pow] at hcube
  linarith

theorem cbrt_pos {x : ℝ} (h : 0 < x) : 0 < cbrt x := by
  by_contra! hneg
  have hodd : Odd 3 := by decide
  have hcube := hodd.pow_nonpos hneg
  rw [cbrt_pow] at hcube
  linarith

/-! ### The quadratic formula -/

section Quadratic

variable {v a u : ℝ}

/-- The time in which a distance is covered that begins at a speed and has a constant
acceleration. -/
noncomputable def travelTime (v a u : ℝ) : ℝ := (-v + √(v * v - 4 * a / 2 * -u)) / a

theorem travelTime_spec (ha : 0 < a) (hu : 0 ≤ u) :
    v * travelTime v a u + a * travelTime v a u ^ 2 / 2 = u := by
  have hroot : √(v * v - 4 * a / 2 * -u) ^ 2 = v * v + 2 * a * u := by
    rw [Real.sq_sqrt (by nlinarith [mul_self_nonneg v, mul_nonneg ha.le hu])]
    ring
  rw [travelTime]
  generalize √(v * v - 4 * a / 2 * -u) = root at hroot ⊢
  field_simp
  linear_combination hroot

theorem travelTime_nonneg (ha : 0 < a) (hu : 0 ≤ u) : 0 ≤ travelTime v a u := by
  have hle : v ≤ √(v * v - 4 * a / 2 * -u) :=
    Real.le_sqrt_of_sq_le (by nlinarith [mul_nonneg ha.le hu])
  exact div_nonneg (by linarith) ha.le

/-- A shorter distance is covered in a shorter time. -/
theorem travelTime_lt {t : ℝ} (hv : 0 ≤ v) (ha : 0 < a) (hu : 0 ≤ u)
    (h : u < v * t + a * t ^ 2 / 2) (ht : 0 ≤ t) : travelTime v a u < t := by
  by_contra! hle
  have hspec := travelTime_spec (v := v) ha hu
  have hlin : v * t ≤ v * travelTime v a u := mul_le_mul_of_nonneg_left hle hv
  have hsq : a * t ^ 2 ≤ a * travelTime v a u ^ 2 :=
    mul_le_mul_of_nonneg_left (pow_le_pow_left₀ ht hle 2) ha.le
  linarith

end Quadratic

/-! ### Quadratic interpolation -/

section Interpolation

variable {m d T u : ℝ}

/-- The leading coefficient of the polynomial that is 0 at 0, `T / 2` at `m` and `T` at `d`. -/
noncomputable def interpA (m d T : ℝ) : ℝ := (d * (T / 2) - m * T) / (m * d * (m - d))

/-- Its other coefficient. -/
noncomputable def interpB (m d T : ℝ) : ℝ := (m * m * T - d * d * (T / 2)) / (m * d * (m - d))

/-- The polynomial takes its value at the end. -/
theorem interp_end (hm : 0 < m) (hmd : m < d) :
    interpA m d T * d + interpB m d T = T / d := by
  have hd : d ≠ 0 := (hm.trans hmd).ne'
  have hsub : m - d ≠ 0 := (sub_neg.2 hmd).ne
  rw [interpA, interpB]
  field_simp
  ring

variable (hm : 0 < m) (hT : 0 < T) (hmid : 2 * m ≤ d)
include hm hT hmid

theorem interpA_nonpos : interpA m d T ≤ 0 := by
  have hd : 0 < d := by linarith
  refine div_nonpos_of_nonneg_of_nonpos ?_ ?_
  · nlinarith
  · exact mul_nonpos_of_nonneg_of_nonpos (mul_pos hm hd).le (by linarith)

theorem interp_nonneg (hu : 0 ≤ u) (hud : u ≤ d) :
    0 ≤ interpA m d T * (u * u) + interpB m d T * u := by
  have hd : 0 < d := by linarith
  have hend := interp_end (T := T) hm (by linarith : m < d)
  have hslope : T / d ≤ interpA m d T * u + interpB m d T := by
    rw [← hend]
    linarith [mul_le_mul_of_nonpos_left hud (interpA_nonpos hm hT hmid)]
  have hpos : 0 ≤ interpA m d T * u + interpB m d T := (div_pos hT hd).le.trans hslope
  calc 0 ≤ u * (interpA m d T * u + interpB m d T) := mul_nonneg hu hpos
    _ = interpA m d T * (u * u) + interpB m d T * u := by ring

/-- **Between its ends the polynomial stays below the end**, if the middle is not too early. -/
theorem interp_lt (hslope : d ^ 2 + 2 * m ^ 2 < 4 * m * d) (hud : u < d) :
    interpA m d T * (u * u) + interpB m d T * u < T := by
  have hd : 0 < d := by linarith
  have hmd : m < d := by linarith
  have hend := interp_end (T := T) hm hmd
  have hlast : 0 < interpA m d T * (d + d) + interpB m d T := by
    have hform : interpA m d T * (d + d) + interpB m d T =
        T * (4 * m * d - d ^ 2 - 2 * m ^ 2) / (2 * (m * d * (d - m))) := by
      have hsub : m - d ≠ 0 := (sub_neg.2 hmd).ne
      have hsub' : d - m ≠ 0 := (sub_pos.2 hmd).ne'
      rw [interpA, interpB]
      field_simp
      ring
    rw [hform]
    exact div_pos (mul_pos hT (by linarith))
      (mul_pos two_pos (mul_pos (mul_pos hm hd) (sub_pos.2 hmd)))
  have hnext : interpA m d T * (d + d) ≤ interpA m d T * (d + u) :=
    mul_le_mul_of_nonpos_left (by linarith) (interpA_nonpos hm hT hmid)
  have hprod : 0 < (d - u) * (interpA m d T * (d + u) + interpB m d T) :=
    mul_pos (sub_pos.2 hud) (by linarith)
  have hT' : interpA m d T * (d * d) + interpB m d T * d = T := by
    have := congrArg (· * d) hend
    simp only [div_mul_cancel₀ T hd.ne'] at this
    linarith
  nlinarith

end Interpolation

end Aimbots.MonotoneInverse
