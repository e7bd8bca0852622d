import Aimbots.Library.Numerals
import Mathlib.Analysis.SpecialFunctions.Trigonometric.Arctan
import Mathlib.Tactic.FieldSimp
import Mathlib.Tactic.Linarith
import Mathlib.Tactic.LinearCombination
import Mathlib.Tactic.Positivity

/-!
# Projectile motion

A projectile that leaves the origin at an angle with a speed, under gravity alone.  Its height at a
distance is a quadratic polynomial in the tangent of the angle, with a largest value: a point below
that is hit at two angles, and the lower one is given by the smaller root.
-/

namespace Aimbots.Projectile

open scoped Numerals

noncomputable section

/-- A projectile fired at the angle `p` with the speed `v` is at the distance `d` and the height `z`
after the time `t`; `g` is the gravity. -/
structure Hits (g v d z p t : ℝ) : Prop where
  dist : d = v * Real.cos p * t
  height : z = v * Real.sin p * t - g * t ^ 2 / 2

variable (g v d : ℝ)

/-- The height over the distance `d` of a projectile whose angle has the tangent `u`. -/
def heightAt (u : ℝ) : ℝ := d * u - g * d ^ 2 * (1 + u ^ 2) / (2 * v ^ 2)

/-- The tangent at which that height is largest. -/
def highest : ℝ := v ^ 2 / (g * d)

/-- The discriminant of the equation for the tangent of an angle that hits the height `z`. -/
def discriminant (z : ℝ) : ℝ := (v ^ 2) ^ 2 - g * (g * d ^ 2 + 2 * z * v ^ 2)

/-- The smaller root of that equation. -/
def lower (z : ℝ) : ℝ := (v ^ 2 - √(discriminant g v d z)) / (g * d)

variable {g v d} {z p t u : ℝ}

theorem lower_eq (g v d z : ℝ) :
    lower g v d z = highest g v d - √(discriminant g v d z) / (g * d) := by
  rw [lower, highest, sub_div]

theorem hits_cos_pos (hv : 0 < v) (hd : 0 < d) (ht : 0 ≤ t) (h : Hits g v d z p t) :
    0 < Real.cos p := by
  by_contra hcos
  have hle : v * Real.cos p * t ≤ 0 :=
    mul_nonpos_of_nonpos_of_nonneg
      (mul_nonpos_of_nonneg_of_nonpos hv.le (not_lt.1 hcos)) ht
  linarith [h.dist]

/-- The height that a projectile fired straight up reaches, by the time it takes to get there. -/
theorem height_of_vertical_time (hg : g ≠ 0) (hz : 0 ≤ v ^ 2 - 2 * g * z)
    (ht : (v - √(v ^ 2 - 2 * g * z)) / g = t) : z = v * t - g * t ^ 2 / 2 := by
  have hroot := Real.sq_sqrt hz
  have hsqrt : √(v ^ 2 - 2 * g * z) = v - g * t := by
    rw [← ht]
    field_simp
    ring
  rw [hsqrt] at hroot
  have hmul : 2 * g * (z - (v * t - g * t ^ 2 / 2)) = 0 := by linear_combination hroot
  have hfactor := (mul_eq_zero.1 hmul).resolve_left (mul_ne_zero two_ne_zero hg)
  linarith

/-- With the time that the distance takes, the height is that of the tangent. -/
theorem hits_iff (hv : 0 < v) (hcos : 0 < Real.cos p) :
    Hits g v d z p t ↔ t = d / (v * Real.cos p) ∧ heightAt g v d (Real.tan p) = z := by
  have hvc := mul_pos hv hcos
  have htime : d = v * Real.cos p * t ↔ t = d / (v * Real.cos p) := by
    rw [eq_div_iff hvc.ne', mul_comm t, eq_comm]
  have hheight : v * Real.sin p * (d / (v * Real.cos p)) - g * (d / (v * Real.cos p)) ^ 2 / 2 =
      heightAt g v d (Real.tan p) := by
    have hone : 1 + Real.tan p ^ 2 = 1 / Real.cos p ^ 2 := by
      rw [Real.tan_eq_sin_div_cos]
      field_simp
      exact Real.cos_sq_add_sin_sq p
    rw [heightAt, hone, Real.tan_eq_sin_div_cos]
    field_simp
  constructor
  · intro h
    have ht := htime.1 h.dist
    refine ⟨ht, ?_⟩
    rw [h.height, ht, hheight]
  · rintro ⟨ht, rfl⟩
    refine ⟨htime.2 ht, ?_⟩
    rw [ht, hheight]

section Roots

variable (hg : 0 < g) (hv : 0 < v) (hd : 0 < d)
include hg hv hd

theorem highest_pos : 0 < highest g v d := by
  rw [highest]
  positivity

/-- How far the height of a tangent is below the largest one. -/
theorem heightAt_eq (u : ℝ) :
    heightAt g v d u =
      heightAt g v d (highest g v d) - g * d ^ 2 / (2 * v ^ 2) * (u - highest g v d) ^ 2 := by
  rw [heightAt, heightAt, highest]
  field_simp
  ring

theorem heightAt_highest_sub (z : ℝ) :
    heightAt g v d (highest g v d) - z = discriminant g v d z / (2 * g * v ^ 2) := by
  rw [heightAt, highest, discriminant]
  field_simp
  ring

/-- A height can be hit if it is not above the largest one. -/
theorem discriminant_nonneg_iff :
    0 ≤ discriminant g v d z ↔ z ≤ heightAt g v d (highest g v d) := by
  have hden : 0 < 2 * g * v ^ 2 := by positivity
  rw [← sub_nonneg (b := z), heightAt_highest_sub hg hv hd, le_div_iff₀ hden, zero_mul]

/-- Up to the highest, a larger tangent leads higher. -/
theorem heightAt_strictMonoOn : StrictMonoOn (heightAt g v d) (Set.Iic (highest g v d)) := by
  intro u hu w hw huw
  have hcoef : 0 < g * d ^ 2 / (2 * v ^ 2) := by positivity
  have hsq : (w - highest g v d) ^ 2 < (u - highest g v d) ^ 2 := by
    have hu : u ≤ highest g v d := hu
    have hw : w ≤ highest g v d := hw
    nlinarith
  rw [heightAt_eq hg hv hd u, heightAt_eq hg hv hd w]
  linarith [mul_lt_mul_of_pos_left hsq hcoef]

omit hv in
theorem lower_le_highest (z : ℝ) : lower g v d z ≤ highest g v d := by
  rw [lower_eq]
  have hroot : 0 ≤ √(discriminant g v d z) / (g * d) := by positivity
  linarith

/-- The smaller root hits the height. -/
theorem heightAt_lower (hz : 0 ≤ discriminant g v d z) :
    heightAt g v d (lower g v d z) = z := by
  have hsub := heightAt_highest_sub hg hv hd z
  have hsq : (lower g v d z - highest g v d) ^ 2 = discriminant g v d z / (g * d) ^ 2 := by
    rw [lower_eq, sub_sub_cancel_left, neg_sq, div_pow, Real.sq_sqrt hz]
  have hcoef : g * d ^ 2 / (2 * v ^ 2) * (discriminant g v d z / (g * d) ^ 2) =
      discriminant g v d z / (2 * g * v ^ 2) := by
    field_simp
  rw [heightAt_eq hg hv hd, hsq, hcoef]
  linarith

/-- It is the smallest tangent that does. -/
theorem lower_le (hu : heightAt g v d u = z) : lower g v d z ≤ u := by
  rcases le_or_gt u (highest g v d) with hle | hgt
  · have hz : 0 ≤ discriminant g v d z := by
      rw [discriminant_nonneg_iff hg hv hd, ← hu, heightAt_eq hg hv hd u]
      have : 0 ≤ g * d ^ 2 / (2 * v ^ 2) * (u - highest g v d) ^ 2 := by positivity
      linarith
    refine ((heightAt_strictMonoOn hg hv hd).le_iff_le (lower_le_highest hg hd z) hle).1 ?_
    rw [heightAt_lower hg hv hd hz, hu]
  · exact (lower_le_highest hg hd z).trans hgt.le

/-- The smaller root is between two tangents, the first of them level or downwards, if the height is
between those that they lead to, where the second counts up to the highest only. -/
theorem lower_mem_iff {a b : ℝ} (ha : a ≤ 0) :
    (0 ≤ discriminant g v d z ∧ a ≤ lower g v d z ∧ lower g v d z ≤ b) ↔
      heightAt g v d a ≤ z ∧ z ≤ heightAt g v d (min b (highest g v d)) := by
  have hmono := heightAt_strictMonoOn hg hv hd
  have hlow : lower g v d z ≤ highest g v d := lower_le_highest hg hd z
  have hafar : a ≤ highest g v d := ha.trans (highest_pos hg hv hd).le
  have hmin : min b (highest g v d) ≤ highest g v d := min_le_right _ _
  constructor
  · rintro ⟨hz, hal, hlb⟩
    have hheight := heightAt_lower hg hv hd hz
    refine ⟨?_, ?_⟩
    · rw [← hheight]
      exact (hmono.le_iff_le hafar hlow).2 hal
    · nth_rewrite 1 [← hheight]
      exact (hmono.le_iff_le hlow hmin).2 (le_min hlb hlow)
  · rintro ⟨haz, hzb⟩
    have hz : 0 ≤ discriminant g v d z :=
      (discriminant_nonneg_iff hg hv hd).2
        (hzb.trans ((hmono.le_iff_le hmin (Set.mem_Iic.2 le_rfl)).2 hmin))
    have hheight := heightAt_lower hg hv hd hz
    refine ⟨hz, (hmono.le_iff_le hafar hlow).1 (by rwa [hheight]), ?_⟩
    exact ((hmono.le_iff_le hlow hmin).1 (by rwa [hheight])).trans (min_le_left _ _)

end Roots

end

end Aimbots.Projectile
