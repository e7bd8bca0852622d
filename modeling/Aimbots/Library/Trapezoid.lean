import Aimbots.Library.Numerals
import Mathlib.Analysis.Calculus.Deriv.MeanValue
import Mathlib.Analysis.Calculus.Deriv.Pow
import Mathlib.Tactic.Linarith
import Mathlib.Topology.Algebra.Module.ModuleTopology

/-!
# A trapezoid and its integrals

`ramp` is the positive part.  `trapezoid n a b` is a second difference of its `n`-th power: for
`n = 1` it goes up from 0 to `a`, stays, and goes down from `b` to `a + b`, and the functions for
larger `n` are, up to a factor, what comes of integrating that (`hasDerivAt_trapezoid`).
-/

namespace Aimbots.Trapezoid

open Filter
open scoped Numerals

/-- Functions that agree with `f` on either side of a point and have one derivative there. -/
theorem hasDerivAt_of_sides {f g₁ g₂ : ℝ → ℝ} {f' a : ℝ} (h₁ : HasDerivAt g₁ f' a)
    (h₂ : HasDerivAt g₂ f' a) (hleft : ∀ x ≤ a, f x = g₁ x) (hright : ∀ x ≥ a, f x = g₂ x) :
    HasDerivAt f f' a := by
  rw [← hasDerivWithinAt_univ, ← Set.Iic_union_Ici (a := a)]
  exact (h₁.hasDerivWithinAt.congr hleft (hleft a le_rfl)).union
    (h₂.hasDerivWithinAt.congr hright (hright a le_rfl))

/-- Two differentiable functions, joined where they and their derivatives agree. -/
theorem hasDerivAt_join (f f' g₁ g₁' g₂ g₂' : ℝ → ℝ) (a : ℝ) (h₁ : ∀ x, HasDerivAt g₁ (g₁' x) x)
    (h₂ : ∀ x, HasDerivAt g₂ (g₂' x) x) (hleft : ∀ x ≤ a, f x = g₁ x ∧ f' x = g₁' x)
    (hright : ∀ x ≥ a, f x = g₂ x ∧ f' x = g₂' x) (x : ℝ) : HasDerivAt f (f' x) x := by
  rcases lt_trichotomy x a with h | rfl | h
  · rw [(hleft x h.le).2]
    refine (h₁ x).congr_of_eventuallyEq ?_
    filter_upwards [Iio_mem_nhds h] with y hy
    exact (hleft y (le_of_lt hy)).1
  · refine hasDerivAt_of_sides ((h₁ x).congr_deriv (hleft x le_rfl).2.symm)
      ((h₂ x).congr_deriv (hright x le_rfl).2.symm) ?_ ?_
    · exact fun y hy => (hleft y hy).1
    · exact fun y hy => (hright y hy).1
  · rw [(hright x h.le).2]
    refine (h₂ x).congr_of_eventuallyEq ?_
    filter_upwards [Ioi_mem_nhds h] with y hy
    exact (hright y (le_of_lt hy)).1

/-- The positive part. -/
noncomputable def ramp (x : ℝ) : ℝ := max x 0

theorem ramp_of_nonneg {x : ℝ} (h : 0 ≤ x) : ramp x = x := max_eq_left h

theorem ramp_of_nonpos {x : ℝ} (h : x ≤ 0) : ramp x = 0 := max_eq_right h

theorem ramp_nonneg (x : ℝ) : 0 ≤ ramp x := le_max_right _ _

theorem ramp_mono {x y : ℝ} (h : x ≤ y) : ramp x ≤ ramp y := max_le_max h le_rfl

/-- Every power but the first has a derivative everywhere. -/
theorem hasDerivAt_ramp_pow (n : ℕ) (x : ℝ) :
    HasDerivAt (fun y => ramp y ^ (n + 2)) ((n + 2 : ℕ) * ramp x ^ (n + 1)) x := by
  rcases lt_trichotomy x 0 with h | rfl | h
  · rw [ramp_of_nonpos h.le, zero_pow (Nat.succ_ne_zero n), mul_zero]
    refine (hasDerivAt_const x (0 : ℝ)).congr_of_eventuallyEq ?_
    filter_upwards [Iio_mem_nhds h] with y hy
    rw [ramp_of_nonpos (le_of_lt hy), zero_pow (Nat.succ_ne_zero _)]
  · have hzero : ((n + 2 : ℕ) : ℝ) * ramp 0 ^ (n + 1) = 0 := by
      rw [ramp_of_nonneg le_rfl, zero_pow (Nat.succ_ne_zero n), mul_zero]
    rw [hzero]
    -- Both sides have the derivative 0.
    have hpow : HasDerivAt (fun y : ℝ => y ^ (n + 2)) 0 0 := by
      simpa using hasDerivAt_pow (n + 2) (0 : ℝ)
    refine hasDerivAt_of_sides (hasDerivAt_const 0 (0 : ℝ)) hpow ?_ ?_
    · intro y hy
      rw [ramp_of_nonpos hy, zero_pow (Nat.succ_ne_zero _)]
    · intro y hy
      rw [ramp_of_nonneg hy]
  · rw [ramp_of_nonneg h.le]
    refine (hasDerivAt_pow (n + 2) x).congr_of_eventuallyEq ?_
    filter_upwards [Ioi_mem_nhds h] with y hy
    rw [ramp_of_nonneg (le_of_lt hy)]

theorem hasDerivAt_ramp_sub_pow (n : ℕ) (a x : ℝ) :
    HasDerivAt (fun y => ramp (y - a) ^ (n + 2)) ((n + 2 : ℕ) * ramp (x - a) ^ (n + 1)) x := by
  have hcomp := (hasDerivAt_ramp_pow n (x - a)).comp x ((hasDerivAt_id x).sub_const a)
  rwa [mul_one] at hcomp

/-- The ramp itself has one except where it begins. -/
theorem hasDerivAt_ramp_sub {a x : ℝ} (h : x ≠ a) :
    HasDerivAt (fun y => ramp (y - a)) (if a < x then 1 else 0) x := by
  rcases lt_or_gt_of_ne h with h | h
  · rw [if_neg (not_lt.2 h.le)]
    refine (hasDerivAt_const x (0 : ℝ)).congr_of_eventuallyEq ?_
    filter_upwards [Iio_mem_nhds h] with y hy
    exact ramp_of_nonpos (sub_nonpos.2 (le_of_lt hy))
  · rw [if_pos h]
    refine ((hasDerivAt_id x).sub_const a).congr_of_eventuallyEq ?_
    filter_upwards [Ioi_mem_nhds h] with y hy
    exact ramp_of_nonneg (sub_nonneg.2 (le_of_lt hy))

/-- The second difference of a power of the ramp. -/
noncomputable def trapezoid (n : ℕ) (a b t : ℝ) : ℝ :=
  ramp (t - 0) ^ n - ramp (t - a) ^ n - ramp (t - b) ^ n + ramp (t - (a + b)) ^ n

variable {a b t : ℝ}

/-- **Each of the functions is, up to a factor, the derivative of the next.** -/
theorem hasDerivAt_trapezoid (n : ℕ) (a b t : ℝ) :
    HasDerivAt (trapezoid (n + 2) a b) ((n + 2 : ℕ) * trapezoid (n + 1) a b t) t := by
  have hderiv := (((hasDerivAt_ramp_sub_pow n 0 t).sub (hasDerivAt_ramp_sub_pow n a t)).sub
    (hasDerivAt_ramp_sub_pow n b t)).add (hasDerivAt_ramp_sub_pow n (a + b) t)
  refine hderiv.congr_deriv ?_
  rw [trapezoid]
  ring

theorem hasDerivAt_trapezoid_one (h₀ : t ≠ 0) (ha : t ≠ a) (hb : t ≠ b) (hab : t ≠ a + b) :
    HasDerivAt (trapezoid 1 a b)
      ((if 0 < t then 1 else 0) - (if a < t then 1 else 0) - (if b < t then 1 else 0) +
        if a + b < t then 1 else 0) t := by
  have hderiv := (((hasDerivAt_ramp_sub h₀).sub (hasDerivAt_ramp_sub ha)).sub
    (hasDerivAt_ramp_sub hb)).add (hasDerivAt_ramp_sub hab)
  refine hderiv.congr_of_eventuallyEq (Eventually.of_forall fun y => ?_)
  simp [trapezoid]

/-! ### The pieces -/

theorem trapezoid_of_nonpos {n : ℕ} (hn : n ≠ 0) (ha : 0 ≤ a) (hb : 0 ≤ b) (ht : t ≤ 0) :
    trapezoid n a b t = 0 := by
  rw [trapezoid, ramp_of_nonpos (by linarith), ramp_of_nonpos (by linarith),
    ramp_of_nonpos (by linarith), ramp_of_nonpos (by linarith), zero_pow hn]
  ring

theorem trapezoid_of_le_left {n : ℕ} (hn : n ≠ 0) (hb : 0 ≤ b) (hab : a ≤ b) (h₀ : 0 ≤ t)
    (ht : t ≤ a) : trapezoid n a b t = t ^ n := by
  rw [trapezoid, ramp_of_nonneg (by linarith), ramp_of_nonpos (by linarith),
    ramp_of_nonpos (by linarith), ramp_of_nonpos (by linarith), zero_pow hn]
  ring

theorem trapezoid_of_mem {n : ℕ} (hn : n ≠ 0) (ha : 0 ≤ a) (hat : a ≤ t) (ht : t ≤ b) :
    trapezoid n a b t = t ^ n - (t - a) ^ n := by
  rw [trapezoid, ramp_of_nonneg (by linarith), ramp_of_nonneg (by linarith),
    ramp_of_nonpos (by linarith), ramp_of_nonpos (by linarith), zero_pow hn]
  ring

theorem trapezoid_of_right_le {n : ℕ} (hn : n ≠ 0) (ha : 0 ≤ a) (hab : a ≤ b) (hbt : b ≤ t)
    (ht : t ≤ a + b) : trapezoid n a b t = t ^ n - (t - a) ^ n - (t - b) ^ n := by
  rw [trapezoid, ramp_of_nonneg (by linarith), ramp_of_nonneg (by linarith),
    ramp_of_nonneg (by linarith), ramp_of_nonpos (by linarith), zero_pow hn]
  ring

theorem trapezoid_of_ge {n : ℕ} (ha : 0 ≤ a) (hb : 0 ≤ b) (ht : a + b ≤ t) :
    trapezoid n a b t = t ^ n - (t - a) ^ n - (t - b) ^ n + (t - (a + b)) ^ n := by
  rw [trapezoid, ramp_of_nonneg (by linarith), ramp_of_nonneg (by linarith),
    ramp_of_nonneg (by linarith), ramp_of_nonneg (by linarith)]
  ring

theorem ramp_sub_le {x y : ℝ} (ha : 0 ≤ a) (h : x ≤ y) :
    ramp x - ramp (x - a) ≤ ramp y - ramp (y - a) := by
  simp only [ramp, max_def]
  split_ifs <;> linarith

theorem ramp_sq_sub_le {x y : ℝ} (ha : 0 ≤ a) (h : x ≤ y) :
    ramp x ^ 2 - ramp (x - a) ^ 2 ≤ ramp y ^ 2 - ramp (y - a) ^ 2 := by
  have hdiff := ramp_sub_le ha h
  have hsum : ramp x + ramp (x - a) ≤ ramp y + ramp (y - a) :=
    add_le_add (ramp_mono h) (ramp_mono (by linarith))
  have hpos : 0 ≤ ramp y - ramp (y - a) := sub_nonneg.2 (ramp_mono (by linarith))
  calc ramp x ^ 2 - ramp (x - a) ^ 2 = (ramp x - ramp (x - a)) * (ramp x + ramp (x - a)) := by ring
    _ ≤ (ramp y - ramp (y - a)) * (ramp y + ramp (y - a)) :=
      mul_le_mul hdiff hsum (add_nonneg (ramp_nonneg _) (ramp_nonneg _)) hpos
    _ = ramp y ^ 2 - ramp (y - a) ^ 2 := by ring

/-- The first integral is not negative. -/
theorem trapezoid_two_nonneg (ha : 0 ≤ a) (hb : 0 ≤ b) : 0 ≤ trapezoid 2 a b t := by
  have hle := ramp_sq_sub_le ha (by linarith : t - b ≤ t)
  rw [trapezoid, sub_zero, show t - (a + b) = t - b - a by ring]
  linarith

end Aimbots.Trapezoid
