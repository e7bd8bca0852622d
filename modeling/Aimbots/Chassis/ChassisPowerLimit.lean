import Aimbots.Library.Rounding
import Aimbots.Library.TruncatedRemainder
import Aimbots.Tap.DjiMotor
import Aimbots.Utils.PowerLimiter
import Mathlib.Algebra.BigOperators.Fin
import Mathlib.Algebra.BigOperators.Field
import Mathlib.Algebra.Order.BigOperators.Group.Finset
import Mathlib.Data.Rat.Floor

/-!
# `chassis.cpp`: the limit on the power of the wheels

`limitChassisPower` scales down the outputs of the wheels by the ratio that the power limiter
returns, each wheel in proportion to its share of the velocity error.  The wheels' motors are not
inverted: an inverted one would have its output turned round each time, since it is read as it is
kept and inverted again when it is set.

Every operation is in `float`.  The shares need not add up to one then, but they do up to a factor
that is `1 - 2⁻²⁴` for each addition and each further operation (`sum_velocityErrorFrac_le`).
-/

namespace Aimbots.Chassis

open Tap Utils

/-- `float`. -/
abbrev float : ℚ → ℚ := Format.binary32.round

/-- The driven wheels of a `ChassisSubsystem`, for `N = DRIVEN_WHEEL_COUNT`. -/
structure DrivenWheels (N : ℕ) where
  motors : Fin N → DjiMotor
  velocityPIDs : Fin N → SmoothPIDWrapper
  not_inverted : ∀ i, (motors i).motorInverted = false

namespace DrivenWheels

variable {N : ℕ} (w : DrivenWheels N) (powerLimitFrac : ℚ)

/-- `compareFloatClose`, with the tolerance `0.001f`. -/
def CompareFloatClose (val1 val2 : ℚ) : Prop := |float (val1 - val2)| ≤ float (1 / 1000)

instance (val1 val2 : ℚ) : Decidable (CompareFloatClose val1 val2) := by
  unfold CompareFloatClose; infer_instance

/-- `getError`, without its sign. -/
def absError (i : Fin N) : ℚ := |(w.velocityPIDs i).error|

/-- `totalError`. -/
def totalError : ℚ :=
  (List.finRange N).foldl (fun totalError i => float (totalError + w.absError i)) 0

/-- `velocityErrorFrac`, of one wheel. -/
def velocityErrorFrac (i : Fin N) : ℚ :=
  if CompareFloatClose w.totalError 0 then float (1 / float N)
  else float (w.absError i / w.totalError)

/-- `modifiedPowerLimitFrac`, of one wheel. -/
def modifiedPowerLimitFrac (i : Fin N) : ℚ :=
  Utils.limitVal (float (float (float N * powerLimitFrac) * w.velocityErrorFrac i)) 0 1

/-- The output of a wheel, scaled. -/
def scaledOutput (i : Fin N) : ℤ :=
  truncToInt
    (float ((w.motors i).getOutputDesired.toInt * w.modifiedPowerLimitFrac powerLimitFrac i))

/-- The scaling is skipped. -/
def Skips : Prop := CompareFloatClose 1 powerLimitFrac

instance : Decidable (Skips powerLimitFrac) := by unfold Skips; infer_instance

/-- `limitChassisPower`, once the ratio is known. -/
def limitToRatio : DrivenWheels N :=
  if Skips powerLimitFrac then w
  else
    { w with
      motors := fun i => (w.motors i).setDesiredOutput (w.scaledOutput powerLimitFrac i)
      not_inverted := w.not_inverted }

/-- `limitChassisPower`. -/
def limitChassisPower {args : PowerLimiterArgs} (powerLimiter : PowerLimiter args)
    (o : PowerReading) : PowerLimiter args × DrivenWheels N :=
  let limited := powerLimiter.getPowerLimitRatio o
  (limited.1, w.limitToRatio limited.2)

/-- The output of a wheel. -/
def output (i : Fin N) : ℤ := (w.motors i).getOutputDesired.toInt

/-! ### Rounding up and down -/

section float

variable {x : ℚ}

theorem float_nonneg (h : 0 ≤ x) : 0 ≤ float x := Format.round_nonneg h

/-- Rounding a number that is not negative. -/
theorem abs_float_sub_le (h : 0 ≤ x) : |float x - x| ≤ x / 2 ^ 24 + 1 / 2 ^ 150 := by
  have herr := Format.abs_round_sub_le_mul (F := .binary32) x
  have hexponent : (2 : ℚ) ^ (-149 : ℤ) / 2 = 1 / 2 ^ 150 := by norm_num
  have hprecision : (2 : ℚ) ^ (-24 : ℤ) * x = x / 2 ^ 24 := by norm_num; ring
  rw [abs_of_nonneg h] at herr
  calc |float x - x| ≤ (2 : ℚ) ^ (-24 : ℤ) * x + 2 ^ (-149 : ℤ) / 2 := herr
    _ = x / 2 ^ 24 + 1 / 2 ^ 150 := by rw [hexponent, hprecision]

theorem float_le (h : 0 ≤ x) : float x ≤ (1 + 1 / 2 ^ 24) * x + 1 / 2 ^ 150 := by
  have herr := (abs_le.1 (abs_float_sub_le h)).2
  linarith

theorem le_float (h : 0 ≤ x) : (1 - 1 / 2 ^ 24) * x - 1 / 2 ^ 150 ≤ float x := by
  have herr := (abs_le.1 (abs_float_sub_le h)).1
  linarith

/-- A number of which at most half is lost is not small. -/
theorem float_natCast_pos (hN : N ≠ 0) : (1 / 2 : ℚ) ≤ float N := by
  have hone : (1 : ℚ) ≤ N := by exact_mod_cast Nat.one_le_iff_ne_zero.2 hN
  have hle := le_float (zero_le_one.trans hone)
  norm_num at hle ⊢
  linarith

end float

/-! ### The shares of the wheels -/

variable {w powerLimitFrac}

theorem absError_nonneg (i : Fin N) : 0 ≤ w.absError i := abs_nonneg _

/-- **A sum in `float`** of numbers that are not negative loses at most a part `2⁻²⁴` in each
addition. -/
theorem le_foldl_float (errors : List ℚ) (hnonneg : ∀ x ∈ errors, 0 ≤ x) {t : ℚ} (ht : 0 ≤ t) :
    (1 - 1 / 2 ^ 24) ^ errors.length * (t + errors.sum) - errors.length / 2 ^ 150 ≤
        errors.foldl (fun t x => float (t + x)) t ∧
      0 ≤ errors.foldl (fun t x => float (t + x)) t := by
  induction errors generalizing t with
  | nil => exact ⟨by simp, ht⟩
  | cons x errors ih =>
    have hx := hnonneg x List.mem_cons_self
    have hrest : ∀ y ∈ errors, 0 ≤ y := fun y hy => hnonneg y (List.mem_cons_of_mem x hy)
    have hsum : 0 ≤ errors.sum := List.sum_nonneg hrest
    obtain ⟨hle, hpos⟩ := ih hrest (float_nonneg (add_nonneg ht hx))
    refine ⟨?_, hpos⟩
    have hstep := le_float (add_nonneg ht hx)
    have hfactor : (0 : ℚ) ≤ (1 - 1 / 2 ^ 24) ^ errors.length := by positivity
    have hfactor' : ((1 : ℚ) - 1 / 2 ^ 24) ^ errors.length ≤ 1 :=
      pow_le_one₀ (by norm_num) (by norm_num)
    have hmul := mul_le_mul_of_nonneg_left hstep hfactor
    have hloss : ((1 : ℚ) - 1 / 2 ^ 24) ^ errors.length * (1 / 2 ^ 150) ≤ 1 / 2 ^ 150 :=
      mul_le_of_le_one_left (by positivity) hfactor'
    have hshrink : ((1 : ℚ) - 1 / 2 ^ 24) * errors.sum ≤ errors.sum :=
      mul_le_of_le_one_left hsum (by norm_num)
    have hmul' := mul_le_mul_of_nonneg_left hshrink hfactor
    rw [List.foldl_cons, List.length_cons, List.sum_cons, pow_succ]
    push_cast
    linarith

theorem totalError_eq (w : DrivenWheels N) : w.totalError =
    ((List.finRange N).map w.absError).foldl (fun t x => float (t + x)) 0 := by
  rw [totalError, List.foldl_map]

theorem totalError_nonneg (w : DrivenWheels N) : 0 ≤ w.totalError := by
  rw [totalError_eq]
  refine (le_foldl_float _ (fun x hx => ?_) le_rfl).2
  obtain ⟨i, -, rfl⟩ := List.mem_map.1 hx
  exact absError_nonneg i

theorem le_totalError (w : DrivenWheels N) :
    (1 - 1 / 2 ^ 24) ^ N * ∑ i, w.absError i ≤ w.totalError + N / 2 ^ 150 := by
  have hle := (le_foldl_float ((List.finRange N).map w.absError) (fun x hx => by
    obtain ⟨i, -, rfl⟩ := List.mem_map.1 hx
    exact absError_nonneg i) le_rfl).1
  rw [List.length_map, List.length_finRange, zero_add, ← totalError_eq, ← Fin.sum_univ_def] at hle
  linarith

theorem velocityErrorFrac_nonneg (i : Fin N) : 0 ≤ w.velocityErrorFrac i := by
  unfold velocityErrorFrac
  split_ifs
  · exact float_nonneg (div_nonneg zero_le_one (float_nonneg (Nat.cast_nonneg N)))
  · exact float_nonneg (div_nonneg (absError_nonneg i) w.totalError_nonneg)

/-- A total error that is not close to zero is not small. -/
theorem totalError_gt (h : ¬ CompareFloatClose w.totalError 0) : 1 / 1024 < w.totalError := by
  by_contra! hle
  have hround := float_le w.totalError_nonneg
  have hthousandth : float (1 / 1000) = 8589935 / 2 ^ 33 := by decide +kernel
  refine h ?_
  rw [CompareFloatClose, sub_zero, abs_of_nonneg (float_nonneg w.totalError_nonneg), hthousandth]
  linarith

/-- A sum of numbers, each rounded once. -/
theorem sum_le_of_rounded {f g : Fin N → ℚ}
    (h : ∀ i, f i ≤ (1 + 1 / 2 ^ 24) * g i + 1 / 2 ^ 150) :
    ∑ i, f i ≤ (1 + 1 / 2 ^ 24) * ∑ i, g i + N / 2 ^ 150 := by
  calc ∑ i, f i ≤ ∑ i, ((1 + 1 / 2 ^ 24) * g i + 1 / 2 ^ 150) := Finset.sum_le_sum fun i _ => h i
    _ = (1 + 1 / 2 ^ 24) * ∑ i, g i + N / 2 ^ 150 := by
        rw [Finset.sum_add_distrib, ← Finset.mul_sum, Finset.sum_const, Finset.card_univ,
          Fintype.card_fin, nsmul_eq_mul, mul_one_div]

/-- A sum of numbers, each rounded once, against the factors of `N` additions. -/
theorem pow_mul_sum_le_of_rounded {f g : Fin N → ℚ}
    (h : ∀ i, f i ≤ (1 + 1 / 2 ^ 24) * g i + 1 / 2 ^ 150) :
    (1 - 1 / 2 ^ 24) ^ N * ∑ i, f i ≤
      (1 + 1 / 2 ^ 24) * ((1 - 1 / 2 ^ 24) ^ N * ∑ i, g i) + N / 2 ^ 150 := by
  have hfactor : (0 : ℚ) ≤ (1 - 1 / 2 ^ 24) ^ N := by positivity
  have hloss : ((1 : ℚ) - 1 / 2 ^ 24) ^ N * (N / 2 ^ 150) ≤ N / 2 ^ 150 :=
    mul_le_of_le_one_left (by positivity) (pow_le_one₀ (by norm_num) (by norm_num))
  calc (1 - 1 / 2 ^ 24) ^ N * ∑ i, f i
      ≤ (1 - 1 / 2 ^ 24) ^ N * ((1 + 1 / 2 ^ 24) * ∑ i, g i + N / 2 ^ 150) :=
        mul_le_mul_of_nonneg_left (sum_le_of_rounded h) hfactor
    _ = (1 + 1 / 2 ^ 24) * ((1 - 1 / 2 ^ 24) ^ N * ∑ i, g i) +
          (1 - 1 / 2 ^ 24) ^ N * (N / 2 ^ 150) := by ring
    _ ≤ (1 + 1 / 2 ^ 24) * ((1 - 1 / 2 ^ 24) ^ N * ∑ i, g i) + N / 2 ^ 150 := by linarith

/-- The shares of wheels without an error, the same for each. -/
theorem sum_velocityErrorFrac_le_of_close (hN : N ≠ 0)
    (hzero : CompareFloatClose w.totalError 0) :
    (1 - 1 / 2 ^ 24) ^ N * ∑ i, w.velocityErrorFrac i ≤ 1 + 1 / 2 ^ 24 + N / 2 ^ 138 := by
  have hn : (1 : ℚ) ≤ N := by exact_mod_cast Nat.one_le_iff_ne_zero.2 hN
  have hMpos : 0 < float N := lt_of_lt_of_le (by norm_num) (float_natCast_pos hN)
  have hpow : ((1 : ℚ) - 1 / 2 ^ 24) ^ N ≤ 1 - 1 / 2 ^ 24 :=
    pow_le_of_le_one (by norm_num) (by norm_num) hN
  have hround := float_le (div_nonneg zero_le_one hMpos.le)
  have hdiv : ((1 : ℚ) - 1 / 2 ^ 24) * N * (1 / float N) ≤ 1 + 2 / 2 ^ 150 := by
    rw [mul_one_div, div_le_iff₀ hMpos]
    have hM := float_natCast_pos hN
    have hle := le_float (zero_le_one.trans hn)
    linarith
  have hsum : ∑ i, w.velocityErrorFrac i = N * float (1 / float N) := by
    simp only [velocityErrorFrac, if_pos hzero, Finset.sum_const, Finset.card_univ,
      Fintype.card_fin, nsmul_eq_mul]
  have hpart : (0 : ℚ) ≤ N * float (1 / float N) :=
    mul_nonneg (Nat.cast_nonneg N) (float_nonneg (div_nonneg zero_le_one hMpos.le))
  calc (1 - 1 / 2 ^ 24) ^ N * ∑ i, w.velocityErrorFrac i
      ≤ (1 - 1 / 2 ^ 24) * (N * float (1 / float N)) := by
        rw [hsum]
        exact mul_le_mul_of_nonneg_right hpow hpart
    _ = (1 - 1 / 2 ^ 24) * N * float (1 / float N) := by ring
    _ ≤ (1 - 1 / 2 ^ 24) * N * ((1 + 1 / 2 ^ 24) * (1 / float N) + 1 / 2 ^ 150) := by
        gcongr
    _ = (1 + 1 / 2 ^ 24) * ((1 - 1 / 2 ^ 24) * N * (1 / float N)) +
          (1 - 1 / 2 ^ 24) * (N / 2 ^ 150) := by ring
    _ ≤ 1 + 1 / 2 ^ 24 + N / 2 ^ 138 := by linarith

/-- The shares of wheels with an error, in proportion to it. -/
theorem sum_velocityErrorFrac_le_of_not_close (hzero : ¬ CompareFloatClose w.totalError 0) :
    (1 - 1 / 2 ^ 24) ^ N * ∑ i, w.velocityErrorFrac i ≤ 1 + 1 / 2 ^ 24 + N / 2 ^ 138 := by
  have hT := totalError_gt hzero
  have hTpos : 0 < w.totalError := lt_trans (by norm_num) hT
  have hshare : ∀ i, w.velocityErrorFrac i ≤
      (1 + 1 / 2 ^ 24) * (w.absError i / w.totalError) + 1 / 2 ^ 150 := by
    intro i
    rw [velocityErrorFrac, if_neg hzero]
    exact float_le (div_nonneg (absError_nonneg i) hTpos.le)
  have htotal : (1 - 1 / 2 ^ 24) ^ N * ∑ i, w.absError i / w.totalError ≤ 1 + N / 2 ^ 140 := by
    rw [← Finset.sum_div, ← mul_div_assoc, div_le_iff₀ hTpos]
    have hle := w.le_totalError
    have hsmall : (N : ℚ) / 2 ^ 140 * (1 / 1024) ≤ N / 2 ^ 140 * w.totalError :=
      mul_le_mul_of_nonneg_left hT.le (by positivity)
    linarith
  have hn : (0 : ℚ) ≤ N := Nat.cast_nonneg N
  have hsum := pow_mul_sum_le_of_rounded hshare
  linarith

/-- **The shares** of the wheels are one altogether, but for the rounding. -/
theorem sum_velocityErrorFrac_le (hN : N ≠ 0) (w : DrivenWheels N) :
    (1 - 1 / 2 ^ 24) ^ N * ∑ i, w.velocityErrorFrac i ≤ 1 + 1 / 2 ^ 24 + N / 2 ^ 138 := by
  by_cases hzero : CompareFloatClose w.totalError 0
  · exact sum_velocityErrorFrac_le_of_close hN hzero
  · exact sum_velocityErrorFrac_le_of_not_close hzero

theorem modifiedPowerLimitFrac_mem (w : DrivenWheels N) (powerLimitFrac : ℚ) (i : Fin N) :
    w.modifiedPowerLimitFrac powerLimitFrac i ∈ Set.Icc 0 1 :=
  limitVal_mem_Icc zero_le_one

/-- `DRIVEN_WHEEL_COUNT * powerLimitFrac`. -/
theorem float_mul_le (hq : powerLimitFrac ∈ Set.Icc 0 1) :
    float (float N * powerLimitFrac) ≤ (1 + 1 / 2 ^ 24) ^ 2 * (N * powerLimitFrac) +
      3 / 2 ^ 150 := by
  obtain ⟨hnonneg, hle⟩ := hq
  have hN := float_le (Nat.cast_nonneg (α := ℚ) N)
  have hround := float_le (mul_nonneg (float_nonneg (Nat.cast_nonneg (α := ℚ) N)) hnonneg)
  have hmul := mul_le_mul_of_nonneg_right hN hnonneg
  linarith

/-- A wheel's fraction is at most its part of the ratio, but for the rounding. -/
theorem modifiedPowerLimitFrac_le (hq : powerLimitFrac ∈ Set.Icc 0 1) (i : Fin N) :
    w.modifiedPowerLimitFrac powerLimitFrac i ≤
      (1 + 1 / 2 ^ 24) * (float (float N * powerLimitFrac) * w.velocityErrorFrac i) +
        1 / 2 ^ 150 := by
  have hpart : 0 ≤ float (float N * powerLimitFrac) * w.velocityErrorFrac i :=
    mul_nonneg (float_nonneg (mul_nonneg (float_nonneg (Nat.cast_nonneg N)) hq.1))
      (velocityErrorFrac_nonneg i)
  rw [modifiedPowerLimitFrac, limitVal_eq_clamp zero_le_one]
  exact max_le (by positivity) ((min_le_left _ _).trans (float_le hpart))

/-- The sum of the fractions, but for the factors of the last four operations. -/
theorem pow_mul_sum_modifiedPowerLimitFrac_le (hN : N ≠ 0) (hq : powerLimitFrac ∈ Set.Icc 0 1)
    (w : DrivenWheels N) :
    (1 - 1 / 2 ^ 24) ^ N * ∑ i, w.modifiedPowerLimitFrac powerLimitFrac i ≤
      (1 + 1 / 2 ^ 24) ^ 4 * (N * powerLimitFrac) + N ^ 2 / 2 ^ 135 := by
  have hn : (1 : ℚ) ≤ N := by exact_mod_cast Nat.one_le_iff_ne_zero.2 hN
  have hsquare : (N : ℚ) ≤ N ^ 2 := le_self_pow₀ hn two_ne_zero
  have hratio : (N : ℚ) * powerLimitFrac ≤ N :=
    mul_le_of_le_one_right (Nat.cast_nonneg N) hq.2
  have hratio' : (N : ℚ) * powerLimitFrac * N ≤ N ^ 2 := by
    rw [sq]
    exact mul_le_mul_of_nonneg_right hratio (Nat.cast_nonneg N)
  have hg : 0 ≤ float (float N * powerLimitFrac) :=
    float_nonneg (mul_nonneg (float_nonneg (Nat.cast_nonneg N)) hq.1)
  have hshares := mul_le_mul_of_nonneg_left (sum_velocityErrorFrac_le hN w) hg
  have hlast : (0 : ℚ) ≤ 1 + 1 / 2 ^ 24 + N / 2 ^ 138 := by positivity
  have hprod := mul_le_mul_of_nonneg_right (float_mul_le (N := N) hq) hlast
  calc (1 - 1 / 2 ^ 24) ^ N * ∑ i, w.modifiedPowerLimitFrac powerLimitFrac i
      ≤ (1 + 1 / 2 ^ 24) * ((1 - 1 / 2 ^ 24) ^ N *
          ∑ i, float (float N * powerLimitFrac) * w.velocityErrorFrac i) + N / 2 ^ 150 :=
        pow_mul_sum_le_of_rounded (modifiedPowerLimitFrac_le hq)
    _ = (1 + 1 / 2 ^ 24) * (float (float N * powerLimitFrac) *
          ((1 - 1 / 2 ^ 24) ^ N * ∑ i, w.velocityErrorFrac i)) + N / 2 ^ 150 := by
        rw [← Finset.mul_sum]
        ring
    _ ≤ (1 + 1 / 2 ^ 24) * (((1 + 1 / 2 ^ 24) ^ 2 * (N * powerLimitFrac) + 3 / 2 ^ 150) *
          (1 + 1 / 2 ^ 24 + N / 2 ^ 138)) + N / 2 ^ 150 := by linarith
    _ = (1 + 1 / 2 ^ 24) ^ 4 * (N * powerLimitFrac) +
          (1 + 1 / 2 ^ 24) ^ 3 / 2 ^ 138 * (N * powerLimitFrac * N) +
          (1 + 1 / 2 ^ 24) * 3 / 2 ^ 150 * (1 + 1 / 2 ^ 24 + N / 2 ^ 138) + N / 2 ^ 150 := by ring
    _ ≤ (1 + 1 / 2 ^ 24) ^ 4 * (N * powerLimitFrac) + N ^ 2 / 2 ^ 135 := by linarith

/-- **The fractions** sum to at most the ratio for each wheel, but for the rounding. -/
theorem sum_modifiedPowerLimitFrac_le (hq : powerLimitFrac ∈ Set.Icc 0 1) (w : DrivenWheels N) :
    (1 - 1 / 2 ^ 24) ^ (N + 4) * ∑ i, w.modifiedPowerLimitFrac powerLimitFrac i ≤
      N * powerLimitFrac + N ^ 2 / 2 ^ 135 := by
  rcases eq_or_ne N 0 with rfl | hN
  · simp
  have hrounded := pow_mul_sum_modifiedPowerLimitFrac_le hN hq w
  have hpair : ((1 : ℚ) - 1 / 2 ^ 24) ^ 4 * (1 + 1 / 2 ^ 24) ^ 4 ≤ 1 := by norm_num
  have hfour : ((1 : ℚ) - 1 / 2 ^ 24) ^ 4 ≤ 1 := by norm_num
  have hrest : (0 : ℚ) ≤ N ^ 2 / 2 ^ 135 := by positivity
  calc (1 - 1 / 2 ^ 24) ^ (N + 4) * ∑ i, w.modifiedPowerLimitFrac powerLimitFrac i
      = (1 - 1 / 2 ^ 24) ^ 4 *
          ((1 - 1 / 2 ^ 24) ^ N * ∑ i, w.modifiedPowerLimitFrac powerLimitFrac i) := by ring
    _ ≤ (1 - 1 / 2 ^ 24) ^ 4 *
          ((1 + 1 / 2 ^ 24) ^ 4 * (N * powerLimitFrac) + N ^ 2 / 2 ^ 135) :=
        mul_le_mul_of_nonneg_left hrounded (by positivity)
    _ = (1 - 1 / 2 ^ 24) ^ 4 * (1 + 1 / 2 ^ 24) ^ 4 * (N * powerLimitFrac) +
          (1 - 1 / 2 ^ 24) ^ 4 * (N ^ 2 / 2 ^ 135) := by ring
    _ ≤ 1 * (N * powerLimitFrac) + 1 * (N ^ 2 / 2 ^ 135) :=
        add_le_add (mul_le_mul_of_nonneg_right hpair (mul_nonneg (Nat.cast_nonneg N) hq.1))
          (mul_le_mul_of_nonneg_right hfour hrest)
    _ = N * powerLimitFrac + N ^ 2 / 2 ^ 135 := by rw [one_mul, one_mul]

/-! ### The outputs of the wheels -/

/-- A number between zero and an integer stays so when it is truncated. -/
theorem truncToInt_mem {n : ℤ} {x : ℚ} (h : x ∈ Set.uIcc (0 : ℚ) n) :
    truncToInt x ∈ Set.uIcc 0 n := by
  rcases le_total 0 n with hn | hn
  · rw [Set.uIcc_of_le (by exact_mod_cast hn)] at h
    rw [truncToInt_of_nonneg h.1, Set.uIcc_of_le hn]
    exact ⟨Int.floor_nonneg.2 h.1, by exact_mod_cast (Int.floor_le x).trans h.2⟩
  · rw [Set.uIcc_of_ge (by exact_mod_cast hn)] at h
    rw [truncToInt_of_nonpos h.2, Set.uIcc_of_ge hn]
    exact ⟨by exact_mod_cast h.1.trans (Int.le_ceil x), Int.ceil_le.2 (by simpa using h.2)⟩

/-- An integer of less than 24 digits that is scaled down stays between zero and what it was. -/
theorem float_mul_mem {n : ℤ} (hn : |n| < 2 ^ 24) {frac : ℚ} (hfrac : frac ∈ Set.Icc (0 : ℚ) 1) :
    float (n * frac) ∈ Set.uIcc (0 : ℚ) n := by
  obtain ⟨hnonneg, hle⟩ := hfrac
  have hn' : |(n : ℚ)| < 2 ^ 24 := by exact_mod_cast hn
  have habs : |(n : ℚ) * frac| < 2 ^ (24 : ℤ) := by
    rw [abs_mul, abs_of_nonneg hnonneg]
    exact (mul_le_of_le_one_right (abs_nonneg _) hle).trans_lt hn'
  have hexponent : Format.binary32.exponent (n * frac) ≤ 0 :=
    Format.binary32.exponent_le (by norm_num) habs (by decide)
  rcases le_total 0 n with hsign | hsign
  · have hn₀ : (0 : ℚ) ≤ n := by exact_mod_cast hsign
    have hhigh := Format.round_le (k := n) hexponent (by
      rw [zpow_zero, mul_one]
      exact mul_le_of_le_one_right hn₀ hle)
    rw [zpow_zero, mul_one] at hhigh
    rw [Set.uIcc_of_le hn₀]
    exact ⟨float_nonneg (mul_nonneg hn₀ hnonneg), hhigh⟩
  · have hn₀ : (n : ℚ) ≤ 0 := by exact_mod_cast hsign
    have hlow := Format.le_round (k := n) hexponent (by
      rw [zpow_zero, mul_one]
      exact le_mul_of_le_one_right hn₀ hle)
    have hhigh := Format.round_le (k := 0) hexponent (by
      rw [Int.cast_zero, zero_mul]
      exact mul_nonpos_of_nonpos_of_nonneg hn₀ hnonneg)
    rw [zpow_zero, mul_one] at hlow
    rw [Int.cast_zero, zero_mul] at hhigh
    rw [Set.uIcc_of_ge hn₀]
    exact ⟨hlow, hhigh⟩

/-- A scaled output is between zero and the output. -/
theorem scaledOutput_mem (w : DrivenWheels N) (powerLimitFrac : ℚ) (i : Fin N) :
    w.scaledOutput powerLimitFrac i ∈ Set.uIcc 0 (w.output i) := by
  have hmin := (w.motors i).getOutputDesired.minValue_le_toInt
  have hmax := (w.motors i).getOutputDesired.toInt_le
  have hdigits : |(w.motors i).getOutputDesired.toInt| < 2 ^ 24 := by
    rw [abs_lt]
    exact ⟨lt_of_lt_of_le (by decide) hmin, hmax.trans_lt (by decide)⟩
  exact truncToInt_mem (float_mul_mem hdigits (w.modifiedPowerLimitFrac_mem powerLimitFrac i))

/-- The motors can do the scaled outputs. -/
theorem output_limitToRatio (w : DrivenWheels N) (powerLimitFrac : ℚ) (i : Fin N) :
    (w.limitToRatio powerLimitFrac).output i =
      if Skips powerLimitFrac then w.output i else w.scaledOutput powerLimitFrac i := by
  unfold limitToRatio
  split_ifs with hskips
  · rfl
  · obtain ⟨hlow, hhigh⟩ := w.scaledOutput_mem powerLimitFrac i
    have hmin := (w.motors i).getOutputDesired.minValue_le_toInt
    have hmax := (w.motors i).getOutputDesired.toInt_le
    apply DjiMotor.getOutputDesired_setDesiredOutput (w.not_inverted i)
    · exact (le_inf (by decide) hmin).trans hlow
    · exact hhigh.trans (sup_le (by decide) hmax)

/-- An integer between zero and another one has the sign of the other one or is zero, and is not
larger. -/
theorem sign_abs_of_mem_uIcc {n k : ℤ} (h : k ∈ Set.uIcc 0 n) :
    (k.sign = n.sign ∨ k = 0) ∧ |k| ≤ |n| := by
  rcases le_total 0 n with hn | hn
  · rw [Set.uIcc_of_le hn] at h
    refine ⟨?_, abs_le_abs_of_nonneg h.1 h.2⟩
    rcases h.1.lt_or_eq with hpos | hzero
    · exact Or.inl (by rw [Int.sign_eq_one_of_pos hpos, Int.sign_eq_one_of_pos (hpos.trans_le h.2)])
    · exact Or.inr hzero.symm
  · rw [Set.uIcc_of_ge hn] at h
    refine ⟨?_, abs_le_abs_of_nonpos h.2 h.1⟩
    rcases h.2.lt_or_eq with hneg | hzero
    · exact Or.inl (by
        rw [Int.sign_eq_neg_one_of_neg hneg, Int.sign_eq_neg_one_of_neg (h.1.trans_lt hneg)])
    · exact Or.inr hzero

theorem not_skips_zero : ¬ Skips 0 := by decide +kernel

/-- No power leaves no output. -/
theorem scaledOutput_zero (w : DrivenWheels N) (i : Fin N) : w.scaledOutput 0 i = 0 := by
  have hfrac : w.modifiedPowerLimitFrac 0 i = 0 := by
    rw [modifiedPowerLimitFrac, mul_zero, float, Format.round_zero, zero_mul, Format.round_zero]
    rfl
  rw [scaledOutput, hfrac, mul_zero, float, Format.round_zero]
  rfl

/-- The ratio that the power limiter returns is in `[0, 1]`. -/
theorem getPowerLimitRatio_mem {args : PowerLimiterArgs} (powerLimiter : PowerLimiter args)
    (o : PowerReading) : (powerLimiter.getPowerLimitRatio o).2 ∈ Set.Icc 0 1 := by
  cases hreceiving : o.refSerialReceivingData with
  | false =>
    rw [PowerLimiter.getPowerLimitRatio_of_not_receiving hreceiving]
    exact ⟨zero_le_one, le_rfl⟩
  | true =>
    rw [PowerLimiter.ratio_of_receiving hreceiving]
    exact PowerLimiter.powerLimitRatio_mem args _

/-- **The limit on the power only ever reduces.**  `limitChassisPower` limits to a ratio in
`[0, 1]`.  Whatever the velocity errors and the outputs are, after it each output has the sign that
it had, or is zero, and is not larger; unless the scaling is skipped, the fractions that are applied
are in `[0, 1]` and sum to at most the ratio for each wheel, but for the rounding; and a ratio of
zero leaves no output. -/
theorem limitToRatio_reduces (w : DrivenWheels N) {powerLimitFrac : ℚ}
    (hq : powerLimitFrac ∈ Set.Icc 0 1) :
    (∀ {args : PowerLimiterArgs} (powerLimiter : PowerLimiter args) (o : PowerReading),
      ∃ ratio ∈ Set.Icc 0 1, (w.limitChassisPower powerLimiter o).2 = w.limitToRatio ratio) ∧
    (∀ i, (((w.limitToRatio powerLimitFrac).output i).sign = (w.output i).sign ∨
        (w.limitToRatio powerLimitFrac).output i = 0) ∧
      |(w.limitToRatio powerLimitFrac).output i| ≤ |w.output i|) ∧
    (¬ Skips powerLimitFrac →
      (∀ i, w.modifiedPowerLimitFrac powerLimitFrac i ∈ Set.Icc 0 1 ∧
        (w.limitToRatio powerLimitFrac).output i =
          truncToInt (float (w.output i * w.modifiedPowerLimitFrac powerLimitFrac i))) ∧
      (1 - 1 / 2 ^ 24) ^ (N + 4) * ∑ i, w.modifiedPowerLimitFrac powerLimitFrac i ≤
        N * powerLimitFrac + N ^ 2 / 2 ^ 135) ∧
    (powerLimitFrac = 0 → ∀ i, (w.limitToRatio powerLimitFrac).output i = 0) := by
  refine ⟨fun powerLimiter o => ⟨_, getPowerLimitRatio_mem powerLimiter o, rfl⟩, fun i => ?_,
    fun hskips => ⟨fun i => ?_, sum_modifiedPowerLimitFrac_le hq w⟩, ?_⟩
  · apply sign_abs_of_mem_uIcc
    rw [output_limitToRatio]
    split_ifs
    · exact Set.right_mem_uIcc
    · exact w.scaledOutput_mem powerLimitFrac i
  · rw [output_limitToRatio, if_neg hskips]
    exact ⟨w.modifiedPowerLimitFrac_mem powerLimitFrac i, rfl⟩
  · rintro rfl i
    rw [output_limitToRatio, if_neg not_skips_zero, scaledOutput_zero]

/-- Three wheels of which one has nearly all of the velocity error. -/
def unevenWheels : DrivenWheels 3 where
  motors i := ⟨false, if i.val = 0 then 16000 else -32768⟩
  velocityPIDs i := .construct {} 0 (if i.val = 0 then -4000 else 1) 0 0
  not_inverted _ := rfl

theorem limitToRatio_reduces_unevenWheels :
    (1 / 2 : ℚ) ∈ Set.Icc 0 1 ∧ ¬ Skips (1 / 2) ∧
      (1 - 1 / 2 ^ 24) ^ (3 + 4) * ∑ i, unevenWheels.modifiedPowerLimitFrac (1 / 2) i ≤
        (3 : ℕ) * (1 / 2) + (3 : ℕ) ^ 2 / 2 ^ 135 :=
  ⟨by decide +kernel, by decide +kernel,
    ((limitToRatio_reduces unevenWheels (by decide +kernel)).2.2.1 (by decide +kernel)).2⟩

/-- Four wheels, three of which have the same velocity error and the fourth none. -/
def equalWheels : DrivenWheels 4 where
  motors _ := ⟨false, 16000⟩
  velocityPIDs i := .construct {} 0 (if i.val = 3 then 0 else 1) 0 0
  not_inverted _ := rfl

/-- A third is rounded up: three fractions of a third sum to more than the ratio for each wheel. -/
theorem sum_equalWheels_gt :
    (1 / 4 : ℚ) ∈ Set.Icc 0 1 ∧ ¬ Skips (1 / 4) ∧
      (4 : ℕ) * (1 / 4) < ∑ i, equalWheels.modifiedPowerLimitFrac (1 / 4) i :=
  ⟨by decide +kernel, by decide +kernel, by decide +kernel⟩

end DrivenWheels

end Aimbots.Chassis
