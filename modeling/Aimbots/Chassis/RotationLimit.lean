import Aimbots.Utils.SmoothPid
import Mathlib.Algebra.Order.Field.Basic
import Mathlib.Tactic.Linarith
import Mathlib.Tactic.Ring

/-!
# `chassis.cpp` and `chassis_helper.cpp`: translation gives way to rotation

A chassis that rotates faster than a threshold is to move more slowly, by the square of the share
that rotation leaves of the largest wheel speed.  `calculateRotationLimitedTranslationalWheelspeed`
divides only the rotation by the largest wheel speed, and not the whole difference, so that the
square is far above one and is limited to one.  The law holds exactly for a largest wheel speed of
one (`rotationLimitLaw_iff`).
-/

namespace Aimbots.Chassis

open Utils

/-- `pow2`. -/
def pow2 (x : ℚ) : ℚ := x * x

/-- `calculateRotationLimitedTranslationalWheelspeed`. -/
def calculateRotationLimitedTranslationalWheelspeed (MIN_ROTATION_THRESHOLD : ℚ)
    (chassisRotationDesiredWheelspeed maxWheelSpeed : ℚ) : ℚ :=
  let rTranslationalGain :=
    if |chassisRotationDesiredWheelspeed| > MIN_ROTATION_THRESHOLD then
      Utils.limitVal
        (pow2 (maxWheelSpeed + MIN_ROTATION_THRESHOLD -
          |chassisRotationDesiredWheelspeed| / maxWheelSpeed)) 0 1
    else 1
  rTranslationalGain * maxWheelSpeed

/-- `*desiredX`, `*desiredY` and `*desiredRotation`. -/
structure DesiredInput where
  desiredX : ℚ
  desiredY : ℚ
  desiredRotation : ℚ
deriving DecidableEq, Repr

/-- `rescaleDesiredInputToPowerLimitedSpeeds`, with what `getMaxRefWheelSpeed` returns. -/
def rescaleDesiredInputToPowerLimitedSpeeds (MIN_ROTATION_THRESHOLD maxWheelSpeed : ℚ)
    (d : DesiredInput) : DesiredInput :=
  let desiredRotation := d.desiredRotation * maxWheelSpeed
  let rTranslationalGain := calculateRotationLimitedTranslationalWheelspeed MIN_ROTATION_THRESHOLD
    desiredRotation maxWheelSpeed
  { desiredX := Utils.limitVal (d.desiredX * maxWheelSpeed) (-rTranslationalGain) rTranslationalGain
    desiredY := Utils.limitVal (d.desiredY * maxWheelSpeed) (-rTranslationalGain) rTranslationalGain
    desiredRotation }

/-- What the speed limit for translation is to be. -/
def intendedLimit (h r m : ℚ) : ℚ := m * ((m + h - |r|) / m) ^ 2

/-- **The law of translation that gives way to rotation**, for a threshold `h` and a largest wheel
speed `m`. -/
structure RotationLimitLaw (h m : ℚ) : Prop where
  mem : ∀ r, calculateRotationLimitedTranslationalWheelspeed h r m ∈ Set.Icc 0 m
  full : ∀ r, |r| ≤ h → calculateRotationLimitedTranslationalWheelspeed h r m = m
  antitone : ∀ r r', |r| ≤ |r'| → |r'| ≤ m + h →
    calculateRotationLimitedTranslationalWheelspeed h r' m ≤
      calculateRotationLimitedTranslationalWheelspeed h r m
  formula : ∀ r, h < |r| → |r| ≤ m + h →
    calculateRotationLimitedTranslationalWheelspeed h r m = intendedLimit h r m
  gives_way : ∀ r, h < |r| → |r| ≤ m → calculateRotationLimitedTranslationalWheelspeed h r m < m
  rescaled : ∀ d : DesiredInput, |d.desiredX| ≤ 1 → |d.desiredY| ≤ 1 → |d.desiredRotation| ≤ 1 →
    let d' := rescaleDesiredInputToPowerLimitedSpeeds h m d
    |d'.desiredX| ≤ calculateRotationLimitedTranslationalWheelspeed h d'.desiredRotation m ∧
      |d'.desiredY| ≤ calculateRotationLimitedTranslationalWheelspeed h d'.desiredRotation m

variable {h m r : ℚ}

/-! ### What the code computes -/

theorem translationalWheelspeed_of_le (hr : |r| ≤ h) :
    calculateRotationLimitedTranslationalWheelspeed h r m = m := by
  rw [calculateRotationLimitedTranslationalWheelspeed, if_neg (not_lt.2 hr), one_mul]

/-- Above the threshold the gain is a square, limited to one. -/
theorem translationalWheelspeed_of_lt (hr : h < |r|) :
    calculateRotationLimitedTranslationalWheelspeed h r m =
      min ((m + h - |r| / m) ^ 2) 1 * m := by
  have hsquare : 0 ≤ min ((m + h - |r| / m) ^ 2) 1 := le_min (sq_nonneg _) zero_le_one
  rw [calculateRotationLimitedTranslationalWheelspeed, if_pos hr,
    limitVal_eq_clamp zero_le_one, pow2,
    ← sq, max_eq_right hsquare]

section Pos

variable (hm : 0 < m)
include hm

theorem translationalWheelspeed_mem (h r : ℚ) :
    calculateRotationLimitedTranslationalWheelspeed h r m ∈ Set.Icc 0 m := by
  rcases le_or_gt |r| h with hr | hr
  · rw [translationalWheelspeed_of_le hr]
    exact ⟨hm.le, le_rfl⟩
  · rw [translationalWheelspeed_of_lt hr]
    refine ⟨mul_nonneg (le_min (sq_nonneg _) zero_le_one) hm.le, ?_⟩
    exact mul_le_of_le_one_left hm.le (min_le_right _ _)

/-- The rescaled inputs are within the limit. -/
theorem rescaled_abs_le (h : ℚ) (d : DesiredInput) :
    let d' := rescaleDesiredInputToPowerLimitedSpeeds h m d
    |d'.desiredX| ≤ calculateRotationLimitedTranslationalWheelspeed h d'.desiredRotation m ∧
      |d'.desiredY| ≤ calculateRotationLimitedTranslationalWheelspeed h d'.desiredRotation m := by
  have hlimit := (translationalWheelspeed_mem hm h (d.desiredRotation * m)).1
  exact ⟨abs_limitVal_le hlimit, abs_limitVal_le hlimit⟩

/-- The share that rotation leaves is below one. -/
theorem share_mem (hr : h < |r|) (hr' : |r| ≤ m + h) : (m + h - |r|) / m ∈ Set.Ico 0 1 := by
  refine ⟨div_nonneg (by linarith) hm.le, ?_⟩
  rw [div_lt_one hm]
  linarith

/-- **Where the code agrees with the formula**: the two squares are equal if their bases are, up to
the sign. -/
theorem translationalWheelspeed_eq_iff (hpos : 0 < m + h) (hr : h < |r|) (hr' : |r| ≤ m + h) :
    calculateRotationLimitedTranslationalWheelspeed h r m = intendedLimit h r m ↔
      m = 1 ∨ 2 * |r| = (m + 1) * (m + h) := by
  obtain ⟨hshare, hshare'⟩ := share_mem hm hr hr'
  have hlt : ((m + h - |r|) / m) ^ 2 < 1 := by nlinarith
  have hsquare : calculateRotationLimitedTranslationalWheelspeed h r m = intendedLimit h r m ↔
      (m + h - |r| / m) ^ 2 = ((m + h - |r|) / m) ^ 2 := by
    rw [translationalWheelspeed_of_lt hr, intendedLimit, mul_comm m, mul_left_inj' hm.ne']
    constructor
    · intro heq
      rcases min_choice ((m + h - |r| / m) ^ 2) 1 with hmin | hmin
      · rw [← hmin, heq]
      · rw [hmin] at heq
        exact absurd heq hlt.ne'
    · intro heq
      rw [heq, min_eq_left hlt.le]
  rw [hsquare, sq_eq_sq_iff_eq_or_eq_neg]
  refine or_congr ?_ ?_
  · rw [eq_div_iff hm.ne', sub_mul, div_mul_cancel₀ _ hm.ne', sub_left_inj]
    exact mul_eq_left₀ hpos.ne'
  · rw [← neg_div, eq_div_iff hm.ne', sub_mul, div_mul_cancel₀ _ hm.ne']
    constructor <;> intro heq <;> linarith

end Pos

/-- With a largest wheel speed of one the limit falls as the rotation grows. -/
theorem translationalWheelspeed_one_antitone {r r' : ℚ} (hr : |r| ≤ |r'|) (hr' : |r'| ≤ 1 + h) :
    calculateRotationLimitedTranslationalWheelspeed h r' 1 ≤
      calculateRotationLimitedTranslationalWheelspeed h r 1 := by
  rcases le_or_gt |r| h with hlow | hhigh
  · rw [translationalWheelspeed_of_le hlow]
    exact (translationalWheelspeed_mem one_pos h r').2
  · rw [translationalWheelspeed_of_lt hhigh, translationalWheelspeed_of_lt (hhigh.trans_le hr),
      div_one, div_one, mul_one, mul_one]
    have hsq : (1 + h - |r'|) ^ 2 ≤ (1 + h - |r|) ^ 2 := by
      apply pow_le_pow_left₀ <;> linarith
    exact min_le_min_right 1 hsq

/-- **The misplaced division.**  Translation gives way to rotation as it is meant to exactly if the
largest wheel speed is one.  With any other, the limit is right for the rotations up to the
threshold, and for one rotation beyond it at most. -/
theorem rotationLimitLaw_iff (hh : 0 < h) (hm : h < m) :
    (RotationLimitLaw h m ↔ m = 1) ∧
      ∀ r, h < |r| → |r| ≤ m + h →
        (calculateRotationLimitedTranslationalWheelspeed h r m = intendedLimit h r m ↔
          m = 1 ∨ 2 * |r| = (m + 1) * (m + h)) := by
  have hpos : 0 < m := hh.trans hm
  have heq (r : ℚ) (hr : h < |r|) (hr' : |r| ≤ m + h) :=
    translationalWheelspeed_eq_iff hpos (by linarith) hr hr'
  refine ⟨⟨fun law => ?_, ?_⟩, heq⟩
  · -- at the largest rotation the formula leaves nothing
    have habs : |m + h| = m + h := abs_of_pos (by linarith)
    rcases (heq (m + h) (by linarith) habs.le).1
      (law.formula (m + h) (by linarith) habs.le) with hone | hone
    · exact hone
    · rw [habs] at hone
      have hcancel : (m - 1) * (m + h) = 0 := by linarith
      rcases mul_eq_zero.1 hcancel with hzero | hzero <;> linarith
  · rintro rfl
    exact {
      mem := translationalWheelspeed_mem one_pos h
      full := fun r => translationalWheelspeed_of_le
      antitone := fun r r' => translationalWheelspeed_one_antitone
      formula := fun r hr hr' => (heq r hr hr').2 (Or.inl rfl)
      gives_way := fun r hr hr' => by
        rw [translationalWheelspeed_of_lt hr, div_one, mul_one]
        exact (min_le_left _ _).trans_lt (by nlinarith)
      rescaled := fun d _ _ _ => rescaled_abs_le one_pos h d }

theorem rotationLimitLaw_iff_standard :
    (0 : ℚ) < 800 ∧ (800 : ℚ) < 4000 ∧ (RotationLimitLaw 800 4000 ↔ (4000 : ℚ) = 1) :=
  ⟨by decide, by decide, (rotationLimitLaw_iff (by decide) (by decide)).1⟩

/-- A chassis that rotates at half its wheel speed is to translate at less than a half of it, and is
allowed all of it. -/
theorem half_rotation_not_limited :
    calculateRotationLimitedTranslationalWheelspeed 800 2000 4000 = 4000 ∧
      intendedLimit 800 2000 4000 = 1960 ∧ ¬ RotationLimitLaw 800 4000 := by
  have hlimit : calculateRotationLimitedTranslationalWheelspeed 800 2000 4000 = 4000 := by
    decide +kernel
  have hintended : intendedLimit 800 2000 4000 = 1960 := by decide +kernel
  refine ⟨hlimit, hintended, fun law => ?_⟩
  have hformula := law.formula 2000 (by decide +kernel) (by decide +kernel)
  rw [hlimit, hintended] at hformula
  exact absurd hformula (by decide)

end Aimbots.Chassis
