import Aimbots.Ballistics.Trajectory
import Aimbots.Library.Projectile

/-!
# `computeTravelTime` and the trajectory of the projectile

With a pitch of more than a hundredth of a radian, `computeTravelTime` answers with the lower of the
two angles that hit the target and the time that the projectile takes.  With a smaller pitch it
answers with the time of a projectile that is fired straight up: a branch for vertical aiming that
is taken for level aiming.
-/

namespace Aimbots.Ballistics

open Projectile
open scoped Numerals

noncomputable section

variable {origin target : Vector3} {v time pitch : ℝ}

/-- The height of the target over the barrel, as `computeTravelTime` takes it. -/
def targetHeight (origin target : Vector3) : ℝ := target.z + origin.z

/-- A projectile with the speed `v` that is fired at `pitch` hits the target after `time`. -/
def HitsTarget (origin target : Vector3) (v pitch time : ℝ) : Prop :=
  Hits ACCELERATION_GRAVITY v (horizontalDist target 0) (targetHeight origin target) pitch time

/-- The pitch and the time are those of a projectile that hits the target, and it is the lower of
the pitches that do. -/
structure OnTrajectory (origin target : Vector3) (v pitch time : ℝ) : Prop where
  hits : HitsTarget origin target v pitch time
  time_nonneg : 0 ≤ time
  least : ∀ pitch' time', -Real.pi < pitch' → pitch' ≤ Real.pi → 0 ≤ time' →
    HitsTarget origin target v pitch' time' → pitch ≤ pitch'

/-- The target is between the shots at a hundredth of a radian below and above level, or between the
lower of these and the highest shot that comes this far, if that is lower. -/
def NearlyLevel (origin target : Vector3) (v : ℝ) : Prop :=
  let d := horizontalDist target 0
  let height := heightAt ACCELERATION_GRAVITY v d
  height (-Real.tan 1e-2) ≤ targetHeight origin target ∧
    targetHeight origin target ≤ height (min (Real.tan 1e-2) (highest ACCELERATION_GRAVITY v d))

theorem hundredth_lt : (1e-2 : ℝ) < Real.pi / 2 := by linarith [Real.two_le_pi]

theorem tan_hundredth_nonneg : 0 ≤ Real.tan 1e-2 :=
  Real.tan_nonneg_of_nonneg_of_le_pi_div_two (by norm_num) hundredth_lt.le

/-- A pitch is close to level if its tangent is small. -/
theorem arctan_close_iff (u : ℝ) :
    compareFloatClose (Real.arctan u) 0 1e-2 ↔ -Real.tan 1e-2 ≤ u ∧ u ≤ Real.tan 1e-2 := by
  have hhundredth : Real.arctan (Real.tan 1e-2) = 1e-2 :=
    Real.arctan_tan (by linarith [Real.pi_pos]) hundredth_lt
  have hlow : -1e-2 ≤ Real.arctan u ↔ -Real.tan 1e-2 ≤ u := by
    rw [← Real.arctan_le_arctan_iff (y := u), Real.arctan_neg, hhundredth]
  have hhigh : Real.arctan u ≤ 1e-2 ↔ u ≤ Real.tan 1e-2 := by
    rw [← Real.arctan_le_arctan_iff (x := u), hhundredth]
  rw [compareFloatClose, sub_zero, abs_le, hlow, hhigh]

/-- The pitch that `computeTravelTime` computes for a target that is not at the axis. -/
def lowPitch (origin target : Vector3) (v : ℝ) : ℝ :=
  Real.arctan (lower ACCELERATION_GRAVITY v (horizontalDist target 0) (targetHeight origin target))

theorem atan2_eq_lowPitch (hd : 0 < horizontalDist target 0) :
    atan2 (v ^ 2 - √(sqrtTerm (horizontalDist target 0) (target.z + origin.z) v))
      (ACCELERATION_GRAVITY * horizontalDist target 0) = lowPitch origin target v :=
  atan2_eq_arctan (mul_pos gravity_pos hd) _

/-- A pitch in front has a cosine that is positive. -/
theorem quarter_of_cos_pos {p : ℝ} (hlow : -Real.pi < p) (hhigh : p ≤ Real.pi)
    (hcos : 0 < Real.cos p) : -(Real.pi / 2) < p ∧ p < Real.pi / 2 := by
  have hpi := Real.pi_pos
  constructor
  · by_contra hp
    have hneg := Real.cos_nonpos_of_pi_div_two_le_of_le (x := -p) (by linarith) (by linarith)
    rw [Real.cos_neg] at hneg
    exact hneg.not_gt hcos
  · by_contra hp
    exact (Real.cos_nonpos_of_pi_div_two_le_of_le (by linarith) (by linarith)).not_gt hcos

section Reach

variable (hd : 0 < horizontalDist target 0) (hv : 0 < v)
include hd hv

/-- That pitch is level to a hundredth of a radian for the targets that are nearly level. -/
theorem nearlyLevel_iff :
    NearlyLevel origin target v ↔
      0 ≤ sqrtTerm (horizontalDist target 0) (target.z + origin.z) v ∧
        compareFloatClose (lowPitch origin target v) 0 1e-2 := by
  rw [lowPitch, arctan_close_iff]
  exact (lower_mem_iff gravity_pos hv hd (neg_nonpos.2 tan_hundredth_nonneg)).symm

/-- A nearly level target is answered with the time of a shot straight up. -/
theorem computeTravelTime_of_nearlyLevel (hlevel : NearlyLevel origin target v) :
    computeTravelTime origin target v 0 =
      some ((v - √(v ^ 2 - 2 * ACCELERATION_GRAVITY * targetHeight origin target)) /
        ACCELERATION_GRAVITY, lowPitch origin target v) := by
  obtain ⟨hterm, hclose⟩ := (nearlyLevel_iff hd hv).1 hlevel
  have hpos := levelTerm_pos hd hv.ne' hterm
  simp only [computeTravelTime]
  rw [if_neg (not_lt.2 hterm), atan2_eq_lowPitch hd, if_pos hclose,
    if_neg (not_lt.2 hpos.le)]
  rfl

/-- Any other target within reach is answered with the time that its distance takes. -/
theorem computeTravelTime_of_not_nearlyLevel
    (hterm : 0 ≤ sqrtTerm (horizontalDist target 0) (target.z + origin.z) v)
    (hlevel : ¬ NearlyLevel origin target v) :
    computeTravelTime origin target v 0 =
      some (horizontalDist target 0 / (v * Real.cos (lowPitch origin target v)),
        lowPitch origin target v) := by
  have hfar : ¬ compareFloatClose (lowPitch origin target v) 0 1e-2 :=
    fun hclose => hlevel ((nearlyLevel_iff hd hv).2 ⟨hterm, hclose⟩)
  have hcos : v * Real.cos (lowPitch origin target v) ≠ 0 :=
    mul_ne_zero hv.ne' (Real.cos_arctan_pos _).ne'
  simp only [computeTravelTime]
  rw [if_neg (not_lt.2 hterm), atan2_eq_lowPitch hd, if_neg hfar, if_neg hcos]

/-- That pitch is the lowest that hits the target, with the time that the distance takes. -/
theorem onTrajectory_lowPitch
    (hterm : 0 ≤ sqrtTerm (horizontalDist target 0) (target.z + origin.z) v) :
    OnTrajectory origin target v (lowPitch origin target v)
      (horizontalDist target 0 / (v * Real.cos (lowPitch origin target v))) := by
  have hcos : 0 < Real.cos (lowPitch origin target v) := Real.cos_arctan_pos _
  constructor
  · refine (hits_iff hv hcos).2 ⟨rfl, ?_⟩
    rw [lowPitch, Real.tan_arctan]
    exact heightAt_lower gravity_pos hv hd hterm
  · exact div_nonneg hd.le (mul_nonneg hv.le hcos.le)
  · intro pitch' time' hlow hhigh htime hits
    have hcos' := hits_cos_pos hv hd htime hits
    obtain ⟨hleft, hright⟩ := quarter_of_cos_pos hlow hhigh hcos'
    have hheight := ((hits_iff hv hcos').1 hits).2
    rw [lowPitch, ← Real.arctan_tan hleft hright, Real.arctan_le_arctan_iff]
    exact lower_le gravity_pos hv hd hheight

/-- The time of a shot straight up is not the time of a shot that is nearly level: it would reach
the height without a loss of speed. -/
theorem not_onTrajectory_of_nearlyLevel (hlevel : NearlyLevel origin target v) :
    ¬ OnTrajectory origin target v (lowPitch origin target v)
      ((v - √(v ^ 2 - 2 * ACCELERATION_GRAVITY * targetHeight origin target)) /
        ACCELERATION_GRAVITY) := by
  intro hon
  obtain ⟨hterm, -⟩ := (nearlyLevel_iff hd hv).1 hlevel
  have hpos := levelTerm_pos hd hv.ne' hterm
  generalize htime : (v - √(v ^ 2 - 2 * ACCELERATION_GRAVITY * targetHeight origin target)) /
    ACCELERATION_GRAVITY = t at hon
  -- straight up, the time `t` leads to the height as well
  have hup : targetHeight origin target = v * t - ACCELERATION_GRAVITY * t ^ 2 / 2 :=
    height_of_vertical_time gravity_pos.ne' hpos.le htime
  have htpos : t ≠ 0 := by
    rintro rfl
    exact hd.ne' (hon.hits.dist.trans (mul_zero _))
  have hsin : Real.sin (lowPitch origin target v) = 1 := by
    have hmul : v * t * (Real.sin (lowPitch origin target v) - 1) = 0 := by
      linear_combination hup - hon.hits.height
    linarith [(mul_eq_zero.1 hmul).resolve_left (mul_ne_zero hv.ne' htpos)]
  have hone := Real.sin_sq_add_cos_sq (lowPitch origin target v)
  have hcos : 0 < Real.cos (lowPitch origin target v) := Real.cos_arctan_pos _
  rw [hsin] at hone
  nlinarith

/-- **The answer of `computeTravelTime` is on the trajectory** of a projectile, with the lower
pitch, if and only if the target is not nearly level. -/
theorem computeTravelTime_onTrajectory_iff :
    (∀ time pitch, computeTravelTime origin target v 0 = some (time, pitch) →
      OnTrajectory origin target v pitch time) ↔ ¬ NearlyLevel origin target v := by
  constructor
  · intro hall hlevel
    exact not_onTrajectory_of_nearlyLevel hd hv hlevel
      (hall _ _ (computeTravelTime_of_nearlyLevel hd hv hlevel))
  · intro hlevel time pitch hsome
    by_cases hterm : sqrtTerm (horizontalDist target 0) (target.z + origin.z) v < 0
    · simp only [computeTravelTime] at hsome
      rw [if_pos hterm] at hsome
      cases hsome
    · have hterm := not_lt.1 hterm
      rw [computeTravelTime_of_not_nearlyLevel hd hv hterm hlevel] at hsome
      cases hsome
      exact onTrajectory_lowPitch hd hv hterm

end Reach

/-- A target that a level shot hits, a second away. -/
def fallen : Vector3 := ⟨0, 30, -4.903325⟩

theorem horizontalDist_fallen : horizontalDist fallen 0 = 30 := by
  have hsq : (0 : ℝ) ^ 2 + 30 ^ 2 = 30 * 30 := by norm_num
  rw [horizontalDist, fallen, hsq, Real.sqrt_mul_self (by norm_num), add_zero]

theorem horizontalDist_fallen_pos : 0 < horizontalDist fallen 0 := by
  rw [horizontalDist_fallen]
  norm_num

theorem nearlyLevel_fallen : NearlyLevel ⟨0, 0, 0⟩ fallen 30 := by
  have hv : (0 : ℝ) < 30 := by norm_num
  have hhigh := highest_pos gravity_pos hv horizontalDist_fallen_pos
  have hmono := heightAt_strictMonoOn gravity_pos hv horizontalDist_fallen_pos
  have hlevel : heightAt ACCELERATION_GRAVITY 30 (horizontalDist fallen 0) 0 =
      targetHeight ⟨0, 0, 0⟩ fallen := by
    rw [horizontalDist_fallen]
    norm_num [heightAt, targetHeight, fallen, ACCELERATION_GRAVITY]
  rw [NearlyLevel, ← hlevel]
  constructor
  · refine (hmono.le_iff_le ?_ hhigh.le).2 (neg_nonpos.2 tan_hundredth_nonneg)
    exact (neg_nonpos.2 tan_hundredth_nonneg).trans hhigh.le
  · exact (hmono.le_iff_le hhigh.le (Set.mem_Iic.2 (min_le_right _ _))).2
      (le_min tan_hundredth_nonneg hhigh.le)

theorem computeTravelTime_onTrajectory_iff_fallen :
    (∀ time pitch, computeTravelTime ⟨0, 0, 0⟩ fallen 30 0 = some (time, pitch) →
      OnTrajectory ⟨0, 0, 0⟩ fallen 30 pitch time) ↔ ¬ NearlyLevel ⟨0, 0, 0⟩ fallen 30 :=
  computeTravelTime_onTrajectory_iff horizontalDist_fallen_pos (by norm_num)

/-- It is answered with a time before the shot. -/
theorem computeTravelTime_fallen :
    ∃ time pitch, computeTravelTime ⟨0, 0, 0⟩ fallen 30 0 = some (time, pitch) ∧ time < 0 ∧
      ¬ OnTrajectory ⟨0, 0, 0⟩ fallen 30 pitch time := by
  have hv : (0 : ℝ) < 30 := by norm_num
  refine ⟨_, _,
    computeTravelTime_of_nearlyLevel horizontalDist_fallen_pos hv nearlyLevel_fallen, ?_,
    not_onTrajectory_of_nearlyLevel horizontalDist_fallen_pos hv nearlyLevel_fallen⟩
  have hroot : (30 : ℝ) < √(30 ^ 2 - 2 * ACCELERATION_GRAVITY * targetHeight ⟨0, 0, 0⟩ fallen) := by
    apply Real.lt_sqrt_of_sq_lt
    norm_num [targetHeight, fallen, ACCELERATION_GRAVITY]
  exact div_neg_of_neg_of_pos (by linarith) gravity_pos

end

end Aimbots.Ballistics
